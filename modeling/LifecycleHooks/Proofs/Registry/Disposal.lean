import LifecycleHooks.Proofs.Registry.History

/-!
When a handle is disposed does not matter, once it was issued: disposal commutes with everything that
can be done with a registry. The number of an instance is what it rests on. It is given to no other
instance later on, so disposal before an operation and behind it remove the same.
-/

namespace LifecycleHooks.Registry

theorem dispose_register {registry : Registry} {handle : Instance} (event : EventType) (hook : Hook)
    (older : handle.id < registry.nextId) :
    (registry.dispose handle).register event hook =
      ((registry.register event hook).1, (registry.register event hook).2.dispose handle) := by
  have different : registry.nextId ≠ handle.id := Nat.ne_of_gt older
  simp [dispose, register, different]

theorem dispose_comm (registry : Registry) (first second : Instance) :
    (registry.dispose first).dispose second = (registry.dispose second).dispose first := by
  simp only [dispose, List.filter_filter, Bool.and_comm]

theorem dispose_dispose (registry : Registry) (handle : Instance) :
    (registry.dispose handle).dispose handle = registry.dispose handle := by
  simp only [dispose, List.filter_filter, Bool.and_self]

theorem dispose_clear (registry : Registry) (handle : Instance) (event : EventType) :
    (registry.dispose handle).clear event = (registry.clear event).dispose handle := by
  simp only [dispose, clear, List.filter_filter, Bool.and_comm]

theorem dispose_replaceAll {registry : Registry} {handle : Instance} (map : HookMap)
    (older : handle.id < registry.nextId) :
    (registry.dispose handle).replaceAll map = (registry.replaceAll map).dispose handle := by
  have absent : ∀ entry ∈ (registry.replaceAll map).instances, entry.id ≠ handle.id := by
    intro entry member
    have newer := (bounds_of_mem_number member).1
    omega
  rw [dispose_of_absent _ _ absent]
  rfl

namespace Ledger

theorem apply_dispose {handles : List Instance} {handle : Nat} {entry : Instance}
    (registry : Registry) (found : handles[handle]? = some entry) :
    apply ⟨registry, handles⟩ (.dispose handle) = ⟨registry.dispose entry, handles⟩ := by
  simp only [apply, found]

theorem apply_dispose_of_unissued {handles : List Instance} {handle : Nat} (registry : Registry)
    (missing : handles[handle]? = none) :
    apply ⟨registry, handles⟩ (.dispose handle) = ⟨registry, handles⟩ := by
  simp only [apply, missing]

theorem apply_dispose_again (ledger : Ledger) (handle : Nat) :
    (ledger.apply (.dispose handle)).apply (.dispose handle) = ledger.apply (.dispose handle) := by
  obtain ⟨registry, handles⟩ := ledger
  cases found : handles[handle]? with
  | none => rw [apply_dispose_of_unissued _ found, apply_dispose_of_unissued _ found]
  | some entry => rw [apply_dispose _ found, apply_dispose _ found, dispose_dispose]

theorem Sound.apply_dispose_comm {ledger : Ledger} (sound : ledger.Sound) {handle : Nat}
    (issued : handle < ledger.handles.length) (operation : Operation) :
    (ledger.apply (.dispose handle)).apply operation =
      (ledger.apply operation).apply (.dispose handle) := by
  have older := sound.handleBelow _ (List.getElem_mem issued)
  have found := List.getElem?_eq_getElem issued
  obtain ⟨registry, handles⟩ := ledger
  rw [apply_dispose _ found]
  cases operation with
  | register event hook =>
      have foundLater (new : Instance) :
          (handles ++ [new])[handle]? = some handles[handle] := by
        rw [List.getElem?_append_left issued, found]
      simp only [Ledger.apply, dispose_register event hook older, foundLater]
  | dispose other =>
      cases given : handles[other]? with
      | none =>
          rw [apply_dispose_of_unissued _ given, apply_dispose_of_unissued _ given,
            apply_dispose _ found]
      | some entry =>
          rw [apply_dispose _ given, apply_dispose _ given, apply_dispose _ found, dispose_comm]
  | clear event => simp only [Ledger.apply, found, dispose_clear]
  | replaceAll map => simp only [Ledger.apply, found, dispose_replaceAll map older]

theorem Sound.foldl_dispose_comm {ledger : Ledger} (sound : ledger.Sound) {handle : Nat}
    (issued : handle < ledger.handles.length) (operations : List Operation) :
    operations.foldl Ledger.apply (ledger.apply (.dispose handle)) =
      (operations.foldl Ledger.apply ledger).apply (.dispose handle) := by
  induction operations generalizing ledger with
  | nil => rfl
  | cons operation later ih =>
      have stillIssued : handle < (ledger.apply operation).handles.length := by
        rw [length_handles_apply]
        omega
      rw [List.foldl_cons, List.foldl_cons, sound.apply_dispose_comm issued,
        ih (sound.apply operation) stillIssued]

/-- A row of disposals removes the instances of its handles. -/
theorem foldl_disposals (handles : List Nat) (ledger : Ledger) :
    (handles.map Operation.dispose).foldl apply ledger =
      ⟨⟨ledger.registry.nextId, ledger.registry.instances.filter fun entry =>
          !handles.any fun handle => Operation.removes ledger.handles entry (.dispose handle)⟩,
        ledger.handles⟩ := by
  induction handles generalizing ledger with
  | nil => simp
  | cons handle rest ih =>
      rw [List.map_cons, List.foldl_cons, ih]
      cases found : ledger.handles[handle]? with
      | none =>
          rw [apply_dispose_of_unissued ledger.registry found]
          simp only [List.any_cons, Operation.removes, found, Option.any_none, Bool.false_or]
      | some disposed =>
          rw [apply_dispose ledger.registry found]
          simp only [dispose, List.filter_filter, List.any_cons, Operation.removes, found,
            Option.any_some, Bool.not_or, Bool.and_comm, bne, Bool.beq_comm]

end Ledger

theorem after_dispose_again (past later : List Operation) (handle : Nat) :
    Ledger.after (past ++ .dispose handle :: .dispose handle :: later) =
      Ledger.after (past ++ .dispose handle :: later) := by
  rw [after_append, after_append, List.foldl_cons, List.foldl_cons, List.foldl_cons,
    Ledger.apply_dispose_again]

theorem after_dispose_behind (past between later : List Operation) {handle : Nat}
    (given : handle < issued past) :
    Ledger.after (past ++ .dispose handle :: (between ++ later)) =
      Ledger.after (past ++ (between ++ .dispose handle :: later)) := by
  have known : handle < (Ledger.after past).handles.length := by
    rwa [length_handles_after]
  rw [after_append, after_append, List.foldl_cons, List.foldl_append, List.foldl_append,
    List.foldl_cons, (Ledger.sound_after past).foldl_dispose_comm known]

theorem after_disposals_congr (past later : List Operation) {first second : List Nat}
    (same : ∀ handle, handle ∈ first ↔ handle ∈ second) :
    Ledger.after (past ++ (first.map .dispose ++ later)) =
      Ledger.after (past ++ (second.map .dispose ++ later)) := by
  have removed (entry : Instance) (handles : List Instance) :
      first.any (fun handle => Operation.removes handles entry (.dispose handle)) =
        second.any fun handle => Operation.removes handles entry (.dispose handle) := by
    rw [Bool.eq_iff_iff, List.any_eq_true, List.any_eq_true]
    simp only [same]
  rw [after_append, after_append, List.foldl_append, List.foldl_append, Ledger.foldl_disposals,
    Ledger.foldl_disposals]
  simp only [removed]

theorem notMem_after_dispose (past later : List Operation) {handle : Nat} {entry : Instance}
    (found : (registered 0 past)[handle]? = some entry) :
    entry ∉ (Ledger.after (past ++ .dispose handle :: later)).registry.instances := by
  rw [← handles_after] at found
  have older := (Ledger.sound_after past).handleBelow entry (List.mem_of_getElem? found)
  intro member
  rw [after_append, List.foldl_cons, Ledger.apply_dispose _ found] at member
  have absent : ∀ other ∈ ((Ledger.after past).registry.dispose entry).instances,
      other.id ≠ entry.id := by
    intro other kept
    simpa using (List.mem_filter.mp kept).2
  exact absent_foldl later ⟨(Ledger.after past).registry.dispose entry, (Ledger.after past).handles⟩
    older absent entry member rfl

/-- A disposal may be moved behind anything that comes after it, and repeated there; the registry is
the same in the end, and so are the hooks of every event type, without the one that was disposed. Of
disposals in a row neither the order nor the number matters, only which handles they dispose. -/
theorem dispose_delayed (past between later : List Operation) (handle : Nat)
    (given : handle < issued past) :
    Ledger.after (past ++ .dispose handle :: (between ++ later)) =
      Ledger.after (past ++ (between ++ .dispose handle :: later)) ∧
    Ledger.after (past ++ .dispose handle :: (between ++ .dispose handle :: later)) =
      Ledger.after (past ++ .dispose handle :: (between ++ later)) ∧
    (∀ entry, (registered 0 past)[handle]? = some entry →
      entry ∉ (Ledger.after (past ++ (between ++ .dispose handle :: later))).registry.instances) ∧
    ∀ first second : List Nat, (∀ other, other ∈ first ↔ other ∈ second) →
      Ledger.after (past ++ (first.map .dispose ++ later)) =
        Ledger.after (past ++ (second.map .dispose ++ later)) := by
  have moved := after_dispose_behind past between later given
  refine ⟨moved, ?_, ?_, ?_⟩
  · calc Ledger.after (past ++ .dispose handle :: (between ++ .dispose handle :: later))
      _ = Ledger.after (past ++ (between ++ .dispose handle :: .dispose handle :: later)) :=
        after_dispose_behind past between _ given
      _ = Ledger.after (past ++ (between ++ .dispose handle :: later)) := by
        simp only [← List.append_assoc, after_dispose_again]
      _ = Ledger.after (past ++ .dispose handle :: (between ++ later)) := moved.symm
  · intro entry found
    rw [← moved]
    exact notMem_after_dispose past (between ++ later) found
  · intro first second same
    exact after_disposals_congr past later same

theorem dispose_delayed_linted :
    let hook : Hook := ⟨.command "lint" [], Hook.defaultTimeout, false, false, none, []⟩
    let past : List Operation := [.register .fileSave hook, .register .preCommit hook,
      .register .preCommit hook]
    let between : List Operation := [.clear .fileSave, .register .preCommit hook, .dispose 2]
    let later : List Operation := [.dispose 0, .register .preCommit hook]
    1 < issued past ∧
    Ledger.after (past ++ .dispose 1 :: (between ++ later)) =
      Ledger.after (past ++ (between ++ .dispose 1 :: later)) ∧
    Ledger.after (past ++ .dispose 1 :: (between ++ .dispose 1 :: later)) =
      Ledger.after (past ++ .dispose 1 :: (between ++ later)) ∧
    Ledger.after (past ++ ([2, 1].map .dispose ++ later)) =
      Ledger.after (past ++ ([1, 2, 1].map .dispose ++ later)) ∧
    (Ledger.after (past ++ .dispose 1 :: (between ++ later))).registry.instances =
      [⟨3, .preCommit, hook⟩, ⟨4, .preCommit, hook⟩] := by
  intro hook past between later
  have given : 1 < issued past := by decide
  obtain ⟨moved, again, -, sets⟩ := dispose_delayed past between later 1 given
  have same : ∀ other, other ∈ [2, 1] ↔ other ∈ [1, 2, 1] := by
    intro other
    simp only [List.mem_cons, List.not_mem_nil, or_false]
    omega
  exact ⟨given, moved, again, sets [2, 1] [1, 2, 1] same, rfl⟩

end LifecycleHooks.Registry
