import Mathlib.Data.List.DropRight
import LifecycleHooks.Proofs.Registry.Operations
import LifecycleHooks.Registry.Session

/-!
What a registry holds, read off the history of what was done with it: what the last operation that
did away with the earlier hooks of an event type left for it, then what was registered for it since
and not disposed.
-/

namespace LifecycleHooks.Registry

def made (history : List Operation) : Nat := (history.map Operation.made).sum

def issued (history : List Operation) : Nat := (history.map Operation.issued).sum

/-- What operations register, in order; numbers go on from `id`. These are the handles that they
issue. -/
def registered : Nat → List Operation → List Instance
  | _, [] => []
  | id, operation :: later =>
      (match operation with
        | .register event hook => [⟨id, event, hook⟩]
        | _ => []) ++ registered (id + operation.made) later

/-- What operations register for an event type and do not dispose later on, in order; numbers and
handles go on from `id` and `handle`. -/
def kept (event : EventType) : Nat → Nat → List Operation → List Instance
  | _, _, [] => []
  | id, handle, operation :: later =>
      (match operation with
        | .register e hook => if e = event ∧ .dispose handle ∉ later then [⟨id, e, hook⟩] else []
        | _ => []) ++
        kept event (id + operation.made) (handle + operation.issued) later

/-- What a history leaves for an event type whose last operation does away with its earlier hooks:
the new hooks, if there are any. -/
def leftBy (event : EventType) (history : List Operation) : List Instance :=
  match history.getLast? with
  | some (.replaceAll map) => fresh event (made history.dropLast) map
  | _ => []

/-- A history up to the last operation that did away with the earlier hooks of an event type. -/
def upTo (event : EventType) (history : List Operation) : List Operation :=
  history.rdropWhile fun operation => !operation.resets event

def since (event : EventType) (history : List Operation) : List Operation :=
  history.rtakeWhile fun operation => !operation.resets event

def content (event : EventType) (history : List Operation) : List Instance :=
  let past := upTo event history
  leftBy event past ++ kept event (made past) (issued past) (since event history)

/-! Counting. -/

theorem after_append (past later : List Operation) :
    Ledger.after (past ++ later) = later.foldl Ledger.apply (Ledger.after past) :=
  List.foldl_append

theorem nextId_after (history : List Operation) :
    (Ledger.after history).registry.nextId = made history := by
  induction history using List.reverseRecOn with
  | nil => rfl
  | append_singleton history operation ih =>
      rw [after_append, List.foldl_cons, List.foldl_nil, nextId_apply, ih]
      simp [made]

theorem length_handles_after (history : List Operation) :
    (Ledger.after history).handles.length = issued history := by
  induction history using List.reverseRecOn with
  | nil => rfl
  | append_singleton history operation ih =>
      rw [after_append, List.foldl_cons, List.foldl_nil, length_handles_apply, ih]
      simp [issued]

/-! Disposal by number. -/

def Operation.removes (handles : List Instance) (entry : Instance) : Operation → Bool
  | .dispose handle => handles[handle]?.any fun issued => issued.id == entry.id
  | _ => false

theorem removes_append (handles : List Instance) (entry handle : Instance)
    (different : handle.id ≠ entry.id) (operation : Operation) :
    operation.removes (handles ++ [handle]) entry = operation.removes handles entry := by
  cases operation with
  | dispose number =>
      simp only [Operation.removes, List.getElem?_append]
      split
      · rfl
      · rename_i behind
        rw [List.getElem?_eq_none (Nat.le_of_not_lt behind)]
        cases number - handles.length with
        | zero => simpa using different
        | succ _ => rfl
  | _ => rfl

/-- The handle issued last is the only one that its instance is disposed by. -/
theorem any_removes_last (handles : List Instance) (entry : Instance)
    (different : ∀ handle ∈ handles, handle.id ≠ entry.id) (operations : List Operation) :
    operations.any (Operation.removes (handles ++ [entry]) entry) =
      decide (.dispose handles.length ∈ operations) := by
  rw [Bool.eq_iff_iff, List.any_eq_true, decide_eq_true_iff]
  constructor
  · rintro ⟨operation, member, removes⟩
    cases operation with
    | dispose number =>
        simp only [Operation.removes, List.getElem?_append] at removes
        split at removes
        · rename_i inside
          rw [List.getElem?_eq_getElem inside] at removes
          exact absurd (by simpa using removes) (different _ (List.getElem_mem inside))
        · rename_i behind
          have atEnd : number = handles.length := by
            by_contra apart
            rw [List.getElem?_eq_none (by simp only [List.length_singleton]; omega)] at removes
            simp at removes
          exact atEnd ▸ member
    | register _ _ => simp [Operation.removes] at removes
    | clear _ => simp [Operation.removes] at removes
    | replaceAll _ => simp [Operation.removes] at removes
  · intro member
    exact ⟨_, member, by simp [Operation.removes]⟩

/-! Operations that let the hooks of an event type be. -/

theorem filter_register (event registered : EventType) (hook : Hook) (later : List Operation)
    (ledger : Ledger) (sound : ledger.Sound) :
    ((ledger.apply (.register registered hook)).registry.listInstances event).filter
        (fun entry => !later.any
          (Operation.removes (ledger.apply (.register registered hook)).handles entry)) =
      (ledger.registry.listInstances event).filter
          (fun entry => !later.any (Operation.removes ledger.handles entry)) ++
        if registered = event ∧ .dispose ledger.handles.length ∉ later
        then [⟨ledger.registry.nextId, registered, hook⟩] else [] := by
  let new : Instance := ⟨ledger.registry.nextId, registered, hook⟩
  have ofOld : ∀ entry ∈ ledger.registry.listInstances event,
      later.any (Operation.removes (ledger.handles ++ [new]) entry) =
        later.any (Operation.removes ledger.handles entry) := by
    intro entry member
    have older := sound.entryBelow entry (List.mem_of_mem_filter member)
    have different : new.id ≠ entry.id := Nat.ne_of_gt older
    exact congrArg later.any (funext (removes_append ledger.handles entry new different))
  have ofNew : later.any (Operation.removes (ledger.handles ++ [new]) new) =
      decide (.dispose ledger.handles.length ∈ later) :=
    any_removes_last ledger.handles new
      (fun handle member => Nat.ne_of_lt (sound.handleBelow handle member)) later
  change ((ledger.registry.register registered hook).2.listInstances event).filter
    (fun entry => !later.any (Operation.removes (ledger.handles ++ [new]) entry)) = _
  rw [listInstances_register, List.filter_append]
  congr 1
  · exact List.filter_congr fun entry member => congrArg (!·) (ofOld entry member)
  · by_cases same : registered = event
    · simp only [same, ↓reduceIte, true_and]
      rw [List.filter_singleton, ← same, ofNew]
      by_cases disposed : .dispose ledger.handles.length ∈ later
      · simp [disposed]
      · simp [disposed]
    · simp [same]

theorem filter_dispose (event : EventType) (handle : Nat) (later : List Operation)
    (ledger : Ledger) :
    ((ledger.apply (.dispose handle)).registry.listInstances event).filter
        (fun entry =>
          !later.any (Operation.removes (ledger.apply (.dispose handle)).handles entry)) =
      (ledger.registry.listInstances event).filter fun entry =>
        !(Operation.removes ledger.handles entry (.dispose handle)) &&
          !later.any (Operation.removes ledger.handles entry) := by
  cases found : ledger.handles[handle]? with
  | none => simp [Ledger.apply, Operation.removes, found]
  | some disposed =>
      simp only [Ledger.apply, Operation.removes, found, listInstances_dispose, Option.any_some,
        List.filter_filter]
      apply List.filter_congr
      intro entry _
      rw [Bool.and_comm, bne, Bool.beq_comm]

/-- Operations that do not do away with the hooks of an event type remove those that are disposed,
and add what they register and do not dispose. -/
theorem listInstances_foldl (event : EventType) (operations : List Operation) (ledger : Ledger)
    (sound : ledger.Sound) (lets : ∀ operation ∈ operations, operation.resets event = false) :
    (operations.foldl Ledger.apply ledger).registry.listInstances event =
      (ledger.registry.listInstances event).filter
          (fun entry => !operations.any (Operation.removes ledger.handles entry)) ++
        kept event ledger.registry.nextId ledger.handles.length operations := by
  -- The first operation may issue a handle, so the handles of the ledger vary along the induction;
  -- `filter_register` says that those that come in dispose nothing older.
  induction operations generalizing ledger with
  | nil => simp [kept]
  | cons operation later ih =>
      rw [List.foldl_cons, ih _ (sound.apply operation)
        (fun other member => lets other (List.mem_cons_of_mem _ member)),
        nextId_apply, length_handles_apply]
      simp only [kept, List.any_cons, Bool.not_or, ← List.append_assoc]
      congr 1
      have quiet := lets operation List.mem_cons_self
      cases operation with
      | register registered hook =>
          simpa [Operation.removes] using filter_register event registered hook later ledger sound
      | dispose handle => simpa using filter_dispose event handle later ledger
      | clear cleared =>
          have different : cleared ≠ event := by simpa [Operation.resets] using quiet
          simp [Ledger.apply, listInstances_clear, different, Operation.removes]
      | replaceAll map => simp [Operation.resets] at quiet

/-- What a history leaves for an event type, if its last operation does away with the earlier
hooks, is out of reach for the handles issued before. -/
theorem listInstances_after_reset (event : EventType) (past : List Operation)
    (operation : Operation) (resets : operation.resets event = true) :
    (Ledger.after (past ++ [operation])).registry.listInstances event =
        leftBy event (past ++ [operation]) ∧
      ∀ handle ∈ (Ledger.after (past ++ [operation])).handles,
        ∀ entry ∈ leftBy event (past ++ [operation]), entry.id ≠ handle.id := by
  rw [after_append, List.foldl_cons, List.foldl_nil, leftBy, List.getLast?_concat]
  cases operation with
  | register _ _ => simp [Operation.resets] at resets
  | dispose _ => simp [Operation.resets] at resets
  | clear cleared =>
      have same : cleared = event := by simpa [Operation.resets] using resets
      simp [Ledger.apply, listInstances_clear, same]
  | replaceAll map =>
      simp only [List.dropLast_concat, ← nextId_after]
      refine ⟨listInstances_replaceAll _ event map, ?_⟩
      intro handle member entry entryMember
      have older := (Ledger.sound_after past).handleBelow handle member
      obtain ⟨numbered, inside, rfl⟩ := List.mem_map.mp entryMember
      have newer := List.le_snd_of_mem_zipIdx inside
      change numbered.2 ≠ handle.id
      omega

theorem listInstances_after_upTo (event : EventType) (history : List Operation) :
    (Ledger.after (upTo event history)).registry.listInstances event =
        leftBy event (upTo event history) ∧
      ∀ handle ∈ (Ledger.after (upTo event history)).handles,
        ∀ entry ∈ leftBy event (upTo event history), entry.id ≠ handle.id := by
  rcases List.eq_nil_or_concat' (upTo event history) with empty | ⟨past, operation, last⟩
  · simp [empty, Ledger.after, Ledger.empty, Registry.empty, listInstances, leftBy]
  · have nonempty : upTo event history ≠ [] := by simp [last]
    have atEnd : (upTo event history).getLast nonempty = operation := by simp [last]
    have resets : operation.resets event = true := by
      have stops : ¬(!((upTo event history).getLast nonempty).resets event) = true :=
        List.rdropWhile_last_not (fun operation : Operation => !operation.resets event) history
          nonempty
      simpa [atEnd] using stops
    rw [last]
    exact listInstances_after_reset event past operation resets

theorem listInstances_after (event : EventType) (history : List Operation) :
    (Ledger.after history).registry.listInstances event = content event history := by
  obtain ⟨start, outOfReach⟩ := listInstances_after_upTo event history
  have lets : ∀ operation ∈ since event history, operation.resets event = false := by
    intro operation member
    simpa using List.mem_rtakeWhile_imp member
  have parts : Ledger.after history =
      (since event history).foldl Ledger.apply (Ledger.after (upTo event history)) := by
    rw [← after_append, upTo, since, List.rdropWhile_append_rtakeWhile]
  -- What was left is newer than every handle issued before, so no disposal reaches it.
  have stays : ∀ entry ∈ leftBy event (upTo event history),
      (!(since event history).any
        (Operation.removes (Ledger.after (upTo event history)).handles entry)) = true := by
    intro entry member
    rw [Bool.not_eq_true', List.any_eq_false]
    intro operation _
    cases operation with
    | dispose handle =>
        simp only [Operation.removes]
        cases found : (Ledger.after (upTo event history)).handles[handle]? with
        | none => simp
        | some issued =>
            have apart := outOfReach issued (List.mem_of_getElem? found) entry member
            simpa using Ne.symm apart
    | register _ _ => simp [Operation.removes]
    | clear _ => simp [Operation.removes]
    | replaceAll _ => simp [Operation.removes]
  rw [parts, listInstances_foldl event _ _ (Ledger.sound_after _) lets, start,
    List.filter_eq_self.mpr stays, nextId_after, length_handles_after]
  rfl

/-! Handles. -/

theorem handles_foldl (operations : List Operation) (ledger : Ledger) :
    (operations.foldl Ledger.apply ledger).handles =
      ledger.handles ++ registered ledger.registry.nextId operations := by
  induction operations generalizing ledger with
  | nil => simp [registered]
  | cons operation later ih =>
      rw [List.foldl_cons, ih, nextId_apply]
      cases operation with
      | register event hook => simp [Ledger.apply, Registry.register, registered]
      | dispose handle =>
          simp only [Ledger.apply, registered]
          split <;> simp
      | clear event => simp [Ledger.apply, registered]
      | replaceAll map => simp [Ledger.apply, registered]

theorem handles_after (history : List Operation) :
    (Ledger.after history).handles = registered 0 history :=
  handles_foldl history Ledger.empty

theorem absent_apply {id : Nat} (operation : Operation) (ledger : Ledger)
    (given : id < ledger.registry.nextId)
    (absent : ∀ entry ∈ ledger.registry.instances, entry.id ≠ id) :
    ∀ entry ∈ (ledger.apply operation).registry.instances, entry.id ≠ id := by
  cases operation with
  | register event hook =>
      intro entry member
      rcases List.mem_append.mp member with old | new
      · exact absent entry old
      · obtain rfl := List.mem_singleton.mp new
        exact Nat.ne_of_gt given
  | dispose handle =>
      simp only [Ledger.apply]
      split
      · exact fun entry member => absent entry (List.mem_of_mem_filter member)
      · exact absent
  | clear event => exact fun entry member => absent entry (List.mem_of_mem_filter member)
  | replaceAll map =>
      intro entry member
      have newer := (bounds_of_mem_number member).1
      omega

/-- A number that was given out and belongs to no instance any more never belongs to one again. -/
theorem absent_foldl {id : Nat} (operations : List Operation) (ledger : Ledger)
    (given : id < ledger.registry.nextId)
    (absent : ∀ entry ∈ ledger.registry.instances, entry.id ≠ id) :
    ∀ entry ∈ (operations.foldl Ledger.apply ledger).registry.instances, entry.id ≠ id := by
  induction operations generalizing ledger with
  | nil => exact absent
  | cons operation later ih =>
      apply ih
      · rw [nextId_apply]
        exact Nat.lt_add_right _ given
      · exact absent_apply operation ledger given absent

/-- A handle issued before its event type lost all its hooks removes nothing. -/
theorem absent_after_reset (past : List Operation) (operation : Operation)
    (later : List Operation) (handle : Instance) (issued : handle ∈ registered 0 past)
    (resets : operation.resets handle.event = true) :
    ∀ entry ∈ (Ledger.after (past ++ operation :: later)).registry.instances,
      entry.id ≠ handle.id := by
  rw [← handles_after] at issued
  have sound := Ledger.sound_after past
  have given := sound.handleBelow handle issued
  rw [after_append, List.foldl_cons]
  apply absent_foldl
  · rw [nextId_apply]
    exact Nat.lt_add_right _ given
  · intro entry member
    cases operation with
    | register _ _ => simp [Operation.resets] at resets
    | dispose _ => simp [Operation.resets] at resets
    | clear cleared =>
        intro same
        obtain ⟨old, other⟩ := List.mem_filter.mp member
        have entryIs := sound.matching handle issued entry old same
        simp only [Operation.resets, beq_iff_eq] at resets
        simp [entryIs, resets] at other
    | replaceAll map =>
        have newer := (bounds_of_mem_number member).1
        omega

theorem dispose_of_absent (registry : Registry) (handle : Instance)
    (absent : ∀ entry ∈ registry.instances, entry.id ≠ handle.id) :
    registry.dispose handle = registry := by
  have stays : registry.instances.filter (fun entry => entry.id != handle.id) =
      registry.instances :=
    List.filter_eq_self.mpr fun entry member => by simpa using absent entry member
  rw [dispose, stays]

/-- Disposal removes the instance that the handle was issued for and no other, whatever equal hooks
there are. -/
theorem listInstances_dispose_of_sound {ledger : Ledger} (sound : ledger.Sound)
    (handle : Instance) (issued : handle ∈ ledger.handles) (event : EventType) :
    (ledger.registry.dispose handle).listInstances event =
      (ledger.registry.listInstances event).filter (· ≠ handle) := by
  rw [listInstances_dispose]
  apply List.filter_congr
  intro entry member
  have inside := List.mem_of_mem_filter member
  rw [Bool.eq_iff_iff, bne_iff_ne, decide_eq_true_iff]
  constructor
  · rintro different rfl
    exact different rfl
  · exact fun different same => different (sound.matching handle issued entry inside same)

end LifecycleHooks.Registry
