import LifecycleHooks.Proofs.Hook.Grammar

/-!
Hooks written down in the declarative form and read again. Every hook that can be made or accepted
is read as itself from what is written for it.
-/

namespace LifecycleHooks.Hook

open Declaration
open Json (wellFormed_bool wellFormed_ofNat wellFormed_string)

/-- Hooks that were made, or accepted from a value, and then changed one property at a time. -/
inductive Obtainable : Hook → Prop
  | script {path : Path} {hook : Hook} (made : Hook.script path = .ok hook) : Obtainable hook
  | command {command : String} {args : List String} {hook : Hook}
      (made : Hook.command command args = .ok hook) : Obtainable hook
  | accepted {value : Json} {hook : Hook} (wellFormed : value.WellFormed)
      (accepted : Hook.ofJson value = .ok hook) : Obtainable hook
  | withTimeout {hook changed : Hook} (before : Obtainable hook) (milliseconds : UInt64)
      (made : hook.withTimeout milliseconds.toNat = .ok changed) : Obtainable changed
  | withAbortOnFailure {hook : Hook} (before : Obtainable hook) (flag : Bool) :
      Obtainable (hook.withAbortOnFailure flag)
  | withAsync {hook : Hook} (before : Obtainable hook) (flag : Bool) :
      Obtainable (hook.withAsync flag)
  | withWorkingDirectory {hook : Hook} (before : Obtainable hook) (directory : Path) :
      Obtainable (hook.withWorkingDirectory directory)
  | withEnvironment {hook : Hook} (before : Obtainable hook) (name value : String) :
      Obtainable (hook.withEnvironment name value)

structure Sound (hook : Hook) : Prop where
  runnable : hook.action.check = .ok ()
  positive : hook.timeout ≠ 0
  fits : hook.timeout ≤ greatestWhole
  ascending : hook.environment.Pairwise fun a b => a.1 < b.1

theorem sound_of_made {action : Action} {hook : Hook} (made : Hook.ofAction action = .ok hook) :
    Sound hook := by
  obtain ⟨runnable, rfl⟩ := (Declaration.ofAction_eq_ok_iff action hook).mp made
  exact ⟨runnable, by simp [defaultTimeout], by simp [defaultTimeout, greatestWhole], .nil⟩

theorem timeout_le_of_means {value : Json} {hook : Hook} (follows : Follows value)
    (means : Means value hook) : hook.timeout ≤ greatestWhole := by
  rcases means.timeout with given | ⟨-, usual⟩
  · obtain ⟨limit, written⟩ := follows.timeout _ given
    cases limit with
    | none => exact absurd written Json.noConfusion
    | some limit =>
        have same : hook.timeout = limit.toNat :=
          Int.ofNat.inj (Number.whole.inj (Json.number.inj written))
        rw [same]
        exact Nat.le_of_lt_succ limit.toNat_lt
  · rw [usual]
    decide

theorem ascending_of_means {value : Json} {hook : Hook} (wellFormed : value.WellFormed)
    (means : Means value hook) : hook.environment.Pairwise fun a b => a.1 < b.1 := by
  rcases means.env with given | ⟨-, usual⟩
  · have ordered := (wellFormed_of_given? wellFormed given).ordered
    simpa only [List.pairwise_map] using (Json.ordered_object_iff.mp ordered).1
  · rw [usual]
    exact .nil

theorem sound_of_accepted {value : Json} {hook : Hook} (wellFormed : value.WellFormed)
    (accepted : Hook.ofJson value = .ok hook) : Sound hook := by
  have follows := follows_of_accepted wellFormed accepted
  have means := means_of_accepted wellFormed accepted
  obtain ⟨declaration, -, -, made⟩ := (ofJson_eq_ok_iff wellFormed.ordered hook).mp accepted
  obtain ⟨runs, positive, same⟩ := (Declaration.toHook_eq_ok_iff declaration hook).mp made
  exact {
    runnable := ((Declaration.runs_iff _ _).mp runs).2
    positive := by
      rw [same]
      exact (Declaration.limit_ne_zero_iff declaration).mpr positive
    fits := timeout_le_of_means follows means
    ascending := ascending_of_means wellFormed means }

theorem Obtainable.sound {hook : Hook} (obtainable : Obtainable hook) : Sound hook := by
  induction obtainable with
  | script made => exact sound_of_made made
  | command made => exact sound_of_made made
  | accepted wellFormed accepted => exact sound_of_accepted wellFormed accepted
  | withTimeout before milliseconds made ih =>
      obtain ⟨positive, rfl⟩ := (Declaration.withTimeout_eq_ok_iff _ _ _).mp made
      exact { ih with positive := positive, fits := Nat.le_of_lt_succ milliseconds.toNat_lt }
  | withAbortOnFailure before flag ih => exact { ih with }
  | withAsync before flag ih => exact { ih with }
  | withWorkingDirectory before directory ih => exact { ih with }
  | withEnvironment before name value ih =>
      exact { ih with ascending := Json.ascending_insert name value ih.ascending }

/-! What is written for a hook. -/

theorem fields_distinct (declaration : Declaration) :
    declaration.fields.Pairwise fun a b => a.1 ≠ b.1 := by
  have names : (declaration.fields.map Prod.fst).Sublist
      (["script"] ++ ["command"] ++ ["args"] ++ ["timeout"] ++ ["abortOnFailure", "async"] ++
        ["cwd"] ++ ["env"]) := by
    simp only [Declaration.fields, List.map_append]
    refine .append (.append (.append (.append (.append (.append ?_ ?_) ?_) ?_) ?_) ?_) ?_
    · exact keys_optionalField "script" pathJson _
    · exact keys_optionalField "command" Json.string _
    · exact keys_optionalField "args" textsJson _
    · exact keys_optionalField "timeout" Json.ofNat _
    · exact .refl _
    · exact keys_optionalField "cwd" pathJson _
    · split <;> simp
  exact List.pairwise_map.mp (names.nodup (by decide))

theorem find?_environment (key : String) (environment : Fields String) :
    Fields.find? key
        (if environment.isEmpty then [] else [("env", textFieldsJson environment)]) =
      if "env" = key ∧ environment ≠ [] then some (textFieldsJson environment) else none := by
  cases environment <;> simp [Fields.find?]

theorem written_map {α : Type} (form : α → Json) (a : Option α) :
    Written (Json.ofOption form) (a.map form) none a := by
  cases a <;> simp [Written, Json.ofOption]

theorem written_environment (environment : Fields String) :
    Written textFieldsJson
      (if environment ≠ [] then some (textFieldsJson environment) else none) [] environment := by
  cases environment <;> simp [Written]

theorem reads_toJson (declaration : Declaration) :
    Reads (given? declaration.toJson) .empty declaration := by
  have given (name : String) :
      given? declaration.toJson name = Fields.find? name declaration.fields :=
    Fields.find?_ofList name (fields_distinct declaration)
  simp only [Declaration.fields, Fields.find?_append, find?_optionalField, find?_environment] at given
  constructor
  case abortOnFailure => simp [given, Fields.find?, Written]
  case runAsync => simp [given, Fields.find?, Written]
  case env => simpa [given, Fields.find?, Declaration.empty] using written_environment declaration.env
  case script =>
      simpa [given, Fields.find?, Declaration.empty] using written_map pathJson declaration.script
  case command =>
      simpa [given, Fields.find?, Declaration.empty] using
        written_map Json.string declaration.command
  case args =>
      simpa [given, Fields.find?, Declaration.empty] using written_map textsJson declaration.args
  case timeout =>
      simpa [given, Fields.find?, Declaration.empty] using written_map Json.ofNat declaration.timeout
  case cwd =>
      simpa [given, Fields.find?, Declaration.empty] using written_map pathJson declaration.cwd

theorem wellFormed_texts (texts : List String) : (textsJson texts).WellFormed :=
  ⟨.array (List.forall_mem_map.mpr fun text _ => .string text),
    .array (List.forall_mem_map.mpr fun text _ => .string text)⟩

theorem wellFormed_textFields {fields : Fields String}
    (ascending : fields.Pairwise fun a b => a.1 < b.1) : (textFieldsJson fields).WellFormed :=
  ⟨.object (List.pairwise_map.mpr ascending)
      (List.forall_mem_map.mpr fun field _ => .string field.2),
    .object (List.forall_mem_map.mpr fun field _ => .string field.2)⟩

theorem wellFormed_toJson {hook : Hook} (sound : Sound hook) : hook.toJson.WellFormed := by
  have environment : ∀ field ∈ (if hook.environment.isEmpty then []
      else [("env", textFieldsJson hook.environment)]), field.2.WellFormed := by
    split
    · simp
    · exact List.forall_mem_singleton.mpr (wellFormed_textFields sound.ascending)
  have limit : ∀ n, some hook.timeout = some n → (Json.ofNat n).WellFormed := by
    rintro n ⟨⟩
    exact wellFormed_ofNat sound.fits
  have flags : ∀ field ∈ [("abortOnFailure", Json.bool hook.abortOnFailure),
      ("async", Json.bool hook.runAsync)], field.2.WellFormed :=
    List.forall_mem_cons.mpr ⟨wellFormed_bool _, List.forall_mem_singleton.mpr (wellFormed_bool _)⟩
  refine Json.wellFormed_objectOf ?_
  simp only [Declaration.fields, List.forall_mem_append]
  exact ⟨⟨⟨⟨⟨⟨forall_mem_optionalField fun _ _ => wellFormed_string _,
    forall_mem_optionalField fun _ _ => wellFormed_string _⟩,
    forall_mem_optionalField fun _ _ => wellFormed_texts _⟩,
    forall_mem_optionalField limit⟩, flags⟩,
    forall_mem_optionalField fun _ _ => wellFormed_string _⟩, environment⟩

theorem toHook_ofHook {hook : Hook} (sound : Sound hook) :
    (Declaration.ofHook hook).toHook = .ok hook := by
  obtain ⟨runnable, positive, -, -⟩ := sound
  obtain ⟨action, timeout, abortOnFailure, runAsync, directory, environment⟩ := hook
  have runs : Declaration.Runs
      (Declaration.ofHook ⟨action, timeout, abortOnFailure, runAsync, directory, environment⟩)
      action := by
    refine (Declaration.runs_iff _ _).mpr ⟨?_, runnable⟩
    cases action with
    | script path => rfl
    | command command args => cases args <;> rfl
  refine (Declaration.toHook_eq_ok_iff _ _).mpr ⟨runs, ?_, rfl⟩
  exact fun zero => positive (Option.some.inj zero)

theorem ofJson_toJson_of_sound {hook : Hook} (sound : Sound hook) :
    Hook.ofJson hook.toJson = .ok hook :=
  (ofJson_eq_ok_iff (wellFormed_toJson sound).ordered hook).mpr
    ⟨_, trivial, reads_toJson _, toHook_ofHook sound⟩

/-- What is written for a hook is a value from which the hook itself is read. So a value that is
accepted has a written form of its own, which is accepted as the same hook and written as itself. -/
theorem ofJson_toJson :
    (∀ hook, Obtainable hook →
      hook.toJson.WellFormed ∧ Hook.ofJson hook.toJson = .ok hook) ∧
    ∀ value hook, value.WellFormed → Hook.ofJson value = .ok hook →
      ∃ again, Hook.ofJson hook.toJson = .ok again ∧ again = hook ∧ again.toJson = hook.toJson := by
  constructor
  · intro hook obtainable
    have sound := obtainable.sound
    exact ⟨wellFormed_toJson sound, ofJson_toJson_of_sound sound⟩
  · intro value hook wellFormed accepted
    have sound := sound_of_accepted wellFormed accepted
    exact ⟨hook, ofJson_toJson_of_sound sound, rfl, rfl⟩

theorem ofJson_toJson_lintFields :
    ∃ hook changed, Hook.ofJson lintFields = .ok hook ∧
      hook.withTimeout 900 = .ok changed ∧
      Hook.ofJson (changed.withEnvironment "CI" "1").toJson =
        .ok (changed.withEnvironment "CI" "1") ∧
      Hook.ofJson hook.toJson = .ok hook := by
  have accepted : Hook.ofJson lintFields =
      .ok ⟨.command "npm" ["run", "lint"], 250, false, false, none, []⟩ := rfl
  have limited := Obtainable.withTimeout (.accepted wellFormed_lintFields accepted) 900 rfl
  obtain ⟨again, read, rfl, -⟩ := ofJson_toJson.2 _ _ wellFormed_lintFields accepted
  exact ⟨_, _, accepted, rfl, (ofJson_toJson.1 _ (limited.withEnvironment "CI" "1")).2, read⟩

end LifecycleHooks.Hook
