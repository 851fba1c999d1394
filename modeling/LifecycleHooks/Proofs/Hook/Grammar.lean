import LifecycleHooks.Proofs.Hook.Declaration
import LifecycleHooks.Proofs.Json.WellFormed

/-!
The grammar of the declarative form. A value is accepted exactly if it follows the grammar, and the
hook it is accepted as has the given properties, and the usual ones where nothing is given.
-/

namespace LifecycleHooks.Hook

open Declaration (IsRecord Reads Runs Written entries given? pathJson textFieldsJson textsJson)

/-- What is found for a field, if anything is, is written for some value. -/
def Has {α : Type} (form : α → Json) (found : Option Json) : Prop :=
  ∀ value, found = some value → ∃ a, value = form a

/-- A field is given, and not as null. -/
def Sets (value : Json) (name : String) : Prop :=
  ∃ inner, given? value name = some inner ∧ inner ≠ .null

/-- The grammar: the form of the record and of each field, and what the fields must say together. -/
structure Follows (value : Json) : Prop where
  record : (∃ fields, value = .object fields) ∨ ∃ items, value = .array items ∧ items.length ≤ 8
  script : Has (Json.ofOption Json.string) (given? value "script")
  command : Has (Json.ofOption Json.string) (given? value "command")
  args : Has (Json.ofOption textsJson) (given? value "args")
  timeout : Has (Json.ofOption fun limit : UInt64 => Json.ofNat limit.toNat) (given? value "timeout")
  abortOnFailure : Has Json.bool (given? value "abortOnFailure")
  runAsync : Has Json.bool (given? value "async")
  cwd : Has (Json.ofOption Json.string) (given? value "cwd")
  env : Has textFieldsJson (given? value "env")
  oneAction : Sets value "script" ↔ ¬ Sets value "command"
  scriptNotEmpty : given? value "script" ≠ some (.string "")
  scriptAlone : Sets value "script" →
    ¬ Sets value "args" ∨ given? value "args" = some (.array [])
  commandNotBlank : ∀ command, given? value "command" = some (.string command) →
    ∃ c ∈ command.toList, Text.isBlank c = false
  timeoutPositive : given? value "timeout" ≠ some (Json.ofNat 0)

/-- A field has the value that is written for it, and the usual one where it is absent or null. -/
def Stands {α : Type} (form : α → Json) (usual : α) (found : Option Json) (a : α) : Prop :=
  found = some (form a) ∨ ((found = none ∨ found = some .null) ∧ a = usual)

/-- A hook has exactly the properties that a value gives. -/
structure Means (value : Json) (hook : Hook) : Prop where
  action :
    (∃ path, given? value "script" = some (.string path) ∧ hook.action = .script ⟨path⟩) ∨
    ∃ command args, given? value "command" = some (.string command) ∧
      Stands textsJson [] (given? value "args") args ∧ hook.action = .command command args
  timeout : Stands Json.ofNat 5000 (given? value "timeout") hook.timeout
  abortOnFailure : Stands Json.bool false (given? value "abortOnFailure") hook.abortOnFailure
  runAsync : Stands Json.bool false (given? value "async") hook.runAsync
  cwd : Stands (Json.ofOption pathJson) none (given? value "cwd") hook.workingDirectory
  env : Stands textFieldsJson [] (given? value "env") hook.environment

/-! Single fields. -/

section

variable {α β : Type} {form : α → Json} {found : Option Json}

theorem has_of_written {before after : α} (written : Written form found before after) :
    Has form found := by
  intro value here
  subst here
  exact ⟨after, written⟩

theorem stands_of_written {usual a : α} (written : Written form found usual a) :
    Stands form usual found a := by
  cases found with
  | none => exact .inr ⟨.inl rfl, Eq.symm written⟩
  | some value => exact .inl (congrArg some written)

theorem written_none_iff :
    Written (Json.ofOption form) found none none ↔ found = none ∨ found = some .null := by
  cases found <;> simp [Written, Json.ofOption]

theorem written_some_iff {a : α} :
    Written (Json.ofOption form) found none (some a) ↔ found = some (form a) := by
  cases found <;> simp [Written, Json.ofOption]

theorem stands_getD {usual : α} {a : Option α}
    (written : Written (Json.ofOption form) found none a) :
    Stands form usual found (a.getD usual) := by
  cases a with
  | none => exact .inr ⟨written_none_iff.mp written, rfl⟩
  | some a => exact .inl (written_some_iff.mp written)

theorem has_ofOption_iff {other : β → Json} (translate : α → β)
    (same : ∀ a, other (translate a) = form a)
    (onto : ∀ value b, found = some value → value = other b → ∃ a, translate a = b) :
    Has (Json.ofOption form) found ↔ Has (Json.ofOption other) found := by
  constructor
  · intro has value here
    obtain ⟨a, rfl⟩ := has value here
    refine ⟨a.map translate, ?_⟩
    cases a <;> simp [Json.ofOption, same]
  · intro has value here
    obtain ⟨b, rfl⟩ := has value here
    cases b with
    | none => exact ⟨none, rfl⟩
    | some b =>
        obtain ⟨a, rfl⟩ := onto _ b here rfl
        exact ⟨some a, same a⟩

theorem given_iff {a : Option α} (injective : ∀ b c, form b = form c → b = c)
    (notNull : ∀ b, form b ≠ .null) (written : Written (Json.ofOption form) found none a) (b : α) :
    found = some (form b) ↔ a = some b := by
  cases a with
  | none =>
      rcases written_none_iff.mp written with rfl | rfl
      · simp
      · simpa using (notNull b).symm
  | some a =>
      rw [written_some_iff.mp written, Option.some.injEq, Option.some.injEq]
      exact ⟨injective a b, congrArg form⟩

theorem sets_iff {value : Json} {name : String} {a : Option α} (notNull : ∀ b, form b ≠ .null)
    (written : Written (Json.ofOption form) (given? value name) none a) :
    Sets value name ↔ a ≠ none := by
  cases a with
  | none =>
      rcases written_none_iff.mp written with absent | null
      · simp [Sets, absent]
      · simp [Sets, null]
  | some a => simp [Sets, written_some_iff.mp written, notNull]

end

theorem has_path_iff (found : Option Json) :
    Has (Json.ofOption pathJson) found ↔ Has (Json.ofOption Json.string) found :=
  has_ofOption_iff Path.text (fun _ => rfl) fun _ text _ _ => ⟨⟨text⟩, rfl⟩

/-! Whole values. -/

theorem ofJson_eq_ok_iff {value : Json} (ordered : value.Ordered) (hook : Hook) :
    Hook.ofJson value = .ok hook ↔
      ∃ declaration, IsRecord value ∧ Reads (given? value) .empty declaration ∧
        declaration.toHook = .ok hook := by
  have reads := Declaration.ofJson_eq_ok_iff ordered
  simp only [← and_assoc, ← reads]
  unfold Hook.ofJson
  cases Declaration.ofJson value <;> simp

theorem isRecord_iff (value : Json) :
    IsRecord value ↔
      (∃ fields, value = .object fields) ∨ ∃ items, value = .array items ∧ items.length ≤ 8 := by
  cases value <;> simp [IsRecord]

theorem mem_of_given? {value inner : Json} {name : String}
    (given : given? value name = some inner) :
    (∃ fields, value = .object fields ∧ (name, inner) ∈ fields) ∨
    ∃ items, value = .array items ∧ inner ∈ items := by
  have member := Json.mem_of_find? given
  cases value with
  | object fields => exact .inl ⟨fields, rfl, member⟩
  | array items => exact .inr ⟨items, rfl, (List.of_mem_zip member).2⟩
  | _ => simp [entries] at member

theorem wellFormed_of_given? {value inner : Json} {name : String} (wellFormed : value.WellFormed)
    (given : given? value name = some inner) : inner.WellFormed := by
  obtain ⟨ordered, fits⟩ := wellFormed
  rcases mem_of_given? given with ⟨fields, rfl, member⟩ | ⟨items, rfl, member⟩
  · exact ⟨(Json.ordered_object_iff.mp ordered).2 _ member, Json.numbers_object_iff.mp fits _ member⟩
  · exact ⟨Json.ordered_array_iff.mp ordered _ member, Json.numbers_array_iff.mp fits _ member⟩

theorem has_timeout_iff {value : Json} (wellFormed : value.WellFormed) :
    Has (Json.ofOption fun limit : UInt64 => Json.ofNat limit.toNat) (given? value "timeout") ↔
      Has (Json.ofOption Json.ofNat) (given? value "timeout") := by
  refine has_ofOption_iff UInt64.toNat (fun _ => rfl) fun inner n given written => ?_
  subst written
  -- A number that is larger than every limit is no whole number of the value.
  have small := Json.numbers_number_iff.mp (wellFormed_of_given? wellFormed given).fits
  simp only [Number.Fits, fitsWhole, Bool.and_eq_true, decide_eq_true_eq, Int.ofNat_le] at small
  exact ⟨UInt64.ofNat n, UInt64.toNat_ofNat_of_lt' (Nat.lt_succ_of_le small.2)⟩

section

variable {value : Json} {declaration : Declaration}
  (reads : Reads (given? value) .empty declaration)

include reads

theorem given_script_iff (text : String) :
    given? value "script" = some (.string text) ↔ declaration.script = some ⟨text⟩ := by
  have injective (path other : Path) (same : pathJson path = pathJson other) : path = other :=
    congrArg Path.mk (Json.string.inj same)
  exact given_iff injective (fun _ => Json.noConfusion) reads.script ⟨text⟩

theorem given_command_iff (text : String) :
    given? value "command" = some (.string text) ↔ declaration.command = some text :=
  given_iff (fun _ _ => Json.string.inj) (fun _ => Json.noConfusion) reads.command text

theorem given_noArgs_iff :
    given? value "args" = some (.array []) ↔ declaration.args = some [] := by
  have injective (texts others : List String) (same : textsJson texts = textsJson others) :
      texts = others :=
    List.map_injective_iff.mpr (fun _ _ => Json.string.inj) (Json.array.inj same)
  exact given_iff injective (fun _ => Json.noConfusion) reads.args []

theorem given_timeout_iff (n : Nat) :
    given? value "timeout" = some (Json.ofNat n) ↔ declaration.timeout = some n :=
  given_iff (fun _ _ same => Int.ofNat.inj (Number.whole.inj (Json.number.inj same)))
    (fun _ => Json.noConfusion) reads.timeout n

theorem sets_script_iff : Sets value "script" ↔ declaration.script ≠ none :=
  sets_iff (fun _ => Json.noConfusion) reads.script

theorem sets_command_iff : Sets value "command" ↔ declaration.command ≠ none :=
  sets_iff (fun _ => Json.noConfusion) reads.command

theorem sets_args_iff : Sets value "args" ↔ declaration.args ≠ none :=
  sets_iff (fun _ => Json.noConfusion) reads.args

theorem follows_of_runs {action : Action} (record : IsRecord value)
    (wellFormed : value.WellFormed) (runs : Runs declaration action)
    (positive : declaration.timeout ≠ some 0) : Follows value where
  record := (isRecord_iff value).mp record
  script := (has_path_iff _).mp (has_of_written reads.script)
  command := has_of_written reads.command
  args := has_of_written reads.args
  timeout := (has_timeout_iff wellFormed).mpr (has_of_written reads.timeout)
  abortOnFailure := has_of_written reads.abortOnFailure
  runAsync := has_of_written reads.runAsync
  cwd := (has_path_iff _).mp (has_of_written reads.cwd)
  env := has_of_written reads.env
  oneAction := by
    rw [sets_script_iff reads, sets_command_iff reads]
    cases runs with
    | script set alone noArgs notEmpty => simp [set, alone]
    | command set alone notBlank => simp [set, alone]
  scriptNotEmpty := by
    rw [ne_eq, given_script_iff reads]
    intro blank
    cases runs with
    | script set alone noArgs notEmpty =>
        obtain rfl := Option.some.inj (set.symm.trans blank)
        exact notEmpty rfl
    | command set alone notBlank => exact absurd (alone.symm.trans blank) nofun
  scriptAlone := by
    rw [sets_script_iff reads, sets_args_iff reads, given_noArgs_iff reads]
    cases runs with
    | script set alone noArgs notEmpty =>
        cases args : declaration.args with
        | none => simp
        | some texts =>
            rw [args, Option.getD_some] at noArgs
            simp [noArgs]
    | command set alone notBlank => simp [alone]
  commandNotBlank := by
    intro command given
    have same := (given_command_iff reads command).mp given
    cases runs with
    | script set alone noArgs notEmpty => exact absurd (alone.symm.trans same) nofun
    | command set alone notBlank =>
        obtain rfl := Option.some.inj (set.symm.trans same)
        exact notBlank
  timeoutPositive := (given_timeout_iff reads 0).not.mpr positive

theorem means_of_toHook {hook : Hook} (made : declaration.toHook = .ok hook) :
    Means value hook := by
  obtain ⟨runs, -, same⟩ := (Declaration.toHook_eq_ok_iff declaration hook).mp made
  generalize acted : hook.action = action at runs same
  subst same
  exact {
    action := by
      cases runs with
      | script set alone noArgs notEmpty =>
          exact .inl ⟨_, (given_script_iff reads _).mpr set, rfl⟩
      | command set alone notBlank =>
          exact .inr ⟨_, _, (given_command_iff reads _).mpr set, stands_getD reads.args, rfl⟩
    timeout := stands_getD reads.timeout
    abortOnFailure := stands_of_written reads.abortOnFailure
    runAsync := stands_of_written reads.runAsync
    cwd := stands_of_written reads.cwd
    env := stands_of_written reads.env }

end

section

variable {value : Json} (wellFormed : value.WellFormed)

include wellFormed

theorem follows_of_accepted {hook : Hook} (accepted : Hook.ofJson value = .ok hook) :
    Follows value := by
  obtain ⟨declaration, record, reads, made⟩ :=
    (ofJson_eq_ok_iff wellFormed.ordered hook).mp accepted
  obtain ⟨runs, positive, -⟩ := (Declaration.toHook_eq_ok_iff declaration hook).mp made
  exact follows_of_runs reads record wellFormed runs positive

theorem means_of_accepted {hook : Hook} (accepted : Hook.ofJson value = .ok hook) :
    Means value hook := by
  obtain ⟨declaration, -, reads, made⟩ := (ofJson_eq_ok_iff wellFormed.ordered hook).mp accepted
  exact means_of_toHook reads made

end

def lintFields : Json :=
  .array [.null, .string "npm", .array [.string "run", .string "lint"], Json.ofNat 250]

theorem wellFormed_lintFields : lintFields.WellFormed where
  ordered := by
    simp [lintFields, Json.ordered_array_iff, Json.Ordered.null, Json.Ordered.string,
      Json.Ordered.number, Json.ofNat]
  fits := by
    simp [lintFields, Json.numbers_array_iff, Json.numbers_number_iff, Json.Numbers.null,
      Json.Numbers.string, Json.ofNat, Number.Fits, fitsWhole, greatestWhole]

end LifecycleHooks.Hook
