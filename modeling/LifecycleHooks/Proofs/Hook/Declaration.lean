import Mathlib.Tactic.MkIffOfInductiveProp
import Mathlib.Tactic.Simproc.ExistsAndEq
import LifecycleHooks.Hook.Declaration
import LifecycleHooks.Proofs.Json.Expectation
import LifecycleHooks.Proofs.Json.Fields

/-!
Which declarations are read from a value, and which hooks are made of a declaration. A field is read
by itself: what is found for it is what is written for its value.
-/

namespace LifecycleHooks.Hook.Declaration

open Json (bind_eq_ok_iff)

/-- What is found for a field is written for its value; a field that is not found keeps it. -/
def Written {α : Type} (form : α → Json) (found : Option Json) (before after : α) : Prop :=
  match found with
  | none => before = after
  | some value => value = form after

/-- The fields of a declaration after what is found for them was read. -/
@[mk_iff]
structure Reads (find : String → Option Json) (before after : Declaration) : Prop where
  script : Written (Json.ofOption pathJson) (find "script") before.script after.script
  command : Written (Json.ofOption Json.string) (find "command") before.command after.command
  args : Written (Json.ofOption textsJson) (find "args") before.args after.args
  timeout : Written (Json.ofOption Json.ofNat) (find "timeout") before.timeout after.timeout
  abortOnFailure :
    Written Json.bool (find "abortOnFailure") before.abortOnFailure after.abortOnFailure
  runAsync : Written Json.bool (find "async") before.runAsync after.runAsync
  cwd : Written (Json.ofOption pathJson) (find "cwd") before.cwd after.cwd
  env : Written textFieldsJson (find "env") before.env after.env

theorem asPath_eq_ok_iff (value : Json) (path : Path) :
    asPath value = .ok path ↔ value = pathJson path := by
  obtain ⟨text⟩ := path
  cases value <;> simp [asPath, Json.asString, pathJson, Except.map]

theorem set_eq_ok_iff (name : String) (value : Json) (before after : Declaration) :
    set name value before = .ok after ↔
      Reads (fun other => if name = other then some value else none) before after := by
  have paths := Json.asOptional_eq_ok_iff asPath_eq_ok_iff
    (fun _ => Json.noConfusion) value
  have texts (found : Option String) :
      Json.asOptional Json.asText value = .ok found ↔ value = Json.ofOption Json.string found :=
    Json.asOptional_eq_ok_iff (fun _ _ => Json.asText_eq_ok_iff) (fun _ => Json.noConfusion) _ _
  have textLists (found : Option (List String)) :
      Json.asOptional Json.asTextList value = .ok found ↔ value = Json.ofOption textsJson found :=
    Json.asOptional_eq_ok_iff (fun _ _ => Json.asTextList_eq_ok_iff) (fun _ => Json.noConfusion) _ _
  have numbers (found : Option Nat) :
      Json.asOptional Json.asNat value = .ok found ↔ value = Json.ofOption Json.ofNat found :=
    Json.asOptional_eq_ok_iff (fun _ _ => Json.asNat_eq_ok_iff) (fun _ => Json.noConfusion) _ _
  obtain ⟨script, command, args, timeout, abortOnFailure, runAsync, cwd, env⟩ := after
  rw [reads_iff]
  unfold set
  split
  case h_9 =>
    obtain ⟨script, command, args, timeout, abortOnFailure, runAsync, cwd, env⟩ := before
    simp_all [Written]
  -- One of the eight fields is set, and the others stay.
  all_goals
    simp [Written, bind_eq_ok_iff, paths, texts, textLists, numbers, Json.asBool_eq_ok_iff,
      Json.asTextFields_eq_ok_iff, textFieldsJson, pure, Except.pure, and_left_comm]

theorem written_cons_iff {α : Type} {form : α → Json} {name key : String} {value : Json}
    {rest : Fields Json} (fresh : Fields.find? name rest = none) (before after : α) :
    Written form (Fields.find? key ((name, value) :: rest)) before after ↔
      ∃ between, Written form (if name = key then some value else none) before between ∧
        Written form (Fields.find? key rest) between after := by
  rw [Fields.find?]
  split
  · rename_i same
    subst same
    simp [Written, fresh]
  · simp [Written]

/-- Fields with distinct names are read one by one, in whatever order they stand. -/
theorem foldlM_set_eq_ok_iff {fields : Fields Json}
    (distinct : fields.Pairwise fun a b => a.1 ≠ b.1) (before after : Declaration) :
    fields.foldlM (fun record field => set field.1 field.2 record) before = .ok after ↔
      Reads (fun name => Fields.find? name fields) before after := by
  induction fields generalizing before with
  | nil =>
      obtain ⟨script, command, args, timeout, abortOnFailure, runAsync, cwd, env⟩ := after
      obtain ⟨script', command', args', timeout', abortOnFailure', runAsync', cwd', env'⟩ := before
      simp [reads_iff, Written, Fields.find?, pure, Except.pure]
  | cons field rest ih =>
      obtain ⟨name, value⟩ := field
      obtain ⟨others, restDistinct⟩ := List.pairwise_cons.mp distinct
      have fresh : Fields.find? name rest = none :=
        Fields.find?_eq_none fun other member => (others other member).symm
      simp only [List.foldlM_cons, bind_eq_ok_iff, set_eq_ok_iff, ih restDistinct]
      constructor
      · rintro ⟨between, first, later⟩
        exact {
          script := (written_cons_iff fresh _ _).mpr ⟨_, first.script, later.script⟩
          command := (written_cons_iff fresh _ _).mpr ⟨_, first.command, later.command⟩
          args := (written_cons_iff fresh _ _).mpr ⟨_, first.args, later.args⟩
          timeout := (written_cons_iff fresh _ _).mpr ⟨_, first.timeout, later.timeout⟩
          abortOnFailure :=
            (written_cons_iff fresh _ _).mpr ⟨_, first.abortOnFailure, later.abortOnFailure⟩
          runAsync := (written_cons_iff fresh _ _).mpr ⟨_, first.runAsync, later.runAsync⟩
          cwd := (written_cons_iff fresh _ _).mpr ⟨_, first.cwd, later.cwd⟩
          env := (written_cons_iff fresh _ _).mpr ⟨_, first.env, later.env⟩ }
      · intro all
        obtain ⟨script, script₁, script₂⟩ := (written_cons_iff fresh _ _).mp all.script
        obtain ⟨command, command₁, command₂⟩ := (written_cons_iff fresh _ _).mp all.command
        obtain ⟨args, args₁, args₂⟩ := (written_cons_iff fresh _ _).mp all.args
        obtain ⟨timeout, timeout₁, timeout₂⟩ := (written_cons_iff fresh _ _).mp all.timeout
        obtain ⟨abort, abort₁, abort₂⟩ := (written_cons_iff fresh _ _).mp all.abortOnFailure
        obtain ⟨runAsync, async₁, async₂⟩ := (written_cons_iff fresh _ _).mp all.runAsync
        obtain ⟨cwd, cwd₁, cwd₂⟩ := (written_cons_iff fresh _ _).mp all.cwd
        obtain ⟨env, env₁, env₂⟩ := (written_cons_iff fresh _ _).mp all.env
        exact ⟨⟨script, command, args, timeout, abort, runAsync, cwd, env⟩,
          ⟨script₁, command₁, args₁, timeout₁, abort₁, async₁, cwd₁, env₁⟩,
          ⟨script₂, command₂, args₂, timeout₂, abort₂, async₂, cwd₂, env₂⟩⟩

/-! The values that records are read from. -/

/-- A value that a record of eight fields is read from: an object, or an array of no more items. -/
def IsRecord : Json → Prop
  | .object _ => True
  | .array items => items.length ≤ 8
  | _ => False

/-- The fields of a record by their names; the items of an array are the fields in their order. -/
def entries : Json → Fields Json
  | .object fields => fields
  | .array items => fieldNames.zip items
  | _ => []

def given? (value : Json) (name : String) : Option Json := Fields.find? name (entries value)

theorem entries_distinct {value : Json} (ordered : value.Ordered) :
    (entries value).Pairwise fun a b => a.1 ≠ b.1 := by
  cases value with
  | object fields =>
      exact (Json.ordered_object_iff.mp ordered).1.imp fun below => ne_of_lt below
  | array items =>
      have names : fieldNames.Nodup := by decide
      refine List.pairwise_iff_getElem.mpr fun i j _ _ before => ?_
      simp only [entries, List.getElem_zip]
      exact List.pairwise_iff_getElem.mp names i j _ _ before
  | _ => exact .nil

theorem ofJson_eq_ok_iff {value : Json} (ordered : value.Ordered) (declaration : Declaration) :
    ofJson value = .ok declaration ↔ IsRecord value ∧ Reads (given? value) empty declaration := by
  have fold := foldlM_set_eq_ok_iff (entries_distinct ordered) empty declaration
  change _ ↔ Reads (given? value) empty declaration at fold
  rw [← fold]
  unfold ofJson Json.asRecord
  cases value with
  | object fields =>
      simp only [entries, IsRecord, true_and]
      cases fields.foldlM (fun record field => set field.1 field.2 record) empty <;> simp
  | array items =>
      simp only [entries, IsRecord]
      cases (fieldNames.zip items).foldlM (fun record field => set field.1 field.2 record) empty with
      | error cause => simp [bind, Except.bind]
      | ok record =>
          by_cases short : items.length ≤ 8
          · simp [bind, Except.bind, fieldNames, short]
          · simp [bind, Except.bind, fieldNames, short]
  | _ => simp [IsRecord]

/-! The hook that a declaration makes. -/

inductive Runs (declaration : Declaration) : Action → Prop
  | script {path : Path} (set : declaration.script = some path) (alone : declaration.command = none)
      (noArgs : declaration.args.getD [] = []) (notEmpty : path.text ≠ "") :
      Runs declaration (.script path)
  | command {command : String} (set : declaration.command = some command)
      (alone : declaration.script = none)
      (notBlank : ∃ c ∈ command.toList, Text.isBlank c = false) :
      Runs declaration (.command command (declaration.args.getD []))

theorem check_script_eq_ok_iff (path : Path) :
    (Action.script path).check = .ok () ↔ path.text ≠ "" := by
  simp [Action.check, Path.isEmpty]

theorem check_command_eq_ok_iff (command : String) (args : List String) :
    (Action.command command args).check = .ok () ↔
      ∃ c ∈ command.toList, Text.isBlank c = false := by
  simp [Action.check, Text.isAllBlank]

theorem runs_iff (declaration : Declaration) (action : Action) :
    Runs declaration action ↔ declaration.action = .ok action ∧ action.check = .ok () := by
  obtain ⟨script, command, args, timeout, abortOnFailure, runAsync, cwd, env⟩ := declaration
  constructor
  · rintro (⟨rfl, rfl, noArgs, notEmpty⟩ | ⟨rfl, rfl, notBlank⟩)
    · simp_all [Declaration.action, check_script_eq_ok_iff]
    · simp_all [Declaration.action, check_command_eq_ok_iff]
  · rintro ⟨made, checked⟩
    unfold Declaration.action at made
    split at made
    · contradiction
    · contradiction
    · split at made
      · rename_i path set alone noArgs
        obtain rfl := Except.ok.inj made
        exact .script set alone (List.isEmpty_iff.mp noArgs) ((check_script_eq_ok_iff _).mp checked)
      · contradiction
    · rename_i text alone set
      obtain rfl := Except.ok.inj made
      exact .command set alone ((check_command_eq_ok_iff _ _).mp checked)

theorem ofAction_eq_ok_iff (action : Action) (hook : Hook) :
    Hook.ofAction action = .ok hook ↔
      action.check = .ok () ∧ hook = ⟨action, defaultTimeout, false, false, none, []⟩ := by
  unfold Hook.ofAction
  cases action.check with
  | error invalid => simp
  | ok _ => simp [eq_comm]

theorem withTimeout_eq_ok_iff (hook changed : Hook) (milliseconds : Nat) :
    hook.withTimeout milliseconds = .ok changed ↔
      milliseconds ≠ 0 ∧ changed = { hook with timeout := milliseconds } := by
  unfold Hook.withTimeout
  split
  · simp_all
  · simp_all [eq_comm]

theorem limit_ne_zero_iff (declaration : Declaration) :
    declaration.timeout.getD defaultTimeout ≠ 0 ↔ declaration.timeout ≠ some 0 := by
  cases declaration.timeout <;> simp [defaultTimeout]

theorem toHook_eq_ok_iff (declaration : Declaration) (hook : Hook) :
    declaration.toHook = .ok hook ↔
      Runs declaration hook.action ∧ declaration.timeout ≠ some 0 ∧
      hook = ⟨hook.action, declaration.timeout.getD defaultTimeout, declaration.abortOnFailure,
        declaration.runAsync, declaration.cwd, declaration.env⟩ := by
  simp only [toHook, bind_eq_ok_iff, ofAction_eq_ok_iff, withTimeout_eq_ok_iff, limit_ne_zero_iff,
    runs_iff, pure, Except.pure, Except.ok.injEq]
  constructor
  · rintro ⟨action, made, usual, ⟨checked, rfl⟩, limited, ⟨positive, rfl⟩, rfl⟩
    exact ⟨⟨made, checked⟩, positive, rfl⟩
  · rintro ⟨⟨made, checked⟩, positive, same⟩
    exact ⟨hook.action, made, _, ⟨checked, rfl⟩, _, ⟨positive, rfl⟩, same.symm⟩

/-! Fields that are written only if they are set. -/

section

variable {α : Type} (name : String) (form : α → Json) (a : Option α)

theorem find?_optionalField (key : String) :
    Fields.find? key (optionalField name form a) = if name = key then a.map form else none := by
  cases a <;> simp [optionalField, Fields.find?]

theorem keys_optionalField :
    ((optionalField name form a).map Prod.fst).Sublist [name] := by
  cases a <;> simp [optionalField]

variable {name form a} in
theorem forall_mem_optionalField {holds : Json → Prop}
    (each : ∀ b, a = some b → holds (form b)) :
    ∀ field ∈ optionalField name form a, holds field.2 := by
  cases a with
  | none => simp [optionalField]
  | some b => simpa [optionalField] using each b rfl

end

end LifecycleHooks.Hook.Declaration
