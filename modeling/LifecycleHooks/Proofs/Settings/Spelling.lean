import LifecycleHooks.Proofs.Loading
import LifecycleHooks.Settings.Basic

/-!
Settings that write the hooks of an event type under a flat key, under a nested one, or under both.
What is loaded goes by the values alone, and a flat value hides a nested one.
-/

namespace LifecycleHooks.Loading

/-- How an object of settings gives an event type its value: flat, whatever is nested; nested alone;
or not at all. -/
inductive Gives (values : Fields Json) (event : EventType) : Option Json → Prop
  | flat {value : Json}
      (written : Fields.find? ("hooks." ++ event.settingsName) values = some value) :
      Gives values event (some value)
  | nested {hooks : Fields Json} {value : Json}
      (notFlat : Fields.find? ("hooks." ++ event.settingsName) values = none)
      (inside : Fields.find? "hooks" values = some (.object hooks))
      (written : Fields.find? event.settingsName hooks = some value) :
      Gives values event (some value)
  | absent (notFlat : Fields.find? ("hooks." ++ event.settingsName) values = none)
      (notNested : ∀ hooks, Fields.find? "hooks" values = some (.object hooks) →
        Fields.find? event.settingsName hooks = none) :
      Gives values event none

theorem keyParts_settingsKey (event : EventType) :
    Settings.keyParts ("hooks." ++ event.settingsName) = ["hooks", event.settingsName] := by
  cases event <;> decide

theorem get?_of_flat {settings : Settings} {key : String} {value : Json}
    (written : Fields.find? key settings.values = some value) : settings.get? key = some value := by
  simp only [Settings.get?, written]

theorem descend_cons (value : Json) (key : String) (keys : List String) :
    Settings.descend value (key :: keys) =
      (value.field? key).bind (Settings.descend · keys) := by
  rw [Settings.descend]
  cases value.field? key with
  | none => rfl
  | some inner => rfl

theorem get?_of_notFlat {settings : Settings} {event : EventType}
    (notFlat : Fields.find? ("hooks." ++ event.settingsName) settings.values = none) :
    settings.get? ("hooks." ++ event.settingsName) =
      (Fields.find? "hooks" settings.values).bind (·.field? event.settingsName) := by
  have walked : settings.get? ("hooks." ++ event.settingsName) =
      Settings.descend (.object settings.values) ["hooks", event.settingsName] := by
    simp only [Settings.get?, notFlat, keyParts_settingsKey]
  rw [walked, descend_cons]
  refine congrArg (Option.bind _) (funext fun inside => ?_)
  rw [descend_cons]
  exact Option.bind_fun_some _

theorem get?_of_gives {settings : Settings} {event : EventType} {given : Option Json}
    (gives : Gives settings.values event given) :
    settings.get? ("hooks." ++ event.settingsName) = given := by
  cases gives with
  | flat written => exact get?_of_flat written
  | nested notFlat inside written =>
      rw [get?_of_notFlat notFlat, inside]
      exact written
  | absent notFlat notNested =>
      rw [get?_of_notFlat notFlat]
      cases found : Fields.find? "hooks" settings.values with
      | none => rfl
      | some inside =>
          cases inside with
          | object hooks => exact notNested hooks found
          | _ => rfl

/-! What is loaded from values of event types, wherever they are found. -/

theorem fromSettings_congr {first second : String → Option Json}
    (same : ∀ event : EventType,
      first ("hooks." ++ event.settingsName) = second ("hooks." ++ event.settingsName)) :
    fromSettings first = fromSettings second := by
  have entries : settingsEntry first = settingsEntry second := by
    funext loaded event
    have here : first (settingsKey event) = second (settingsKey event) := same event
    simp only [settingsEntry, here]
  simp only [fromSettings, entries]

def complaints (assigned : EventType → Option Json) : List Warning :=
  EventType.all.flatMap fun event =>
    match assigned event with
    | none => []
    | some value => (hookList ("hooks." ++ event.settingsName) value).2

theorem warnings_settingsEntry (settings : String → Option Json) (loaded : Loaded HookMap)
    (event : EventType) :
    (settingsEntry settings loaded event).2 = loaded.2 ++
      match settings ("hooks." ++ event.settingsName) with
      | none => []
      | some value => (hookList ("hooks." ++ event.settingsName) value).2 := by
  have key : settingsKey event = "hooks." ++ event.settingsName := rfl
  simp only [settingsEntry, key]
  cases settings ("hooks." ++ event.settingsName) with
  | none => exact (List.append_nil _).symm
  | some value => rfl

theorem warnings_fromSettings (settings : String → Option Json) :
    (fromSettings settings).2 =
      complaints fun event => settings ("hooks." ++ event.settingsName) := by
  have folded : ∀ (events : List EventType) (loaded : Loaded HookMap),
      (events.foldl (settingsEntry settings) loaded).2 = loaded.2 ++
        events.flatMap fun event =>
          match settings ("hooks." ++ event.settingsName) with
          | none => []
          | some value => (hookList ("hooks." ++ event.settingsName) value).2 := by
    intro events
    induction events with
    | nil =>
        intro loaded
        exact (List.append_nil _).symm
    | cons event rest ih =>
        intro loaded
        rw [List.foldl_cons, ih, warnings_settingsEntry, List.flatMap_cons, List.append_assoc]
  exact folded EventType.all (.empty, [])

/-- Two objects of settings that give event types the same values lead to the same hooks and the
same warnings, however each of them writes each of the values: the hooks are those that the values
declare, before those of the workspace, and so are the complaints. -/
theorem load_eq_of_gives (assigned : EventType → Option Json) (first second : Settings)
    (firstGives : ∀ event, Gives first.values event (assigned event))
    (secondGives : ∀ event, Gives second.values event (assigned event))
    (readText : Path → Except ReadError String) (workspace : Option Path) :
    let sources : Sources := ⟨first.get?, readText, workspace⟩
    load ⟨second.get?, readText, workspace⟩ = load sources ∧
    (∀ event, (load sources).1.get event =
      declared (assigned event) ++ declared (inWorkspace sources event)) ∧
    (load sources).2 = complaints assigned ++ (fromWorkspace sources).2 := by
  intro sources
  have firstGiven : ∀ event : EventType,
      first.get? ("hooks." ++ event.settingsName) = assigned event :=
    fun event => get?_of_gives (firstGives event)
  have secondGiven : ∀ event : EventType,
      second.get? ("hooks." ++ event.settingsName) = assigned event :=
    fun event => get?_of_gives (secondGives event)
  refine ⟨?_, ?_, ?_⟩
  · have same : fromSettings second.get? = fromSettings first.get? :=
      fromSettings_congr fun event => (secondGiven event).trans (firstGiven event).symm
    simp only [load, same]
    rfl
  · intro event
    have global : declared (inSettings sources event) = declared (assigned event) := by
      rw [← settings_settingsKey]
      exact congrArg declared (firstGiven event)
    rw [← global]
    exact get_load sources event
  · have warned : (fromSettings first.get?).2 = complaints assigned := by
      rw [warnings_fromSettings]
      exact congrArg complaints (funext firstGiven)
    rw [← warned]
    rfl

def assignedMixed : EventType → Option Json
  | .preCommit => some (.array [.object [("command", .string "lint")], .object []])
  | .prePush => some (.object [("script", .string "push.sh")])
  | .fileSave => some .null
  | _ => none

def halfNested : Settings :=
  ⟨[("hooks", .object [("fileSave", .null), ("prePush", .object [("script", .string "push.sh")])]),
    ("hooks.preCommit", .array [.object [("command", .string "lint")], .object []])], none⟩

def allFlat : Settings :=
  ⟨[("editor.tabSize", Json.ofNat 4),
    ("hooks", .object [("fileSave", .object [("command", .string "saved")]), ("preCommit", .null)]),
    ("hooks.fileSave", .null),
    ("hooks.preCommit", .array [.object [("command", .string "lint")], .object []]),
    ("hooks.prePush", .object [("script", .string "push.sh")])], none⟩

theorem load_eq_of_gives_mixed :
    let readText : Path → Except ReadError String := fun path => .error (.notFound path)
    (∀ event, Gives halfNested.values event (assignedMixed event)) ∧
    (∀ event, Gives allFlat.values event (assignedMixed event)) ∧
    load ⟨allFlat.get?, readText, none⟩ = load ⟨halfNested.get?, readText, none⟩ ∧
    (load ⟨halfNested.get?, readText, none⟩).1.counts = [(.preCommit, 1), (.prePush, 1)] ∧
    (load ⟨halfNested.get?, readText, none⟩).2 =
      [.badHook 1 "hooks.preCommit" .missingAction, .badList "hooks.fileSave" .null] := by
  intro readText
  have nothing : ∀ {values : Fields Json} {event : EventType} {hooks : Fields Json},
      Fields.find? ("hooks." ++ event.settingsName) values = none →
      Fields.find? "hooks" values = some (.object hooks) →
      Fields.find? event.settingsName hooks = none → Gives values event none := by
    intro values event hooks notFlat inside notNested
    refine .absent notFlat fun other found => ?_
    rw [inside] at found
    obtain rfl := Json.object.inj (Option.some.inj found)
    exact notNested
  have half : ∀ event, Gives halfNested.values event (assignedMixed event) := by
    intro event
    cases event with
    | preCommit => exact .flat rfl
    | prePush => exact .nested rfl rfl rfl
    | fileSave => exact .nested rfl rfl rfl
    | _ => exact nothing rfl rfl rfl
  have flat : ∀ event, Gives allFlat.values event (assignedMixed event) := by
    intro event
    cases event with
    | preCommit => exact .flat rfl
    | prePush => exact .flat rfl
    | fileSave => exact .flat rfl
    | _ => exact nothing rfl rfl rfl
  exact ⟨half, flat, (load_eq_of_gives assignedMixed halfNested allFlat half flat readText none).1,
    by rfl, by rfl⟩

end LifecycleHooks.Loading
