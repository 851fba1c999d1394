import LifecycleHooks.Loading
import LifecycleHooks.Proofs.HookMap
import LifecycleHooks.Proofs.Json.Fields

/-!
What is loaded, event type by event type: what the settings declare for it, then what the workspace
document declares for it. Each source counts as if there were no other.
-/

namespace LifecycleHooks.Loading

def declared? (value : Json) : Option Hook := do
  let declaration ← (Hook.Declaration.ofJson value).toOption
  declaration.toHook.toOption

/-- The hooks that the value of an event type declares, in their order. An object alone is a list of
one, and anything else declares none. -/
def declared : Option Json → List Hook
  | some (.array items) => items.filterMap declared?
  | some (.object fields) => [Json.object fields].filterMap declared?
  | _ => []

/-- The value of an event type in the settings, where its name is in camel case. -/
def inSettings (sources : Sources) (event : EventType) : Option Json :=
  sources.settings ("hooks." ++ String.ofList (EventType.camelCase event.name.toList))

/-- The value under `hooks` in the document of the workspace, if there is a workspace, its file can
be read and is JSON, and the value is there. -/
def workspaceSection (sources : Sources) : Option Json := do
  let workspace ← sources.workspace
  let text ← (sources.readText (workspace.join ⟨".vscode/hooks.json"⟩)).toOption
  let document ← (Json.parse text).toOption
  document.field? "hooks"

def inWorkspace (sources : Sources) (event : EventType) : Option Json := do
  let hooks ← workspaceSection sources
  hooks.field? event.name

/-! One list of declarations. -/

theorem accepted?_readEntry (source : String) (value : Json) (index : Nat) :
    accepted? (readEntry source (value, index)) = declared? value := by
  simp only [readEntry, Hook.ofJson, declared?]
  cases decoded : Hook.Declaration.ofJson value with
  | error cause => rfl
  | ok declaration =>
      cases checked : declaration.toHook with
      | error invalid => simp [accepted?, Except.toOption, checked]
      | ok hook => simp [accepted?, Except.toOption, checked]

theorem filterMap_accepted? (source : String) (entries : List Json) (first : Nat) :
    ((entries.zipIdx first).map (readEntry source)).filterMap accepted? =
      entries.filterMap declared? := by
  induction entries generalizing first with
  | nil => rfl
  | cons entry rest ih =>
      simp only [List.zipIdx_cons, List.map_cons, List.filterMap_cons, accepted?_readEntry, ih]

theorem hookList_eq (source : String) (value : Json) :
    (hookList source value).1 = declared (some value) := by
  cases value with
  | array items => exact filterMap_accepted? source items 0
  | object fields => exact filterMap_accepted? source [.object fields] 0
  | _ => rfl

theorem get_extendUnlessEmpty (map : HookMap) (event extended : EventType) (hooks : List Hook) :
    (extendUnlessEmpty map extended hooks).get event =
      map.get event ++ if extended = event then hooks else [] := by
  rw [extendUnlessEmpty]
  split
  · rename_i empty
    simp [List.isEmpty_iff.mp empty]
  · exact map.get_extend event extended hooks

/-! The settings. -/

theorem get_settingsEntry (settings : String → Option Json) (loaded : Loaded HookMap)
    (event entry : EventType) :
    (settingsEntry settings loaded entry).1.get event =
      loaded.1.get event ++
        if entry = event then declared (settings (settingsKey entry)) else [] := by
  simp only [settingsEntry]
  split
  · rename_i missing
    simp [missing, declared]
  · rename_i value found
    simp only [get_extendUnlessEmpty, hookList_eq, found]

theorem get_foldl_settingsEntry (settings : String → Option Json) (event : EventType)
    (entries : List EventType) (distinct : entries.Nodup) (loaded : Loaded HookMap) :
    (entries.foldl (settingsEntry settings) loaded).1.get event =
      loaded.1.get event ++
        if event ∈ entries then declared (settings (settingsKey event)) else [] := by
  induction entries generalizing loaded with
  | nil => simp
  | cons entry rest ih =>
      obtain ⟨fresh, restDistinct⟩ := List.nodup_cons.mp distinct
      rw [List.foldl_cons, ih restDistinct, get_settingsEntry, List.append_assoc]
      by_cases same : entry = event
      · subst same
        simp [fresh]
      · simp [same, Ne.symm same]

theorem settings_settingsKey (sources : Sources) (event : EventType) :
    sources.settings (settingsKey event) = inSettings sources event := by
  rw [inSettings, ← event.settingsName_eq_camelCase]
  rfl

theorem get_fromSettings (sources : Sources) (event : EventType) :
    (fromSettings sources.settings).1.get event = declared (inSettings sources event) := by
  rw [fromSettings, get_foldl_settingsEntry _ _ _ (by decide), if_pos event.mem_all,
    HookMap.get_empty, List.nil_append, settings_settingsKey]

/-! The document of the workspace. -/

theorem get_documentEntry (loaded : Loaded HookMap) (field : String × Json) (event : EventType) :
    (documentEntry loaded field).1.get event =
      loaded.1.get event ++ if field.1 = event.name then declared (some field.2) else [] := by
  simp only [documentEntry]
  split
  · rename_i unknown
    have other : field.1 ≠ event.name := by
      intro same
      rw [same, EventType.ofName?_name] at unknown
      contradiction
    simp [other]
  · rename_i named found
    simp only [get_extendUnlessEmpty, hookList_eq, ← EventType.name_of_ofName? found,
      EventType.name_inj]

theorem get_foldl_documentEntry (event : EventType) {fields : Fields Json}
    (ascending : fields.Pairwise fun a b => a.1 < b.1) (loaded : Loaded HookMap) :
    (fields.foldl documentEntry loaded).1.get event =
      loaded.1.get event ++ declared (Fields.find? event.name fields) := by
  induction fields generalizing loaded with
  | nil => simp [Fields.find?, declared]
  | cons field rest ih =>
      obtain ⟨below, restAscending⟩ := List.pairwise_cons.mp ascending
      rw [List.foldl_cons, ih restAscending, get_documentEntry, Fields.find?, List.append_assoc]
      split
      · rename_i same
        have absent : ∀ other ∈ rest, other.1 ≠ event.name :=
          fun other member => same ▸ (ne_of_lt (below other member)).symm
        rw [Fields.find?_eq_none absent]
        simp [declared]
      · simp

theorem get_document (value : Json) (ordered : value.Ordered) (event : EventType) :
    (document value).1.get event =
      declared ((value.field? "hooks").bind (·.field? event.name)) := by
  simp only [document, sectionName]
  cases found : value.field? "hooks" with
  | none => rfl
  | some hooks =>
      have hooksOrdered := ordered.of_field? found
      cases hooks with
      | object fields =>
          have ascending := (Json.ordered_object_iff.mp hooksOrdered).1
          simp [get_foldl_documentEntry event ascending, Json.field?]
      | _ => rfl

theorem get_fromWorkspace (sources : Sources) (event : EventType) :
    (fromWorkspace sources).1.get event = declared (inWorkspace sources event) := by
  simp only [fromWorkspace, workspaceFile, workspaceFileName, inWorkspace, workspaceSection]
  cases sources.workspace with
  | none => rfl
  | some workspace =>
      simp only [Option.map_some, Option.bind_eq_bind, Option.bind_some]
      cases sources.readText (workspace.join ⟨".vscode/hooks.json"⟩) with
      | error cause => rfl
      | ok text =>
          simp only [workspaceDocument, Except.toOption, Option.bind_some]
          cases read : Json.parse text with
          | error fault => rfl
          | ok value => exact get_document value (Json.ordered_parse read) event

theorem get_load (sources : Sources) (event : EventType) :
    (load sources).1.get event =
      declared (inSettings sources event) ++ declared (inWorkspace sources event) := by
  rw [← get_fromSettings, ← get_fromWorkspace, ← HookMap.get_extendAll]
  exact HookMap.get_dropEmpty _ event

/-- What is loaded for an event type is what the settings declare, then what the workspace declares,
and the event types that are loaded are those for which there is some. A source that has nothing to
say leaves the other one as it is: there is no workspace, its file cannot be read, is no JSON or has
no `hooks` object; or the settings have no value for any event type. -/
theorem load_eq_declared (sources : Sources) :
    let map := (load sources).1
    (∀ event,
      map.get event = declared (inSettings sources event) ++ declared (inWorkspace sources event)) ∧
    (∀ event, event ∈ map.keys ↔ map.get event ≠ []) ∧
    ((∀ fields, workspaceSection sources ≠ some (.object fields)) →
      ∀ event, map.get event = declared (inSettings sources event)) ∧
    ((∀ event, inSettings sources event = none) →
      ∀ event, map.get event = declared (inWorkspace sources event)) := by
  intro map
  refine ⟨get_load sources, ?_, ?_, ?_⟩
  · intro event
    have keys := HookMap.mem_keys_dropEmpty_iff
      ((fromSettings sources.settings).1.extendAll (fromWorkspace sources).1) event
    rwa [← HookMap.get_dropEmpty] at keys
  · intro silent event
    have nothing : inWorkspace sources event = none := by
      simp only [inWorkspace]
      cases found : workspaceSection sources with
      | none => rfl
      | some hooks =>
          cases hooks with
          | object fields => exact absurd found (silent fields)
          | _ => rfl
    rw [get_load, nothing]
    exact List.append_nil _
  · intro silent event
    rw [get_load, silent]
    rfl

end LifecycleHooks.Loading
