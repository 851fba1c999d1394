import LifecycleHooks.HookMap
import LifecycleHooks.Json.Reader
import LifecycleHooks.Warning

/-!
Loading hooks from two sources: settings, where each event type has a key, and a document in the
workspace, whose `hooks` object has event names as keys. Hooks from settings come first. What cannot
be used is passed over with a warning and does not disturb the rest.
-/

namespace LifecycleHooks

inductive ReadError
  | notFound (path : Path)
  | io (path : Path) (cause : String)
  deriving DecidableEq

def ReadError.message : ReadError → String
  | notFound path => "file not found: " ++ path.text
  | io path cause => "failed to read " ++ path.text ++ ": " ++ cause

structure Sources where
  settings : String → Option Json
  readText : Path → Except ReadError String
  workspace : Option Path

namespace Loading

abbrev Loaded (α : Type) := α × List Warning

/-- The entries of a list of hooks; an object alone is a list of one. -/
def entries? : Json → Option (List Json)
  | .array items => some items
  | .object fields => some [.object fields]
  | _ => none

def readEntry (source : String) (entry : Json × Nat) : Except Warning Hook :=
  match Hook.ofJson entry.1 with
  | .ok hook => .ok hook
  | .error cause => .error (.badHook entry.2 source cause)

def accepted? {ε α : Type} : Except ε α → Option α
  | .ok a => some a
  | .error _ => none

def rejected? {ε α : Type} : Except ε α → Option ε
  | .ok _ => none
  | .error e => some e

def hookList (source : String) (value : Json) : Loaded (List Hook) :=
  match entries? value with
  | none => ([], [.badList source value])
  | some entries =>
      let outcomes := entries.zipIdx.map (readEntry source)
      (outcomes.filterMap accepted?, outcomes.filterMap rejected?)

def extendUnlessEmpty (map : HookMap) (event : EventType) (hooks : List Hook) : HookMap :=
  if hooks.isEmpty then map else map.extend event hooks

def documentEntry (loaded : Loaded HookMap) (field : String × Json) : Loaded HookMap :=
  match EventType.ofName? field.1 with
  | none => (loaded.1, loaded.2 ++ [.unknownEvent field.1])
  | some event =>
      let (hooks, warnings) := hookList field.1 field.2
      (extendUnlessEmpty loaded.1 event hooks, loaded.2 ++ warnings)

def sectionName : String := "hooks"

def document (value : Json) : Loaded HookMap :=
  match value.field? sectionName with
  | none => (.empty, [])
  | some (.object fields) => fields.foldl documentEntry (.empty, [])
  | some _ => (.empty, [.badSection])

def workspaceDocument (text : String) : Except Json.Fault (Loaded HookMap) :=
  match Json.parse text with
  | .ok value => .ok (document value)
  | .error fault => .error fault

def settingsKey (event : EventType) : String := sectionName ++ "." ++ event.settingsName

def settingsEntry (settings : String → Option Json) (loaded : Loaded HookMap)
    (event : EventType) : Loaded HookMap :=
  match settings (settingsKey event) with
  | none => loaded
  | some value =>
      let (hooks, warnings) := hookList (settingsKey event) value
      (extendUnlessEmpty loaded.1 event hooks, loaded.2 ++ warnings)

def fromSettings (settings : String → Option Json) : Loaded HookMap :=
  EventType.all.foldl (settingsEntry settings) (.empty, [])

def workspaceFileName : Path := ⟨".vscode/hooks.json"⟩

def workspaceFile (workspace : Option Path) : Option Path :=
  workspace.map (Path.join · workspaceFileName)

/-- A file that cannot be read or is no JSON contributes nothing. -/
def fromWorkspace (sources : Sources) : Loaded HookMap :=
  match workspaceFile sources.workspace with
  | none => (.empty, [])
  | some file =>
      match sources.readText file with
      | .error _ => (.empty, [])
      | .ok text =>
          match workspaceDocument text with
          | .ok loaded => loaded
          | .error _ => (.empty, [])

/-- All hooks, those from settings before those from the workspace. -/
def load (sources : Sources) : Loaded HookMap :=
  let (global, globalWarnings) := fromSettings sources.settings
  let (workspace, workspaceWarnings) := fromWorkspace sources
  ((global.extendAll workspace).dropEmpty, globalWarnings ++ workspaceWarnings)

end Loading

end LifecycleHooks
