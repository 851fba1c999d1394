/-!
The points in the life of a session at which hooks run.
-/

namespace LifecycleHooks

inductive EventType
  | prePrompt
  | preContextAttach
  | preCommit
  | prePush
  | prePull
  | postResponse
  | workspaceOpen
  | fileSave
  deriving DecidableEq, Repr, Inhabited

namespace EventType

def all : List EventType :=
  [prePrompt, preContextAttach, preCommit, prePush, prePull, postResponse, workspaceOpen, fileSave]

def name : EventType → String
  | prePrompt => "pre-prompt"
  | preContextAttach => "pre-context-attach"
  | preCommit => "pre-commit"
  | prePush => "pre-push"
  | prePull => "pre-pull"
  | postResponse => "post-response"
  | workspaceOpen => "workspace-open"
  | fileSave => "file-save"

def settingsName : EventType → String
  | prePrompt => "prePrompt"
  | preContextAttach => "preContextAttach"
  | preCommit => "preCommit"
  | prePush => "prePush"
  | prePull => "prePull"
  | postResponse => "postResponse"
  | workspaceOpen => "workspaceOpen"
  | fileSave => "fileSave"

/-- A hyphenated name in camel case: each hyphen goes, and the letter behind it is a capital. -/
def camelCase : List Char → List Char
  | '-' :: c :: rest => c.toUpper :: camelCase rest
  | c :: rest => c :: camelCase rest
  | [] => []

/-- A failing hook keeps the action from going on. -/
def isGating : EventType → Bool
  | prePrompt | preContextAttach | preCommit | prePush | prePull | fileSave => true
  | postResponse | workspaceOpen => false

/-- What a hook prints replaces the payload of the action. -/
def isModifying : EventType → Bool
  | prePrompt | preContextAttach => true
  | _ => false

def index : EventType → Nat
  | prePrompt => 0
  | preContextAttach => 1
  | preCommit => 2
  | prePush => 3
  | prePull => 4
  | postResponse => 5
  | workspaceOpen => 6
  | fileSave => 7

def ofName? (name : String) : Option EventType :=
  all.find? fun event => event.name = name

def unknownMessage (name : String) : String := s!"unknown hook event type '{name}'"

def sorted (events : List EventType) : List EventType :=
  all.filter fun event => events.contains event

theorem mem_all (event : EventType) : event ∈ all := by cases event <;> decide

theorem settingsName_eq_camelCase (event : EventType) :
    event.settingsName = String.ofList (camelCase event.name.toList) := by
  cases event <;> decide

theorem index_injective {a b : EventType} (same : a.index = b.index) : a = b := by
  cases a <;> cases b <;> simp_all [index]

theorem ofName?_name (event : EventType) : ofName? event.name = some event := by
  cases event <;> decide

theorem name_of_ofName? {name : String} {event : EventType} (found : ofName? name = some event) :
    event.name = name := by
  simpa using List.find?_some found

theorem name_inj {a b : EventType} : a.name = b.name ↔ a = b := by
  refine ⟨fun same => ?_, fun same => same ▸ rfl⟩
  have found := ofName?_name a
  rw [same, ofName?_name] at found
  exact (Option.some.inj found).symm

theorem isGating_of_isModifying (event : EventType) (modifying : event.isModifying = true) :
    event.isGating = true := by
  cases event <;> simp_all [isModifying, isGating]

end EventType

end LifecycleHooks
