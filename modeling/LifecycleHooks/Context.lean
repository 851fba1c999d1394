import LifecycleHooks.EventType
import LifecycleHooks.Hook.Declaration

/-!
What hooks are told about the event they run for.
-/

namespace LifecycleHooks

open Json (Decoded)

/-- An event type is written as its name, or as an object whose one key is the name and whose value
is null. -/
def EventType.ofJson : Json → Decoded EventType
  | .string name => ofVariant name
  | .object [(name, value)] => do
      let event ← ofVariant name
      match value with
      | .null => .ok event
      | found => .error (.kind found "unit")
  | .object fields => .error (.range (.object fields) "map with a single key")
  | found => .error (.kind found "string or map")
where
  ofVariant (name : String) : Decoded EventType :=
    match EventType.ofName? name with
    | some event => .ok event
    | none => .error (.variant name (EventType.all.map EventType.name))

structure Context where
  eventType : EventType
  workspace : Option Path
  file : Option Path
  data : Json
  deriving DecidableEq

namespace Context

def bare (event : EventType) : Context := ⟨event, none, none, .null⟩

def withWorkspace (context : Context) (workspace : Path) : Context :=
  { context with workspace := some workspace }

def withFile (context : Context) (file : Path) : Context := { context with file := some file }

def withData (context : Context) (data : Json) : Context := { context with data := data }

structure Draft where
  eventType : Option EventType
  workspace : Option Path
  file : Option Path
  data : Json

def Draft.set (name : String) (value : Json) (draft : Draft) : Decoded Draft :=
  match name with
  | "eventType" => do
      let event ← EventType.ofJson value
      return { draft with eventType := some event }
  | "workspace" => do
      let path ← Json.asOptional Hook.Declaration.asPath value
      return { draft with workspace := path }
  | "file" => do
      let path ← Json.asOptional Hook.Declaration.asPath value
      return { draft with file := path }
  | "data" => .ok { draft with data := value }
  | _ => .ok draft

def fieldNames : List String := ["eventType", "workspace", "file", "data"]

def ofJson (value : Json) : Decoded Context := do
  let draft ← Json.asRecord "struct HookContext" fieldNames Draft.set ⟨none, none, none, .null⟩ value
  match draft.eventType with
  | some event => .ok ⟨event, draft.workspace, draft.file, draft.data⟩
  | none =>
      match value with
      | .array items => .error (.length items.length "struct HookContext with 4 elements")
      | _ => .error (.missing "eventType")

def fields (context : Context) : List (String × Json) :=
  ("eventType", .string context.eventType.name) ::
    (Hook.Declaration.optionalField "workspace" Hook.Declaration.pathJson context.workspace ++
      Hook.Declaration.optionalField "file" Hook.Declaration.pathJson context.file ++
      [("data", context.data)])

def chars (context : Context) : List Char :=
  '\x7b' :: (Json.fieldsChars context.fields ++ ['\x7d'])

def text (context : Context) : String := String.ofList context.chars

end Context

end LifecycleHooks
