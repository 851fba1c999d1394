import LifecycleHooks.Json.Scanner

/-!
Reading a JSON value from its tokens. The state is the place inside the innermost open value and the
values around it; one token moves it one step, so a text is read by folding over its tokens.
-/

namespace LifecycleHooks.Json

/-- How deep values may nest, and whether a comma may stand before a closing bracket. -/
structure Dialect where
  depthLimit : Option Nat
  trailingCommas : Bool
  literal? : String → Option Json

inductive Frame
  | items (done : List Json)
  | fields (done : Fields Json) (key : String)
  deriving Repr

/-- What may come next. Items that are done are kept latest first. -/
inductive Place
  | value
  | firstItem
  | nextItem (done : List Json)
  | firstField
  | nextField (done : Fields Json)
  | colon (done : Fields Json) (key : String)
  | closed (value : Json)
  deriving Repr

abbrev State := Place × List Frame

def start : State := (.value, [])

def Dialect.admits (dialect : Dialect) (depth : Nat) : Bool :=
  match dialect.depthLimit with
  | some limit => depth ≤ limit
  | none => true

def Dialect.open (dialect : Dialect) (frames : List Frame) : Token → Except Fault State
  | .openArray =>
      if dialect.admits (frames.length + 1) then .ok (.firstItem, frames) else .error .malformed
  | .openObject =>
      if dialect.admits (frames.length + 1) then .ok (.firstField, frames) else .error .malformed
  | .text value => .ok (.closed (.string value), frames)
  | .number (some value) => .ok (.closed (.number value), frames)
  | .number none => .ok (.closed .null, frames)
  | .word name false =>
      match dialect.literal? name with
      | some value => .ok (.closed value, frames)
      | none => .error .malformed
  | .badText fault => .error fault
  | .bad fault => .error fault
  | _ => .error .malformed

def Dialect.name (dialect : Dialect) (done : Fields Json) (frames : List Frame) :
    Token → Except Fault State
  | .text key => .ok (.colon done key, frames)
  | .word key _ => if dialect.trailingCommas then .ok (.colon done key, frames) else .error .malformed
  | .badText fault => .error fault
  | _ => .error .malformed

def Dialect.step (dialect : Dialect) : State → Token → Except Fault State
  | (.value, frames), token => dialect.open frames token
  | (.firstItem, frames), .closeArray => .ok (.closed (.array []), frames)
  | (.firstItem, frames), token => dialect.open (.items [] :: frames) token
  | (.nextItem done, frames), .closeArray =>
      if dialect.trailingCommas then .ok (.closed (.array done.reverse), frames)
      else .error .malformed
  | (.nextItem done, frames), token => dialect.open (.items done :: frames) token
  | (.firstField, frames), .closeObject => .ok (.closed (.object []), frames)
  | (.firstField, frames), token => dialect.name [] frames token
  | (.nextField done, frames), .closeObject =>
      if dialect.trailingCommas then .ok (.closed (.object done), frames) else .error .malformed
  | (.nextField done, frames), token => dialect.name done frames token
  | (.colon done key, frames), .colon => .ok (.value, .fields done key :: frames)
  | (.colon _ _, _), _ => .error .malformed
  | (.closed value, .items done :: frames), .comma => .ok (.nextItem (value :: done), frames)
  | (.closed value, .items done :: frames), .closeArray =>
      .ok (.closed (.array (value :: done).reverse), frames)
  | (.closed value, .fields done key :: frames), .comma =>
      .ok (.nextField (Fields.insert key value done), frames)
  | (.closed value, .fields done key :: frames), .closeObject =>
      .ok (.closed (.object (Fields.insert key value done)), frames)
  | (.closed _, _), _ => .error .malformed

def finish : State → Except Fault Json
  | (.closed value, []) => .ok value
  | _ => .error .ended

def Dialect.read (dialect : Dialect) (tokens : List Token) : Except Fault Json :=
  match tokens.foldlM dialect.step start with
  | .error fault => .error fault
  | .ok state => finish state

def strictLiteral? : String → Option Json
  | "null" => some .null
  | "true" => some (.bool true)
  | "false" => some (.bool false)
  | _ => none

/-- Strict JSON with at most 127 nested arrays and objects. -/
def strict : Dialect := ⟨some 127, false, strictLiteral?⟩

def parse (text : String) : Except Fault Json := strict.read (tokens text)

end LifecycleHooks.Json
