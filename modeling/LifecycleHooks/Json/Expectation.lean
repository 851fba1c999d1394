import LifecycleHooks.Json.Printer
import LifecycleHooks.Text.Quoted

/-!
What is wrong with a JSON value that should have another form, and the reading of the plain forms
that records are made of.
-/

namespace LifecycleHooks.Json

inductive DecodeError
  /-- A value of another kind. -/
  | kind (found : Json) (expected : String)
  /-- A value of the right kind outside the admitted range. -/
  | range (found : Json) (expected : String)
  | length (found : Nat) (expected : String)
  | variant (found : String) (expected : List String)
  | missing (field : String)
  deriving DecidableEq

def described : Json → String
  | null => "null"
  | bool true => "boolean `true`"
  | bool false => "boolean `false`"
  | number (.whole value) => "integer `" ++ toString value ++ "`"
  | number (.double value) => "floating point `" ++ String.ofList value.chars ++ "`"
  | string value => "string " ++ Text.quoted value
  | array _ => "sequence"
  | object _ => "map"

def tickedList (names : List String) : String :=
  ", ".intercalate (names.map fun name => "`" ++ name ++ "`")

def DecodeError.message : DecodeError → String
  | kind found expected => "invalid type: " ++ found.described ++ ", expected " ++ expected
  | range found expected => "invalid value: " ++ found.described ++ ", expected " ++ expected
  | length found expected => "invalid length " ++ toString found ++ ", expected " ++ expected
  | variant found expected =>
      "unknown variant `" ++ found ++ "`, expected one of " ++ tickedList expected
  | missing field => "missing field `" ++ field ++ "`"

abbrev Decoded (α : Type) := Except DecodeError α

def asString (expected : String) : Json → Decoded String
  | string value => .ok value
  | found => .error (.kind found expected)

def asText (value : Json) : Decoded String := asString "a string" value

def asBool : Json → Decoded Bool
  | bool value => .ok value
  | found => .error (.kind found "a boolean")

def asNat : Json → Decoded Nat
  | number (.whole value) =>
      if value < 0 then .error (.range (number (.whole value)) "u64") else .ok value.toNat
  | found => .error (.kind found "u64")

def asTextList : Json → Decoded (List String)
  | array items => items.mapM asText
  | found => .error (.kind found "a sequence")

def asTextField (field : String × Json) : Decoded (String × String) :=
  match asText field.2 with
  | .ok value => .ok (field.1, value)
  | .error e => .error e

def asTextFields : Json → Decoded (Fields String)
  | object fields => fields.mapM asTextField
  | found => .error (.kind found "a map")

def asOptional {α : Type} (decode : Json → Decoded α) : Json → Decoded (Option α)
  | null => .ok none
  | value =>
      match decode value with
      | .ok a => .ok (some a)
      | .error e => .error e

/-- Reads a record from an object, whose fields are visited in the order of their keys, or from an
array that holds the named fields in the given order. -/
def asRecord {α : Type} (expected : String) (names : List String)
    (set : String → Json → α → Decoded α) (initial : α) : Json → Decoded α
  | object fields => fields.foldlM (fun record field => set field.1 field.2 record) initial
  | array items => do
      let record ← (names.zip items).foldlM (fun record field => set field.1 field.2 record) initial
      if items.length ≤ names.length then .ok record
      else .error (.length items.length "fewer elements in array")
  | found => .error (.kind found expected)

end LifecycleHooks.Json
