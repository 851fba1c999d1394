import LifecycleHooks.Hook.Basic

/-!
The declarative form of hooks: a record of eight optional fields, read from JSON, checked into a hook,
and printed again.
-/

namespace LifecycleHooks.Hook

structure Declaration where
  script : Option Path
  command : Option String
  args : Option (List String)
  timeout : Option Nat
  abortOnFailure : Bool
  runAsync : Bool
  cwd : Option Path
  env : Fields String
  deriving DecidableEq, Repr

namespace Declaration

open Json (Decoded)

def empty : Declaration := ⟨none, none, none, none, false, false, none, []⟩

def fieldNames : List String :=
  ["script", "command", "args", "timeout", "abortOnFailure", "async", "cwd", "env"]

def asPath (value : Json) : Decoded Path := (Json.asString "path string" value).map Path.mk

def set (name : String) (value : Json) (declaration : Declaration) : Decoded Declaration :=
  match name with
  | "script" => do
      let path ← Json.asOptional asPath value
      return { declaration with script := path }
  | "command" => do
      let command ← Json.asOptional Json.asText value
      return { declaration with command := command }
  | "args" => do
      let args ← Json.asOptional Json.asTextList value
      return { declaration with args := args }
  | "timeout" => do
      let timeout ← Json.asOptional Json.asNat value
      return { declaration with timeout := timeout }
  | "abortOnFailure" => do
      let flag ← Json.asBool value
      return { declaration with abortOnFailure := flag }
  | "async" => do
      let flag ← Json.asBool value
      return { declaration with runAsync := flag }
  | "cwd" => do
      let path ← Json.asOptional asPath value
      return { declaration with cwd := path }
  | "env" => do
      let env ← Json.asTextFields value
      return { declaration with env := env }
  | _ => .ok declaration

def ofJson (value : Json) : Except Invalid Declaration :=
  match Json.asRecord "struct RawHookConfig" fieldNames set empty value with
  | .ok declaration => .ok declaration
  | .error cause => .error (.malformed cause)

/-- What a declaration runs; arguments that are given but empty do no harm to a script. -/
def action (declaration : Declaration) : Except Invalid Action :=
  match declaration.script, declaration.command with
  | some _, some _ => .error .ambiguousAction
  | none, none => .error .missingAction
  | some path, none =>
      if (declaration.args.getD []).isEmpty then .ok (.script path)
      else .error .argsWithoutCommand
  | none, some command => .ok (.command command (declaration.args.getD []))

def toHook (declaration : Declaration) : Except Invalid Hook := do
  let action ← declaration.action
  let hook ← Hook.ofAction action
  let hook ← hook.withTimeout (declaration.timeout.getD defaultTimeout)
  return { hook with
    abortOnFailure := declaration.abortOnFailure
    runAsync := declaration.runAsync
    workingDirectory := declaration.cwd
    environment := declaration.env }

def ofHook (hook : Hook) : Declaration :=
  let (script, command, args) : Option Path × Option String × Option (List String) :=
    match hook.action with
    | .script path => (some path, none, none)
    | .command command [] => (none, some command, none)
    | .command command args => (none, some command, some args)
  ⟨script, command, args, some hook.timeout, hook.abortOnFailure, hook.runAsync,
    hook.workingDirectory, hook.environment⟩

def pathJson (path : Path) : Json := .string path.text

def textsJson (texts : List String) : Json := .array (texts.map Json.string)

def textFieldsJson (fields : Fields String) : Json :=
  .object (fields.map fun field => (field.1, Json.string field.2))

def optionalField {α : Type} (name : String) (f : α → Json) : Option α → List (String × Json)
  | none => []
  | some a => [(name, f a)]

/-- The fields that are written down: options that are not set and an empty environment are left
out. -/
def fields (declaration : Declaration) : List (String × Json) :=
  optionalField "script" pathJson declaration.script ++
  optionalField "command" Json.string declaration.command ++
  optionalField "args" textsJson declaration.args ++
  optionalField "timeout" Json.ofNat declaration.timeout ++
  [("abortOnFailure", .bool declaration.abortOnFailure), ("async", .bool declaration.runAsync)] ++
  optionalField "cwd" pathJson declaration.cwd ++
  (if declaration.env.isEmpty then [] else [("env", textFieldsJson declaration.env)])

def toJson (declaration : Declaration) : Json := Json.objectOf declaration.fields

end Declaration

def ofJson (value : Json) : Except Invalid Hook :=
  match Declaration.ofJson value with
  | .ok declaration => declaration.toHook
  | .error invalid => .error invalid

def toJson (hook : Hook) : Json := (Declaration.ofHook hook).toJson

end LifecycleHooks.Hook
