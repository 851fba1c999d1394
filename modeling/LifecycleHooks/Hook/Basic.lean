import LifecycleHooks.Json.Expectation
import LifecycleHooks.Path
import LifecycleHooks.Text.Blank

/-!
Hooks: a script or a command to run at some event, with its time limit, its flags, its directory and
its environment. Hooks are made by `Hook.script` and `Hook.command` and changed one property at a
time; what is refused is a value of `Hook.Invalid`.
-/

namespace LifecycleHooks

namespace Hook

inductive Action
  | script (path : Path)
  | command (command : String) (args : List String)
  deriving DecidableEq, Repr

inductive Invalid
  | missingAction
  | ambiguousAction
  | argsWithoutCommand
  | emptyField (field : String)
  | zeroTimeout
  | malformed (cause : Json.DecodeError)
  deriving DecidableEq

def Invalid.message : Invalid → String
  | missingAction => "hook must set exactly one of 'script' or 'command', found neither"
  | ambiguousAction => "hook must set exactly one of 'script' or 'command', found both"
  | argsWithoutCommand => "'args' is only valid together with 'command'"
  | emptyField field => "hook " ++ field ++ " must not be empty"
  | zeroTimeout => "hook timeout must be a positive number of milliseconds"
  | malformed cause => "invalid hook configuration: " ++ cause.message

def defaultTimeout : Nat := 5000

end Hook

/-- The time limit is in milliseconds. -/
structure Hook where
  action : Hook.Action
  timeout : Nat
  abortOnFailure : Bool
  runAsync : Bool
  workingDirectory : Option Path
  environment : Fields String
  deriving DecidableEq, Repr

namespace Hook

def Action.check : Action → Except Invalid Unit
  | .script path => if path.isEmpty then .error (.emptyField "script") else .ok ()
  | .command program _ =>
      if Text.isAllBlank program then .error (.emptyField "command") else .ok ()

def ofAction (action : Action) : Except Invalid Hook :=
  match action.check with
  | .error invalid => .error invalid
  | .ok () => .ok ⟨action, defaultTimeout, false, false, none, []⟩

def script (path : Path) : Except Invalid Hook := ofAction (.script path)

def command (command : String) (args : List String) : Except Invalid Hook :=
  ofAction (.command command args)

def withTimeout (hook : Hook) (milliseconds : Nat) : Except Invalid Hook :=
  if milliseconds = 0 then .error .zeroTimeout else .ok { hook with timeout := milliseconds }

def withAbortOnFailure (hook : Hook) (flag : Bool) : Hook := { hook with abortOnFailure := flag }

def withAsync (hook : Hook) (flag : Bool) : Hook := { hook with runAsync := flag }

def withWorkingDirectory (hook : Hook) (directory : Path) : Hook :=
  { hook with workingDirectory := some directory }

def withEnvironment (hook : Hook) (name value : String) : Hook :=
  { hook with environment := Fields.insert name value hook.environment }

def timeoutNanos (hook : Hook) : Nat := hook.timeout * 1000000

def label (hook : Hook) : String :=
  match hook.action with
  | .script path => path.text
  | .command command [] => command
  | .command command args => command ++ " " ++ " ".intercalate args

def Action.same : Action → Action → Bool
  | .script a, .script b => a.same b
  | .command a as, .command b bs => a == b && as == bs
  | _, _ => false

def same (a b : Hook) : Bool :=
  a.action.same b.action && a.timeout == b.timeout && a.abortOnFailure == b.abortOnFailure &&
    a.runAsync == b.runAsync && Path.sameOption a.workingDirectory b.workingDirectory &&
    decide (a.environment = b.environment)

end Hook

end LifecycleHooks
