import LifecycleHooks.EventType
import LifecycleHooks.Json.Reader
import LifecycleHooks.Result
import LifecycleHooks.Text.Blank

/-!
What the results of the hooks mean for the action they ran before: it goes on, it is blocked, or it
goes on with another payload.
-/

namespace LifecycleHooks

inductive Decision
  | allow
  | block (reason : String)
  | modify (payload : Json)
  deriving DecidableEq

namespace Decision

/-- The error output, or the exit code where that is blank. -/
def reason (event : EventType) (result : Result) : String :=
  let stderr := Text.trim result.stderr
  if stderr.isEmpty then s!"{event.name} hook exited with code {result.exitCode}" else stderr

/-- Output that is no JSON text is taken as a string. -/
def payload (output : String) : Json :=
  match Json.parse output with
  | .ok value => value
  | .error _ => .string output

def output? (result : Result) : Option String :=
  let output := Text.trim result.stdout
  if result.success ∧ ¬output.isEmpty then some output else none

/-- The first failure blocks a gating event; else the last output counts for a modifying one. -/
def ofResults (event : EventType) (results : List Result) : Decision :=
  match if event.isGating then results.find? (fun result => !result.success) else none with
  | some failed => .block (reason event failed)
  | none =>
      match if event.isModifying then results.reverse.findSome? output? else none with
      | some output => .modify (payload output)
      | none => .allow

def isAllowed : Decision → Bool
  | block _ => false
  | _ => true

end Decision

end LifecycleHooks
