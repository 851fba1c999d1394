import LifecycleHooks.Context
import LifecycleHooks.Environment

/-!
What a hook is run with: the program, the directory, the environment of its own, the time limit and
the context.
-/

namespace LifecycleHooks

inductive Program
  | script (path : Path)
  | command (command : String) (args : List String)
  deriving DecidableEq

structure Invocation where
  eventType : EventType
  program : Program
  cwd : Option Path
  env : Environment
  timeout : Nat
  contextText : String
  workspace : Option Path
  file : Option Path
  deriving DecidableEq

namespace Invocation

/-- Relative paths are meant below the workspace, when there is one. -/
def resolve (workspace : Option Path) (path : Path) : Path :=
  match workspace with
  | some base => if path.isRelative then base.join path else path
  | none => path

def resolvedProgram (workspace : Option Path) : Hook.Action → Program
  | .script path => .script (resolve workspace path)
  | .command command args => .command command args

def directory (workspace : Option Path) (configured : Option Path) : Option Path :=
  match configured with
  | some path => some (resolve workspace path)
  | none => workspace

def ofHook (hook : Hook) (context : Context) : Invocation where
  eventType := context.eventType
  program := resolvedProgram context.workspace hook.action
  cwd := directory context.workspace hook.workingDirectory
  env := hook.environment
  timeout := hook.timeout
  contextText := context.text
  workspace := context.workspace
  file := context.file

end Invocation

end LifecycleHooks
