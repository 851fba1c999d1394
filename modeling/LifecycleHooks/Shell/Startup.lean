import LifecycleHooks.Shell.Builtin.Directory

/-!
What a shell knows when it begins: its own variables and those of its environment.
-/

namespace LifecycleHooks.Shell.Startup

open Process

def usualSearch : String := "/usr/local/sbin:/usr/local/bin:/usr/sbin:/usr/bin:/sbin:/bin"

def ownVariables : List Variable :=
  [⟨"IFS", some " \t\n", false, false⟩, ⟨"PATH", some usualSearch, false, false⟩,
    ⟨"PS1", some "$ ", false, false⟩, ⟨"PS2", some "> ", false, false⟩,
    ⟨"PS4", some "+ ", false, false⟩, ⟨"OPTIND", some "1", false, false⟩]

/-- The path of the directory that a shell begins in: the one that it is told, if that leads there. -/
def pathOf (tree : FileTree) (cwd : Location) (told : Option String) : String :=
  match told with
  | none => (Route.ofLocation cwd).text
  | some path =>
      match tree.locate cwd ⟨path⟩ with
      | .ok location =>
          if Route.isAbsolute ⟨path⟩ ∧ location = cwd then path else (Route.ofLocation cwd).text
      | .error _ => (Route.ofLocation cwd).text

def newState (tree : FileTree) (pid parent : Pid) (deaf : List Nat) (cwd : Location)
    (environment : List (String × String)) (name : String) (args : List String) (options : Options) :
    State :=
  let state : State :=
    { pid := pid, mainPid := pid, parent := parent, name := name, args := args, line := 1, readLine := 1
      builtin := none, bindings := ownVariables, functions := [], places := [], aliases := []
      hidden := []
      inFunction := false
      cwd := cwd, path := "", status := 0, statusBefore := none, substituted := none, lastJob := none
      jobs := [], options := options
      traps := [], deaf := deaf, optionPlace := none, loops := 0, tested := false, final := false }
  let state := environment.foldl (fun state entry =>
    let (name, value) := entry
    let (name, value) := match Builtin.splitAssignment (name ++ "=" ++ value) with
      | (name, some value) => (name, value)
      | (name, none) => (name, "")
    if Builtin.isName name && name != "IFS" then state.put ⟨name, some value, true, false⟩
    else state) state
  let state := state.setValue "PPID" (toString parent)
  let path := pathOf tree cwd (state.value? "PWD")
  { state.put ⟨"PWD", some path, true, false⟩ with path := path }

end LifecycleHooks.Shell.Startup
