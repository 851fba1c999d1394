import LifecycleHooks.Process.Executable
import LifecycleHooks.Shell.Builtin.Aliases
import LifecycleHooks.Shell.Builtin.Control
import LifecycleHooks.Shell.Builtin.Output
import LifecycleHooks.Shell.Builtin.Place
import LifecycleHooks.Shell.Builtin.Variables

/-!
The commands that a shell runs itself, and the files that others are found in.
-/

namespace LifecycleHooks.Shell.Builtin

open Process

def candidates (state : State) (name : String) : List Route :=
  if name.toList.contains '/' then [⟨name⟩]
  else
    match state.search? with
    | some search => Image.candidates search name
    | none => []

def scriptShell : String := "/bin/sh"

def image (state : State) (tree : FileTree) (name : String) (args : List String) :
    Except SystemError Image :=
  match state.search? with
  | some search => Image.find tree state.cwd (some scriptShell) search name args
  | none =>
      if name.toList.contains '/' then Image.find tree state.cwd (some scriptShell) "" name args
      else .error .noSuchFile

def isCommand (node : Node) : Bool :=
  match node.content with
  | .program _ => true
  | .file _ => node.isExecutable
  | _ => false

def pathOf? (state : State) (tree : FileTree) (name : String) : Option String :=
  if name.toList.contains '/' then
    if tree.pathExists state.cwd ⟨name⟩ then some name else none
  else
    ((candidates state name).find? fun path =>
      match tree.stat state.cwd path with
      | .ok (_, node) => isCommand node
      | .error _ => false).map Route.text

def simple : List (String × (List String → Run Unit)) :=
  [(":", nothing), ("true", nothing), ("false", fun _ => setStatus 1), ("echo", echo),
    ("printf", printf), ("pwd", pwd), ("cd", cd), ("chdir", cd), ("export", exportAll),
    ("readonly", protectAll), ("unset", unset), ("set", set), ("shift", shift), ("test", test "test"),
    ("[", test "["), ("read", read), ("exit", exit), ("return", returnCall), ("break", breakLoop),
    ("continue", continueLoop), ("umask", umask), ("wait", wait), ("kill", kill), ("trap", trap),
    ("local", hide), ("getopts", getopts), ("times", times), ("ulimit", nothing),
    ("alias", aliasAll), ("unalias", unalias), ("jobs", jobs),
    ("fg", resume), ("bg", resume)]

def remember (name path : String) : Run Unit :=
  modify fun state =>
    if name.toList.contains '/' || state.places.any fun entry => entry.1 == name then state
    else { state with places := state.places ++ [(name, path)] }

def placeBucket (name : String) : Nat :=
  let codes := (Text.octets name).map UInt8.toNat
  (codes.headD 0 * 16 + codes.foldl (· + ·) 0) % 32768 % 31

def hash (args : List String) : Run Unit := do
  let (found, names) ← options "rv" args
  ok
  if found.any fun entry => entry.1 == 'r' then modify fun state => { state with places := [] }
  else if names.isEmpty then
    let places := (← get).places
    for entry in (List.range 31).flatMap fun n =>
        places.filter fun entry => placeBucket entry.1 == n do
      say (entry.2 ++ "\n")
  else
    let state ← get
    let tree ← (Work.view state.pid : Work FileTree)
    for name in names do
      if !(simple.any fun entry => entry.1 == name) then
        match pathOf? state tree name with
        | some path => remember name path
        | none =>
            complain (name ++ ": not found")
            setStatus 1

def directory : List (String × (List String → Run Unit)) := ("hash", hash) :: simple

def find? (name : String) : Option (List String → Run Unit) :=
  (directory.find? fun entry => entry.1 == name).map Prod.snd

def runners : List String := ["eval", ".", "exec", "command", "type"]

def isBuiltin (name : String) : Bool := (find? name).isSome || runners.contains name

end LifecycleHooks.Shell.Builtin
