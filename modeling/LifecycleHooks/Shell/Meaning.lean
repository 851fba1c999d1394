import LifecycleHooks.Shell.Builtin.Directory

/-!
What command names stand for, and what is said about names that stand for nothing that can be run.
-/

namespace LifecycleHooks.Shell

open Process

inductive Meaning
  | keyword
  | alias (text : String)
  | function (body : Command)
  | builtin
  | file (path : String)
  | unknown

def meaning (state : State) (tree : FileTree) (name : String) : Meaning :=
  if Reader.reserved.contains name then .keyword
  else
    match state.aliases.find? fun entry => entry.1 == name with
    | some (_, text) => .alias text
    | none =>
        match state.functions.find? fun f => f.1 == name with
        | some (_, body) => .function body
        | none =>
            if Builtin.isBuiltin name then .builtin
            else
              match Builtin.pathOf? state tree name with
              | some path => .file path
              | none => .unknown

def describeNames (verbose : Bool) (names : List String) : Run Unit := do
  setStatus 0
  for name in names do
    let state ← get
    let tree ← (Work.view state.pid : Work FileTree)
    match meaning state tree name with
    | .keyword => say (if verbose then name ++ " is a shell keyword\n" else name ++ "\n")
    | .alias text =>
        say (if verbose then name ++ " is an alias for " ++ text ++ "\n"
          else "alias " ++ Builtin.aliasText (name, text) ++ "\n")
    | .function _ => say (if verbose then name ++ " is a shell function\n" else name ++ "\n")
    | .builtin =>
        say (if verbose then
          name ++ (if Reader.special.contains name then " is a special shell builtin\n"
            else " is a shell builtin\n")
          else name ++ "\n")
    | .file path => say (if verbose then name ++ " is " ++ path ++ "\n" else path ++ "\n")
    | .unknown =>
        if verbose then say (name ++ ": not found\n")
        setStatus 127

def startComplaint (name : String) (e : SystemError) : String × Nat :=
  if e = .noSuchFile ∨ e = .notADirectory then (name ++ ": not found", 127)
  else
    let isSought := !name.toList.contains '/'
    (name ++ ": " ++ Tool.describe e,
      if isSought ∨ e = .tooManyLinks ∨ e = .nameTooLong then 127 else 126)

end LifecycleHooks.Shell
