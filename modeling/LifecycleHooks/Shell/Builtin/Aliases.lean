import LifecycleHooks.Shell.Builtin.Basic

/-!
Aliases: texts that stand for the first words of commands.
-/

namespace LifecycleHooks.Shell.Builtin

open Process

def aliasText (entry : String × String) : String := entry.1 ++ "=" ++ quoted entry.2

def putAlias (name text : String) : List (String × String) → List (String × String)
  | [] => [(name, text)]
  | entry :: rest =>
      if entry.1 == name then (name, text) :: rest else entry :: putAlias name text rest

def complainOfAlias (builtin name : String) : Run Unit := do
  (Work.writeText (← get).pid 2 (builtin ++ ": " ++ name ++ " not found\n") : Work Unit)
  setStatus 1

/-- Shows all aliases, bucket by bucket, or shows or makes the ones that are named. An equals sign in
front belongs to the name. -/
def aliasAll (args : List String) : Run Unit := do
  ok
  if args.isEmpty then
    let known := (← get).aliases
    for entry in (List.range 39).flatMap fun n =>
        known.filter fun entry => State.bucket entry.1 == n do
      say (aliasText entry ++ "\n")
  else
    for arg in args do
      let front := (arg.toList.drop 1).takeWhile (· != '=')
      let name := String.ofList (arg.toList.take (1 + front.length))
      if front.length + 1 < arg.length then
        let text := String.ofList (arg.toList.drop (front.length + 2))
        modify fun state => { state with aliases := putAlias name text state.aliases }
      else
        match (← get).aliases.find? fun entry => entry.1 == name with
        | some entry => say (aliasText entry ++ "\n")
        | none => complainOfAlias "alias" name

def unalias (args : List String) : Run Unit := do
  let (found, names) ← options "a" args
  ok
  if !found.isEmpty then modify fun state => { state with aliases := [] }
  else
    for name in names do
      if (← get).aliases.any fun entry => entry.1 == name then
        modify fun state =>
          { state with aliases := state.aliases.filter fun entry => entry.1 != name }
      else complainOfAlias "unalias" name

end LifecycleHooks.Shell.Builtin
