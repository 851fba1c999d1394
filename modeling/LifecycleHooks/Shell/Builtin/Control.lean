import LifecycleHooks.Shell.Builtin.Basic
import LifecycleHooks.Tool.Printing

/-!
The ends of shells, functions, loops and processes, and what is done at them.
-/

namespace LifecycleHooks.Shell.Builtin

open Process

/-- Sets the status that is left; it is the one from before a trap, when that is run. -/
def leaveWith (args : List String) : Run Unit := do
  match args with
  | [] => setStatus ((← get).statusBefore.getD (← get).status)
  | text :: _ => setStatus (← number text)

def exit (args : List String) : Run Unit := do
  leaveWith args
  throw .exitShell

def returnCall (args : List String) : Run Unit := do
  leaveWith args
  throw .returnCall

def loopCount (args : List String) : Run Nat := do
  let count ← match args with
    | [] => pure 1
    | text :: _ => number text
  if count == 0 then abort ("Illegal number: " ++ args.headD "")
  else return min count (← get).loops

def breakLoop (args : List String) : Run Unit := do
  let count ← loopCount args
  ok
  if 0 < count then throw (.breakLoop count)

def continueLoop (args : List String) : Run Unit := do
  let count ← loopCount args
  ok
  if 0 < count then throw (.continueLoop count)

def times (_ : List String) : Run Unit := do
  ok
  say "0m0.000000s 0m0.000000s\n0m0.000000s 0m0.000000s\n"

def job (text : String) (digits : List Char) : Run Pid := do
  let state ← get
  let found := match Tool.natural? (String.ofList digits) with
    | some n => if n = 0 then none else state.jobs[n - 1]?
    | none => state.lastJob
  match found with
  | some pid => return pid
  | none => abort ("No such job: " ++ text)

/-- A process by its number, or the group of a job; a group has a minus sign in front. -/
def target (text : String) : Run Int := do
  match text.toList with
  | '%' :: digits => return -(← job text digits : Nat)
  | '-' :: digits => return -(← number (String.ofList digits) : Nat)
  | _ => return (← number text : Nat)

def waitOrHear (pid : Pid) : Run (Option Nat) := do
  let self := (← get).pid
  (Work.await fun world => world.hasEnded pid || !(world.pending self).isEmpty : Work Unit)
  (Work.look fun world => (world.pending self).getLast? : Work (Option Nat))

def waitAll : List Pid → Run Unit
  | [] => modify fun state => { state with jobs := [] }
  | pid :: pids => do
      match ← waitOrHear pid with
      | some signal => setStatus (128 + signal)
      | none => waitAll pids

def waitEach : List String → Run Unit
  | [] => pure ()
  | arg :: args => do
      let pid ← target arg
      if (← get).jobs.contains pid.natAbs then
        match ← waitOrHear pid.natAbs with
        | some signal => setStatus (128 + signal)
        | none =>
            setStatus (← waitFor pid.natAbs)
            waitEach args
      else
        setStatus 127
        waitEach args

def wait (args : List String) : Run Unit := do
  let (_, args) ← options "" args
  ok
  if args.isEmpty then waitAll (← get).jobs else waitEach args

def signalName (signal : Nat) : String :=
  if signal = 0 then "EXIT"
  else if signal = 34 then "RTMIN"
  else if signal = 64 then "RTMAX"
  else if 34 < signal ∧ signal < 50 then "RTMIN+" ++ toString (signal - 34)
  else if 34 < signal ∧ signal < 64 then "RTMAX-" ++ toString (64 - signal)
  else if signal = 16 then "16"
  else ((Signal.named.find? fun entry => entry.2 == signal).map Prod.fst).getD (toString signal)

def signal? (least : Nat) (text : String) : Option Nat :=
  match Tool.natural? text with
  | some n => if n ≤ Signal.greatest then some n else none
  | none => (List.range 65).find? fun n => least ≤ n && signalName n == text.toUpper

inductive KillRequest
  | names (given : Option String)
  | send (signal : Nat) (targets : List String)

def killUsage : String :=
  "Usage: kill [-s sigspec | -signum | -sigspec] [pid | job]... or\nkill -l [exitstatus]"

def killRequest (args : List String) : Run KillRequest := do
  let ofSignal (signal : Nat) (targets : List String) : Run KillRequest :=
    if targets.isEmpty then abort killUsage else pure (.send signal targets)
  let first := (args.headD "").toList
  let named := if first.head? == some '-' then signal? 1 (String.ofList (first.drop 1)) else none
  match named with
  | some signal => ofSignal signal (args.drop 1)
  | none =>
      let (found, rest) ← options "ls:" args
      let isList := found.any fun entry => entry.1 == 'l'
      match (found.filter fun entry => entry.1 == 's').getLast?.map Prod.snd with
      | none => if isList then return .names rest.head? else ofSignal 15 rest
      | some name =>
          match signal? 1 name with
          | none => abort ("invalid signal number or name: " ++ name)
          | some signal => if isList then abort killUsage else ofSignal signal rest

def showSignals : Option String → Run Unit
  | none => say ("0\n" ++ String.join ((List.range 64).map fun n => signalName (n + 1) ++ "\n"))
  | some text => do
      let n ← number text
      let signal := if 128 < n then n - 128 else n
      if 0 < signal ∧ signal ≤ 64 then say (signalName signal ++ "\n")
      else abort ("invalid signal number or exit status: " ++ text)

def kill (args : List String) : Run Unit := do
  match ← killRequest args with
  | .names given =>
      ok
      showSignals given
  | .send signal targets =>
      ok
      for text in targets do
        let pid ← target text
        let found ← (Tool.sendSignal (← get).pid signal pid : Work Bool)
        if !found then
          complain "No such process\n"
          setStatus 1

def insertTrap (signal : Nat) (action : String) : List (Nat × String) → List (Nat × String)
  | [] => [(signal, action)]
  | entry :: rest =>
      if signal < entry.1 then (signal, action) :: entry :: rest
      else entry :: insertTrap signal action rest

def setTraps (action : Option String) : List String → Run Unit
  | [] => heedSignals
  | name :: names => do
      match signal? 0 name with
      | some signal =>
          modify fun state =>
            let others := state.traps.filter fun t => t.1 != signal
            { state with
              traps := match action with
                | some action => insertTrap signal action others
                | none => others }
          setTraps action names
      | none =>
          (Work.writeText (← get).pid 2 ("trap: " ++ name ++ ": bad trap\n") : Work Unit)
          setStatus 1
          heedSignals

def trap (args : List String) : Run Unit := do
  let (_, args) ← options "" args
  ok
  match args with
  | [] =>
      for (signal, action) in (← get).traps do
        say ("trap -- " ++ quoted action ++ " " ++ signalName signal ++ "\n")
  | [name] => setTraps none [name]
  | action :: names =>
      let isSignal := match Tool.natural? action with
        | some n => decide (n ≤ Signal.greatest)
        | none => false
      if isSignal then setTraps none args
      else setTraps (if action == "-" then none else some action) names

def jobs (args : List String) : Run Unit := do
  let (_, args) ← options "lp" args
  ok
  for arg in args do
    let _ ← target arg

/-- Complains about jobs: none can be brought to the front or the back without a terminal. -/
def resume (args : List String) : Run Unit := do
  let (_, args) ← options "" args
  match args.head?, (← get).lastJob with
  | none, none => abort "No current job"
  | none, some _ => abort "job (null) not created under job control"
  | some job, _ =>
      let _ ← target job
      abort ("job " ++ job ++ " not created under job control")

end LifecycleHooks.Shell.Builtin
