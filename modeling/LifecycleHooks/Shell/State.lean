import LifecycleHooks.Process.Work
import LifecycleHooks.Shell.Grammar
import LifecycleHooks.Shell.Setting

/-!
What a shell keeps, and work of a shell: it changes what the shell keeps, and it may leave what is
being run before its end.
-/

namespace LifecycleHooks.Shell

open Process

/-- A variable that is exported or protected may have no value. -/
structure Variable where
  name : String
  value : Option String
  exported : Bool
  readOnly : Bool

structure State where
  pid : Pid
  /-- The process in which the shell began; subshells keep it. -/
  mainPid : Pid
  parent : Pid
  name : String
  args : List String
  line : Nat
  /-- The line that the reading of commands has come to. -/
  readLine : Nat
  /-- The builtin command that is run, for complaints. -/
  builtin : Option String
  bindings : List Variable
  functions : List (String × Command)
  /-- Where commands have been found. -/
  places : List (String × String)
  /-- Texts that stand for the first words of commands. -/
  aliases : List (String × String)
  /-- What `local` has hidden in the function that is run. -/
  hidden : List (String × Option Variable)
  inFunction : Bool
  cwd : Location
  /-- The directory as the steps that led to it name it. -/
  path : String
  status : Nat
  /-- The status from before the trap that is run. -/
  statusBefore : Option Nat
  /-- How the last substituted command ended, if one was run for the command at hand. -/
  substituted : Option Nat
  lastJob : Option Pid
  jobs : List Pid
  options : Options
  /-- What is done when a signal arrives; zero stands for the end of the shell. -/
  traps : List (Nat × String)
  /-- The signals that do nothing, whatever traps there are for them. -/
  deaf : List Nat
  /-- How far `getopts` has come in an argument with several letters. -/
  optionPlace : Option Nat
  loops : Nat
  /-- Whether the status of what is run is asked about, so that a failure does not end the shell. -/
  tested : Bool
  /-- Whether the process ends after what is run, so that a program can take its place. -/
  final : Bool

inductive Flow
  | breakLoop (count : Nat)
  | continueLoop (count : Nat)
  | returnCall
  | exitShell
  /-- Something went wrong, and there was a complaint. -/
  | abort

abbrev Run := ExceptT Flow (StateT State Work)

namespace State

def find? (state : State) (name : String) : Option Variable :=
  state.bindings.find? fun v => v.name == name

def value? (state : State) (name : String) : Option String := (state.find? name).bind Variable.value

def put (state : State) (new : Variable) : State :=
  if (state.find? new.name).isSome then
    { state with bindings := state.bindings.map fun v => if v.name == new.name then new else v }
  else { state with bindings := state.bindings ++ [new] }

def remove (state : State) (name : String) : State :=
  { state with bindings := state.bindings.filter fun v => v.name != name }

def setValue (state : State) (name value : String) : State :=
  match state.find? name with
  | some v => state.put { v with value := some value }
  | none => state.put ⟨name, some value, false, false⟩

def isProtected (state : State) (name : String) : Bool :=
  match state.find? name with
  | some v => v.readOnly
  | none => false

def bucket (name : String) : Nat :=
  let codes := (Text.octets name).map UInt8.toNat
  (codes.headD 0 * 16 + codes.foldl (· + ·) 0) % 39

def environment (state : State) : List (String × String) :=
  (List.range 39).flatMap fun n =>
    state.bindings.filterMap fun v =>
      if bucket v.name == n && v.exported then v.value.map fun value => (v.name, value) else none

def search? (state : State) : Option String := state.value? "PATH"

def separators (state : State) : List Char :=
  match state.find? "IFS" with
  | some v => ((v.value.map String.toList).getD [])
  | none => [' ', '\t', '\n']

def caught (state : State) : List Nat :=
  (state.traps.filter fun (signal, action) =>
    signal != 0 && !action.isEmpty && !state.deaf.contains signal).map Prod.fst

def ignored (state : State) : List Nat :=
  state.deaf ++ ((state.traps.filter fun (signal, action) => signal != 0 && action.isEmpty).map Prod.fst)

end State

def heedSignals : Run Unit := do
  let state ← get
  (Work.modify fun world => world.changeEntry state.pid fun entry =>
    { entry with ignored := state.ignored, caught := state.caught } : Work Unit)

def State.complaintStart (state : State) : String :=
  let builtin := match state.builtin with
    | some name => name ++ ": "
    | none => ""
  state.name ++ ": " ++ toString state.line ++ ": " ++ builtin

/-- Writes to the output; a builtin command that cannot complains twice over its name. -/
def emit (bytes : Text.Bytes) : Run Unit := do
  let state ← get
  let problem ← (Work.write state.pid 1 bytes : Work (Option SystemError))
  if problem.isSome then
    (Work.writeText state.pid 2 (state.complaintStart ++
      (state.builtin.map (· ++ ": ")).getD "" ++ "I/O error\n") : Work Unit)
    set { state with status := 1 }

def say (text : String) : Run Unit := emit (Text.octets text)

def complain (text : String) : Run Unit := do
  let state ← get
  (Work.writeText state.pid 2 (state.complaintStart ++ text ++ "\n") : Work Unit)

def setStatus (status : Nat) : Run Unit := modify fun state => { state with status := status }

def abort {α : Type} (text : String) : Run α := do
  complain text
  setStatus 2
  throw .abort

def assign (name value : String) : Run Unit := do
  if (← get).isProtected name then abort (name ++ ": is read only")
  else
    modify fun state =>
      let state := state.setValue name value
      let state := if name == "OPTIND" then { state with optionPlace := .none } else state
      let state := if name == "PATH" then { state with places := [] } else state
      match state.find? name with
      | some v => if state.options.has .exportAll then state.put { v with exported := true } else state
      | .none => state

def exportVariable (name : String) (value : Option String) : Run Unit := do
  match value with
  | some value => assign name value
  | none => pure ()
  modify fun state =>
    match state.find? name with
    | some v => state.put { v with exported := true }
    | none => state.put ⟨name, none, true, false⟩

def signalText : Nat → Option String
  | 1 => some "Hangup"
  | 3 => some "Quit"
  | 4 => some "Illegal instruction"
  | 5 => some "Trace/breakpoint trap"
  | 6 => some "Aborted"
  | 7 => some "Bus error"
  | 8 => some "Floating point exception"
  | 9 => some "Killed"
  | 10 => some "User defined signal 1"
  | 11 => some "Segmentation fault"
  | 12 => some "User defined signal 2"
  | 14 => some "Alarm clock"
  | 15 => some "Terminated"
  | 16 => some "Stack fault"
  | 24 => some "CPU time limit exceeded"
  | 25 => some "File size limit exceeded"
  | 26 => some "Virtual timer expired"
  | 27 => some "Profiling timer expired"
  | 29 => some "I/O possible"
  | 30 => some "Power failure"
  | 31 => some "Bad system call"
  | signal =>
      if 34 ≤ signal ∧ signal ≤ 64 then some ("Real-time signal " ++ toString (signal - 34)) else none

def statusOf : Ending → Nat
  | .exited code => code % 256
  | .killed signal => 128 + signal

def waitFor (pid : Pid) : Run Nat := do
  let ending ← (Work.wait pid : Work Ending)
  match ending with
  | .killed signal =>
      match signalText signal with
      | some text =>
          let state ← get
          (Work.writeText state.pid 2 (text ++ "\n") : Work Unit)
      | none => pure ()
  | .exited _ => pure ()
  return statusOf ending

end LifecycleHooks.Shell
