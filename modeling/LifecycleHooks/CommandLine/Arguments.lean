import LifecycleHooks.Environment
import LifecycleHooks.EventType

/-!
The arguments of the command line. Every level of commands has switches of its own; those for the
host may stand at any level, the deeper one counts, and the environment stands in for those that are
not given.
-/

namespace LifecycleHooks.CommandLine

structure Switch where
  name : String
  letter : Option Char
  takesValue : Bool
  isPath : Bool
  deriving DecidableEq

inductive UsageError
  | unknownSwitch (text : String)
  | missingValue (switch : String)
  | unexpectedValue (switch : String)
  | repeated (switch : String)
  | emptyPath (switch : String)
  | unexpectedArgument (text : String)
  | unknownCommand (text : String)
  | missingCommand
  | missingEvent
  | badEvent (text : String)
  deriving DecidableEq

def UsageError.message : UsageError → String
  | unknownSwitch text => "unexpected argument '" ++ text ++ "' found"
  | missingValue switch => "a value is required for '--" ++ switch ++ "' but none was supplied"
  | unexpectedValue switch => "unexpected value for '--" ++ switch ++ "' found; no more were expected"
  | repeated switch => "the argument '--" ++ switch ++ "' cannot be used multiple times"
  | emptyPath switch => "a value is required for '--" ++ switch ++ "' but none was supplied"
  | unexpectedArgument text => "unexpected argument '" ++ text ++ "' found"
  | unknownCommand text => "unrecognized subcommand '" ++ text ++ "'"
  | missingCommand => "a subcommand is required but one was not provided"
  | missingEvent => "the following required arguments were not provided: <EVENT>"
  | badEvent text => "invalid value '" ++ text ++ "': " ++ EventType.unknownMessage text

inductive Stop
  | usage (error : UsageError)
  | version
  | help
  deriving DecidableEq

def workspaceSwitch : Switch := ⟨"workspace", some 'w', true, true⟩
def settingsSwitch : Switch := ⟨"settings", some 's', true, true⟩
def verboseSwitch : Switch := ⟨"verbose", some 'v', false, false⟩
def helpSwitch : Switch := ⟨"help", some 'h', false, false⟩
def versionSwitch : Switch := ⟨"version", some 'V', false, false⟩
def fileSwitch : Switch := ⟨"file", some 'f', true, true⟩
def dataSwitch : Switch := ⟨"data", some 'd', true, false⟩
def formatSwitch : Switch := ⟨"format", none, true, false⟩

def sharedSwitches : List Switch := [workspaceSwitch, settingsSwitch, verboseSwitch, helpSwitch]

structure Level where
  switches : List Switch
  commands : List String
  /-- How many arguments besides switches there may be. -/
  places : Nat

def rootLevel : Level :=
  ⟨versionSwitch :: sharedSwitches, ["run", "list", "check", "watch", "help"], 0⟩

def runLevel : Level := ⟨sharedSwitches ++ [fileSwitch, dataSwitch, formatSwitch], [], 1⟩
def listLevel : Level := ⟨sharedSwitches, [], 1⟩
def plainLevel : Level := ⟨sharedSwitches, [], 0⟩

/-- What was read at one level so far: switches with their values, other arguments, a switch that
still waits for its value, and the command that was met with the arguments behind it. -/
structure Found where
  given : List (Switch × String)
  arguments : List String
  waiting : Option Switch
  command : Option (String × List String)

def Found.empty : Found := ⟨[], [], none, none⟩

abbrev Reading := Except Stop Found

def usage {α : Type} (error : UsageError) : Except Stop α := .error (.usage error)

def Found.add (found : Found) (switch : Switch) (value : String) : Reading :=
  if switch = helpSwitch then .error .help
  else if switch = versionSwitch then .error .version
  else if found.given.any fun g => g.1 == switch then usage (.repeated switch.name)
  else if switch.isPath && value.isEmpty then usage (.emptyPath switch.name)
  else .ok { found with given := found.given ++ [(switch, value)], waiting := none }

/-- No switch may wait for a value when another one begins. -/
def Found.settle (found : Found) : Reading :=
  match found.waiting with
  | some switch => usage (.missingValue switch.name)
  | none => .ok found

def Found.meet (found : Found) (switch : Switch) (value : Option String) : Reading := do
  let found ← found.settle
  match switch.takesValue, value with
  | true, some value => found.add switch value
  | true, none => return { found with waiting := some switch }
  | false, some _ => usage (.unexpectedValue switch.name)
  | false, none => found.add switch ""

def readLong (level : Level) (found : Found) (text : List Char) : Reading :=
  let name := text.takeWhile (· != '=')
  let value :=
    if name.length = text.length then none else some (String.ofList (text.drop (name.length + 1)))
  match level.switches.find? fun switch => switch.name == String.ofList name with
  | some switch => found.meet switch value
  | none => usage (.unknownSwitch ("--" ++ String.ofList name))

/-- Letters behind one dash; what follows the letter of a switch with a value is the value. -/
def readLetters (level : Level) (found : Found) : List Char → Reading
  | [] => .ok found
  | c :: rest =>
      match level.switches.find? fun switch => switch.letter == some c with
      | none => usage (.unknownSwitch ("-" ++ String.singleton c))
      | some switch =>
          if switch.takesValue then
            match rest with
            | [] => found.meet switch none
            | '=' :: value => found.meet switch (some (String.ofList value))
            | _ => found.meet switch (some (String.ofList rest))
          else
            match found.meet switch none with
            | .ok found => readLetters level found rest
            | .error stop => .error stop

def Found.place (level : Level) (found : Found) (text : String) : Reading :=
  if found.arguments.length < level.places then
    .ok { found with arguments := found.arguments ++ [text] }
  else if level.commands.isEmpty then usage (.unexpectedArgument text)
  else usage (.unknownCommand text)

def readLevel (level : Level) : Bool → Found → List String → Reading
  | _, found, [] => found.settle
  | true, found, text :: rest =>
      match (found.settle).bind fun found => found.place level text with
      | .ok found => readLevel level true found rest
      | .error stop => .error stop
  | false, found, text :: rest =>
      if found.waiting.isNone && level.commands.contains text then
        .ok { found with command := some (text, rest) }
      else
        match text.toList with
        | ['-', '-'] => readLevel level true found rest
        | '-' :: '-' :: long =>
            match readLong level found long with
            | .ok found => readLevel level false found rest
            | .error stop => .error stop
        | '-' :: c :: letters =>
            match readLetters level found (c :: letters) with
            | .ok found => readLevel level false found rest
            | .error stop => .error stop
        | _ =>
            let next := match found.waiting with
              | some switch => found.add switch text
              | none => found.place level text
            match next with
            | .ok found => readLevel level false found rest
            | .error stop => .error stop

def variableOf (switch : Switch) : Option String :=
  if switch = workspaceSwitch then some "HOOKWORK_WORKSPACE"
  else if switch = settingsSwitch then some "HOOKWORK_SETTINGS"
  else none

/-- The value for a switch that is not given at a level; an empty path is an error here too. -/
def fromEnvironment (environment : Environment) (found : Found) (switch : Switch) :
    Except Stop (Option String) :=
  if found.given.any fun g => g.1 == switch then .ok none
  else
    match (variableOf switch).bind environment.get? with
    | some value => if value.isEmpty then usage (.emptyPath switch.name) else .ok (some value)
    | none => .ok none

def Found.value? (found : Found) (switch : Switch) : Option String :=
  (found.given.find? fun g => g.1 == switch).map Prod.snd

/-- A switch of every level: the deeper value counts, then the other one, then the environment. -/
def shared (environment : Environment) (outer inner : Found) (switch : Switch) :
    Except Stop (Option Path) := do
  let first ← fromEnvironment environment inner switch
  let second ← fromEnvironment environment outer switch
  let value := (((inner.value? switch).or (outer.value? switch)).or first).or second
  return value.map Path.mk

inductive Action
  | run (event : EventType) (file : Option Path) (data : Option String) (format : String)
  | list (event : Option EventType)
  | check
  | watch
  deriving DecidableEq

structure Request where
  action : Action
  workspace : Option Path
  settings : Option Path
  deriving DecidableEq

def usualFormat : String := "text"

def readEvent (text : String) : Except Stop EventType :=
  match EventType.ofName? text with
  | some event => .ok event
  | none => usage (.badEvent text)

def levelOf : String → Level
  | "run" => runLevel
  | "list" => listLevel
  | _ => plainLevel

def actionOf (command : String) (found : Found) : Except Stop Action :=
  match command with
  | "run" =>
      match found.arguments with
      | [] => usage .missingEvent
      | text :: _ => do
          let event ← readEvent text
          return .run event ((found.value? fileSwitch).map Path.mk) (found.value? dataSwitch)
            ((found.value? formatSwitch).getD usualFormat)
  | "list" =>
      match found.arguments with
      | [] => .ok (.list none)
      | text :: _ => (readEvent text).map fun event => .list (some event)
  | "check" => .ok .check
  | "watch" => .ok .watch
  | _ => .error .help

def helpAbout : List String → Stop
  | [] => .help
  | command :: rest =>
      if !rootLevel.commands.contains command then .usage (.unknownCommand command)
      else
        match rest with
        | [] => .help
        | other :: _ => .usage (.unknownCommand other)

def request (environment : Environment) (args : List String) : Except Stop Request := do
  let outer ← readLevel rootLevel false .empty args
  match outer.command with
  | none => usage .missingCommand
  | some (command, rest) =>
      if command = "help" then .error (helpAbout rest)
      else
        let inner ← readLevel (levelOf command) false .empty rest
        let action ← actionOf command inner
        let workspace ← shared environment outer inner workspaceSwitch
        let settings ← shared environment outer inner settingsSwitch
        return ⟨action, workspace, settings⟩

end LifecycleHooks.CommandLine
