import LifecycleHooks.Invocation
import LifecycleHooks.Process.Executable

/-!
How a hook is started. A script gets the context as its only argument, a command without arguments
goes through the shell, and a command with arguments is the program itself. The environment is that
of the host with what describes the context in it, and over it what the hook's configuration sets.
-/

namespace LifecycleHooks

open Process (Image)

/-- What the system is asked to start, in texts of octets. -/
structure Launch where
  program : String
  args : List String
  cwd : Option Route
  environment : List (String × String)
  input : Text.Bytes
  /-- Whether the hook itself says where programs are looked for. -/
  ownSearch : Bool
  deriving DecidableEq

namespace Launch

def label : Program → String
  | .script path => path.text
  | .command command _ => command

def shellName : String := "sh"

def commandLine (program : Program) (contextText : String) : String × List String :=
  match program with
  | .script path => (path.text, [contextText])
  | .command command [] => (shellName, ["-c", command])
  | .command command args => (command, args)

def contextName : String := "HOOK_CONTEXT"
def eventTypeName : String := "HOOK_EVENT_TYPE"
def timestampName : String := "TIMESTAMP"
def workspaceName : String := "HOOK_WORKSPACE"
def fileName : String := "HOOK_FILE"

def setOptional (environment : Environment) (name : String) : Option Path → Environment
  | some path => environment.set name path.text
  | none => environment

def describe (host : Environment) (timestamp : String) (invocation : Invocation) : Environment :=
  let environment := host.set contextName invocation.contextText
    |>.set eventTypeName invocation.eventType.name
    |>.set timestampName timestamp
  setOptional (setOptional environment workspaceName invocation.workspace) fileName invocation.file

/-- The environment of a hook: what its configuration sets counts more than its context. -/
def environmentOf (host : Environment) (timestamp : String) (invocation : Invocation) : Environment :=
  (describe host timestamp invocation).setAll invocation.env

def searchName : String := "PATH"

def ofInvocation (host : Environment) (timestamp : String) (invocation : Invocation) : Launch :=
  let (program, args) := commandLine invocation.program invocation.contextText
  { program := Text.toOctets program
    args := args.map Text.toOctets
    cwd := invocation.cwd.map Path.route
    environment := (environmentOf host timestamp invocation).map fun entry =>
      (Text.toOctets entry.1, Text.toOctets entry.2)
    input := Text.encode invocation.contextText
    ownSearch := invocation.env.any fun entry => entry.1 == searchName }

def holdsNul (text : String) : Bool := text.toList.contains (Char.ofNat 0)

def texts (launch : Launch) : List String :=
  launch.program :: launch.args ++ (launch.cwd.map Route.text).toList ++
    launch.environment.flatMap fun entry => [entry.1, entry.2]

/-- The longest argument or variable that the system admits, in bytes. -/
def longestText : Nat := 131071

def isTooLong (launch : Launch) : Bool :=
  (launch.program :: launch.args).any (fun arg => longestText < arg.length) ||
    launch.environment.any fun entry => longestText < entry.1.length + 1 + entry.2.length

/-- The directory that the process starts in; it is entered from that of the host. -/
def directory (tree : FileTree) (base : Location) (launch : Launch) : Except SystemError Location :=
  match launch.cwd with
  | none => .ok base
  | some path =>
      match tree.stat base path with
      | .ok (location, node) => if node.isDirectory then .ok location else .error .notADirectory
      | .error e => .error e

def search (launch : Launch) : String :=
  ((launch.environment.find? fun entry => entry.1 == searchName).map Prod.snd).getD Image.usualSearch

/-- The shell that runs files which name no interpreter. There is one only where the hook itself says
where programs are looked for. -/
def scriptShell? (launch : Launch) : Option String :=
  if launch.ownSearch && !launch.program.toList.contains '/' then some "/bin/sh" else none

/-- The directory and the program that a launch leads to. A program's path is followed from the
directory that the process starts in. -/
def resolve (tree : FileTree) (base : Location) (launch : Launch) :
    Except SystemError (Location × Image) :=
  if launch.texts.any holdsNul then .error .nulByte
  else
    match launch.directory tree base with
    | .error e => .error e
    | .ok cwd =>
        match Image.find tree cwd launch.scriptShell? launch.search launch.program
            (launch.program :: launch.args) with
        | .error e => .error e
        | .ok image => if launch.isTooLong then .error .tooManyArguments else .ok (cwd, image)

end Launch

end LifecycleHooks
