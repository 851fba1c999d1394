import LifecycleHooks.Process.Executable
import LifecycleHooks.Tool.Printing

/-!
What the programs that start other programs are asked for.
-/

namespace LifecycleHooks.Tool.Starting

open Process

inductive Refusal
  | misuse (problem : String)
  | other (problem : String)

def leading (args : List String) (short : String) (long : List (String × Char)) :
    Except Refusal Options :=
  match Grammar.read ⟨short, long⟩ false args with
  | .ok options => .ok options
  | .error problem => .error (.misuse problem)

structure EnvRequest where
  environment : List (String × String)
  directory : Option String
  lineEnd : String
  command : List String

def setVariable (name value : String) (environment : List (String × String)) :
    List (String × String) :=
  if environment.any fun entry => entry.1 == name then
    environment.map fun entry => if entry.1 == name then (name, value) else entry
  else environment ++ [(name, value)]

def assignments (environment : List (String × String)) :
    List String → List (String × String) × List String
  | [] => (environment, [])
  | arg :: rest =>
      let name := arg.toList.takeWhile (· != '=')
      if name.length = arg.length then (environment, arg :: rest)
      else
        let value := String.ofList (arg.toList.drop (name.length + 1))
        assignments (setVariable (String.ofList name) value environment) rest

/-- A text split into words, as `env -S` does it: `word` is the one that is being read, and `quote` the
quote that is open. -/
def splitWords (environment : List (String × String)) :
    Option Char → Option (List Char) → List Char → Except String (List String)
  | some _, _, [] => .error "no terminating quote in -S string"
  | none, word, [] => .ok (word.map fun word => String.ofList word.reverse).toList
  | quote, word, '\\' :: c :: rest =>
      let here := word.getD []
      match quote, c with
      | some '\'', '\\' => splitWords environment quote (some ('\\' :: here)) rest
      | some '\'', '\'' => splitWords environment quote (some ('\'' :: here)) rest
      | some '\'', c => splitWords environment quote (some (c :: '\\' :: here)) rest
      | none, '_' =>
          (splitWords environment none none rest).map
            ((word.map fun word => String.ofList word.reverse).toList ++ ·)
      | some _, '_' => splitWords environment quote (some (' ' :: here)) rest
      | none, 'c' => .ok (word.map fun word => String.ofList word.reverse).toList
      | _, c =>
          let found : Option Char := match c with
            | 'n' => some '\n'
            | 't' => some '\t'
            | 'r' => some '\r'
            | 'f' => some '\x0c'
            | 'v' => some '\x0b'
            | c => if ['"', '#', '$', '\'', '\\', ' '].contains c then some c else none
          match found with
          | some c => splitWords environment quote (some (c :: here)) rest
          | none => .error ("invalid sequence '\\" ++ String.singleton c ++ "' in -S")
  | some quote, word, c :: rest =>
      if c == quote then splitWords environment none (some (word.getD [])) rest
      else splitWords environment (some quote) (some (c :: word.getD [])) rest
  | none, word, c :: rest =>
      if c == '"' || c == '\'' then splitWords environment (some c) (some (word.getD [])) rest
      else if [' ', '\t', '\n', '\r', '\x0b', '\x0c'].contains c then
        (splitWords environment none none rest).map
          ((word.map fun word => String.ofList word.reverse).toList ++ ·)
      else if c == '#' && word.isNone then .ok []
      else splitWords environment none (some (c :: word.getD [])) rest

def withVariables (environment : List (String × String)) : Nat → List Char → List Char
  | 0, chars => chars
  | _, [] => []
  | fuel + 1, '$' :: '\x7b' :: rest =>
      let name := rest.takeWhile (· != '\x7d')
      let value := (environment.find? fun entry => entry.1 == String.ofList name).map Prod.snd
      (value.getD "").toList ++ withVariables environment fuel (rest.drop (name.length + 1))
  | fuel + 1, c :: rest => c :: withVariables environment fuel rest

def spread (environment : List (String × String)) : Nat → List String → Except Refusal (List String)
  | 0, args => .ok args
  | _, [] => .ok []
  | fuel + 1, arg :: rest =>
      let split (text : List Char) (rest : List String) : Except Refusal (List String) :=
        match splitWords environment none none
            (withVariables environment (text.length + 1) text) with
        | .ok words => (spread environment fuel (words ++ rest))
        | .error problem => .error (.other problem)
      match arg.toList with
      | '-' :: 'S' :: text =>
          if !text.isEmpty then split text rest
          else
            match rest with
            | next :: rest => split next.toList rest
            | [] => .ok [arg]
      | '-' :: 'v' :: 'S' :: text => split text rest
      | _ =>
          if "--split-string=".toList.isPrefixOf arg.toList then split (arg.toList.drop 15) rest
          else if arg == "-u" || arg == "-C" then
            (spread environment fuel (rest.drop 1)).map fun others => arg :: rest.take 1 ++ others
          else if arg.toList.head? == some '-' && arg != "-" && arg != "--" then
            (spread environment fuel rest).map (arg :: ·)
          else .ok (arg :: rest)

def envRequest (frame : Frame) : Except Refusal EnvRequest := do
  let args ← spread frame.environment 100 frame.args
  let args := if args.head? == some "-" then "-i" :: args.drop 1 else args
  let options ← leading args "i0vu:C:"
    [("ignore-environment", 'i'), ("null", '0'), ("unset=", 'u'), ("chdir=", 'C'), ("debug", 'v'),
      ("split-string=", 'S'), ("ignore-signal=?", 'I'), ("default-signal=?", 'D'), ("block-signal=?", 'B')]
  let operands := if options.operands.head? == some "-" then options.operands.drop 1 else options.operands
  let clears := options.has 'i' || options.operands.head? == some "-"
  let unset := options.values 'u'
  match unset.find? fun name => name.isEmpty || name.toList.contains '=' with
  | some name => throw (.other ("cannot unset " ++ quote name ++ ": Invalid argument"))
  | none => pure ()
  let kept := (if clears then [] else frame.environment).filter fun entry => !unset.contains entry.1
  let (environment, command) := assignments kept operands
  if options.has '0' && !command.isEmpty then
    throw (.misuse "cannot specify --null (-0) with command")
  if (options.value? 'C').isSome && command.isEmpty then
    throw (.misuse "must specify command with --chdir (-C)")
  return ⟨environment, options.value? 'C', if options.has '0' then "\x00" else "\n", command⟩

/-- What `nice` is to run, if anything. Who gets the processor first makes no difference here. -/
def niceCommand (args : List String) : Except Refusal (List String) := do
  let args := match args with
    | first :: rest =>
        match first.toList with
        | '-' :: digits =>
            if (natural? (String.ofList digits)).isSome then "-n" :: String.ofList digits :: rest else args
        | _ => args
    | [] => []
  let options ← leading args "n:" [("adjustment=", 'n')]
  match options.value? 'n' with
  | none => return options.operands
  | some n =>
      if (integer? n).isNone then throw (.other ("invalid adjustment " ++ cited n))
      else if options.operands.isEmpty then
        throw (.misuse "a command must be given with an adjustment")
      else return options.operands

structure SessionRequest where
  command : List String
  forks : Bool
  waits : Bool

def sessionRequest (args : List String) : Except Refusal SessionRequest := do
  let options ← leading args "cfw" [("fork", 'f'), ("wait", 'w'), ("ctty", 'c')]
  if options.operands.isEmpty then throw (.misuse "no command specified")
  else return ⟨options.operands, options.has 'f', options.has 'w'⟩

def nohupCommand (args : List String) : Except Refusal (List String) := do
  let options ← leading args "" []
  if options.operands.isEmpty then throw (.misuse "missing operand")
  else return options.operands

/-- What `flock` is asked for: a command to be run while a file is locked, or a lock on what a descriptor
stands for. Nobody else holds a lock here. -/
inductive LockRequest
  | whileLocked (path : String) (command : List String)
  | descriptor (number : Nat)

def lockRequest (frame : Frame) : Except Refusal LockRequest := do
  let options ← leading frame.args "sexnoFuw:E:"
    [("shared", 's'), ("exclusive", 'x'), ("unlock", 'u'), ("nonblocking", 'n'), ("nb", 'n'), ("nonblock", 'n'),
      ("timeout=", 'w'), ("wait=", 'w'), ("conflict-exit-code=", 'E'), ("close", 'o'), ("no-fork", 'F')]
  match options.value? 'w' with
  | some text =>
      if (duration? text).isNone then throw (.other ("invalid timeout value: '" ++ text ++ "'"))
  | none => pure ()
  match options.operands with
  | [] => throw (.misuse "not enough arguments")
  | [text] =>
      match natural? text with
      | some n => return .descriptor n
      | none => throw (.other ("bad file descriptor: '" ++ text ++ "'"))
  | path :: "-c" :: rest => shellCommand path "-c" rest
  | path :: "--command" :: rest => shellCommand path "--command" rest
  | path :: command => return .whileLocked path command
where
  shellCommand (path option : String) : List String → Except Refusal LockRequest
    | [text] =>
        let shell := ((frame.environment.find? fun entry => entry.1 == "SHELL").map Prod.snd).getD "/bin/sh"
        .ok (.whileLocked path [shell, "-c", text])
    | _ => .error (.other (option ++ " requires exactly one command argument"))

def lockedFile (frame : Frame) (path : String) : Work (Option SystemError) := do
  match ← Work.openRoute frame.pid frame.cwd ⟨path⟩ .appending with
  | .ok descriptor =>
      Work.close frame.pid descriptor
      return none
  | .error e => return if e = .isADirectory then none else some e

/-- The environment and the command that `stdbuf` starts. How much is written at once makes no difference
here. -/
def bufferedRequest (frame : Frame) : Except Refusal (List (String × String) × List String) := do
  let options ← leading frame.args "i:o:e:" [("input=", 'i'), ("output=", 'o'), ("error=", 'e')]
  for (letter, mode) in options.given do
    if letter == 'i' && mode == "L" then throw (.misuse "line buffering stdin is meaningless")
    if mode != "L" && (Amount.parse? mode).isNone then throw (.other ("invalid mode " ++ cited mode))
  if options.operands.isEmpty then throw (.misuse "missing operand")
  if options.given.isEmpty then throw (.misuse "you must specify a buffering mode option")
  let modes := [('i', "_STDBUF_I"), ('o', "_STDBUF_O"), ('e', "_STDBUF_E")].filterMap fun (letter, name) =>
    (options.value? letter).map fun mode =>
      (name, if mode == "L" then mode else toString ((Amount.parse? mode).getD 0))
  let environment := (modes ++ [("LD_PRELOAD", "/usr/libexec/coreutils/libstdbuf.so")]).foldl
    (fun environment (name, value) => setVariable name value environment) frame.environment
  return (environment, options.operands)

structure TimedRequest where
  micros : Nat
  signal : Nat
  /-- After how long it is killed, when it has not ended by then. -/
  killAfter : Option Nat
  keepsCode : Bool
  foreground : Bool
  verbose : Bool
  command : List String

def timedRequest (args : List String) : Except Refusal TimedRequest := do
  let options ← leading args "k:s:vfp"
    [("kill-after=", 'k'), ("signal=", 's'), ("verbose", 'v'), ("foreground", 'f'), ("preserve-status", 'p')]
  let killAfter ← match options.value? 'k' with
    | none => pure none
    | some text =>
        match duration? text with
        | some micros => pure (some micros)
        | none => throw (.misuse ("invalid time interval " ++ cited text))
  let name := (options.value? 's').getD "TERM"
  let signal ← match signal? name with
    | some signal => pure signal
    | none => throw (.misuse (quote name ++ ": invalid signal"))
  match options.operands with
  | [] => throw (.misuse "")
  | [_] => throw (.misuse "")
  | text :: command =>
      match duration? text with
      | some micros =>
          return ⟨micros, signal, killAfter, options.has 'p', options.has 'f', options.has 'v', command⟩
      | none => throw (.misuse ("invalid time interval " ++ cited text))

def problem (starter name : String) : String :=
  match starter with
  | "nohup" => "failed to run command " ++ quote name
  | "timeout" => "failed to run command " ++ quote name
  | "stdbuf" => "failed to run command " ++ quote name
  | "setsid" => "failed to execute " ++ name
  | "flock" => "failed to execute " ++ name
  | "xargs" => name
  | _ => quote name

def refuse (frame : Frame) : Refusal → Work Ending
  | .misuse problem => frame.misused problem
  | .other problem => do
      frame.complain problem
      return .exited frame.misuseCode

def search (environment : List (String × String)) : String :=
  ((environment.find? fun v => v.1 == "PATH").map Prod.snd).getD Image.usualSearch

def image (frame : Frame) : Work (Except SystemError Image) := do
  let tree ← frame.view
  return Image.find tree frame.cwd (some "/bin/sh") (search frame.environment) (frame.args.headD "")
    frame.args

def fail (frame : Frame) (e : SystemError) : Work Ending := do
  match frame.args with
  | [] => frame.misused "missing operand"
  | name :: _ =>
      frame.complain (problem frame.program name ++ ": " ++ describe e)
      let isBlank (c : Char) : Bool := [' ', '\t', '\n', '\x0b', '\x0c', '\r'].contains c
      if frame.program == "env" && e = .noSuchFile && name.toList.any isBlank then
        frame.complain "use -[v]S to pass options in shebang lines"
      return .exited (if frame.program == "flock" then 69 else if e = .noSuchFile then 127 else 126)

def directoryOf (frame : Frame) : Option String → Work (Except Refusal Location)
  | none => return .ok frame.cwd
  | some path => do
      let refused (e : SystemError) : Except Refusal Location :=
        .error (.other ("cannot change directory to " ++ quote path ++ ": " ++ describe e))
      match (← frame.view).stat frame.cwd ⟨path⟩ with
      | .error e => return refused e
      | .ok (location, node) =>
          return if node.isDirectory then .ok location else refused .notADirectory

/-- Sends a signal to a program whose time is over, and to whatever it has started. A signal that can be
withstood does not hit the one who sends it. -/
def endTimed (frame : Frame) (request : TimedRequest) (child : Pid) (signal : Nat) : Work Unit := do
  if request.verbose then
    frame.complain ("sending signal " ++
      ((Signal.named.find? fun entry => entry.2 == signal).map Prod.fst).getD (toString signal) ++
      " to command " ++ quote (request.command.headD ""))
  let send (signal : Nat) : Work Unit :=
    Work.modify fun world =>
      let group := (world.group? frame.pid).getD frame.pid
      world.signalWhere signal fun pid entry =>
        pid == child ||
          (!request.foreground && entry.group == group && (pid != frame.pid || signal == Signal.kill))
  send signal
  if signal ≠ Signal.kill ∧ signal ≠ Signal.resume then send Signal.resume

def timedEnding (request : TimedRequest) : Ending → Ending
  | .killed signal =>
      .exited (if signal = Signal.kill ∨ request.keepsCode then 128 + signal else 124)
  | .exited code => .exited (if request.keepsCode then code else 124)

end LifecycleHooks.Tool.Starting
