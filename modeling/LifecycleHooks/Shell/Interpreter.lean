import LifecycleHooks.Shell.Arithmetic
import LifecycleHooks.Shell.Builtin.Directory
import LifecycleHooks.Shell.Descriptors
import LifecycleHooks.Shell.Meaning
import LifecycleHooks.Shell.Parameters
import LifecycleHooks.Shell.Startup
import LifecycleHooks.Tool.Batches
import LifecycleHooks.Tool.Directory
import LifecycleHooks.Tool.Finding
import LifecycleHooks.Tool.Records
import LifecycleHooks.Tool.Starting

/-!
Running commands. Every call that goes deeper and every turn of a loop uses up one unit of fuel; a
program that has none left waits forever.
-/

namespace LifecycleHooks.Shell.Interpreter

open Process Descriptors Parameters Startup Tool

/-- How long it takes to run a command that starts no program, in microseconds. -/
def commandCost : Nat := 10

def startCost : Nat := 600

def checkFailure : Run Unit := do
  let state ← get
  if state.options.has .stopOnFailure && !state.tested && state.status != 0 then throw .exitShell

def inLoop (body : Run Unit) : Run Bool := do
  modify fun state => { state with loops := state.loops + 1 }
  let left ← try
      body
      pure none
    catch flow => pure (some flow)
  modify fun state => { state with loops := state.loops - 1 }
  match left with
  | none => return true
  | some (.breakLoop n) => if n ≤ 1 then return false else throw (.breakLoop (n - 1))
  | some (.continueLoop n) => if n ≤ 1 then return true else throw (.continueLoop (n - 1))
  | some flow => throw flow

/-- Does something and afterwards something else, whether or not the first was left early. -/
def andAfter (body after : Run Unit) : Run Unit := do
  let left ← try
      body
      pure none
    catch flow => pure (some flow)
  after
  match left with
  | none => pure ()
  | some flow => throw flow

def inside (body : Run Unit) : Run Unit := do
  let before := (← get).final
  modify fun state => { state with final := false }
  andAfter body (modify fun state => { state with final := before })

def tested (body : Run Unit) : Run Unit := do
  let before := (← get).tested
  modify fun state => { state with tested := true }
  andAfter (inside body) (modify fun state => { state with tested := before })

/-- What a shell keeps in a process that it has started. Signals that do nothing still do nothing
there, and all others have their usual effect. -/
def inherited (state : State) (pid : Pid) : State :=
  { state with
    pid := pid, traps := state.traps.filter fun trap => trap.2.isEmpty, jobs := [], loops := 0
    final := true }

def fork (change : Channels → Channels) (child : State → Work Ending) : Run Pid := do
  let state ← get
  let start (pid : Pid) : Work Ending := do
    Work.sleep startCost
    child (inherited state pid)
  (Work.fork change start : Work Pid)

/-- Takes the place of the shell, if that is what it ends with; what it would do at its end and at
signals is lost. -/
def become (work : Work Ending) : Run Unit := do
  let pid := (← get).pid
  let whole : Work Unit := do
    Work.modify fun world => world.changeEntry pid fun entry =>
      { entry with
        channels := withoutPrivate entry.channels, caught := [], pending := [] }
    let ending ← work
    Work.stop ending
  whole

def backgroundDeaf : List Nat := [Signal.interrupt, Signal.quit]

def deafen (pid : Pid) (signals : List Nat) : Work Unit :=
  Work.modify fun world => world.changeEntry pid fun entry =>
    { entry with ignored := entry.ignored ++ signals }

def waitFor? (pid : Pid) (micros : Option Nat) : Work Bool := do
  match micros with
  | none =>
      let _ ← Work.wait pid
      return true
  | some micros =>
      let timer ← Work.fork (fun _ => []) fun _ => do
        Work.sleep micros
        return .exited 0
      Work.await fun world => world.hasEnded pid || world.hasEnded timer
      Work.look fun world => world.hasEnded pid

def commandsIn (pid : Pid) (cwd : Location) (path : Route) : Work (Except SystemError String) := do
  match ← Work.openRoute pid cwd path .reading with
  | .error e => return .error e
  | .ok descriptor =>
      let found ← Work.readAll pid descriptor
      Work.close pid descriptor
      match found with
      | .ok bytes => return .ok (commandText bytes)
      | .error _ => return .ok ""
where
  /-- Bytes of zero are left out. -/
  commandText (bytes : Text.Bytes) : String := Text.ofOctets (bytes.filter (· != 0))

def assignAll (given : List (String × String)) (exported : Bool) : Run Unit := do
  for (name, value) in given do
    if exported then exportVariable name (some value) else assign name value

def restore (old : State) (names : List String) (state : State) : State :=
  names.foldl (fun state name =>
    match old.find? name with
    | some v => state.put v
    | none => state.remove name) state

def calculate (text : String) : Run String := do
  let state ← get
  match Arithmetic.evaluate state.value? text with
  | .ok (value, assigned) =>
      for (name, value) in assigned.reverse do assign name value
      return toString value
  | .error problem => abort (problem.message text)

def trace (given : List (String × String)) (words : List String) : Run Unit := do
  let state ← get
  if state.options.has .trace then
    let shown := given.map (fun entry => entry.1 ++ "=" ++ entry.2) ++ words
    (Work.writeText state.pid 2 ((state.value? "PS4").getD "" ++ " ".intercalate shown ++ "\n") :
      Work Unit)

def isKept (tree : FileTree) (cwd : Location) (path : Route) : Bool :=
  match tree.stat cwd path, tree.statSelf cwd path with
  | .ok (_, node), _ => (node.content matches .file _)
  | .error _, .ok _ => true
  | _, _ => false

mutual

/-- What parts of a word expand to; `breaks` says whether their plain text may be split. -/
def items : Nat → Bool → Word → Run (List Item)
  | 0, _, _ => (Work.hang : Work (List Item))
  | _ + 1, _, [] => pure []
  | fuel + 1, breaks, part :: rest => do
      let first ← partItems fuel breaks part
      let others ← items fuel breaks rest
      return first ++ others

def partItems : Nat → Bool → Part → Run (List Item)
  | 0, _, _ => (Work.hang : Work (List Item))
  | fuel + 1, breaks, part => do
      match part with
      | .plain text =>
          return if breaks then Item.ofLoose text else Item.ofText false text
      | .quoted text => return .present :: Item.ofText true text
      | .parameter name none _ quoted =>
          let state ← get
          let values := valuesOf state name
          match values with
          | .unset =>
              if state.options.has .refuseUnset && name != "@" && name != "*" then
                abort (name ++ ": parameter not set")
              else return valueItems state name quoted values
          | _ => return valueItems state name quoted values
      | .parameter name (some (treatment, colon)) word quoted =>
          treated fuel name treatment colon word quoted
      | .length name quoted =>
          let state ← get
          match valuesOf state name with
          | .unset =>
              if state.options.has .refuseUnset then abort (name ++ ": parameter not set")
              else return textItems quoted "0"
          | values => return textItems quoted (toString (joined state values).length)
      | .substitution body quoted =>
          let text ← substitute fuel body
          return textItems quoted text
      | .arithmetic parts quoted =>
          let inner ← items fuel false parts
          let value ← calculate (textOf (Fields.join inner))
          return textItems quoted value

def treated : Nat → String → Treatment → Bool → Word → Bool → Run (List Item)
  | 0, _, _, _, _, _ => (Work.hang : Work (List Item))
  | fuel + 1, name, treatment, colon, word, quoted => do
      let state ← get
      let values := valuesOf state name
      let missing := isMissing colon values
      let other : Run (List Item) := do
        let found ← items fuel (!quoted) (expandTilde state word)
        return if quoted then .present :: found else found
      match treatment with
      | .useDefault => if missing then other else return valueItems state name quoted values
      | .unknown => abort "Bad substitution"
      | .useAlternative =>
          if missing then return (if quoted then [.present] else []) else other
      | .assignDefault =>
          if missing then
            if Builtin.isName name then
              let text := textOf (Fields.join (← items fuel false (expandTilde state word)))
              assign name text
              return textItems quoted text
            else abort (name ++ ": bad variable name")
          else return valueItems state name quoted values
      | .complain =>
          if missing then
            let text := textOf (Fields.join (← items fuel false word))
            abort (name ++ ": " ++
              (if word.isEmpty then "parameter not set" ++ (if colon then " or null" else "")
                else text))
          else return valueItems state name quoted values
      | _ =>
          if state.options.has .refuseUnset && missing then abort (name ++ ": parameter not set")
          let pattern := Fields.join (← items fuel false word)
          let text := (joined state values).toList
          let rest := match treatment with
            | .cutShortestEnd => Pattern.cutEnd false pattern text
            | .cutLongestEnd => Pattern.cutEnd true pattern text
            | .cutShortestStart => Pattern.cutStart false pattern text
            | _ => Pattern.cutStart true pattern text
          return textItems quoted (String.ofList rest)

def substitute : Nat → Command → Run String
  | 0, _ => (Work.hang : Work String)
  | fuel + 1, body => do
      let pipe ← openPipe []
      let child ← fork (fun channels => setChannel 1 (.writer pipe) (dropChannel (pipeHold pipe) channels))
        fun state => subshell fuel (run fuel body) { state with tested := false }
      (Work.await fun world => world.isComplete pipe : Work Unit)
      let bytes ← (Work.look fun world => world.pipeContent pipe : Work Text.Bytes)
      releasePipe pipe
      let status ← waitFor child
      modify fun state => { state with status := status, substituted := some status }
      return withoutFinalLines (Text.ofOctets (bytes.filter (· != 0)))

def subshell : Nat → Run Unit → State → Work Ending
  | 0, _, _ => Work.hang
  | fuel + 1, body, state => do
      let (_, state) ← body.run.run state
      closing fuel state

def closing : Nat → State → Work Ending
  | 0, _ => Work.hang
  | fuel + 1, state => do
      match state.traps.find? fun t => t.1 == 0 with
      | none => return .exited state.status
      | some (_, action) =>
          let state :=
            { state with
              traps := state.traps.filter (fun t => t.1 != 0), statusBefore := some state.status
              final := false }
          let (left, after) ← (program fuel "" (.ofText action 1)).run.run state
          match left with
          | .error .exitShell => return .exited after.status
          | _ => return .exited state.status

def fields : Nat → Word → Run (List String)
  | 0, _ => (Work.hang : Work (List String))
  | fuel + 1, word => do
      let found ← items fuel false (expandTilde (← get) word)
      let state ← get
      let split := Fields.split state.separators found
      if state.options.has .keepPatterns then return split.map textOf
      else
        let tree ← (Work.view state.pid : Work FileTree)
        return split.flatMap (Pattern.paths tree state.cwd)

def allFields : Nat → List Word → Run (List String)
  | 0, _ => (Work.hang : Work (List String))
  | _ + 1, [] => pure []
  | fuel + 1, word :: words => do
      let first ← fields fuel word
      let others ← allFields fuel words
      return first ++ others

def oneText : Nat → Word → Run String
  | 0, _ => (Work.hang : Work String)
  | fuel + 1, word => do
      let found ← items fuel false (expandTilde (← get) word)
      return textOf (Fields.join found)

def allTexts : Nat → List (String × Word) → Run (List (String × String))
  | 0, _ => (Work.hang : Work (List (String × String)))
  | _ + 1, [] => pure []
  | fuel + 1, (name, word) :: rest => do
      let text ← oneText fuel word
      let others ← allTexts fuel rest
      return (name, text) :: others

def redirectAll : Nat → Bool → List Redirect → Run Bool
  | 0, _, _ => (Work.hang : Work Bool)
  | _ + 1, _, [] => pure true
  | fuel + 1, keep, .mk descriptor direction word :: rest => do
      if keep then
        let current ← channels
        match current.find? fun p => p.1 == descriptor with
        | some (_, channel) =>
            setChannels (setChannel (firstPrivate + descriptor + 20 * rest.length) channel current)
        | none => pure ()
      if direction = .document then
        let found ← items fuel false word
        let pipe ← openPipe (Text.octets (textOf (Fields.join found)))
        setDescriptor descriptor (some (.reader pipe))
        releasePipe pipe
        redirectAll fuel keep rest
      else
        let text ← oneText fuel word
        if direction = .duplicate then
          if text == "-" then
            setDescriptor descriptor none
            redirectAll fuel keep rest
          else
            match if text.length = 1 then Tool.natural? text else none with
            | none =>
                modify fun state => { state with line := state.readLine }
                abort "Syntax error: Bad fd number"
            | some n =>
                match (← channels).find? fun p => p.1 == n with
                | some (_, channel) =>
                    setDescriptor descriptor (some channel)
                    redirectAll fuel keep rest
                | none =>
                    complain (text ++ ": Bad file descriptor")
                    return false
        else
          let state ← get
          let access : Access := match direction with
            | .input => .reading
            | .append => .appending
            | .both => .both
            | _ => .writing
          let tree ← (Work.view state.pid : Work FileTree)
          let isGuarded := direction = .output && state.options.has .keepFiles &&
            isKept tree state.cwd ⟨text⟩
          match ← if isGuarded then pure (some .fileExists) else openAs descriptor ⟨text⟩ access with
          | none => redirectAll fuel keep rest
          | some e =>
              complain (openComplaint text (direction != .input) e)
              return false

def redirected : Nat → List Redirect → Run Unit → Run Unit
  | 0, _, _ => (Work.hang : Work Unit)
  | fuel + 1, redirections, body => do
      if redirections.isEmpty then body
      else
        let before ← channels
        let whole : Run Unit := do
          if ← redirectAll fuel true redirections then body else setStatus 2
        andAfter whole (setChannels before)

def execute : Nat → Process.Image → Frame → Work Ending
  | 0, _, _ => Work.hang
  | fuel + 1, image, frame =>
      let args := image.args.drop 1
      let frame := { frame with name := image.args.headD image.program, args := args }
      match image.program with
      | "env" => executeEnv fuel frame
      | "xargs" => executeBatches fuel frame
      | "timeout" => executeTimed fuel frame
      | "find" =>
          Finding.find frame fun cwd command => do
            let child ← Work.fork (fun channels => channels) fun pid => do
              Work.sleep startCost
              executeArgs fuel { frame with pid := pid, cwd := cwd, args := command }
            Work.wait child
      | "setsid" =>
          match Starting.sessionRequest frame.args with
          | .error refusal => Starting.refuse frame refusal
          | .ok request => do
              let apart (pid : Pid) : Work Ending := do
                Work.modify fun world => world.leaveGroup pid
                executeArgs fuel { frame with pid := pid, args := request.command }
              -- The first process of a group cannot leave it.
              let isFirst := (← Work.look fun world => world.group? frame.pid) == some frame.pid
              if isFirst || request.forks then
                let child ← Work.fork (fun channels => channels) apart
                if request.waits then Work.wait child else return Tool.ok
              else apart frame.pid
      | "nohup" =>
          match Starting.nohupCommand frame.args with
          | .error refusal => Starting.refuse frame refusal
          | .ok command => do
              deafen frame.pid [Signal.hangup]
              executeArgs fuel { frame with args := command }
      | "nice" =>
          match Starting.niceCommand frame.args with
          | .error refusal => Starting.refuse frame refusal
          | .ok [] => do
              frame.say "0\n"
              return Tool.ok
          | .ok command => executeArgs fuel { frame with args := command }
      | "stdbuf" =>
          match Starting.bufferedRequest frame with
          | .error refusal => Starting.refuse frame refusal
          | .ok (environment, command) =>
              executeArgs fuel { frame with args := command, environment := environment }
      | "flock" =>
          match Starting.lockRequest frame with
          | .error refusal => Starting.refuse frame refusal
          | .ok (.descriptor number) => do
              if (← Work.look fun world => world.channel? frame.pid number).isSome then return Tool.ok
              else
                frame.complain (toString number ++ ": Bad file descriptor")
                return .exited 65
          | .ok (.whileLocked path command) => do
              match ← Starting.lockedFile frame path with
              | some e =>
                  frame.complain ("cannot open lock file " ++ path ++ ": " ++ Tool.describe e)
                  return .exited 66
              | none =>
                  let child ← Work.fork (fun channels => channels) fun pid => do
                    Work.sleep startCost
                    executeArgs fuel { frame with pid := pid, args := command }
                  match ← Work.wait child with
                  | .exited code => return .exited code
                  | .killed signal => return .exited (128 + signal)
      | "awk" =>
          Records.awk { frame with name := frame.program } fun channels name command => do
            Work.fork channels fun pid => do
              Work.sleep startCost
              execute fuel ⟨"sh", [name, "-c", command]⟩ { frame with pid := pid }
      | name =>
          if ["sh", "dash", "bash"].contains name then shell fuel frame
          else
            match Tool.find? name with
            | some run => run frame
            | none => pure (.exited 127)

def executeArgs : Nat → Frame → Work Ending
  | 0, _ => Work.hang
  | fuel + 1, frame => do
      match ← Starting.image frame with
      | .ok image => execute fuel image frame
      | .error e => Starting.fail frame e

def executeEnv : Nat → Frame → Work Ending
  | 0, _ => Work.hang
  | fuel + 1, frame => do
      match Starting.envRequest frame with
      | .error refusal => Starting.refuse frame refusal
      | .ok request =>
          if request.command.isEmpty then
            for entry in request.environment do frame.say (entry.1 ++ "=" ++ entry.2 ++ request.lineEnd)
            return Tool.ok
          else
            match ← Starting.directoryOf frame request.directory with
            | .ok cwd =>
                executeArgs fuel
                  { frame with args := request.command, environment := request.environment, cwd := cwd }
            | .error refusal => Starting.refuse frame refusal

def executeTimed : Nat → Frame → Work Ending
  | 0, _ => Work.hang
  | fuel + 1, frame => do
      match Starting.timedRequest frame.args with
      | .error refusal => Starting.refuse frame refusal
      | .ok request =>
          if !request.foreground then Work.modify fun world => world.leaveGroup frame.pid
          let child ← Work.fork (fun channels => channels) fun pid => do
            Work.sleep startCost
            executeArgs fuel { frame with pid := pid, args := request.command }
          if ← waitFor? child (if request.micros = 0 then none else some request.micros) then
            Work.look fun world => (world.ending? child).getD Tool.ok
          else
            Starting.endTimed frame request child request.signal
            match request.killAfter with
            | none => pure ()
            | some micros =>
                if !(← waitFor? child (if micros = 0 then none else some micros)) then
                  Starting.endTimed frame request child Signal.kill
            return Starting.timedEnding request (← Work.wait child)

def executeBatches : Nat → Frame → Work Ending
  | 0, _ => Work.hang
  | fuel + 1, frame => do
      match Tool.Batches.readPlan frame.args with
      | .error problem => frame.misused problem
      | .ok plan =>
          let input := plan.source.getD "-"
          match ← Tool.source frame input with
          | .error e => Starting.refuse frame (.other (Batches.unread input e))
          | .ok bytes =>
              match plan.commands bytes with
              | .ok commands => executeEach fuel plan frame 0 commands
              | .error quote => Starting.refuse frame (.other (Batches.unmatched quote))

/-- Runs one program after the other; `code` tells of failures so far. -/
def executeEach : Nat → Batches.Plan → Frame → Nat → List (List String) → Work Ending
  | 0, _, _, _, _ => Work.hang
  | _ + 1, _, _, code, [] => return .exited code
  | fuel + 1, plan, frame, code, command :: commands => do
      if plan.traces then Work.writeText frame.pid 2 (" ".intercalate command ++ "\n")
      match ← Starting.image { frame with args := command } with
      | .error e => Starting.fail { frame with args := command } e
      | .ok image =>
          let enter (channels : Channels) : Channels :=
            if plan.source.isNone then setChannel 0 (.device .sink) channels else channels
          let child ← Work.fork enter fun pid => do
            Work.sleep startCost
            execute fuel image { frame with pid := pid, args := command }
          match Batches.failure (command.headD "") (← Work.wait child) with
          | none => executeEach fuel plan frame code commands
          | some (none, code) => executeEach fuel plan frame code commands
          | some (some text, code) =>
              frame.complain text
              return .exited code

def shell : Nat → Frame → Work Ending
  | 0, _ => Work.hang
  | fuel + 1, frame => do
      let reading := Options.read true frame.args ⟨Options.none, false, "", none, none⟩
      if !reading.shown.isEmpty then Work.writeText frame.pid 1 reading.shown
      let report (text : String) : Work Unit :=
        Work.writeText frame.pid 2 (frame.name ++ ": 0: " ++ text ++ "\n")
      let parent := (← Work.look fun world => world.parent? frame.pid).getD 1
      let options := reading.options.put .jobControl false
      let tree ← frame.view
      let deaf := (← Work.look fun world => (world.entry? frame.pid).map Entry.ignored).getD []
      let start (name : String) (args : List String) : State :=
        newState tree frame.pid parent deaf frame.cwd frame.environment name args options
      let whole (state : State) (text : String) (fromFile : Bool) : Work Ending := do
        let all : Run Unit := do
          program fuel "" (.ofText text 1)
          if !fromFile && (← get).options.has .fromInput then
            match ← (Work.readAll frame.pid 0 : Work (Except SystemError Text.Bytes)) with
            | .ok bytes => program fuel "" (.ofText (commandsIn.commandText bytes) 1)
            | .error _ => pure ()
        subshell fuel all state
      match reading.unknown with
      | some text =>
          report ("Illegal option " ++ text)
          return .exited 2
      | none =>
          if reading.options.has .jobControl then report Builtin.noTerminal
          match reading.rest.getD [] with
          | [] =>
              if reading.givenProgram then
                report "-c requires an argument"
                return .exited 2
              else
                whole { start frame.name [] with options := options.put .fromInput true } "" false
          | first :: args =>
              if reading.givenProgram then
                let (name, args) := match args with
                  | [] => (frame.name, [])
                  | name :: args => (name, args)
                whole (start name args) first false
              else if options.has .fromInput then whole (start frame.name (first :: args)) "" false
              else
                match ← commandsIn frame.pid frame.cwd ⟨first⟩ with
                | .ok text => whole (start first args) text true
                | .error e =>
                    report (openComplaint first false e)
                    return .exited 2

def runFile : Nat → List (String × String) → List String → Run Unit
  | 0, _, _ => (Work.hang : Work Unit)
  | _ + 1, _, [] => pure ()
  | fuel + 1, given, name :: args => do
      let state ← get
      let inner := given.foldl (fun state entry =>
        (state.setValue entry.1 entry.2).put ⟨entry.1, some entry.2, true, false⟩) state
      let tree ← (Work.view state.pid : Work FileTree)
      match Builtin.image inner tree name (name :: args) with
      | .error e =>
          let (text, status) :=
            if name.isEmpty then (": Permission denied", 127) else startComplaint name e
          complain text
          setStatus status
      | .ok image =>
          match Builtin.pathOf? inner tree name with
          | some path => Builtin.remember name path
          | none => pure ()
          let frame (pid : Pid) : Frame := ⟨pid, state.cwd, inner.environment, name, args⟩
          if state.final && !state.traps.any fun trap => !trap.2.isEmpty then
            become (execute fuel image (frame state.pid))
          else
            let child ← fork withoutPrivate fun state => execute fuel image (frame state.pid)
            setStatus (← waitFor child)

def replace : Nat → List String → Run Unit
  | 0, _ => (Work.hang : Work Unit)
  | _ + 1, [] => setStatus 0
  | fuel + 1, name :: args => do
      let state ← get
      let tree ← (Work.view state.pid : Work FileTree)
      match Builtin.image state tree name (name :: args) with
      | .ok image =>
          become do
            Work.sleep startCost
            execute fuel image ⟨state.pid, state.cwd, state.environment, name, args⟩
      | .error e =>
          let (text, status) := startComplaint name e
          complain text
          setStatus status
          throw .exitShell

def source : Nat → List String → Run Unit
  | 0, _ => (Work.hang : Work Unit)
  | _ + 1, [] => setStatus 0
  | fuel + 1, name :: _ => do
      let state ← get
      let tree ← (Work.view state.pid : Work FileTree)
      let isThere (path : Route) : Bool :=
        match tree.stat state.cwd path with
        | .ok (_, node) => name.toList.contains '/' || (node.content matches .file _)
        | .error _ => false
      match (Builtin.candidates state name).find? isThere with
      | none =>
          if name.toList.contains '/' then abort ("cannot open " ++ name ++ ": No such file")
          else abort (name ++ ": not found")
      | some path =>
          match ← (commandsIn state.pid state.cwd path : Work (Except SystemError String)) with
          | .error e => abort (openComplaint name false e)
          | .ok text =>
              modify fun state => { state with builtin := some name, status := 0 }
              let whole : Run Unit :=
                try program fuel (name ++ ": ") (.ofText text 1)
                catch flow =>
                  match flow with
                  | .returnCall => pure ()
                  | _ => throw flow
              inside whole

def runRunner : Nat → String → List String → Run Unit
  | 0, _, _ => (Work.hang : Work Unit)
  | fuel + 1, name, args => do
      match name with
      | "eval" =>
          setStatus 0
          inside (program fuel "eval: " (.ofText (" ".intercalate args) 1))
      | "." => source fuel args
      | "exec" => replace fuel args
      | "type" => describeNames true args
      | _ =>
          let outer := (← get).builtin
          modify fun state => { state with builtin := some name }
          let (found, names) ← Builtin.options "pvV" args
          modify fun state => { state with builtin := outer }
          let verbose := found.any fun entry => entry.1 == 'V'
          if verbose || found.any fun entry => entry.1 == 'v' then
            describeNames verbose (names.take 1)
          else plainCommand fuel names

def plainCommand : Nat → List String → Run Unit
  | 0, _ => (Work.hang : Work Unit)
  | _ + 1, [] => setStatus 0
  | fuel + 1, name :: args => do
      if Builtin.isBuiltin name then runBuiltin fuel false name args
      else runFile fuel [] (name :: args)

/-- Runs a command of the shell. A complaint ends the shell if the command is a special one. -/
def runBuiltin : Nat → Bool → String → List String → Run Unit
  | 0, _, _, _ => (Work.hang : Work Unit)
  | fuel + 1, special, name, args => do
      let outer := (← get).builtin
      if name != "command" then modify fun state => { state with builtin := some name }
      let body : Run Unit :=
        match Builtin.find? name with
        | some run => run args
        | none => runRunner fuel name args
      let guarded : Run Unit :=
        if special then body
        else
          try body
          catch flow =>
            match flow with
            | .abort => pure ()
            | _ => throw flow
      andAfter guarded (modify fun state => { state with builtin := outer })

def answerSignals : Nat → Run Unit
  | 0 => (Work.hang : Work Unit)
  | fuel + 1 => do
      let state ← get
      if state.caught.isEmpty then pure ()
      else
        let arrived ← (Work.look fun world => world.pending state.pid : Work (List Nat))
        answerEach fuel (state.traps.filter fun trap => arrived.contains trap.1)

/-- Runs traps one after the other; the status stays as it was. -/
def answerEach : Nat → List (Nat × String) → Run Unit
  | 0, _ => (Work.hang : Work Unit)
  | _ + 1, [] => pure ()
  | fuel + 1, (signal, action) :: rest => do
      let before ← get
      (Work.modify fun world => world.changeEntry before.pid fun entry =>
        { entry with pending := entry.pending.filter (· != signal) } : Work Unit)
      let status := before.statusBefore.getD before.status
      modify fun state =>
        { state with builtin := none, statusBefore := some status, tested := false, final := false }
      andAfter (program fuel "" (.ofText action 1)) <| modify fun state =>
        { state with
          builtin := before.builtin, statusBefore := before.statusBefore, tested := before.tested
          final := before.final }
      setStatus status
      answerEach fuel rest

def runFunction : Nat → Command → List String → Run Unit
  | 0, _, _ => (Work.hang : Work Unit)
  | fuel + 1, body, args => do
      let before ← get
      modify fun state => { state with args := args, hidden := [], inFunction := true, loops := 0 }
      let inner : Run Unit :=
        try run fuel body
        catch flow =>
          match flow with
          | .returnCall => pure ()
          | _ => throw flow
      andAfter (inside inner) do
        andAfter Builtin.unhide <| modify fun state =>
          { state with
            args := before.args, hidden := before.hidden, inFunction := before.inFunction
            loops := before.loops }

def runWords : Nat → List (String × String) → List String → Run Unit
  | 0, _, _ => (Work.hang : Work Unit)
  | _ + 1, _, [] => pure ()
  | fuel + 1, given, name :: args => do
      let before ← get
      let names := given.map Prod.fst
      let special := Reader.special.contains name
      let function? := if special then none else before.functions.find? fun f => f.1 == name
      match function? with
      | some (_, body) =>
          assignAll given true
          andAfter (runFunction fuel body args) (modify (restore before names))
      | none =>
          if Builtin.isBuiltin name then
            assignAll given false
            if special then runBuiltin fuel true name args
            else andAfter (runBuiltin fuel false name args) (modify (restore before names))
          else runFile fuel given (name :: args)

def runSimple : Nat → List (String × Word) → List Word → List Redirect → Run Unit
  | 0, _, _, _ => (Work.hang : Work Unit)
  | fuel + 1, assignments, words, redirections => do
      let found ← allFields fuel words
      match found with
      | [] =>
          let given ← allTexts fuel assignments
          trace given []
          redirected fuel redirections (setStatus 0)
          for (name, value) in given do assign name value
          let state ← get
          if redirections.isEmpty then setStatus (state.substituted.getD 0)
      | name :: _ =>
          if name == "exec" then
            let given ← allTexts fuel assignments
            trace given found
            assignAll given true
            if ← redirectAll fuel false redirections then runBuiltin fuel true "exec" (found.drop 1)
            else
              setStatus 2
              throw .abort
          else
            let special := Reader.special.contains name
            let before ← channels
            let whole : Run Unit := do
              if redirections.isEmpty || (← redirectAll fuel true redirections) then
                let given ← allTexts fuel assignments
                trace given found
                runWords fuel given found
              else
                setStatus 2
                if special then throw .abort
            if redirections.isEmpty then whole else andAfter whole (setChannels before)

def startPipeline : Nat → Option Nat → List Command → Run (List Pid)
  | 0, _, _ => (Work.hang : Work (List Pid))
  | _ + 1, _, [] => pure []
  | fuel + 1, input, command :: rest => do
      let enter (channels : Channels) : Channels :=
        match input with
        | some pipe => setChannel 0 (.reader pipe) (dropChannel (pipeHold pipe) channels)
        | none => channels
      match rest with
      | [] =>
          let child ← fork enter fun state => subshell fuel (run fuel command) state
          match input with
          | some pipe => releasePipe pipe
          | none => pure ()
          return [child]
      | _ =>
          let pipe ← openPipe []
          let child ← fork
            (fun channels => setChannel 1 (.writer pipe) (dropChannel (pipeHold pipe) (enter channels)))
            fun state => subshell fuel (run fuel command) state
          match input with
          | some pipe => releasePipe pipe
          | none => pure ()
          let others ← startPipeline fuel (some pipe) rest
          return child :: others

def forValues : Nat → String → List String → Command → Run Unit
  | 0, _, _, _ => (Work.hang : Work Unit)
  | _ + 1, _, [], _ => pure ()
  | fuel + 1, name, value :: rest, body => do
      assign name value
      if ← inLoop (run fuel body) then forValues fuel name rest body

def whileTrue : Nat → Bool → Command → Command → Nat → Run Unit
  | 0, _, _, _, _ => (Work.hang : Work Unit)
  | fuel + 1, untilTrue, condition, body, status => do
      let goesOn ← inLoop do
        tested (run fuel condition)
        if ((← get).status == 0) == untilTrue then
          setStatus status
          throw (.breakLoop 1)
        run fuel body
      if goesOn then whileTrue fuel untilTrue condition body (← get).status

def runBranches : Nat → String → List (List Word × Command) → Run Unit
  | 0, _, _ => (Work.hang : Work Unit)
  | _ + 1, _, [] => setStatus 0
  | fuel + 1, text, (patterns, body) :: rest => do
      if ← hitsAny fuel text patterns then
        setStatus 0
        run fuel body
      else runBranches fuel text rest

def hitsAny : Nat → String → List Word → Run Bool
  | 0, _, _ => (Work.hang : Work Bool)
  | _ + 1, _, [] => pure false
  | fuel + 1, text, word :: rest => do
      let pattern := Fields.join (← items fuel false (expandTilde (← get) word))
      if Pattern.hits pattern text.toList then return true else hitsAny fuel text rest

def run : Nat → Command → Run Unit
  | 0, _ => (Work.hang : Work Unit)
  | fuel + 1, command => do
      if (← get).options.has .checkOnly then pure ()
      else
      match command with
      | .nothing => pure ()
      | .simple line assignments words redirections =>
          (Work.sleep commandCost : Work Unit)
          modify fun state => { state with line := line, substituted := none }
          runSimple fuel assignments words redirections
          answerSignals fuel
          checkFailure
      | .located line command =>
          modify fun state => { state with line := line }
          run fuel command
      | .pipeline negated commands =>
          match commands with
          | [one] => tested (run fuel one)
          | _ =>
              let children ← startPipeline fuel none commands
              for child in children do setStatus (← waitFor child)
          answerSignals fuel
          if negated then
            modify fun state => { state with status := if state.status == 0 then 1 else 0 }
          else checkFailure
      | .both first second =>
          tested (run fuel first)
          if (← get).status == 0 then run fuel second
      | .either first second =>
          tested (run fuel first)
          if (← get).status != 0 then run fuel second
      | .sequence first second =>
          inside (run fuel first)
          run fuel second
      | .background body =>
          let child ← fork (setChannel 0 (.device .sink)) fun state => do
            deafen state.pid backgroundDeaf
            subshell fuel (run fuel body) { state with deaf := state.deaf ++ backgroundDeaf }
          modify fun state =>
            { state with status := 0, lastJob := some child, jobs := state.jobs ++ [child] }
      | .subshell body redirections =>
          let whole : Run Unit := do
            if ← redirectAll fuel false redirections then run fuel body else setStatus 2
          let state ← get
          if state.final && !state.traps.any fun trap => !trap.2.isEmpty then
            set (inherited state state.pid)
            whole
            throw .exitShell
          else
            let child ← fork (fun channels => channels) fun state => subshell fuel whole state
            setStatus (← waitFor child)
            answerSignals fuel
            checkFailure
      | .group body redirections =>
          if redirections.isEmpty then run fuel body
          else redirected fuel redirections (inside (run fuel body))
      | .branch condition body otherwise redirections =>
          let whole : Run Unit := do
            tested (run fuel condition)
            if (← get).status == 0 then run fuel body
            else
              setStatus 0
              run fuel otherwise
          if redirections.isEmpty then whole else redirected fuel redirections (inside whole)
      | .loop untilTrue condition body redirections =>
          redirected fuel redirections (inside (whileTrue fuel untilTrue condition body 0))
      | .forEach name words body redirections =>
          redirected fuel redirections do
            let values ← match words with
              | some words => allFields fuel words
              | none => pure (← get).args
            setStatus 0
            inside (forValues fuel name values body)
      | .select word branches redirections =>
          let whole : Run Unit := do
            let text ← oneText fuel word
            runBranches fuel text branches
          if redirections.isEmpty then whole else redirected fuel redirections (inside whole)
      | .define name body =>
          modify fun state =>
            { state with
              status := 0
              functions := (name, body) :: state.functions.filter fun f => f.1 != name }

/-- Runs a program line by line; what comes before a mistake is run. -/
def program : Nat → String → Reader.Input → Run Unit
  | 0, _, _ => (Work.hang : Work Unit)
  | fuel + 1, title, input => do
      match Reader.line { input with aliases := (← get).aliases } with
      | .error e =>
          let state ← get
          (Work.writeText state.pid 2
            (state.name ++ ": " ++ toString e.line ++ ": " ++ title ++ "Syntax error: " ++ e.problem ++
              "\n") : Work Unit)
          setStatus 2
          throw .abort
      | .ok (none, _) => pure ()
      | .ok (some command, rest) =>
          modify fun state => { state with readLine := rest.line }
          run fuel command
          program fuel title rest

end

/-- More than any program can use within the time that it is given. -/
def fuel : Nat := 1000000

end LifecycleHooks.Shell.Interpreter
