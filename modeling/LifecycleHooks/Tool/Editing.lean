import LifecycleHooks.Tool.Editing.Script
import LifecycleHooks.Tool.Search

/-!
Editing lines by a script. Every command of the script is tried on every line; those whose addresses
select the line change it, print it or leave it out.
-/

namespace LifecycleHooks.Tool.Editing

open Process Text

inductive Supply
  | input
  | given (lines : List (String × Bytes))

inductive Appendix
  | text (text : List Char)
  | file (path : String)

structure Session where
  frame : Frame
  commands : Array Command
  /-- Whether lines are not printed by themselves. -/
  quiet : Bool
  /-- How long shown lines are. -/
  width : Nat
  ending : UInt8
  /-- Whether no more is read than is needed. -/
  sparing : Bool
  /-- The descriptors of the files that are written to. -/
  targets : List (String × Nat)

structure State where
  supply : Supply
  /-- The next line, if it has been looked at. -/
  ahead : Option (Option (String × Bytes))
  name : String
  number : Nat
  space : List Char
  hold : List Char
  /-- Whether the line had an end. -/
  complete : Bool
  replaced : Bool
  /-- The commands whose ranges are open, with the number of the last line if it is known. -/
  ranges : List (Nat × Option Nat)
  /-- The expression that was used last. -/
  latest : Option Expression
  appended : List Appendix
  /-- Whether the last line that was put out lacks its end. -/
  lacksEnd : Bool
  /-- What was put out, last piece first, when it is kept. -/
  collected : Option (List Bytes)
  /-- The files from which single lines are taken, with what is left of them. -/
  readers : List (String × List Bytes)

def State.peek (session : Session) (state : State) : Work (Option (String × Bytes) × State) := do
  match state.ahead with
  | some line => return (line, state)
  | none =>
      match state.supply with
      | .given [] => return (none, { state with ahead := some none })
      | .given (line :: lines) =>
          return (some line, { state with ahead := some (some line), supply := .given lines })
      | .input =>
          let line : Option (String × Bytes) := match ← Work.readLine session.frame.pid 0 with
            | .ok (byte :: line) => some ("-", byte :: line)
            | _ => none
          return (line, { state with ahead := some line })

def Session.put (session : Session) (state : State) (bytes : Bytes) : Work State := do
  match state.collected with
  | some pieces => return { state with collected := some (bytes :: pieces) }
  | none =>
      session.frame.put bytes
      return state

def Session.putOut (session : Session) (state : State) (bytes : Bytes) : Work State := do
  let state ← if state.lacksEnd then session.put state [session.ending] else pure state
  session.put { state with lacksEnd := false } bytes

def Session.putText (session : Session) (state : State) (text : List Char) : Work State :=
  session.putOut state (Text.octets (String.ofList text) ++ [10])

/-- Puts out a text as the line that is being edited; without its end, if it had none. -/
def Session.putLine (session : Session) (state : State) (text : List Char) : Work State := do
  let bytes := Text.octets (String.ofList text)
  let state ← session.putOut state (if state.complete then bytes ++ [session.ending] else bytes)
  return { state with lacksEnd := !state.complete }

def Session.flush (session : Session) (state : State) : Work State := do
  let mut state := state
  for appendix in state.appended do
    match appendix with
    | .text text => state ← session.putText state text
    | .file path =>
        match ← source session.frame (if path == "/dev/stdin" then "-" else path) with
        | .ok [] => pure ()
        | .ok bytes => state ← session.putOut state bytes
        | .error _ => pure ()
  return { state with appended := [] }

def Session.advance (session : Session) (state : State) : Work (Option (Bytes × State)) := do
  let (next, state) ← state.peek session
  match next with
  | none => return none
  | some (name, line) =>
      let complete := line.getLast? == some session.ending
      let state ← session.flush { state with ahead := none }
      return some (if complete then line.dropLast else line, { state with
        name := name, number := state.number + 1, complete := complete, replaced := false })

def charsOf (line : Bytes) : List Char := (Text.ofOctets line).toList

def State.expression? (state : State) (given : Option Expression) : Option Expression :=
  given.or state.latest

def Session.noExpression {α : Type} (session : Session) : Work α := do
  session.frame.complain "-e expression #1, char 0: no previous regular expression"
  Work.stop failed

def Session.selectsBy (session : Session) (state : State) (address : Address) : Work (Bool × State) := do
  match address with
  | .line number => return (state.number == number, state)
  | .every first step => return (first ≤ state.number && (state.number - first) % step == 0, state)
  | .last =>
      let (next, state) ← state.peek session
      return (next.isNone, state)
  | .hit given anyCase =>
      match state.expression? given with
      | none => session.noExpression
      | some expression =>
          let found := (expression.find? anyCase (Expression.Place.ofChars state.space)).isSome
          return (found, { state with latest := some expression })

def State.openRange (state : State) (position : Nat) (last : Option Nat) : State :=
  { state with ranges := (position, last) :: state.ranges.filter fun entry => entry.1 != position }

def State.closeRange (state : State) (position : Nat) : State :=
  { state with ranges := state.ranges.filter fun entry => entry.1 != position }

def State.beginRange (state : State) (position : Nat) : Finish → State
  | .address (.line number) =>
      if state.number < number then state.openRange position (some number) else state
  | .address _ => state.openRange position none
  | .after count =>
      if 0 < count then state.openRange position (some (state.number + count)) else state
  | .multiple count =>
      if count = 0 || state.number % count == 0 then state
      else state.openRange position (some ((state.number / count + 1) * count))

def Session.selects (session : Session) (state : State) (position : Nat) (command : Command) :
    Work (Bool × State) := do
  let (selected, state) ← match command.first, command.second with
    | none, _ => pure (true, state)
    | some first, none => session.selectsBy state first
    | some first, some finish =>
        match state.ranges.find? fun entry => entry.1 == position with
        | some (_, some last) =>
            let state := if last ≤ state.number then state.closeRange position else state
            pure (decide (state.number ≤ last), state)
        | some (_, none) =>
            match finish with
            | .address address => do
                let (ends, state) ← session.selectsBy state address
                pure (true, if ends then state.closeRange position else state)
            | _ => pure (true, state)
        | none => do
            let (begins, state) ← session.selectsBy state first
            pure (begins, if begins then state.beginRange position finish else state)
  return (selected != command.negated, state)

/-- The first match from a place on, but no empty one right behind the match before. -/
def nextMatch (expression : Expression) (anyCase afterMatch : Bool) (place : Expression.Place) :
    Option (Expression.Place × Expression.Place) :=
  match expression.find? anyCase place with
  | some (first, last) =>
      if afterMatch && last.left == place.left then
        place.next?.bind fun (_, next) => expression.find? anyCase next
      else some (first, last)
  | none => none

/-- What is put in the place of a match: `every` is the change that goes on, `once` the one for the
next character. -/
def fill (whole : List Char) (last : Expression.Place) : CaseChange → CaseChange → List Part → List Char
  | _, _, [] => []
  | every, once, part :: parts =>
      let turned (chars : List Char) : List Char :=
        let all := match every with
          | .upper => chars.map Char.toUpper
          | .lower => chars.map Char.toLower
          | _ => chars
        match all, once with
        | c :: rest, .upperOne => c.toUpper :: rest
        | c :: rest, .lowerOne => c.toLower :: rest
        | all, _ => all
      let put (chars : List Char) : List Char :=
        turned chars ++ fill whole last every (if chars.isEmpty then once else .none) parts
      match part with
      | .plain c => put [c]
      | .found 0 => put whole
      | .found group => put (last.found group)
      | .turn .upperOne => fill whole last every .upperOne parts
      | .turn .lowerOne => fill whole last every .lowerOne parts
      | .turn change => fill whole last change .none parts

/-- Replaces matches from a place on. `count` is the number of matches before, and `afterMatch` tells
whether one of them ends at the place. -/
def replace (how : Substitution) (expression : Expression) :
    Nat → Nat → Bool → Expression.Place → Option (List Char)
  | 0, _, _, _ => none
  | fuel + 1, count, afterMatch, place => do
      let (first, last) ← nextMatch expression how.anyCase afterMatch place
      let skipped := place.rest.take (place.left - first.left)
      let whole := first.rest.take (first.left - last.left)
      let chosen := how.nth.getD 1 ≤ count + 1
      let put := fill whole last .none .none how.replacement
      -- An empty match is followed by the next character as it stands.
      let (kept, next) : List Char × Option Expression.Place :=
        if whole.isEmpty then
          match last.next? with
          | some (c, next) => ([c], some next)
          | none => ([], none)
        else ([], some last)
      let tail : Option (List Char) :=
        if chosen && !how.every then none
        else next.bind fun next =>
            replace how expression fuel (count + 1) (!whole.isEmpty) { next with groups := [] }
      let rest := (next.map fun next => next.rest).getD []
      if chosen then return skipped ++ put ++ kept ++ tail.getD rest
      else return skipped ++ whole ++ kept ++ (← tail)

def Session.writeTo (session : Session) (state : State) (path : String) (text : List Char) :
    Work State := do
  let bytes := Text.octets (String.ofList text) ++ [session.ending]
  if path == "/dev/stdout" then session.putOut state bytes
  else
    match session.targets.find? fun entry => entry.1 == path with
    | some (_, descriptor) =>
        let _ ← Work.write session.frame.pid descriptor bytes
        return state
    | none => return state

def spelled (c : Char) : List Char :=
  match c with
  | '\\' => ['\\', '\\']
  | c => (escape? c).getD [c]

def wrapped (width : Nat) (column : Nat) : List (List Char) → List Char
  | [] => ['$']
  | piece :: rest =>
      if 1 < width && width - 1 < column + piece.length then
        ['\\', '\n'] ++ piece ++ wrapped width piece.length rest
      else piece ++ wrapped width (column + piece.length) rest

inductive Flow
  /-- The next command. -/
  | next
  | jump (label : String)
  /-- The end of the script; the line is printed, unless that is not wanted. -/
  | done
  /-- The next line, without printing this one. -/
  | dropped
  /-- The start of the script, with what is left of this line. -/
  | again
  /-- The end of the program, because there is no other line. -/
  | exhausted
  /-- The end of the program, because the script says so. -/
  | ended (code : Nat) (prints : Bool)

def firstLine (space : List Char) : List Char := space.takeWhile (· != '\n')

def Session.perform (session : Session) (state : State) (position : Nat) (edit : Edit) :
    Work (Flow × State) := do
  match edit with
  | .substitute how =>
      match state.expression? how.expression with
      | none => session.noExpression
      | some expression =>
          let state := { state with latest := some expression }
          let place := Expression.Place.ofChars state.space
          match replace how expression (place.left + 2) 0 false place with
          | none => return (.next, state)
          | some space =>
              let state := { state with space := space, replaced := true }
              let state ← if how.print then session.putLine state space else pure state
              match how.target with
              | some path => return (.next, ← session.writeTo state path space)
              | none => return (.next, state)
  | .transliterate source target =>
      let pairs := source.zip target
      let turn (c : Char) : Char := ((pairs.find? fun pair => pair.1 == c).map Prod.snd).getD c
      return (.next, { state with space := state.space.map turn })
  | .print => return (.next, ← session.putLine state state.space)
  | .printFirst => return (.next, ← session.putText state (firstLine state.space))
  | .delete => return (.dropped, state)
  | .deleteFirst =>
      if state.space.contains '\n' then
        return (.again, { state with space := state.space.drop ((firstLine state.space).length + 1) })
      else return (.dropped, state)
  | .quit code => return (.ended code true, state)
  | .quitSilently code => return (.ended code false, state)
  | .showNumber => return (.next, ← session.putText state (toString state.number).toList)
  | .showName => return (.next, ← session.putText state state.name.toList)
  | .spell width =>
      let text := wrapped (width.getD session.width) 0 (state.space.map spelled)
      return (.next, ← session.putText state text)
  | .append text => return (.next, { state with appended := state.appended ++ [.text text] })
  | .insert text => return (.next, ← session.putText state text)
  | .change text =>
      let goesOn := state.ranges.any fun entry => entry.1 == position
      let state ← if goesOn then pure state else session.putText state text
      return (.dropped, state)
  | .read path => return (.next, { state with appended := state.appended ++ [.file path] })
  | .readLine path =>
      let lines ← match state.readers.find? fun entry => entry.1 == path with
        | some (_, lines) => pure lines
        | none => do
            match ← source session.frame path with
            | .ok bytes => pure (linesOf bytes)
            | .error _ => pure []
      let appended := (lines.head?.map fun line => Appendix.text (charsOf line)).toList
      return (.next, { state with
        appended := state.appended ++ appended
        readers := (path, lines.drop 1) :: state.readers.filter fun entry => entry.1 != path })
  | .write path => return (.next, ← session.writeTo state path state.space)
  | .writeFirst path => return (.next, ← session.writeTo state path (firstLine state.space))
  | .next =>
      let (next, state) ← state.peek session
      if next.isNone then return (.exhausted, state)
      else
        let state ← if session.quiet then pure state else session.putLine state state.space
        match ← session.advance state with
        | some (line, state) => return (.next, { state with space := charsOf line })
        | none => return (.exhausted, state)
  | .join =>
      let (next, state) ← state.peek session
      if next.isNone then return (.exhausted, state)
      else
        match ← session.advance state with
        | some (line, state) =>
            return (.next, { state with space := state.space ++ '\n' :: charsOf line })
        | none => return (.exhausted, state)
  | .hold => return (.next, { state with hold := state.space })
  | .holdMore => return (.next, { state with hold := state.hold ++ '\n' :: state.space })
  | .fetch => return (.next, { state with space := state.hold })
  | .fetchMore => return (.next, { state with space := state.space ++ '\n' :: state.hold })
  | .exchange => return (.next, { state with space := state.hold, hold := state.space })
  | .empty => return (.next, { state with space := [] })
  | .jump name => return (.jump name, state)
  | .jumpIfReplaced name =>
      return (if state.replaced then .jump name else .next, { state with replaced := false })
  | .jumpUnlessReplaced name =>
      return (if state.replaced then .next else .jump name, { state with replaced := false })
  | _ => return (.next, state)

/-- The position behind the brace that closes what begins at a position; `depth` braces are open. -/
def behindBlock (commands : Array Command) : Nat → Nat → Nat → Nat
  | 0, _, position => position
  | fuel + 1, depth, position =>
      match (commands[position]?).map Command.edit with
      | none => position
      | some .opening => behindBlock commands fuel (depth + 1) (position + 1)
      | some .closing =>
          if depth ≤ 1 then position + 1 else behindBlock commands fuel (depth - 1) (position + 1)
      | some _ => behindBlock commands fuel depth (position + 1)

def labelPosition (commands : Array Command) (name : String) : Nat :=
  if name.isEmpty then commands.size
  else (commands.toList.findIdx? (Script.isLabel name)).getD commands.size

/-- Tries commands on a line from a position on. `fuel` bounds the number of commands. -/
def Session.run (session : Session) : Nat → Nat → State → Work (Flow × State)
  | 0, _, _ => Work.hang
  | fuel + 1, position, state => do
      match session.commands[position]? with
      | none => return (.done, state)
      | some command =>
          let (selected, state) ← session.selects state position command
          if !selected then
            match command.edit with
            | .opening =>
                session.run fuel (behindBlock session.commands (session.commands.size + 1) 0 position) state
            | _ => session.run fuel (position + 1) state
          else
            match ← session.perform state position command.edit with
            | (.next, state) => session.run fuel (position + 1) state
            | (.jump name, state) => session.run fuel (labelPosition session.commands name) state
            | (flow, state) => return (flow, state)

def commandLimit : Nat := 1000000

/-- Edits line by line, `reads` telling whether the next one is taken first; gives the code with which
the script ends, if it says so. -/
def Session.editAll (session : Session) : Nat → Bool → State → Work (Option Nat × State)
  | 0, _, _ => Work.hang
  | fuel + 1, reads, state => do
      let begun ← if reads then do
          match ← session.advance state with
          | some (line, state) => pure (some { state with space := charsOf line })
          | none => pure none
        else pure (some state)
      match begun with
      | none => return (none, ← session.flush state)
      | some state =>
          let (flow, state) ← session.run commandLimit 0 state
          let printed (state : State) : Work State :=
            if session.quiet then pure state else session.putLine state state.space
          match flow with
          | .dropped => session.editAll fuel true state
          | .again => session.editAll fuel false (← session.flush state)
          | .exhausted => return (none, ← session.flush (← printed state))
          | .ended code false => return (some code, state)
          | .ended code true =>
              let state ← session.putOut (← printed state) []
              return (some code, ← session.flush state)
          | _ => session.editAll fuel true (← printed state)

def State.start (commands : Array Command) (supply : Supply) (collects : Bool) : State :=
  let opened := commands.toList.zipIdx.filterMap fun (command, i) =>
    match command.first with
    | some (.line 0) => some (i, none)
    | _ => none
  { supply := supply, ahead := none, name := "-", number := 0, space := [], hold := [], complete := true
    replaced := false, ranges := opened, latest := none, appended := [], lacksEnd := false
    collected := if collects then some [] else none, readers := [] }

def Session.release (session : Session) (state : State) : Work Unit := do
  match state.supply with
  | .given _ => pure ()
  | .input =>
      let seen : Bytes := match state.ahead with
        | some (some (_, line)) => line
        | _ => []
      let pid := session.frame.pid
      Work.modify fun world =>
        match world.channel? pid 0 with
        | some (.reader number) =>
            let pipe := world.pipe number
            if session.sparing then world.setPipe number ⟨seen ++ pipe.content, []⟩
            else world.setPipe number .empty
        | _ => world.giveBack pid 0 seen.length

def linesIn (ending : UInt8) (name : String) (bytes : Bytes) : List (String × Bytes) :=
  let lines := if ending = 10 then linesWithEnds bytes
    else
      let parts := partsOf ending bytes
      if bytes.getLast? == some ending then parts.map (· ++ [ending])
      else parts.dropLast.map (· ++ [ending]) ++ parts.getLast?.toList
  lines.map fun line => (name, line)

def trouble (operand : String) (e : SystemError) : String × Nat :=
  match e with
  | .isADirectory => ("read error on " ++ operand ++ ": " ++ describe e, 4)
  | _ => ("can't read " ++ operand ++ ": " ++ describe e, 2)

def gather (session : Session) : List String → Work (List (String × Bytes) × Nat)
  | [] => pure ([], 0)
  | operand :: rest => do
      match ← source session.frame operand with
      | .ok bytes =>
          let (others, code) ← gather session rest
          return (linesIn session.ending operand bytes ++ others, code)
      | .error e =>
          let (problem, code) := trouble operand e
          session.frame.complain problem
          let (others, _) ← gather session rest
          return (others, code)

def editSources (session : Session) (operands : List String) : Work Ending := do
  let (supply, code) ←
    if operands.isEmpty || operands == ["-"] then pure (Supply.input, 0)
    else do
      let (lines, code) ← gather session operands
      pure (.given lines, code)
  let (chosen, state) ← session.editAll blockLimit true (State.start session.commands supply false)
  if chosen.isSome then session.release state
  return .exited (chosen.getD code)

/-- Edits every operand by itself: in its place, with what it was kept under a name made with a
suffix, if there is one; or onto the output. -/
def editApart (session : Session) (inPlace : Option String) : List String → State → Nat → Work Ending
  | [], _, code => return .exited code
  | operand :: rest, before, code => do
      let frame := session.frame
      let tree ← frame.view
      let goOn (problem : String) (worse : Nat) : Work Ending := do
        frame.complain problem
        editApart session inPlace rest before (if code = 0 then worse else code)
      match tree.stat frame.cwd ⟨operand⟩, inPlace with
      | .error e, _ =>
          let (problem, worse) := trouble operand e
          goOn problem worse
      | .ok (_, node), some _ =>
          match node.content with
          | .file bytes =>
              let start := State.start session.commands (.given (linesIn session.ending operand bytes)) true
              let (chosen, state) ← session.editAll blockLimit true { start with hold := before.hold }
              let edited := ((state.collected.getD []).reverse).flatten
              Work.modify fun world =>
                match world.tree.stat frame.cwd ⟨operand⟩ with
                | .error _ => world
                | .ok (place, node) =>
                    let suffix := inPlace.getD ""
                    let name := place.getLast?.getD ""
                    let kept := if suffix.toList.contains '*' then name.intercalate (suffix.splitOn "*")
                      else name ++ suffix
                    let world := if suffix.isEmpty then world
                      else { world with tree := world.tree.put (place.dropLast ++ [kept]) node }
                    let changed := { node with content := .file edited, modified := world.now }
                    { world with tree := world.tree.put place changed }
              match chosen with
              | some code => return .exited code
              | none => editApart session inPlace rest state code
          | _ => goOn ("couldn't edit " ++ operand ++ ": not a regular file") 4
      | .ok _, none =>
          match ← source frame operand with
          | .error e =>
              let (problem, worse) := trouble operand e
              goOn problem worse
          | .ok bytes =>
              let start := State.start session.commands (.given (linesIn session.ending operand bytes)) false
              let (chosen, state) ← session.editAll blockLimit true
                { start with hold := before.hold, lacksEnd := before.lacksEnd }
              match chosen with
              | some code => return .exited code
              | none => editApart session inPlace rest state code

/-- A piece of a script: its text, and what complaints about it begin with, which may hang on the line
they are about. -/
structure ScriptPiece where
  text : List Char
  isFile : Bool
  name : String

def complaintOf (pieces : List ScriptPiece) (mistake : Mistake) : String :=
  let total := pieces.foldl (fun total piece => total + piece.text.length + 1) 0 - 1
  let number (i : Nat) : String := toString (((pieces.take (i + 1)).filter fun piece => !piece.isFile).length)
  match mistake.spot with
  | .nowhere => mistake.problem
  | .start => "-e expression #1, char 0: " ++ mistake.problem
  | .left count =>
      let offset := total - count
      let found := pieces.zipIdx.foldl (fun (state : Nat × Option (ScriptPiece × Nat × Nat)) (piece, i) =>
        let (start, found) := state
        let found := if found.isNone && offset ≤ start + piece.text.length then
            some (piece, i, offset - start)
          else found
        (start + piece.text.length + 1, found)) (0, none)
      match found.2 with
      | none => mistake.problem
      | some (piece, i, place) =>
          if piece.isFile then
            let line := ((piece.text.take (place - 1)).filter (· == '\n')).length + 1
            "file " ++ piece.name ++ " line " ++ toString line ++ ": " ++ mistake.problem
          else "-e expression #" ++ number i ++ ", char " ++ toString place ++ ": " ++ mistake.problem

def scriptPieces (frame : Frame) : List (Char × String) → Work (Except String (List ScriptPiece))
  | [] => return .ok []
  | (letter, value) :: rest => do
      if letter == 'e' then
        return (← scriptPieces frame rest).map fun others => ⟨value.toList, false, ""⟩ :: others
      else
        match ← source frame value with
        | .error e => return .error ("couldn't open file " ++ value ++ ": " ++ describe e)
        | .ok bytes =>
            let text := charsOf bytes
            let text := if text.getLast? == some '\n' then text.dropLast else text
            return (← scriptPieces frame rest).map fun others => ⟨text, true, value⟩ :: others

def targetsOf (command : Command) : List String :=
  match command.edit with
  | .write path => [path]
  | .writeFirst path => [path]
  | .substitute how => how.target.toList
  | _ => []

def openAll (frame : Frame) : List String → Work (List (String × Nat))
  | [] => return []
  | path :: rest => do
      if path == "/dev/stdout" then openAll frame rest
      else
        match ← Work.openRoute frame.pid frame.cwd ⟨path⟩ .writing with
        | .ok descriptor => return (path, descriptor) :: (← openAll frame rest)
        | .error e =>
            frame.complain ("couldn't open file " ++ path ++ ": " ++ describe e)
            Work.stop (.exited 4)

def sed (frame : Frame) : Work Ending :=
  withOptions frame "nErsuzi::e:f:l:b"
      [("quiet", 'n'), ("silent", 'n'), ("regexp-extended", 'E'), ("separate", 's'), ("unbuffered", 'u'),
        ("null-data", 'z'), ("zero-terminated", 'z'), ("in-place=?", 'i'), ("expression=", 'e'),
        ("file=", 'f'), ("line-length=", 'l'), ("posix", 'p'), ("sandbox", 'S'),
        ("follow-symlinks", 'F'), ("binary", 'b'), ("debug", 'D')] fun options => do
    let given := options.given.filter fun entry => entry.1 == 'e' || entry.1 == 'f'
    let (scripts, operands) :=
      if given.isEmpty then (options.operands.take 1 |>.map fun text => ('e', text), options.operands.drop 1)
      else (given, options.operands)
    if scripts.isEmpty then
      Work.writeText frame.pid 2 ("Usage: " ++ frame.name ++
        " [OPTION]... \x7bscript-only-if-no-other-script\x7d [input-file]...\n\n")
      return failed
    else
      match ← scriptPieces frame scripts with
      | .error problem =>
          frame.complain problem
          return failed
      | .ok pieces =>
          let text := ['\n'].intercalate (pieces.map ScriptPiece.text)
          match Script.read (options.has 'E' || options.has 'r') text with
          | .error mistake =>
              frame.complain (complaintOf pieces mistake)
              return failed
          | .ok commands =>
              let targets ← openAll frame (commands.flatMap targetsOf).eraseDups
              let quiet := options.has 'n' || text.take 3 == ['#', 'n', '\n'] || text == ['#', 'n']
              let session : Session :=
                { frame := frame, commands := commands.toArray, quiet := quiet
                  width := ((options.value? 'l').bind natural?).getD 70
                  ending := if options.has 'z' then 0 else 10
                  sparing := options.has 'u', targets := targets }
              let start := State.start session.commands (.given []) false
              if options.has 'i' then
                if operands.isEmpty then
                  frame.complain "no input files"
                  return .exited 1
                else editApart session (some ((options.value? 'i').getD "")) operands start 0
              else if options.has 's' && !operands.isEmpty then editApart session none operands start 0
              else editSources session operands

end LifecycleHooks.Tool.Editing
