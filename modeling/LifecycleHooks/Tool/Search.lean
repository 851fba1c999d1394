import LifecycleHooks.Expression.Reader
import LifecycleHooks.Shell.Pattern
import LifecycleHooks.Tool.Contents
import LifecycleHooks.Tool.Places

/-!
Searching lines for regular expressions.
-/

namespace LifecycleHooks.Tool

open Process Text

inductive LineSource
  | input
  | given (lines : List Bytes)

def LineSource.next (frame : Frame) : LineSource → Work (Option Bytes × LineSource)
  | .given [] => return (none, .given [])
  | .given (line :: lines) => return (some line, .given lines)
  | .input => do
      match ← Work.readLine frame.pid 0 with
      | .ok (byte :: line) => return (some (byte :: line), .input)
      | _ => return (none, .input)

def withoutEnd (line : Bytes) : Bytes := if line.getLast? == some 10 then line.dropLast else line

/-- Forgets what waits in the input, as a program does that reads more than it needs. What is left in
a file is kept, if `keeps` is set. -/
def drain (frame : Frame) (keeps : Bool) : Work Unit := do
  let waiting ← Work.look fun world =>
    match world.channel? frame.pid 0 with
    | some (.reader pipe) => (world.pipe pipe).length
    | some (.file _) => if keeps then 0 else 1
    | _ => 0
  if waiting = 0 then pure ()
  else
    Work.modify fun world =>
      match world.channel? frame.pid 0 with
      | some (.reader pipe) => world.setPipe pipe .empty
      | _ => (world.readAll frame.pid 0).2

namespace Search

structure Query where
  expression : Expression
  options : Options
  /-- After how many lines searching ends. -/
  most : Option Nat
  named : Bool
  /-- How many lines are shown in front of those that are found, and behind them. -/
  before : Nat
  after : Nat
  ending : UInt8

def Query.anyCase (query : Query) : Bool :=
  match query.options.last? ['i', 'y', 'j'] with
  | some 'j' => false
  | some _ => true
  | none => false

def Query.hits (query : Query) (line : Bytes) : Bool :=
  let place := Expression.Place.ofChars (Text.ofOctets line).toList
  (query.expression.find? query.anyCase place).isSome != query.options.has 'v'

def parts (anyCase : Bool) (expression : Expression) (whole : Nat) :
    Nat → Expression.Place → List (Nat × List Char)
  | 0, _ => []
  | fuel + 1, place =>
      match expression.find? anyCase place with
      | none => []
      | some (first, last) =>
          if last.left == first.left then
            match last.next? with
            | none => []
            | some (_, next) => parts anyCase expression whole fuel next
          else
            (whole - first.left, first.rest.take (first.left - last.left)) ::
              parts anyCase expression whole fuel { last with groups := [] }

def Query.front (query : Query) (label : String) (number offset : Nat) (mark : String) : String :=
  (if query.named then label ++ (if query.options.has 'Z' then "\x00" else mark) else "") ++
    (if query.options.has 'n' then toString number ++ mark else "") ++
    (if query.options.has 'b' then toString offset ++ mark else "")

/-- What is shown for a line that is found; `offset` is the position of its first byte. -/
def Query.shown (query : Query) (label : String) (number offset : Nat) (line : Bytes) : Bytes :=
  if query.options.has 'o' then
    if query.options.has 'v' then []
    else
      let place := Expression.Place.ofChars (Text.ofOctets line).toList
      (parts query.anyCase query.expression place.left (place.left + 1) place).flatMap fun (start, part) =>
        Text.octets (query.front label number (offset + start) ":" ++ String.ofList part) ++ [query.ending]
  else Text.octets (query.front label number offset ":") ++ line ++ [query.ending]

def Query.endsAtFirst (query : Query) : Bool := ['q', 'l', 'L'].any query.options.has

def Query.isSilent (query : Query) : Bool := query.endsAtFirst || query.options.has 'c'

structure Progress where
  /-- The number of the last line. -/
  number : Nat
  /-- How many bytes were read. -/
  offset : Nat
  found : Nat
  /-- The last lines that were not shown, the latest first, with their numbers and positions. -/
  kept : List (Nat × Nat × Bytes)
  /-- How many lines that follow are still shown. -/
  owed : Nat
  /-- The number of the last line that was shown. -/
  shownLast : Nat

def Query.put (frame : Frame) (query : Query) (label : String) (progress : Progress) (offset : Nat)
    (line : Bytes) : Work Unit := do
  let context := query.options.has 'o'
  let gap := (0 < query.before || 0 < query.after) && 0 < progress.shownLast
  let first := progress.number - progress.kept.length
  if gap && progress.shownLast + 1 < first && !query.options.has 'X' then frame.say "--\n"
  if !context then
    for (number, offset, line) in progress.kept.reverse do
      frame.put (Text.octets (query.front label number offset "-") ++ line ++ [query.ending])
  frame.put (query.shown label progress.number offset line)

def scan (frame : Frame) (query : Query) (label : String) :
    Nat → LineSource → Progress → Work Progress
  | 0, _, _ => Work.hang
  | fuel + 1, lines, progress => do
      let full := query.most == some progress.found
      if full && (progress.owed = 0 || query.isSilent) then
        drain frame true
        return progress
      match ← lines.next frame with
      | (none, _) => return progress
      | (some raw, lines) =>
          let line := if query.ending = 10 then withoutEnd raw else raw
          let offset := progress.offset
          let progress := { progress with
            number := progress.number + 1, offset := offset + raw.length }
          if !full && query.hits line then
            if query.endsAtFirst then
              drain frame false
              return { progress with found := progress.found + 1 }
            if !query.isSilent then query.put frame label progress offset line
            scan frame query label fuel lines { progress with
              found := progress.found + 1, kept := [], owed := query.after
              shownLast := progress.number }
          else if full && query.hits line then
            drain frame true
            return progress
          else if 0 < progress.owed then
            if !query.isSilent && !query.options.has 'o' then
              frame.put (Text.octets (query.front label progress.number offset "-") ++ line ++
                [query.ending])
            scan frame query label fuel lines { progress with
              kept := [], owed := progress.owed - 1, shownLast := progress.number }
          else
            scan frame query label fuel lines { progress with
              kept := ((progress.number, offset, line) :: progress.kept).take query.before }

def isBinary (options : Options) (bytes : Bytes) : Bool :=
  bytes.contains 0 && !options.has 'a' && !options.has 'z' && options.value? '#' != some "text"

def report (frame : Frame) (query : Query) (label : String) (found : Nat) : Work Unit := do
  let named (text : String) : Work Unit :=
    frame.say (text ++ (if query.options.has 'Z' then "\x00" else "\n"))
  if query.options.has 'q' then pure ()
  else
    if query.options.has 'c' && !query.options.has 'l' && !query.options.has 'L' then
      frame.say ((if query.named then label ++ (if query.options.has 'Z' then "\x00" else ":") else "") ++
        toString found ++ "\n")
    if query.options.has 'l' then
      if found != 0 then named label
    else if query.options.has 'L' then
      if found == 0 then named label

def searchBytes (frame : Frame) (query : Query) (label : String) (bytes : Bytes) : Work Nat := do
  let start : Progress := ⟨0, 0, 0, [], 0, 0⟩
  let lines := if query.ending = 10 then linesWithEnds bytes else partsOf 0 bytes
  if isBinary query.options bytes && query.options.value? '#' == some "without-match" then
    report frame query label 0
    return 0
  else if isBinary query.options bytes && !query.isSilent then
    let found := (lines.filter fun line => query.hits (withoutEnd line)).length
    if found != 0 then frame.complain (label ++ ": binary file matches")
    return found
  else
    let progress ← scan frame query label blockLimit (.given lines) start
    report frame query label progress.found
    return progress.found

/-- Searches the input; what is searched is given when it is no pipe that others still write to. -/
def searchInput (frame : Frame) (query : Query) (label : String) : Work (Except SystemError Nat) := do
  let known ← Work.look fun world =>
    match world.channel? frame.pid 0 with
    | none => Except.error SystemError.badDescriptor
    | some (.directory _) => .error .isADirectory
    | some (.writer _) => .error .badDescriptor
    | some (.reader pipe) => .ok (if world.isComplete pipe then some (world.pipeContent pipe) else none)
    | some (.file handle) =>
        match world.files.find? handle with
        | some file => .ok (some ((world.fileContent file.node).drop file.offset))
        | none => .error .badDescriptor
    | some (.device _) => .ok (some [])
  match known with
  | .error e => return .error e
  | .ok content =>
      let binary := content.any (isBinary query.options)
      if binary || query.ending != 10 then
        match ← Work.readAll frame.pid 0 with
        | .ok bytes => return .ok (← searchBytes frame query label bytes)
        | .error e => return .error e
      else
        let progress ← scan frame query label blockLimit .input ⟨0, 0, 0, [], 0, 0⟩
        report frame query label progress.found
        return .ok progress.found

def admitted (options : Options) (name : String) (isDirectory : Bool) : Bool :=
  let fits (pattern : String) : Bool := Shell.Pattern.hits (Shell.Pattern.ofText pattern.toList) name.toList
  if isDirectory then !(options.values '-').any fits
  else
    let included := options.values '+'
    let chosen := options.given.filter fun entry => entry.1 == '+' || entry.1 == '!'
    match (chosen.filter fun entry => fits entry.2).getLast? with
    | some (kind, _) => kind == '+'
    | none => included.isEmpty || chosen.head?.any fun entry => entry.1 == '!'

def filesBelow (tree : FileTree) (options : Options) (follows : Bool) :
    Nat → String → Location → List String
  | 0, _, _ => []
  | fuel + 1, name, place =>
      (sortNames (tree.children place)).flatMap fun child =>
        let path := if name.isEmpty then child else below name child
        match (if follows then tree.stat [] else tree.statSelf []) (Route.ofLocation (place ++ [child])) with
        | .error _ => []
        | .ok (inner, node) =>
            match node.content with
            | .directory =>
                if admitted options child true then filesBelow tree options follows fuel path inner else []
            | .file _ => if admitted options child false then [path] else []
            | .program _ => []
            | _ => []

def searchIn (frame : Frame) (query : Query) (operand : String) : Work (Option Nat) := do
  let quiet := query.options.has 's'
  if operand == "-" then
    let label := (query.options.value? '@').getD "(standard input)"
    match ← searchInput frame query label with
    | .ok found => return some found
    | .error e =>
        if !quiet then frame.complain ("(standard input): " ++ describe e)
        return none
  else
    match (← frame.view).stat frame.cwd ⟨operand⟩ with
    | .error e =>
        if !quiet then frame.complain (operand ++ ": " ++ describe e)
        return none
    | .ok (place, node) =>
        if node.isDirectory then
          if query.options.value? 'd' == some "skip" then return some 0
          else
            frame.complain (operand ++ ": " ++ describe .isADirectory)
            return if query.options.has 's' then some 0 else none
        else
          let number := (← Work.look World.tree).number? place
          let output ← Work.look fun world => world.number? frame.pid 1
          if number.isSome && number == output && !query.isSilent && !node.bytes.isEmpty then
            if !quiet then frame.complain (operand ++ ": input file is also the output")
            return none
          else
            match ← source frame operand with
            | .ok bytes => return some (← searchBytes frame query operand bytes)
            | .error e =>
                if !quiet then frame.complain (operand ++ ": " ++ describe e)
                return none

def kindOf (frame : Frame) (options : Options) : Char :=
  (options.last? ['E', 'F', 'G', 'P']).getD
    (if frame.program == "egrep" then 'E' else if frame.program == "fgrep" then 'F' else 'G')

def expressionOf (kind : Char) (options : Options) (patterns : List String) :
    Except Expression.Problem Expression := do
  let read (pattern : String) : Except Expression.Problem Expression :=
    if kind == 'F' then .ok (Expression.ofText pattern.toList)
    else Expression.read ⟨kind == 'E' || kind == 'P', false⟩ pattern.toList
  let expressions ← (patterns.flatMap fun pattern => pattern.splitOn "\n").mapM read
  let whole := match expressions with
    | [] => .one false []
    | first :: others => others.foldl Expression.either first
  let between (low high : Boundary) (expression : Expression) : Expression :=
    .sequence (.holds low) (.sequence expression (.holds high))
  return if options.has 'x' then between .start .finish whole
    else if options.has 'w' then between .noWordBefore .noWordAfter whole
    else whole

def usage : String :=
  "Usage: grep [OPTION]... PATTERNS [FILE]...\nTry 'grep --help' for more information.\n"

def contextOf (options : Options) : Except String (Nat × Nat) := do
  let number (letter : Char) : Except String (Option Nat) :=
    match options.value? letter with
    | none => .ok none
    | some text =>
        match natural? text with
        | some n => .ok (some n)
        | none => .error (text ++ ": invalid context length argument")
  let both ← number 'C'
  let before ← number 'B'
  let after ← number 'A'
  return ((before.or both).getD 0, (after.or both).getD 0)

def searched (frame : Frame) (options : Options) (operands : List String) : Work (List String) := do
  if !options.has 'r' && !options.has 'R' then return operandsOr operands
  else
    let tree ← frame.view
    let follows := options.has 'R'
    if operands.isEmpty then return filesBelow tree options follows depthLimit "" frame.cwd
    else
      return operands.flatMap fun operand =>
        match tree.stat frame.cwd ⟨operand⟩ with
        | .ok (place, node) =>
            if operand != "-" && node.isDirectory then
              filesBelow tree options follows depthLimit operand place
            else [operand]
        | .error _ => [operand]

def search (frame : Frame) (options : Options) (patterns operands : List String) : Work Ending := do
  let refuse (problem : String) : Work Ending := do
    frame.complain problem
    return .exited 2
  match expressionOf (kindOf frame options) options patterns, contextOf options with
  | .error problem, _ => refuse problem.message
  | _, .error problem => refuse problem
  | .ok expression, .ok (before, after) =>
      let most := options.value? 'm'
      if most.any fun text => (integer? text).isNone then refuse "invalid max count"
      else
        let recursive := options.has 'r' || options.has 'R'
        let onDirectory := recursive && (operands.isEmpty || (operands.any fun operand => operand != "-"))
        let tree ← frame.view
        let named := match options.last? ['H', 'h'] with
          | some 'H' => true
          | some _ => false
          | none => 1 < operands.length ||
              (onDirectory && (operands.isEmpty || operands.any fun operand =>
                tree.isDirectoryAt frame.cwd ⟨operand⟩))
        let limit : Option Nat := (most.bind integer?).bind fun n => if n < 0 then none else some n.toNat
        let query : Query :=
          ⟨expression, options, limit, named, before, after, if options.has 'z' then 0 else 10⟩
        let mut found := 0
        let mut fine := true
        for operand in ← searched frame options operands do
          if !(options.has 'q' && found != 0) then
            let isOperand := operands.contains operand
            if !isOperand || operand == "-" || admitted options (lastName operand) false then
              match ← searchIn frame query operand with
              | some n => found := found + n
              | none => fine := false
        if found != 0 && (fine || options.has 'q') then return ok
        else return if fine then failed else .exited 2

def spellContext : List String → List String
  | [] => []
  | "--" :: rest => "--" :: rest
  | arg :: rest =>
      match arg.toList with
      | '-' :: c :: digits =>
          if c.isDigit && digits.all Char.isDigit then
            "-C" :: String.ofList (c :: digits) :: spellContext rest
          else if ['e', 'f', 'm', 'A', 'B', 'C', 'd', 'D'].contains c && digits.isEmpty then
            arg :: rest.take 1 ++ spellContext (rest.drop 1)
          else arg :: spellContext rest
      | _ => arg :: spellContext rest
termination_by args => args.length

def longNames : List (String × Char) :=
  [("count", 'c'), ("quiet", 'q'), ("silent", 'q'), ("invert-match", 'v'), ("ignore-case", 'i'),
    ("no-ignore-case", 'j'), ("line-number", 'n'), ("fixed-strings", 'F'), ("extended-regexp", 'E'),
    ("basic-regexp", 'G'), ("perl-regexp", 'P'), ("line-regexp", 'x'), ("word-regexp", 'w'),
    ("only-matching", 'o'), ("files-without-match", 'L'), ("files-with-matches", 'l'),
    ("no-messages", 's'), ("no-filename", 'h'), ("with-filename", 'H'), ("text", 'a'),
    ("byte-offset", 'b'), ("recursive", 'r'), ("dereference-recursive", 'R'), ("null-data", 'z'),
    ("regexp=", 'e'), ("file=", 'f'), ("max-count=", 'm'), ("after-context=", 'A'),
    ("before-context=", 'B'), ("context=", 'C'), ("include=", '+'), ("exclude=", '!'),
    ("exclude-dir=", '-'), ("color=?", '%'), ("colour=?", '%'), ("null", 'Z'), ("line-buffered", 'u'),
    ("label=", '@'), ("binary-files=", '#'), ("directories=", 'd'), ("devices=", 'D'),
    ("no-group-separator", 'X'), ("group-separator=", '&'), ("initial-tab", 'T')]

def patternsIn (frame : Frame) : List String → Work (Except String (List String))
  | [] => return .ok []
  | path :: rest => do
      match ← source frame path with
      | .error e => return .error (path ++ ": " ++ describe e)
      | .ok bytes =>
          return (← patternsIn frame rest).map fun others => (linesOf bytes).map Text.ofOctets ++ others

def grep (frame : Frame) : Work Ending := do
  let short := "cqvinFEGPxwolLshHabrRzyUZTIe:f:m:A:B:C:d:D:"
  let showUsage : Work Ending := do
    Work.writeText frame.pid 2 usage
    return .exited 2
  match Grammar.read ⟨short, longNames⟩ true (spellContext frame.args) with
  | .error problem =>
      frame.complain problem
      showUsage
  | .ok options =>
      match ← patternsIn frame (options.values 'f') with
      | .error problem =>
          frame.complain problem
          return .exited 2
      | .ok others =>
          let given := options.values 'e' ++ others
          match options.has 'e' || options.has 'f', options.operands with
          | false, [] => showUsage
          | false, pattern :: operands => search frame options [pattern] operands
          | true, operands => search frame options given operands

end Search

end LifecycleHooks.Tool
