import LifecycleHooks.Tool.Basic

/-!
Programs that hand on all that they read: as it is, in another order, or with numbers in front of
lines.
-/

namespace LifecycleHooks.Tool

open Process Text

def sourceOr (frame : Frame) (operand : String) (complaint : SystemError → String) :
    Work (Option Bytes) := do
  match ← source frame operand with
  | .ok bytes => return some bytes
  | .error e =>
      frame.complain (complaint e)
      return none

def column (width n : Nat) : String :=
  let digits := toString n
  String.ofList (List.replicate (width - digits.length) ' ') ++ digits

/-- How contents are shown: which lines are numbered, whether runs of empty lines become one, and
which characters are made visible. -/
structure Display where
  numbersAll : Bool
  numbersFilled : Bool
  squeezes : Bool
  showsEnds : Bool
  showsTabs : Bool
  showsControls : Bool

structure Progress where
  number : Nat
  begins : Bool
  empty : Nat

/-- A byte in visible characters: a caret in front of controls, and a mark for bytes beyond ASCII. -/
def visible (byte : UInt8) : Bytes :=
  let low (b : UInt8) : Bytes :=
    if b < 32 then [94, b + 64] else if b == 127 then [94, 63] else [b]
  if byte < 128 then low byte else [77, 45] ++ low (byte - 128)

def Display.step (display : Display) (progress : Progress) (byte : UInt8) : Bytes × Progress :=
  let isEnd := byte == 10
  let isEmpty := isEnd && progress.begins
  if isEmpty && display.squeezes && 0 < progress.empty then
    ([], { progress with empty := progress.empty + 1 })
  else
    let counts := progress.begins && (if display.numbersFilled then !isEmpty else display.numbersAll)
    let number := if counts then progress.number + 1 else progress.number
    let front := if counts then Text.octets (column 6 number ++ "\t") else []
    let shown :=
      if isEnd then (if display.showsEnds then [36, 10] else [10])
      else if byte == 9 then (if display.showsTabs then [94, 73] else [9])
      else if display.showsControls then visible byte
      else [byte]
    (front ++ shown, ⟨number, isEnd, if isEmpty then progress.empty + 1 else 0⟩)

def Display.show (display : Display) (progress : Progress) (bytes : Bytes) : Bytes × Progress :=
  let (shown, progress) := bytes.foldl (fun (shown, progress) byte =>
    let (more, progress) := display.step progress byte
    (more.reverse ++ shown, progress)) (([] : Bytes), progress)
  (shown.reverse, progress)

def Display.ofOptions (options : Options) : Option Display :=
  let any (letters : List Char) : Bool := letters.any options.has
  let display : Display :=
    ⟨options.has 'n', options.has 'b', options.has 's', any ['E', 'e', 'A'], any ['T', 't', 'A'],
      any ['v', 'e', 't', 'A']⟩
  if any ['n', 'b', 's', 'E', 'e', 'T', 't', 'v', 'A'] then some display else none

/-- Whether reading from a descriptor would go on for ever, because what is read is written to the
end of the same file. -/
def feedsItself (world : World) (pid : Pid) (descriptor : Nat) : Bool :=
  match world.number? pid descriptor, world.number? pid 1 with
  | some a, some b => a == b && !(world.fileContent a).isEmpty
  | _, _ => false

def catAll (frame : Frame) (display : Option Display) : List String → Progress → Bool → Work Bool
  | [], _, fine => pure fine
  | operand :: rest, progress, fine => do
      let change (progress : Progress) (bytes : Bytes) : Bytes × Progress :=
        match display with
        | some display => display.show progress bytes
        | none => (bytes, progress)
      let outcome ← withSource frame operand fun descriptor => do
        if ← Work.look fun world => feedsItself world frame.pid descriptor then
          return .ok none
        else return (← handOn frame descriptor change progress).map some
      match outcome with
      | .ok (some progress) => catAll frame display rest progress fine
      | .ok none =>
          frame.complain (shown operand ++ ": input file is output file")
          catAll frame display rest progress false
      | .error e =>
          frame.complain (about operand e)
          catAll frame display rest progress false

def cat (frame : Frame) : Work Ending :=
  withOptions frame "unbsEeTtvA"
      [("number", 'n'), ("number-nonblank", 'b'), ("squeeze-blank", 's'), ("show-ends", 'E'),
        ("show-tabs", 'T'), ("show-nonprinting", 'v'), ("show-all", 'A')] fun options => do
    let operands := operandsOr options.operands
    let fine ← catAll frame (Display.ofOptions options) operands ⟨0, true, 0⟩ true
    let closed ← Work.look fun world => (world.channel? frame.pid 0).isNone
    if closed && operands.contains "-" then
      frame.complain ("closing standard input: " ++ describe .badDescriptor)
      return failed
    return ofBool fine

def linesWithEnds (bytes : Bytes) : List Bytes :=
  let (current, lines) := bytes.foldl (fun (current, lines) byte =>
    if byte == 10 then (([] : Bytes), (byte :: current).reverse :: lines)
    else (byte :: current, lines)) (([] : Bytes), ([] : List Bytes))
  (if current.isEmpty then lines else current.reverse :: lines).reverse

def separated (separator : List UInt8) (current : Bytes) : Bytes → List Bytes
  | [] => [current.reverse]
  | byte :: rest =>
      if separator.reverse.isPrefixOf (byte :: current) then
        ((byte :: current).drop separator.length).reverse :: separated separator [] rest
      else separated separator (byte :: current) rest

def turnedPieces (separator : Bytes) (before : Bool) (bytes : Bytes) : Bytes :=
  let pieces := separated separator [] bytes
  if before then
    match pieces with
    | [] => []
    | first :: others => ((others.map fun piece => separator ++ piece).reverse ++ [first]).flatten
  else
    match pieces.reverse with
    | [] => []
    | last :: others => last ++ others.flatMap fun piece => piece ++ separator

def tac (frame : Frame) : Work Ending :=
  withOptions frame "bs:" [("before", 'b'), ("separator=", 's')] fun options =>
    forEach (operandsOr options.operands) fun operand => do
      match ← sourceOr frame operand fun e =>
          match e with
          | .isADirectory => shown operand ++ ": read error: " ++ describe e
          | _ => "failed to open " ++ quote operand ++ " for reading: " ++ describe e with
      | some bytes =>
          let separator := Text.octets ((options.value? 's').getD "\n")
          frame.put (turnedPieces separator (options.has 'b') bytes)
          return true
      | none => return false

def rev (frame : Frame) : Work Ending :=
  withOptions frame "" [] fun options =>
    forEach (operandsOr options.operands) fun operand => do
      let path := if operand == "-" && !options.operands.isEmpty then "./-" else operand
      match ← sourceOr frame path fun e => "cannot open " ++ operand ++ ": " ++ describe e with
      | some bytes =>
          let pieces := separated [10] [] bytes
          frame.put ([10].intercalate (pieces.map List.reverse))
          return true
      | none => return false

/-- Opens the files to which a program copies its input; gives their descriptors and whether all
could be opened. -/
def openTargets (frame : Frame) (access : Access) : List String → Work (List Nat × Bool)
  | [] => pure ([], true)
  | operand :: rest => do
      match ← Work.openRoute frame.pid frame.cwd ⟨operand⟩ access with
      | .ok descriptor =>
          let (descriptors, fine) ← openTargets frame access rest
          return (descriptor :: descriptors, fine)
      | .error e =>
          frame.complain (about operand e)
          let (descriptors, _) ← openTargets frame access rest
          return (descriptors, false)

def tee (frame : Frame) : Work Ending :=
  withOptions frame "aip" [("append", 'a'), ("ignore-interrupts", 'i'), ("output-error=?", 'p')]
      fun options => do
    let access := if options.has 'a' then Access.appending else .writing
    let (descriptors, fine) ← openTargets frame access options.operands
    match ← throughBlocks frame 0 (fun fine bytes => do
        let mut fine := fine
        if (← Work.write frame.pid 1 bytes).isSome then
          frame.complain ("'standard output': " ++ describe .noSpace)
          fine := false
        for (descriptor, operand) in descriptors.zip options.operands do
          match ← Work.write frame.pid descriptor bytes with
          | some e =>
              frame.complain (about operand e)
              fine := false
          | none => pure ()
        return fine) blockLimit fine with
    | .ok fine => return ofBool fine
    | .error e =>
        frame.complain ("read error: " ++ describe e)
        return failed

end LifecycleHooks.Tool
