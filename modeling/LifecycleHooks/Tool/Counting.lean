import LifecycleHooks.Tool.Contents

/-!
Counting what is in files, and numbering their lines.
-/

namespace LifecycleHooks.Tool

open Process Text

structure Counts where
  lines : Nat
  words : Nat
  bytes : Nat
  /-- How wide the widest line is. -/
  widest : Nat

def Counts.add (a b : Counts) : Counts :=
  ⟨a.lines + b.lines, a.words + b.words, a.bytes + b.bytes, max a.widest b.widest⟩

def isSpaceByte (byte : UInt8) : Bool := byte == 32 || (9 ≤ byte && byte ≤ 13)

def countWords : Bool → Bytes → Nat
  | _, [] => 0
  | inside, byte :: rest =>
      if isSpaceByte byte then countWords false rest
      else (if inside then 0 else 1) + countWords true rest

/-- The width of the widest line, behind a line of which some is there already. -/
def widestLine : Nat → Bytes → Nat
  | width, [] => width
  | width, byte :: rest =>
      if byte == 10 || byte == 12 || byte == 13 then max width (widestLine 0 rest)
      else if byte == 9 then widestLine (width + (8 - width % 8)) rest
      else widestLine (if 32 ≤ byte && byte < 127 then width + 1 else width) rest

def Counts.ofBytes (bytes : Bytes) : Counts :=
  ⟨(bytes.filter (· == 10)).length, countWords false bytes, bytes.length, widestLine 0 bytes⟩

def Counts.shown (counts : Counts) (flags : List Char) : List Nat :=
  let flags := if flags.isEmpty then ['l', 'w', 'c'] else flags
  (if flags.contains 'l' then [counts.lines] else []) ++
    (if flags.contains 'w' then [counts.words] else []) ++
    (if flags.contains 'm' then [counts.bytes] else []) ++
    (if flags.contains 'c' then [counts.bytes] else []) ++
    (if flags.contains 'L' then [counts.widest] else [])

/-- How wide columns are: one count alone stands without blanks, counts of what is no file have seven
places, and others as many as the number of all bytes. -/
def countWidth (operands : List String) (flags : List Char) (fromFiles : Bool) (total : Nat) : Nat :=
  if operands.length == 1 && flags.length == 1 then 1
  else if fromFiles then (toString total).length
  else 7

def inputIsFile (frame : Frame) : Work Bool :=
  Work.look fun world =>
    match world.channel? frame.pid 0 with
    | some (.file _) => true
    | _ => false

def isPlainFile (tree : FileTree) (cwd : Location) (operand : String) : Bool :=
  match tree.stat cwd ⟨operand⟩ with
  | .ok (_, node) =>
      match node.content with
      | .file _ => true
      | _ => false
  | .error _ => true

def wc (frame : Frame) : Work Ending :=
  withOptions frame "clwmL"
      [("bytes", 'c'), ("chars", 'm'), ("lines", 'l'), ("words", 'w'), ("max-line-length", 'L')]
      fun options => do
    let operands := operandsOr options.operands
    let mut fine := true
    let mut found : List (String × Counts) := []
    for operand in operands do
      match ← source frame operand with
      | .ok bytes => found := found ++ [(operand, Counts.ofBytes bytes)]
      | .error e =>
          frame.complain
            (if operand.isEmpty then "invalid zero-length file name" else about operand e)
          if e == .isADirectory then found := found ++ [(operand, ⟨0, 0, 0, 0⟩)]
          fine := false
    let total := found.foldl (fun total entry => total.add entry.2) ⟨0, 0, 0, 0⟩
    let tree ← frame.view
    let inputFile ← inputIsFile frame
    let fromFiles := operands.all fun operand =>
      if operand == "-" then inputFile else isPlainFile tree frame.cwd operand
    let flags := (options.given.map Prod.fst).eraseDups
    let width := countWidth operands flags fromFiles total.bytes
    let line (counts : Counts) (name : String) : String :=
      " ".intercalate ((counts.shown flags).map (column width)) ++
        (if name.isEmpty then "" else " " ++ name) ++ "\n"
    for (operand, counts) in found do
      frame.say (line counts (if options.operands.isEmpty then "" else operand))
    if 1 < operands.length then frame.say (line total "total")
    return ofBool fine

structure Numbering where
  /-- Which lines are numbered in the three parts of a page. -/
  styles : List Char
  width : Nat
  separator : String
  format : String
  step : Int
  first : Int
  /-- Whether numbers go on from page to page. -/
  goesOn : Bool
  /-- How many empty lines count as one. -/
  joined : Nat

def Numbering.number (numbering : Numbering) (n : Int) : String :=
  let digits := toString n.natAbs
  let sign := if n < 0 then "-" else ""
  let fill (c : Char) (text : String) : String :=
    String.ofList (List.replicate (numbering.width - text.length) c)
  match numbering.format with
  | "ln" => sign ++ digits ++ fill ' ' (sign ++ digits)
  | "rz" => sign ++ fill '0' (sign ++ digits) ++ digits
  | _ => fill ' ' (sign ++ digits) ++ sign ++ digits

def pagePart? (line : Bytes) : Option Nat :=
  let mark : Bytes := [92, 58]
  if line == mark ++ mark ++ mark then some 0
  else if line == mark ++ mark then some 1
  else if line == mark then some 2
  else none

/-- Numbers lines: the part of a page they are in, the next number, and how many empty lines came
last. -/
def Numbering.shown (numbering : Numbering) : Nat → Int → Nat → List Bytes → List Bytes
  | _, _, _, [] => []
  | part, n, empty, line :: rest =>
      match pagePart? line with
      | some next =>
          let restarts := next = 0 && !numbering.goesOn
          [] :: numbering.shown next (if restarts then numbering.first else n) 0 rest
      | none =>
          let empty := if line.isEmpty then empty + 1 else 0
          let counts := match numbering.styles.getD part 'n' with
            | 'a' => !line.isEmpty || empty % numbering.joined == 0
            | 't' => !line.isEmpty
            | _ => false
          if counts then
            (Text.octets (numbering.number n ++ numbering.separator) ++ line) ::
              numbering.shown part (n + numbering.step) (if line.isEmpty then 0 else empty) rest
          else
            (List.replicate (numbering.width + numbering.separator.length) 32 ++ line) ::
              numbering.shown part n empty rest

def numberingOf (options : Options) : Except String Numbering := do
  let style (letter usual : Char) (part : String) : Except String Char :=
    match options.value? letter with
    | none => .ok usual
    | some text =>
        match text.toList with
        | [c] => if ['a', 't', 'n'].contains c then .ok c
            else .error ("invalid " ++ part ++ " numbering style: " ++ cited text)
        | _ => .error ("invalid " ++ part ++ " numbering style: " ++ cited text)
  let header ← style 'h' 'n' "header"
  let body ← style 'b' 't' "body"
  let footer ← style 'f' 'n' "footer"
  let number (letter : Char) (usual : Int) (name : String) : Except String Int :=
    match options.value? letter with
    | none => .ok usual
    | some text =>
        match integer? text with
        | some n => .ok n
        | none => .error ("invalid " ++ name ++ ": " ++ cited text)
  let first ← number 'v' 1 "starting line number"
  let step ← number 'i' 1 "line number increment"
  let joined ← number 'l' 1 "line number of blank lines"
  let width ← number 'w' 6 "line number field width"
  let format := (options.value? 'n').getD "rn"
  if !(["ln", "rn", "rz"].contains format) then
    throw ("invalid line numbering format: " ++ cited format)
  return ⟨[header, body, footer], width.toNat, (options.value? 's').getD "\t", format, step, first,
    options.has 'p', max 1 joined.toNat⟩

def nl (frame : Frame) : Work Ending :=
  withOptions frame "b:d:f:h:i:l:n:ps:v:w:"
      [("body-numbering=", 'b'), ("footer-numbering=", 'f'), ("header-numbering=", 'h'),
        ("line-increment=", 'i'), ("join-blank-lines=", 'l'), ("number-format=", 'n'),
        ("no-renumber", 'p'), ("number-separator=", 's'), ("starting-line-number=", 'v'),
        ("number-width=", 'w'), ("section-delimiter=", 'd')] fun options => do
    match numberingOf options with
    | .error problem => frame.misused problem
    | .ok numbering =>
        let mut all : List Bytes := []
        let mut fine := true
        for operand in operandsOr options.operands do
          match ← sourceOr frame operand (about operand) with
          | some bytes => all := all ++ linesOf bytes
          | none => fine := false
        frame.put (unlines (numbering.shown 1 numbering.first 0 all))
        return ofBool fine

end LifecycleHooks.Tool
