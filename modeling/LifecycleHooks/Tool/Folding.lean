import LifecycleHooks.Tool.Contents

/-!
Programs that care about the columns in which the bytes of a line stand: one breaks long lines, one puts
spaces in the place of tabs, and one puts tabs in the place of spaces.
-/

namespace LifecycleHooks.Tool.Folding

open Process Text

def isBlank (byte : UInt8) : Bool := byte == 32 || byte == 9

def columnAfter (countsBytes : Bool) (column : Nat) (byte : UInt8) : Nat :=
  if countsBytes then column + 1
  else if byte == 8 then column - 1
  else if byte == 13 then 0
  else if byte == 9 then (column / 8 + 1) * 8
  else column + 1

def splitAtBlank (line : Bytes) : Option (Bytes × Bytes) :=
  let after := line.takeWhile fun byte => !isBlank byte
  if after.length = line.length then none else some (line.drop after.length, after)

/-- Adds a byte to a line that is written backwards, and breaks the line in front of the byte where it
would become too long. Gives the finished lines, the new line and its column. `fuel` bounds the number
of breaks. -/
def foldByte (countsBytes atBlanks : Bool) (width : Nat) (byte : UInt8) :
    Nat → Bytes → Nat → Bytes × Bytes × Nat
  | 0, line, column => ([], byte :: line, column)
  | fuel + 1, line, column =>
      let next := columnAfter countsBytes column byte
      if next ≤ width then ([], byte :: line, next)
      else
        match if atBlanks then splitAtBlank line else none with
        | some (before, after) =>
            let column := after.reverse.foldl (columnAfter countsBytes) 0
            let (done, line, column) := foldByte countsBytes atBlanks width byte fuel after column
            (before.reverse ++ [10] ++ done, line, column)
        | none =>
            if line.isEmpty then ([], [byte], next)
            else
              let (done, new, column) := foldByte countsBytes atBlanks width byte fuel [] 0
              (line.reverse ++ [10] ++ done, new, column)

def folded (countsBytes atBlanks : Bool) (width : Nat) (bytes : Bytes) : Bytes :=
  let (done, line, _) := bytes.foldl (fun (done, line, column) byte =>
    if byte == 10 then (10 :: (line ++ done), [], 0)
    else
      let (more, line, column) := foldByte countsBytes atBlanks width byte (line.length + 2) line column
      (more.reverse ++ done, line, column)) (([] : Bytes), ([] : Bytes), 0)
  (line ++ done).reverse

/-- Arguments in which a number behind a dash is written as the value of an option. -/
def spellNumber (letter : String) : List String → List String
  | [] => []
  | "--" :: rest => "--" :: rest
  | arg :: rest =>
      match arg.toList with
      | '-' :: c :: more =>
          (if c.isDigit then letter ++ String.ofList (c :: more) else arg) :: spellNumber letter rest
      | _ => arg :: spellNumber letter rest

def fold (frame : Frame) : Work Ending :=
  withOptions { frame with args := spellNumber "-w" frame.args } "bsw:"
      [("bytes", 'b'), ("spaces", 's'), ("width=", 'w')] fun options => do
    let text := (options.value? 'w').getD "80"
    match natural? text with
    | none =>
        frame.complain ("invalid number of columns: " ++ cited text)
        return failed
    | some 0 =>
        frame.complain ("invalid number of columns: " ++ cited text ++ ": " ++ describe (.number 34))
        return failed
    | some width =>
        forEach (operandsOr options.operands) fun operand => do
          match ← sourceOr frame operand (about operand) with
          | some bytes =>
              frame.put (folded (options.has 'b') (options.has 's') width bytes)
              return true
          | none => return false

structure Stops where
  columns : List Nat
  /-- Every so many columns there is another one, counted from the last one where `fromLast` is set. -/
  every : Option Nat
  fromLast : Bool

namespace Stops

def next? (stops : Stops) (column : Nat) : Option Nat :=
  match stops.columns.find? (column < ·), stops.every with
  | some found, _ => some found
  | none, none => none
  | none, some every =>
      let start := if stops.fromLast then stops.columns.getLast?.getD 0 else 0
      some (start + ((column - start) / every + 1) * every)

def isAscending : List Nat → Bool
  | a :: b :: rest => a < b && isAscending (b :: rest)
  | _ => true

/-- Stops as they are written: columns, and perhaps a distance with a mark at the end. A single column is
a distance. -/
def parse (text : String) : Except String Stops := do
  let words := (text.toList.map fun c => if c == ',' || c == '\t' then ' ' else c)
  let words := (String.ofList words).splitOn " " |>.filter (!·.isEmpty)
  let number (word : String) : Except String Nat :=
    match natural? word with
    | some n => .ok n
    | none =>
        let bad := word.toList.dropWhile Char.isDigit
        .error ("tab size contains invalid character(s): " ++ cited (String.ofList bad))
  let read (stops : Stops) (word : String) : Except String Stops :=
    match word.toList with
    | '/' :: digits => do return { stops with every := some (← number (String.ofList digits)) }
    | '+' :: digits => do
        return { stops with every := some (← number (String.ofList digits)), fromLast := true }
    | _ => do return { stops with columns := stops.columns ++ [← number word] }
  let stops ← words.foldlM read ⟨[], none, false⟩
  if stops.columns.contains 0 || stops.every == some 0 then throw "tab size cannot be 0"
  if !isAscending stops.columns then throw "tab sizes must be ascending"
  match stops.columns, stops.every with
  | [], none => return ⟨[], some 8, false⟩
  | [every], none => return ⟨[], some every, false⟩
  | _, _ => return stops

end Stops

/-- A line with spaces in the place of tabs; where not `all` are changed, only those in front. -/
def expandLine (stops : Stops) (all : Bool) : Nat → Bytes → Bytes
  | _, [] => []
  | column, byte :: rest =>
      if byte == 9 then
        let next := (stops.next? column).getD (column + 1)
        List.replicate (next - column) 32 ++ expandLine stops all next rest
      else if !all && byte != 32 then byte :: rest
      else byte :: expandLine stops all (if byte == 8 then column - 1 else column + 1) rest

structure Pending where
  column : Nat
  blanks : Bytes
  /-- Whether the first of them is a single blank right in front of a stop. -/
  single : Bool
  afterBlank : Bool

def Pending.start : Pending := ⟨0, [], false, true⟩

def Pending.shown (pending : Pending) : Bytes :=
  if 1 < pending.blanks.length && pending.single then 9 :: pending.blanks.drop 1 else pending.blanks

def unexpandLine (stops : Stops) (all : Bool) : Pending → Bytes → Bytes
  | pending, [] => pending.shown
  | pending, byte :: rest =>
      if isBlank byte then
        match stops.next? pending.column with
        | none => pending.shown ++ byte :: rest
        | some next =>
            let release (column : Nat) (blanks : Bytes) : Bytes :=
              let kept : Pending := ⟨column, if pending.single then blanks.take 1 else [], pending.single, true⟩
              kept.shown ++ 9 :: unexpandLine stops all ⟨column, [], false, true⟩ rest
            if byte == 9 then
              release next (if pending.blanks.isEmpty then [] else 9 :: pending.blanks.drop 1)
            else
              let column := pending.column + 1
              if pending.afterBlank && column == next then release column (9 :: pending.blanks.drop 1)
              else
                unexpandLine stops all
                  ⟨column, pending.blanks ++ [byte], pending.single || column == next, true⟩ rest
      else
        let column := if byte == 8 then pending.column - 1 else pending.column + 1
        pending.shown ++ byte ::
          (if all then unexpandLine stops all ⟨column, [], false, false⟩ rest else rest)

def changeLines (frame : Frame) (change : Bytes → Bytes) (operands : List String) : Work Ending :=
  forEach (operandsOr operands) fun operand => do
    match ← sourceOr frame operand (about operand) with
    | some bytes =>
        frame.put ([10].intercalate ((separated [10] [] bytes).map change))
        return true
    | none => return false

def withStops (frame : Frame) (options : Options) (run : Stops → Work Ending) : Work Ending := do
  match Stops.parse (",".intercalate (options.values 't')) with
  | .ok stops => run stops
  | .error problem =>
      frame.complain problem
      return failed

def expand (frame : Frame) : Work Ending :=
  withOptions { frame with args := spellNumber "-t" frame.args } "it:"
      [("initial", 'i'), ("tabs=", 't')] fun options =>
    withStops frame options fun stops =>
      changeLines frame (expandLine stops (!options.has 'i') 0) options.operands

def unexpand (frame : Frame) : Work Ending :=
  withOptions { frame with args := spellNumber "-t" frame.args } "at:"
      [("all", 'a'), ("first-only", 'f'), ("tabs=", 't')] fun options =>
    withStops frame options fun stops =>
      let all := (options.has 'a' || options.has 't') && !options.has 'f'
      changeLines frame (unexpandLine stops all Pending.start) options.operands

end LifecycleHooks.Tool.Folding
