import LifecycleHooks.Tool.Amount
import LifecycleHooks.Tool.Contents
import LifecycleHooks.Tool.Dumping

/-!
Programs that compare two files byte by byte or, when their lines are sorted, line by line.
-/

namespace LifecycleHooks.Tool.Comparing

open Process Text

structure Difference where
  place : Nat
  line : Nat
  left : UInt8
  right : UInt8

def differences : Nat → Nat → Bytes → Bytes → List Difference
  | place, line, a :: left, b :: right =>
      let rest := differences (place + 1) (if a == 10 then line + 1 else line) left right
      if a == b then rest else ⟨place, line, a, b⟩ :: rest
  | _, _, _, _ => []

def byteText (byte : UInt8) : String :=
  let low (n : Nat) : String :=
    if n < 32 then "^" ++ String.singleton (Char.ofNat (n + 64))
    else if n = 127 then "^?"
    else String.singleton (Char.ofNat n)
  if byte < 128 then low byte.toNat else "M-" ++ low (byte.toNat - 128)

def octalByte (byte : UInt8) : String :=
  Dumping.padStart 3 (String.ofList (Nat.toDigits 8 byte.toNat))

def pairLine (width : Nat) (named : Bool) (difference : Difference) : String :=
  let left := byteText difference.left
  Dumping.padStart width (toString difference.place) ++ " " ++
    (if named then
      octalByte difference.left ++ " " ++ left ++ String.ofList (List.replicate (4 - left.length) ' ') ++
        " " ++ octalByte difference.right ++ " " ++ byteText difference.right
    else octalByte difference.left ++ " " ++ octalByte difference.right) ++ "\n"

def misusedTwice (frame : Frame) (text : String) : Work Ending := do
  frame.complain text
  frame.complain ("Try '" ++ frame.name ++ " --help' for more information.")
  return .exited 2

def endComplaint (listed : Bool) (name : String) (common : Bytes) : String :=
  let lines := (common.filter (· == 10)).length
  "EOF on " ++ name ++
    (if common.isEmpty then " which is empty"
    else
      " after byte " ++ toString common.length ++
        (if listed then ""
        else if common.getLast? == some 10 then ", line " ++ toString lines
        else ", in line " ++ toString (lines + 1)))

def compareBytes (frame : Frame) (options : Options) (left right : String) (skips : Nat × Nat)
    (limit : Option Nat) : Work Ending := do
  let silent := options.has 's'
  let read (name : String) (skip : Nat) : Work (Option Bytes) := do
    match ← source frame name with
    | .ok bytes =>
        let rest := bytes.drop skip
        return some (match limit with
          | some n => rest.take n
          | none => rest)
    | .error e =>
        if !(silent && e = .noSuchFile) then frame.complain (name ++ ": " ++ describe e)
        return none
  match ← read left skips.1 with
  | none => return .exited 2
  | some a =>
      match ← read right skips.2 with
      | none => return .exited 2
      | some b =>
          let found := differences 1 1 a b
          let listed := options.has 'l'
          if silent then return ofBool (found.isEmpty && a.length == b.length)
          else if !found.isEmpty && !listed then
            match found with
            | first :: _ =>
                frame.say (left ++ " " ++ right ++ " differ: " ++
                  (if options.has 'b' then "byte " else "char ") ++ toString first.place ++ ", line " ++
                  toString first.line ++
                  (if options.has 'b' then
                    " is " ++ octalByte first.left ++ " " ++ byteText first.left ++ " " ++
                      octalByte first.right ++ " " ++ byteText first.right
                  else "") ++ "\n")
                return failed
            | [] => return ok
          else
            let common := min a.length b.length
            let width := (toString common).length
            frame.say (String.join (found.map (pairLine width (options.has 'b'))))
            if a.length != b.length then
              frame.complain (endComplaint listed (if a.length < b.length then left else right)
                (a.take common))
            return ofBool (found.isEmpty && a.length == b.length)

def skipsOf? (text : String) : Option (Nat × Nat) :=
  match text.splitOn ":" with
  | [one] => (Amount.parse? one).map fun n => (n, n)
  | [one, two] =>
      match Amount.parse? one, Amount.parse? two with
      | some a, some b => some (a, b)
      | _, _ => none
  | _ => none

def badSkip (text : String) : String :=
  ((text.splitOn ":").find? fun part => (Amount.parse? part).isNone).getD text

def cmp (frame : Frame) : Work Ending :=
  match Grammar.read ⟨"bi:ln:s",
      [("print-bytes", 'b'), ("ignore-initial=", 'i'), ("verbose", 'l'), ("bytes=", 'n'), ("quiet", 's'),
        ("silent", 's')]⟩ true frame.args with
  | .error problem => misusedTwice frame problem
  | .ok options =>
      let skip := (options.value? 'i').map skipsOf?
      let limit := (options.value? 'n').map Amount.parse?
      match options.operands, skip, limit with
      | _, some none, _ =>
          misusedTwice frame ("invalid --ignore-initial value '" ++
            badSkip ((options.value? 'i').getD "") ++ "'")
      | _, _, some none =>
          misusedTwice frame ("invalid --bytes value '" ++ (options.value? 'n').getD "" ++ "'")
      | [], _, _ => misusedTwice frame ("missing operand after '" ++ frame.name ++ "'")
      | left :: rest, skip, limit =>
          if 3 < rest.length then
            misusedTwice frame ("extra operand '" ++ rest.getD 3 "" ++ "'")
          else
            let given := rest.drop 1
            let (a, b) := (skip.bind id).getD (0, 0)
            let a := ((given[0]?).bind Amount.parse?).getD a
            let b := ((given[1]?).bind Amount.parse?).getD b
            compareBytes frame options left (rest.headD "-") (a, b) (limit.bind id)

inductive OrderCheck
  | usual
  | always
  | never
  deriving DecidableEq

/-- A file whose lines are gone through: its number and name, the lines that are left, the two lines
before them, the number of the next line, and whether there was a complaint about its order. -/
structure Reel where
  number : Nat
  name : String
  rest : List Bytes
  last : Option Bytes
  beforeLast : Option Bytes
  line : Nat
  complained : Bool

abbrev DisorderText := Reel → Bytes → String

/-- Goes on to the next line, and looks whether it comes behind the one before; answers whether all is
well. -/
def Reel.advance (frame : Frame) (check : OrderCheck) (unpaired : Bool)
    (isLess : Bytes → Bytes → Bool) (text : DisorderText) (reel : Reel) : Work Reel := do
  let next : Reel :=
    { reel with
      rest := reel.rest.drop 1, last := reel.rest.head?, beforeLast := reel.last, line := reel.line + 1 }
  let pair : Option (Bytes × Bytes) :=
    match next.rest.head?, next.last, next.beforeLast with
    | some line, some before, _ => some (before, line)
    | none, some line, some before => some (before, line)
    | _, _, _ => none
  match pair with
  | none => return next
  | some (before, line) =>
      let looks := check = .always || (check = .usual && unpaired)
      if looks && !next.complained && isLess line before then
        frame.complain (text next line)
        if check = .always then Work.stop failed
        return { next with complained := true }
      else return next

def reelOf (number : Nat) (name : String) (lines : List Bytes) : Reel :=
  ⟨number, name, lines, none, none, 1, false⟩

def commLines (frame : Frame) (check : OrderCheck) (write : Nat → Bytes → Work Unit) :
    Nat → Bool → Reel → Reel → (Nat × Nat × Nat) → Work (Reel × Reel × (Nat × Nat × Nat))
  | 0, _, left, right, totals => return (left, right, totals)
  | fuel + 1, unpaired, left, right, (a, b, c) => do
      let step := fun unpaired reel => Reel.advance frame check unpaired (fun a b => decide (a < b))
        (fun reel _ => "file " ++ toString reel.number ++ " is not in sorted order") reel
      let takeLeft (line : Bytes) : Work (Reel × Reel × (Nat × Nat × Nat)) := do
        write 0 line
        let left ← step true left
        commLines frame check write fuel true left right (a + 1, b, c)
      let takeRight (line : Bytes) : Work (Reel × Reel × (Nat × Nat × Nat)) := do
        write 1 line
        let right ← step true right
        commLines frame check write fuel true left right (a, b + 1, c)
      match left.rest.head?, right.rest.head? with
      | none, none => return (left, right, (a, b, c))
      | some line, none => takeLeft line
      | none, some line => takeRight line
      | some one, some two =>
          if one == two then
            write 2 one
            let left ← step unpaired left
            let right ← step unpaired right
            commLines frame check write fuel unpaired left right (a, b, c + 1)
          else if one < two then takeLeft one
          else takeRight two

def orderCheck (options : Options) : OrderCheck :=
  match options.last? ['O', 'N'] with
  | some 'O' => .always
  | some _ => .never
  | none => .usual

def withTwo (frame : Frame) (operands : List String) (run : String → String → Work Ending) :
    Work Ending :=
  match operands with
  | [] => frame.misused "missing operand"
  | [one] => frame.misused ("missing operand after " ++ cited one)
  | [left, right] => run left right
  | _ :: _ :: extra :: _ => frame.misused ("extra operand " ++ cited extra)

def withBoth (frame : Frame) (left right : String) (run : Bytes → Bytes → Work Ending) : Work Ending := do
  match ← sourceOr frame left fun e => about left e with
  | none => return failed
  | some a =>
      match ← sourceOr frame right fun e => about right e with
      | none => return failed
      | some b => run a b

def comm (frame : Frame) : Work Ending :=
  withOptions frame "123z"
      [("check-order", 'O'), ("nocheck-order", 'N'), ("output-delimiter=", 'd'), ("total", 'T'),
        ("zero-terminated", 'z')] fun options =>
    withTwo frame options.operands fun left right =>
      withBoth frame left right fun a b => do
        let ending : UInt8 := if options.has 'z' then 0 else 10
        let separator := Text.octets ((options.value? 'd').getD "\t")
        let hidden := [options.has '1', options.has '2', options.has '3']
        let write (column : Nat) (line : Bytes) : Work Unit := do
          if !(hidden.getD column false) then
            let indent := ((hidden.take column).filter (!·)).length
            frame.put ((List.replicate indent separator).flatten ++ line ++ [ending])
        let one := partsOf ending a
        let two := partsOf ending b
        let (left, right, (x, y, z)) ← commLines frame (orderCheck options) write
          (one.length + two.length + 1) false (reelOf 1 left one) (reelOf 2 right two) (0, 0, 0)
        if options.has 'T' then
          let glue := (options.value? 'd').getD "\t"
          frame.put (Text.octets (glue.intercalate [toString x, toString y, toString z, "total"]) ++ [ending])
        if left.complained || right.complained then
          frame.complain "input is not in sorted order"
          return failed
        return ok

inductive Column
  | joint
  | field (second : Bool) (number : Nat)
  deriving DecidableEq

structure Joining where
  separator : Option UInt8
  leftField : Nat
  rightField : Nat
  /-- Which files' lines are shown that have no partner. -/
  shown : List Nat
  pairs : Bool
  columns : Option (List Column)
  /-- Columns for as many fields as the first lines have. -/
  wide : Bool
  filler : Bytes
  anyCase : Bool

def splitBlanks (bytes : Bytes) : List Bytes :=
  let isBlank (b : UInt8) : Bool := b == 32 || b == 9
  ((bytes.map fun b => if isBlank b then (32 : UInt8) else b).splitOn 32).filter (!·.isEmpty)

namespace Joining

def fields (joining : Joining) (line : Bytes) : List Bytes :=
  match joining.separator with
  | some byte => line.splitOn byte
  | none => splitBlanks line

def key (joining : Joining) (second : Bool) (line : Bytes) : Bytes :=
  let field := if second then joining.rightField else joining.leftField
  let key := (joining.fields line).getD (field - 1) []
  if joining.anyCase then key.map fun b => if 97 ≤ b && b ≤ 122 then b - 32 else b else key

def joined (joining : Joining) (counts : Nat × Nat) (left right : Option Bytes) : Bytes :=
  let glue : Bytes := [joining.separator.getD 32]
  let fieldsOf (line : Option Bytes) : List Bytes := (line.map joining.fields).getD []
  let (one, two) := (fieldsOf left, fieldsOf right)
  let filled (field : Option Bytes) : Bytes :=
    match field with
    | some [] => joining.filler
    | some bytes => bytes
    | none => joining.filler
  let key := match left with
    | some _ => one[joining.leftField - 1]?
    | none => two[joining.rightField - 1]?
  let others (number : Nat) (fields : List Bytes) : List Bytes :=
    (fields.zipIdx.filter fun entry => entry.2 + 1 != number).map fun entry => filled (some entry.1)
  let padded (count : Nat) (fields : List Bytes) : List Bytes :=
    if joining.wide then (List.range count).map fun i => fields.getD i [] else fields
  let all := match joining.columns with
    | some columns =>
        columns.map fun column =>
          match column with
          | .joint => filled key
          | .field second number => filled ((if second then two else one)[number - 1]?)
    | none =>
        let one := if joining.wide || left.isSome then others joining.leftField (padded counts.1 one) else []
        let two := if joining.wide || right.isSome then others joining.rightField (padded counts.2 two) else []
        filled key :: one ++ two
  glue.intercalate all ++ [10]

end Joining

def takeGroup (step : Reel → Work Reel) (isSame : Bytes → Bool) :
    Nat → List Bytes → Reel → Work (List Bytes × Reel)
  | 0, found, reel => return (found.reverse, reel)
  | fuel + 1, found, reel =>
      match reel.rest.head? with
      | some line =>
          if isSame line then do
            let reel ← step reel
            takeGroup step isSame fuel (line :: found) reel
          else return (found.reverse, reel)
      | none => return (found.reverse, reel)

def joinLines (frame : Frame) (joining : Joining) (check : OrderCheck) (counts : Nat × Nat) :
    Nat → Bool → Reel → Reel → Work (Reel × Reel)
  | 0, _, left, right => return (left, right)
  | fuel + 1, unpaired, left, right => do
      let step (second unpaired : Bool) : Reel → Work Reel :=
        Reel.advance frame check unpaired
          (fun a b => decide (joining.key second a < joining.key second b))
          (fun reel line => reel.name ++ ":" ++ toString reel.line ++ ": is not sorted: " ++
            Text.ofOctets line)
      let alone (second : Bool) (line : Bytes) : Work Unit := do
        if joining.shown.contains (if second then 2 else 1) then
          frame.put (joining.joined counts (if second then none else some line)
            (if second then some line else none))
      match left.rest.head?, right.rest.head? with
      | none, none => return (left, right)
      | some line, none =>
          alone false line
          joinLines frame joining check counts fuel true (← step false true left) right
      | none, some line =>
          alone true line
          joinLines frame joining check counts fuel true left (← step true true right)
      | some one, some two =>
          let a := joining.key false one
          let b := joining.key true two
          if a < b then
            alone false one
            joinLines frame joining check counts fuel true (← step false true left) right
          else if b < a then
            alone true two
            joinLines frame joining check counts fuel true left (← step true true right)
          else
            let (ones, left) ← takeGroup (step false unpaired) (fun line => joining.key false line == a)
              (left.rest.length + 1) [] left
            let (twos, right) ← takeGroup (step true unpaired) (fun line => joining.key true line == a)
              (right.rest.length + 1) [] right
            if joining.pairs then
              frame.put (ones.flatMap fun one => twos.flatMap fun two =>
                joining.joined counts (some one) (some two))
            joinLines frame joining check counts fuel unpaired left right

def columnsOf? (text : String) : Option (List Column) :=
  let pieces := (text.map fun c => if c == ' ' || c == '\t' then ',' else c).splitOn ","
  (pieces.filter (!·.isEmpty)).mapM fun piece =>
    match piece.splitOn "." with
    | ["0"] => some .joint
    | ["1", number] => (natural? number).map (Column.field false)
    | ["2", number] => (natural? number).map (Column.field true)
    | _ => none

def joiningOf (options : Options) : Except String Joining := do
  let field (letter : Char) : Except String (Option Nat) :=
    match (options.value? letter).map fun text => (text, natural? text) with
    | none => .ok none
    | some (text, some n) => if n = 0 then .error ("invalid field number: " ++ cited text) else .ok (some n)
    | some (text, none) => .error ("invalid field number: " ++ cited text)
  let both ← field 'j'
  let one ← field '1'
  let two ← field '2'
  let files (letter : Char) : Except String (List Nat) :=
    (options.values letter).mapM fun text =>
      match natural? text with
      | some 1 => .ok 1
      | some 2 => .ok 2
      | _ => .error ("invalid field number: " ++ cited text)
  let also ← files 'a'
  let only ← files 'v'
  let separator ← match (options.value? 't').map fun text => Text.octets text with
    | none => pure none
    | some [byte] => pure (some byte)
    | some [] => pure (some 10)
    | some [92, 48] => pure (some 0)
    | some bytes => throw ("multi-character tab " ++ cited (Text.ofOctets bytes))
  let columns ← match options.value? 'o' with
    | none => pure none
    | some "auto" => pure none
    | some text =>
        match columnsOf? text with
        | some columns => pure (some columns)
        | none => throw ("invalid field specifier: " ++ cited text)
  return ⟨separator, (one.orElse fun _ => both).getD 1, (two.orElse fun _ => both).getD 1, also ++ only,
    only.isEmpty, columns, options.value? 'o' == some "auto", Text.octets ((options.value? 'e').getD ""),
    options.has 'i'⟩

def join (frame : Frame) : Work Ending :=
  withOptions frame "a:e:i1:2:j:o:t:v:z"
      [("ignore-case", 'i'), ("check-order", 'O'), ("nocheck-order", 'N'), ("header", 'H'),
        ("zero-terminated", 'z')] fun options =>
    match joiningOf options with
    | .error problem => do
        frame.complain problem
        return failed
    | .ok joining =>
        withTwo frame options.operands fun left right =>
          withBoth frame left right fun a b => do
            let one := linesOf a
            let two := linesOf b
            let counts := ((joining.fields (one.headD [])).length, (joining.fields (two.headD [])).length)
            let isHeaded := options.has 'H'
            if isHeaded && !(one.isEmpty && two.isEmpty) then
              frame.put (joining.joined counts one.head? two.head?)
            let skipped := if isHeaded then 1 else 0
            let (left, right) ← joinLines frame joining (orderCheck options) counts
              (one.length + two.length + 1) false (reelOf 1 left (one.drop skipped))
              (reelOf 2 right (two.drop skipped))
            if left.complained || right.complained then
              frame.complain "input is not in sorted order"
              return failed
            return ok

end LifecycleHooks.Tool.Comparing
