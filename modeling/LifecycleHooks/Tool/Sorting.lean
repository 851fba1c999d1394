import LifecycleHooks.Tool.Contents
import LifecycleHooks.Tool.Versions

/-!
Lines in order. They are compared by keys, one after the other, and by all their bytes when every key
is the same.
-/

namespace LifecycleHooks.Tool

open Process Text

def compareBytes : Bytes → Bytes → Ordering
  | [], [] => .eq
  | [], _ :: _ => .lt
  | _ :: _, [] => .gt
  | a :: as, b :: bs => (compare a b).then (compareBytes as bs)

def isBlankByte (byte : UInt8) : Bool := byte == 32 || byte == 9

def isDigitByte (byte : UInt8) : Bool := 48 ≤ byte && byte ≤ 57

/-- The decimal in front, as a whole number of units and how many decimal places the unit is below
one; zero if there is none. -/
def leadingDecimal (text : Bytes) : Int × Nat :=
  let text := text.dropWhile isBlankByte
  let (negative, text) : Bool × Bytes := match text with
    | 45 :: rest => (true, rest)
    | _ => (false, text)
  let front := text.takeWhile isDigitByte
  let fraction := match text.drop front.length with
    | 46 :: rest => rest.takeWhile isDigitByte
    | _ => []
  let n := (front ++ fraction).foldl (fun (n : Nat) byte => n * 10 + (byte.toNat - 48)) 0
  (if negative then -(n : Int) else n, fraction.length)

def compareDecimals (a b : Int × Nat) : Ordering :=
  compare (a.1 * Nat.pow 10 b.2) (b.1 * Nat.pow 10 a.2)

def leadingScientific? (text : Bytes) : Option (Int × Int) :=
  let text := text.dropWhile isBlankByte
  let (sign, text) : Int × Bytes := match text with
    | 45 :: rest => (-1, rest)
    | 43 :: rest => (1, rest)
    | _ => (1, text)
  let value (digits : Bytes) : Nat := digits.foldl (fun n byte => n * 10 + (byte.toNat - 48)) 0
  let front := text.takeWhile isDigitByte
  let rest := text.drop front.length
  let (fraction, rest) : Bytes × Bytes := match rest with
    | 46 :: rest => (rest.takeWhile isDigitByte, rest.dropWhile isDigitByte)
    | _ => ([], rest)
  if front.isEmpty && fraction.isEmpty then none
  else
    let power : Int := match rest with
      | letter :: 45 :: digits =>
          if letter == 69 || letter == 101 then -(value (digits.takeWhile isDigitByte) : Int) else 0
      | letter :: 43 :: digits =>
          if letter == 69 || letter == 101 then value (digits.takeWhile isDigitByte) else 0
      | letter :: digits =>
          if letter == 69 || letter == 101 then value (digits.takeWhile isDigitByte) else 0
      | [] => 0
    some (sign * value (front ++ fraction), power - fraction.length)

/-- Numbers in scientific notation in their order; what is no number comes first. -/
def compareScientific (a b : Bytes) : Ordering :=
  match leadingScientific? a, leadingScientific? b with
  | none, none => .eq
  | none, some _ => .lt
  | some _, none => .gt
  | some (m, e), some (n, f) =>
      let low := min e f
      compare (m * Nat.pow 10 (e - low).toNat) (n * Nat.pow 10 (f - low).toNat)

def multipleRank (text : Bytes) : Int :=
  let text := text.dropWhile isBlankByte
  let negative := text.head? == some 45
  let text := if negative then text.drop 1 else text
  let rest := text.dropWhile fun byte => isDigitByte byte || byte == 46
  let letters : Bytes := [75, 77, 71, 84, 80, 69, 90, 89, 82, 81]
  let rank : Int := match rest with
    | byte :: _ =>
        let byte := if byte == 107 then 75 else byte
        if letters.contains byte then (letters.takeWhile (· != byte)).length + 1 else 0
    | [] => 0
  if (leadingDecimal text).1 = 0 then 0 else if negative then -rank else rank

def upperByte (byte : UInt8) : UInt8 := if 97 ≤ byte && byte ≤ 122 then byte - 32 else byte

def months : List String :=
  ["JAN", "FEB", "MAR", "APR", "MAY", "JUN", "JUL", "AUG", "SEP", "OCT", "NOV", "DEC"]

def monthOf (text : Bytes) : Nat :=
  let name := Text.ofOctets (((text.dropWhile isBlankByte).take 3).map upperByte)
  if months.contains name then (months.takeWhile (· != name)).length + 1 else 0

inductive SortKind
  | text
  | decimal
  | scientific
  | multiples
  | month
  | version
  deriving DecidableEq

structure KeyOrder where
  kind : SortKind
  folded : Bool
  counts : UInt8 → Bool
  reversed : Bool

def KeyOrder.ofLetters (letters : List Char) : KeyOrder :=
  let kind : SortKind :=
    if letters.contains 'n' then .decimal
    else if letters.contains 'g' then .scientific
    else if letters.contains 'h' then .multiples
    else if letters.contains 'M' then .month
    else if letters.contains 'V' then .version
    else .text
  let isWord (byte : UInt8) : Bool :=
    isDigitByte byte || isBlankByte byte || Versions.isLetter byte
  ⟨kind, letters.contains 'f', fun byte =>
    (!letters.contains 'd' || isWord byte) &&
      (!letters.contains 'i' || (32 ≤ byte && byte < 127)), letters.contains 'r'⟩

def KeyOrder.compare (order : KeyOrder) (a b : Bytes) : Ordering :=
  let seen (text : Bytes) : Bytes :=
    (text.filter order.counts).map fun byte => if order.folded then upperByte byte else byte
  let found := match order.kind with
    | .text => compareBytes (seen a) (seen b)
    | .decimal => compareDecimals (leadingDecimal a) (leadingDecimal b)
    | .scientific => compareScientific a b
    | .multiples =>
        (Ord.compare (multipleRank a) (multipleRank b)).then
          (compareDecimals (leadingDecimal a) (leadingDecimal b))
    | .month => Ord.compare (monthOf a) (monthOf b)
    | .version => Versions.compare a b
  if order.reversed then found.swap else found

/-- A place in a line: a field and a character in it, perhaps counted from its first one that is not
blank. -/
structure KeyPlace where
  field : Nat
  character : Nat
  skipsBlanks : Bool

/-- A part of a line by which it is compared. Without a finish it goes on to the end of the line. -/
structure SortKey where
  start : KeyPlace
  finish : Option KeyPlace
  order : KeyOrder

/-- What follows a number of fields. Without a separator, a field begins with the blanks in front of
it. -/
def dropFields (separator : Option UInt8) : Nat → Bytes → Bytes
  | 0, text => text
  | count + 1, text =>
      dropFields separator count (match separator with
        | some byte => (text.dropWhile (· != byte)).drop 1
        | none => (text.dropWhile isBlankByte).dropWhile (!isBlankByte ·))

def KeyPlace.rest (place : KeyPlace) (separator : Option UInt8) (line : Bytes) : Bytes :=
  let text := dropFields separator (place.field - 1) line
  if place.skipsBlanks then text.dropWhile isBlankByte else text

def KeyPlace.behind (place : KeyPlace) (separator : Option UInt8) (line : Bytes) : Bytes :=
  if place.character = 0 then
    match separator with
    | some byte => (dropFields separator (place.field - 1) line).dropWhile (· != byte)
    | none => dropFields none place.field line
  else (place.rest separator line).drop place.character

def SortKey.text (key : SortKey) (separator : Option UInt8) (line : Bytes) : Bytes :=
  let text := (key.start.rest separator line).drop (key.start.character - 1)
  match key.finish with
  | none => text
  | some place => text.take (text.length - (place.behind separator line).length)

def numberIn (chars : List Char) : Nat × List Char :=
  let digits := chars.takeWhile Char.isDigit
  (digits.foldl (fun n c => n * 10 + (c.toNat - 48)) 0, chars.drop digits.length)

def keyPlace? (usual : Nat) (chars : List Char) : Option (KeyPlace × List Char) :=
  let (field, rest) := numberIn chars
  let (character, rest) : Nat × List Char := match rest with
    | '.' :: rest => numberIn rest
    | _ => (usual, rest)
  if field = 0 ∨ !(rest.all Char.isAlpha) then none
  else some (⟨field, character, rest.contains 'b'⟩, rest)

def sortKey? (order : KeyOrder) (blanks : Bool) (text : String) : Option SortKey := do
  let front := text.toList.takeWhile (· != ',')
  let back := text.toList.drop (front.length + 1)
  let (start, letters) ← keyPlace? 1 front
  if start.character = 0 then none
  else
    let (finish, more) ←
      if front.length = text.length then some (none, [])
      else (keyPlace? 0 back).map fun (place, more) => (some place, more)
    let letters := letters ++ more
    if letters.isEmpty then
      return ⟨{ start with skipsBlanks := blanks },
        finish.map fun place => { place with skipsBlanks := blanks }, order⟩
    else return ⟨start, finish, KeyOrder.ofLetters letters⟩

structure Sorting where
  separator : Option UInt8
  keys : List SortKey
  /-- Whether lines with the same keys stay as they are; otherwise their bytes decide. -/
  stable : Bool
  reversed : Bool

def Sorting.compareKeys (sorting : Sorting) (a b : Bytes) : Ordering :=
  sorting.keys.foldl (fun found key => found.then
    (key.order.compare (key.text sorting.separator a) (key.text sorting.separator b))) .eq

def Sorting.compare (sorting : Sorting) (a b : Bytes) : Ordering :=
  (sorting.compareKeys a b).then
    (if sorting.stable then .eq
      else if sorting.reversed then compareBytes b a else compareBytes a b)

def runs (same : Bytes → Bytes → Bool) : List Bytes → List (Bytes × Nat)
  | [] => []
  | line :: rest =>
      match runs same rest with
      | (other, n) :: others =>
          if same line other then (line, n + 1) :: others else (line, 1) :: (other, n) :: others
      | [] => [(line, 1)]

def Sorting.sorted (sorting : Sorting) (unique : Bool) (lines : List Bytes) : List Bytes :=
  let sorted := lines.mergeSort fun a b => sorting.compare a b != .gt
  if unique then (runs (fun a b => sorting.compareKeys a b == .eq) sorted).map Prod.fst else sorted

def allSources (frame : Frame) (operands : List String) (complaint : String → SystemError → String) :
    Work (Option Bytes) := do
  let mut all : Bytes := []
  for operand in operandsOr operands do
    match ← sourceOr frame operand (complaint operand) with
    | some bytes => all := all ++ bytes
    | none => return none
  return some all

def sortLetters : List Char := ['n', 'g', 'h', 'M', 'V', 'f', 'd', 'i', 'r']

def sortingOf (options : Options) : Except String Sorting := do
  let order := KeyOrder.ofLetters ((options.given.map Prod.fst).filter sortLetters.contains)
  let keys ← (options.values 'k').mapM fun text =>
    match sortKey? order (options.has 'b') text with
    | some key => .ok key
    | none => .error ("-: invalid field specification " ++ cited text)
  let whole : SortKey := ⟨⟨1, 1, options.has 'b'⟩, none, order⟩
  let separator ← match (options.value? 't').map Text.octets with
    | none => .ok none
    | some [] => .error "empty tab"
    | some [92, 48] => .ok (some 0)
    | some [byte] => .ok (some byte)
    | some _ => .error ("multi-character tab " ++ cited ((options.value? 't').getD ""))
  return ⟨separator, if keys.isEmpty then [whole] else keys, options.has 's' || options.has 'u',
    options.has 'r'⟩

/-- The first line that comes too early, with its number. -/
def Sorting.disorder? (sorting : Sorting) (unique : Bool) : Nat → List Bytes → Option (Nat × Bytes)
  | n, a :: b :: rest =>
      let found := if unique then sorting.compareKeys a b else sorting.compare a b
      if found == .gt || (unique && found == .eq) then some (n + 1, b)
      else sorting.disorder? unique (n + 1) (b :: rest)
  | _, _ => none

def replaceFile (frame : Frame) (target : String) (bytes : Bytes) : Work (Option SystemError) := do
  match ← Work.openRoute frame.pid frame.cwd ⟨target⟩ .writing with
  | .error e => return some e
  | .ok descriptor =>
      let problem ← Work.write frame.pid descriptor bytes
      Work.close frame.pid descriptor
      return problem

def sort (frame : Frame) : Work Ending :=
  withOptions frame "rnubfsghMVRdicCmzk:t:o:S:T:"
      [("reverse", 'r'), ("numeric-sort", 'n'), ("unique", 'u'), ("ignore-leading-blanks", 'b'),
        ("ignore-case", 'f'), ("stable", 's'), ("general-numeric-sort", 'g'),
        ("human-numeric-sort", 'h'), ("month-sort", 'M'), ("version-sort", 'V'),
        ("random-sort", 'R'), ("dictionary-order", 'd'), ("ignore-nonprinting", 'i'), ("check=?", 'c'),
        ("merge", 'm'), ("zero-terminated", 'z'), ("key=", 'k'), ("field-separator=", 't'),
        ("output=", 'o'), ("buffer-size=", 'S'), ("temporary-directory=", 'T')] fun options => do
    let complaint (operand : String) : SystemError → String
      | .isADirectory => "read failed: " ++ about operand (.isADirectory)
      | e => "cannot read: " ++ about operand e
    match sortingOf options with
    | .error problem =>
        frame.complain problem
        return .exited 2
    | .ok sorting =>
        match ← allSources frame options.operands complaint with
        | none => return .exited 2
        | some bytes =>
            let ending : UInt8 := if options.has 'z' then 0 else 10
            let lines := partsOf ending bytes
            let silent := options.has 'C' || ["quiet", "silent"].any (options.values 'c').contains
            if options.has 'c' || options.has 'C' then
              match sorting.disorder? (options.has 'u') 1 lines with
              | none => return ok
              | some (n, line) =>
                  if !silent then
                    frame.complain ((operandsOr options.operands).headD "-" ++ ":" ++ toString n ++
                      ": disorder: " ++ Text.ofOctets line)
                  return failed
            let sorted := (sorting.sorted (options.has 'u') lines).flatMap fun line => line ++ [ending]
            match options.value? 'o' with
            | none =>
                frame.put sorted
                return ok
            | some target =>
                match ← replaceFile frame target sorted with
                | none => return ok
                | some e =>
                    frame.complain ("open failed: " ++ about target e)
                    return .exited 2

end LifecycleHooks.Tool
