import LifecycleHooks.Tool.Records.Scanner
import LifecycleHooks.Shell.Format

/-!
The values that programs for records work with: numbers, texts, and texts that were read and count as
numbers if they look like numbers. Tables hold values by texts.
-/

namespace LifecycleHooks.Tool.Records

open Text (Bytes)
open Shell (Numeral.hexValue? Numeral.isBlank Format.Conversion)

inductive Value
  | unset
  | number (value : Float)
  | text (value : String)
  | input (value : String)

def hexadecimalIn (chars : List Char) : Option (Float × Nat) :=
  match chars with
  | '0' :: x :: rest =>
      let digits := rest.takeWhile fun c => (Numeral.hexValue? c).isSome
      if (x == 'x' || x == 'X') && !digits.isEmpty then
        some (Float.ofNat (Shell.Numeral.ofDigits 16 digits), digits.length + 2)
      else none
  | _ => none

def numberAhead (text : String) : Float × List Char :=
  let (negative, chars) := Shell.Numeral.signed text.toList
  match hexadecimalIn chars with
  | some (value, used) => (if negative then -value else value, chars.drop used)
  | none =>
      let used := Records.numberLength chars
      if used = 0 then (0, text.toList)
      else
        let value := Records.numberOf (chars.take used)
        (if negative then -value else value, chars.drop used)

def looksNumeric (text : String) : Bool :=
  let rest := (numberAhead text).2
  rest.length ≠ text.length && rest.all Numeral.isBlank

def exact (x : Float) : Shell.Numeral.Real :=
  match Double.ofFloat? x with
  | some value => .finite value
  | none => if x.isNaN then .undefined true else .infinite (x < 0)

/-- The whole number that a number is cut to. -/
def truncated (x : Float) : Int :=
  match Double.ofFloat? x with
  | none => if x.isNaN then -9223372036854775808 else if x < 0 then -9223372036854775808 else 9223372036854775807
  | some value =>
      let (numerator, denominator) := value.ratio
      let magnitude : Int := (numerator / denominator : Nat)
      if value.negative then -magnitude else magnitude

def isWhole (x : Float) : Bool :=
  match Double.ofFloat? x with
  | none => false
  | some value =>
      let (numerator, denominator) := value.ratio
      numerator % denominator == 0 && numerator / denominator ≤ 18446744073709551615 &&
        !(value.negative && 9223372036854775808 < numerator / denominator)

structure Directive where
  flags : List Char
  width : Option (Option Nat)
  precision : Option (Option Nat)
  letter : Char

def measure (chars : List Char) : Option (Option Nat) × List Char :=
  match chars with
  | '*' :: rest => (some none, rest)
  | _ =>
      let digits := chars.takeWhile Char.isDigit
      if digits.isEmpty then (none, chars)
      else (some (some (Shell.Numeral.ofDigits 10 digits)), chars.drop digits.length)

def directive? (chars : List Char) : Option (Directive × List Char) :=
  let flags := chars.takeWhile ['-', '+', ' ', '#', '0'].contains
  let (width, rest) := measure (chars.drop flags.length)
  let (precision, rest) : Option (Option Nat) × List Char := match rest with
    | '.' :: rest =>
        let (found, rest) := measure rest
        (some (found.getD (some 0)), rest)
    | _ => (none, rest)
  match rest.dropWhile ['l', 'h', 'L', 'q', 'j', 'z', 't'].contains with
  | letter :: rest => some (⟨flags, width, precision, letter⟩, rest)
  | [] => none

def conversionOf (directive : Directive) (width : Option Int) (precision : Option Int) : Format.Conversion :=
  let width := width.getD 0
  { left := directive.flags.contains '-' || width < 0
    zero := directive.flags.contains '0'
    plus := directive.flags.contains '+'
    blank := directive.flags.contains ' '
    alternate := directive.flags.contains '#'
    width := width.natAbs
    precision := precision.bind fun n => if n < 0 then none else some n.toNat
    letter := directive.letter }

def numberChars (conversion : Format.Conversion) (x : Float) : Bytes :=
  if ['d', 'i'].contains conversion.letter then
    let n := truncated x
    let sign := if n < 0 then "-" else if conversion.plus then "+" else if conversion.blank then " " else ""
    Shell.Format.padNumber conversion sign (Shell.Format.digitsOf conversion n.natAbs (toString n.natAbs))
  else if ['u', 'x', 'X', 'o'].contains conversion.letter then
    let n := ((truncated x) % 18446744073709551616).toNat
    let digits := match conversion.letter with
      | 'x' => (if conversion.alternate && n != 0 then "0x" else "") ++ Shell.Format.inBase 16 n
      | 'X' => (if conversion.alternate && n != 0 then "0X" else "") ++ (Shell.Format.inBase 16 n).toUpper
      | 'o' => (if conversion.alternate && n != 0 then "0" else "") ++ Shell.Format.inBase 8 n
      | _ => toString n
    Shell.Format.padNumber conversion "" (Shell.Format.digitsOf conversion n digits)
  else Shell.Format.convertReal false conversion (exact x)

/-- A number as a text: with all its digits if it is whole, else by a format. -/
def numberText (format : String) (x : Float) : String :=
  if isWhole x then toString (truncated x)
  else
    match exact x with
    | .infinite negative => if negative then "-inf" else "inf"
    | .undefined _ => "-nan"
    | .finite _ =>
        match format.toList with
        | '%' :: rest =>
            match directive? rest with
            | some (directive, after) =>
                let fixed (found : Option (Option Nat)) : Option Int := (found.bind id).map Int.ofNat
                Text.ofOctets (numberChars
                  (conversionOf directive (fixed directive.width) (fixed directive.precision)) x) ++
                  String.ofList after
            | none => format
        | _ => format

namespace Value

def toNumber : Value → Float
  | unset => 0
  | number value => value
  | text value => (numberAhead value).1
  | input value => (numberAhead value).1

def toText (format : String) : Value → String
  | unset => ""
  | number value => numberText format value
  | text value => value
  | input value => value

def isTrue : Value → Bool
  | unset => false
  | number value => value != 0
  | text value => !value.isEmpty
  | input value => if looksNumeric value then (numberAhead value).1 != 0 else !value.isEmpty

def asNumber? : Value → Option Float
  | unset => some 0
  | number value => some value
  | text _ => none
  | input value => if looksNumeric value then some (numberAhead value).1 else none

def ofBool (b : Bool) : Value := number (if b then 1 else 0)

/-- How two values compare: as numbers if both are numbers, else as texts. -/
def compare (format : String) (comparison : Comparison) (a b : Value) : Bool :=
  match a.asNumber?, b.asNumber? with
  | some x, some y =>
      match comparison with
      | .less => x < y
      | .lessEqual => x ≤ y
      | .equal => x == y
      | .unequal => x != y
      | .greater => y < x
      | .greaterEqual => y ≤ x
  | _, _ =>
      let x := a.toText format
      let y := b.toText format
      match comparison with
      | .less => decide (x < y)
      | .lessEqual => !decide (y < x)
      | .equal => x == y
      | .unequal => x != y
      | .greater => decide (y < x)
      | .greaterEqual => !decide (x < y)

end Value

/-- A value in a table. One that was put there by a number is not found by texts before the table has
been listed. -/
structure Item where
  key : String
  value : Value
  numbered : Bool

abbrev Table : Type := List Item

namespace Table

def hash (key : String) : Nat :=
  (key.toList.foldl (fun (n : UInt32) c => (n ^^^ c.toNat.toUInt32) * 16777619) 2166136261).toNat

/-- Among how many places items are spread: more, when there are many. -/
def places (count : Nat) : Nat → Nat → Nat
  | 0, size => size
  | fuel + 1, size => if count ≤ 12 * size then size else places count fuel (2 * size)

def spread (size : Nat) (place : Item → Nat) (items : List Item) : List Item :=
  items.mergeSort fun a b => place a % size ≤ place b % size

/-- The table as it is when it is listed: items that were put there by numbers are found by texts from
now on. -/
def listed (table : Table) : Table :=
  let size := places table.length 40 64
  let numbered := spread size (fun item => item.key.toNat?.getD 0) (table.filter Item.numbered)
  let named := table.filter fun item => !item.numbered
  numbered.reverse.map (fun item => { item with numbered := false }) ++ named

def keys (table : Table) : List String :=
  (spread (places table.length 40 64) (fun item => hash item.key) table).map Item.key

def find? (table : Table) (key : String) : Option Item :=
  List.find? (fun item => item.key == key) table

def insert (table : Table) (item : Item) : Table :=
  item :: table.filter fun other => other.key != item.key

def erase (table : Table) (key : String) : Table := table.filter fun item => item.key != key

end Table

end LifecycleHooks.Tool.Records
