import LifecycleHooks.Number.Double
import LifecycleHooks.Text.Octets

/-!
The numbers that arguments of formats stand for. What is no number counts as zero, and what only
begins like one counts as far as it does.
-/

namespace LifecycleHooks.Shell.Numeral

inductive Misfit
  | noNumber
  | incomplete
  | outOfRange
  deriving DecidableEq

def isOctal (c : Char) : Bool := '0' ≤ c && c ≤ '7'

def hexValue? (c : Char) : Option Nat :=
  if c.isDigit then some (c.toNat - 48)
  else if 'a' ≤ c && c ≤ 'f' then some (c.toNat - 87)
  else if 'A' ≤ c && c ≤ 'F' then some (c.toNat - 55)
  else none

def ofDigits (base : Nat) (digits : List Char) : Nat :=
  digits.foldl (fun n c => n * base + (hexValue? c).getD 0) 0

def isBlank (c : Char) : Bool := [' ', '\t', '\n', '\x0b', '\x0c', '\r'].contains c

def signed (chars : List Char) : Bool × List Char :=
  match chars.dropWhile isBlank with
  | '-' :: rest => (true, rest)
  | '+' :: rest => (false, rest)
  | chars => (false, chars)

def quotedByte? (text : String) : Option Nat :=
  match text.toList with
  | c :: rest =>
      if c == '"' || c == '\'' then
        some (((Text.octets (String.ofList rest)).head?.map UInt8.toNat).getD 0)
      else none
  | [] => none

def misfitOf (text : String) (found : Bool) (rest : List Char) (inRange : Bool) : Option Misfit :=
  if !found then (if text.isEmpty then none else some .noNumber)
  else if !rest.isEmpty then some .incomplete
  else if !inRange then some .outOfRange
  else none

def whole (low high : Int) (text : String) : Int × Option Misfit :=
  match quotedByte? text with
  | some n => (n, none)
  | none =>
      let (negative, chars) := signed text.toList
      let hexadecimal : Bool := match chars with
        | '0' :: x :: c :: _ => (x == 'x' || x == 'X') && (hexValue? c).isSome
        | _ => false
      let chars := if hexadecimal then chars.drop 2 else chars
      let (base, digits) : Nat × List Char :=
        if hexadecimal then (16, chars.takeWhile fun c => (hexValue? c).isSome)
        else if chars.head? == some '0' then (8, chars.takeWhile isOctal)
        else (10, chars.takeWhile Char.isDigit)
      let magnitude := ofDigits base digits
      let n : Int := if negative then -(magnitude : Int) else magnitude
      (max low (min high n), misfitOf text (!digits.isEmpty) (chars.drop digits.length)
        (low ≤ n && n ≤ high))

def realFormat (extended : Bool) : Double.Precision × Int :=
  if extended then (Double.extended, 5000) else (Double.precision, 400)

inductive Real
  | finite (value : Double)
  | infinite (negative : Bool)
  | undefined (negative : Bool)

def lowerPrefix (word : String) (chars : List Char) : Bool :=
  word.toList.isPrefixOf (chars.map Char.toLower)

def powerIn (chars : List Char) : Int × Nat :=
  match chars with
  | e :: rest =>
      let (negative, digits) : Bool × List Char := match rest with
        | '-' :: digits => (true, digits)
        | '+' :: digits => (false, digits)
        | digits => (false, digits)
      let shown := digits.takeWhile Char.isDigit
      if (e == 'e' || e == 'E') && !shown.isEmpty then
        let n : Int := min (ofDigits 10 shown) 100000
        (if negative then -n else n, chars.length - digits.length + shown.length)
      else (0, 0)
  | [] => (0, 0)

def real (extended : Bool) (text : String) : Real × Option Misfit :=
  match quotedByte? text with
  | some n => (((Double.ofInt n).map Real.finite).getD (.infinite false), none)
  | none =>
      let (negative, chars) := signed text.toList
      if lowerPrefix "infinity" chars then
        (.infinite negative, misfitOf text true (chars.drop 8) true)
      else if lowerPrefix "inf" chars then
        (.infinite negative, misfitOf text true (chars.drop 3) true)
      else if lowerPrefix "nan" chars then
        (.undefined negative, misfitOf text true (chars.drop 3) true)
      else
        let front := chars.takeWhile Char.isDigit
        let rest := chars.drop front.length
        let fraction := match rest with
          | '.' :: digits => digits.takeWhile Char.isDigit
          | _ => []
        let found := !front.isEmpty || !fraction.isEmpty
        let rest := if found && rest.head? == some '.' then rest.drop (fraction.length + 1) else rest
        let (power, used) := if found then powerIn rest else (0, 0)
        let digits := ofDigits 10 (front ++ fraction)
        let (format, limit) := realFormat extended
        match Double.ofDecimalIn format limit (negative && found) digits (power - fraction.length) with
        | some value =>
            (.finite value, misfitOf text found (rest.drop used) (digits == 0 || !value.isZero))
        | none => (.infinite negative, misfitOf text found (rest.drop used) false)

end LifecycleHooks.Shell.Numeral
