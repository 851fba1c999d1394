import LifecycleHooks.Number.Shortest

/-!
Decimals with a given number of places or digits. They are rounded once, from the exact value, and a
half goes to the even neighbour.
-/

namespace LifecycleHooks.Double

/-- Digits with a point in front of the last `places` of them. A point that nothing follows is
written only if `pointed` is set. -/
def withPlaces (pointed : Bool) (places n : Nat) : List Char :=
  let digits := digitChars n
  let digits := zeros (places + 1 - digits.length) ++ digits
  let whole := digits.length - places
  digits.take whole ++ (if places = 0 && !pointed then [] else '.' :: digits.drop whole)

def fixed (x : Double) (pointed : Bool) (places : Nat) : List Char :=
  let (numerator, denominator) := x.ratio
  withPlaces pointed places (divideEven (numerator * Nat.pow 10 places) denominator)

/-- The magnitude rounded to one digit and `places` more, and the power of ten of the first one. -/
def rounded (x : Double) (places : Nat) : Nat × Int :=
  if x.significand = 0 then (0, 0)
  else
    let (numerator, denominator) := x.ratio
    let power := floorLogTen numerator denominator
    let (n, d) := powerOfTen (places - power)
    let digits := divideEven (numerator * n) (denominator * d)
    if digits = Nat.pow 10 (places + 1) then (Nat.pow 10 places, power + 1) else (digits, power)

def powerChars (power : Int) : List Char :=
  let digits := digitChars power.natAbs
  'e' :: (if power < 0 then '-' else '+') :: (zeros (2 - digits.length) ++ digits)

def exponential (x : Double) (pointed : Bool) (places : Nat) : List Char :=
  let (digits, power) := x.rounded places
  withPlaces pointed places digits ++ powerChars power

def trimZeros (chars : List Char) : List Char :=
  if chars.contains '.' then
    let kept := chars.reverse.dropWhile (· == '0')
    (if kept.head? == some '.' then kept.drop 1 else kept).reverse
  else chars

/-- The magnitude with a number of digits: positional unless the first one stands for less than
`1e-4` or the last one for ten or more. -/
def general (x : Double) (pointed : Bool) (digits : Nat) : List Char :=
  let digits := max 1 digits
  let (n, power) := x.rounded (digits - 1)
  let trim (chars : List Char) : List Char := if pointed then chars else trimZeros chars
  if -4 ≤ power ∧ power < digits then trim (x.fixed pointed ((digits : Int) - 1 - power).toNat)
  else trim (withPlaces pointed (digits - 1) n) ++ powerChars power

def hexChar (n : Nat) : Char := if n < 10 then Char.ofNat (48 + n) else Char.ofNat (87 + n)

def hexChars : Nat → Nat → List Char
  | 0, _ => []
  | count + 1, n => hexChars count (n / 16) ++ [hexChar (n % 16)]

/-- The magnitude to the base sixteen with a power of two. The first digit stands for so many bits of a
significand of the format; without a number of places, there are as many as are needed. -/
def hexadecimal (x : Double) (format : Precision) (first : Nat) (pointed : Bool) (places : Option Nat) :
    List Char :=
  let count := (format.bits - first) / 4
  let shift := format.bits - 1 - Nat.log2 x.significand
  let full := x.significand * Nat.pow 2 shift
  let power : Int := if x.significand = 0 then 0 else x.exponent - shift + 4 * count
  let shown := match places with
    | some n => if n < count then divideEven full (Nat.pow 16 (count - n)) else full * Nat.pow 16 (n - count)
    | none => full
  let width := places.getD count
  let digits := hexChars width shown
  let digits := if places.isNone then (digits.reverse.dropWhile (· == '0')).reverse else digits
  ['0', 'x', hexChar (shown / Nat.pow 16 width)] ++
    (if digits.isEmpty && !pointed then [] else '.' :: digits) ++
    'p' :: (if power < 0 then '-' else '+') :: digitChars power.natAbs

end LifecycleHooks.Double
