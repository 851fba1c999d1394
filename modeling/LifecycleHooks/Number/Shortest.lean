import LifecycleHooks.Number.Double

/-!
The shortest decimal that reads back as a given double, and of those the nearest. For one digit,
two digits and so on the two neighbours of the value on that decimal grid are tried against the
interval of reals that round to the double; the first grid with a hit decides.
-/

namespace LifecycleHooks.Double

structure Decimal where
  digits : Nat
  exponent : Int
  deriving DecidableEq, Repr

/-- The interval of reals that round to a double, in units of `unitNumerator / unitDenominator`:
its two ends and the value itself, the ends belonging to it when `closed`. -/
structure Rounding where
  low : Nat
  value : Nat
  high : Nat
  closed : Bool
  unitNumerator : Nat
  unitDenominator : Nat

/-- The lower neighbour is half as far where the significand is a power of two. -/
def rounding (x : Double) : Rounding :=
  let (numerator, denominator) := scaled 1 (x.exponent - 2)
  let gap := if x.significand = Nat.pow 2 52 ∧ leastExponent < x.exponent then 1 else 2
  ⟨4 * x.significand - gap, 4 * x.significand, 4 * x.significand + 2,
    x.significand % 2 == 0, numerator, denominator⟩

def powerOfTen (k : Int) : Nat × Nat :=
  if 0 ≤ k then (Nat.pow 10 k.toNat, 1) else (1, Nat.pow 10 (-k).toNat)

/-- The largest `k` with `10 ^ k ≤ numerator / denominator`, for positive arguments. -/
def floorLogTen (numerator denominator : Nat) : Int :=
  let atMost (k : Int) : Bool :=
    let (n, d) := powerOfTen k
    n * denominator ≤ numerator * d
  let guess : Int := floorLog numerator denominator * 30103 / 100000
  if atMost (guess + 1) then guess + 1 else if atMost guess then guess else guess - 1

/-- The neighbour of the value on the grid of multiples of `10 ^ k` that reads back, if one does. -/
def gridPoint (r : Rounding) (k : Int) : Option Nat :=
  let (n, d) := powerOfTen k
  let unit := r.unitNumerator * d
  let cell := r.unitDenominator * n
  let inside (point : Nat) : Bool :=
    let p := point * cell
    if r.closed then r.low * unit ≤ p && p ≤ r.high * unit
    else r.low * unit < p && p < r.high * unit
  let below := r.value * unit / cell
  match inside below, inside (below + 1) with
  | true, true =>
      let rest := 2 * (r.value * unit % cell)
      if rest < cell then some below
      else if cell < rest then some (below + 1)
      else some (below + below % 2)
  | true, false => some below
  | false, true => some (below + 1)
  | false, false => none

def firstGridPoint (r : Rounding) (top : Int) : Nat → Nat → Decimal
  | 0, _ => ⟨0, 0⟩
  | tries + 1, digits =>
      let k := top + 1 - (digits : Int)
      match gridPoint r k with
      | some point => ⟨point, k⟩
      | none => firstGridPoint r top tries (digits + 1)

def stripZeros : Nat → Decimal → Decimal
  | 0, x => x
  | fuel + 1, x =>
      if x.digits ≠ 0 ∧ x.digits % 10 = 0 then stripZeros fuel ⟨x.digits / 10, x.exponent + 1⟩
      else x

/-- The decimal with the fewest digits that reads back, without trailing zeros; zero for a zero. -/
def shortest (x : Double) : Decimal :=
  if x.significand = 0 then ⟨0, 0⟩
  else
    let (numerator, denominator) := x.ratio
    stripZeros 20 (firstGridPoint x.rounding (floorLogTen numerator denominator) 18 1)

def digitChars (n : Nat) : List Char := Nat.toDigits 10 n

def zeros (count : Nat) : List Char := List.replicate count '0'

def sign (x : Double) : List Char := if x.negative then ['-'] else []

/-- Positional notation of digits with the point after the first `point` of them. -/
def positional (digits : List Char) (point : Int) : List Char :=
  if point ≤ 0 then '0' :: '.' :: (zeros (-point).toNat ++ digits)
  else
    let whole := point.toNat
    if digits.length ≤ whole then digits ++ zeros (whole - digits.length) ++ ['.', '0']
    else digits.take whole ++ '.' :: digits.drop whole

def scientific (digits : List Char) (power : Int) : List Char :=
  let mantissa :=
    match digits with
    | [] => []
    | [digit] => [digit]
    | digit :: others => digit :: '.' :: others
  mantissa ++ 'e' :: (if power < 0 then '-' else '+') :: digitChars power.natAbs

/-- Positional from `1e-5` to below `1e16`, with a power of ten beyond. -/
def chars (x : Double) : List Char :=
  let decimal := x.shortest
  let digits := digitChars decimal.digits
  let point : Int := decimal.exponent + digits.length
  if x.isZero then x.sign ++ ['0', '.', '0']
  else if -5 < point ∧ point ≤ 16 then x.sign ++ positional digits point
  else x.sign ++ scientific digits (point - 1)

end LifecycleHooks.Double
