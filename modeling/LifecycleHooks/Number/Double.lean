/-!
Finite binary floating-point numbers of 64 bits, as a sign, a significand and an exponent, and the
rounding of a quotient to the nearest of them, ties to the even significand.
-/

namespace LifecycleHooks

/-- Stands for `significand * 2 ^ exponent`, negated when `negative` is set; a zero keeps its sign. -/
structure Double where
  negative : Bool
  significand : Nat
  exponent : Int
  deriving DecidableEq, Repr

namespace Double

def leastExponent : Int := -1074

def greatestExponent : Int := 971

def zero (negative : Bool) : Double := ⟨negative, 0, leastExponent⟩

def isZero (x : Double) : Bool := x.significand == 0

/-- The whole number nearest to a quotient, a half going to the even neighbour. -/
def divideEven (numerator denominator : Nat) : Nat :=
  let quotient := numerator / denominator
  let twice := 2 * (numerator % denominator)
  if twice < denominator then quotient
  else if denominator < twice then quotient + 1
  else quotient + quotient % 2

/-- `n * 2 ^ e` as a numerator and a denominator. -/
def scaled (n : Nat) (e : Int) : Nat × Nat :=
  if 0 ≤ e then (n * Nat.pow 2 e.toNat, 1) else (n, Nat.pow 2 (-e).toNat)

/-- The largest `e` with `2 ^ e ≤ numerator / denominator`, for positive arguments. -/
def floorLog (numerator denominator : Nat) : Int :=
  let guess : Int := (Nat.log2 numerator : Int) - (Nat.log2 denominator : Int)
  let (n, d) := scaled denominator guess
  if n ≤ numerator * d then guess else guess - 1

/-- A format of floating-point numbers: how many bits a significand has, and the limits of exponents. -/
structure Precision where
  bits : Nat
  least : Int
  greatest : Int

def precision : Precision := ⟨53, leastExponent, greatestExponent⟩

def extended : Precision := ⟨64, -16445, 16320⟩

/-- The number of a format that is nearest to a quotient, or nothing when its magnitude is too large. -/
def nearestIn (format : Precision) (negative : Bool) (numerator denominator : Nat) : Option Double :=
  if numerator = 0 then some (zero negative)
  else
    let exponent := max (floorLog numerator denominator - (format.bits - 1 : Nat)) format.least
    let (n, d) := scaled denominator exponent
    let significand := divideEven (numerator * d) n
    let (significand, exponent) :=
      if significand = Nat.pow 2 format.bits then (Nat.pow 2 (format.bits - 1), exponent + 1)
      else (significand, exponent)
    if exponent ≤ format.greatest then some ⟨negative, significand, exponent⟩ else none

def nearest (negative : Bool) (numerator denominator : Nat) : Option Double :=
  nearestIn precision negative numerator denominator

def ratio (x : Double) : Nat × Nat := scaled x.significand x.exponent

def ofInt (value : Int) : Option Double := nearest (value < 0) value.natAbs 1

def times (x y : Double) : Option Double :=
  let (a, b) := x.ratio
  let (c, d) := y.ratio
  nearest (x.negative != y.negative) (a * c) (b * d)

def divide (x y : Double) : Option Double :=
  let (a, b) := x.ratio
  let (c, d) := y.ratio
  nearest (x.negative != y.negative) (a * d) (b * c)

/-- `digits * 10 ^ exponent` in a format, rounded once; nothing on overflow. The limit is a power of ten
beyond which there is no number of the format, above and below. -/
def ofDecimalIn (format : Precision) (limit : Int) (negative : Bool) (digits : Nat) (exponent : Int) :
    Option Double :=
  if digits = 0 then some (zero negative)
  else
    let magnitude : Int := (Nat.log2 digits : Int) * 30103 / 100000 + exponent
    if magnitude < -limit then some (zero negative)
    else if limit < magnitude then none
    else if 0 ≤ exponent then nearestIn format negative (digits * Nat.pow 10 exponent.toNat) 1
    else nearestIn format negative digits (Nat.pow 10 (-exponent).toNat)

def ofDecimal (negative : Bool) (digits : Nat) (exponent : Int) : Option Double :=
  ofDecimalIn precision 400 negative digits exponent

end Double

end LifecycleHooks
