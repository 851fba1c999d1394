import LifecycleHooks.Number.Double

/-!
Doubles as the machine has them, by their bits.
-/

namespace LifecycleHooks.Double

def leastNormal : Nat := Nat.pow 2 52

def toBits (x : Double) : Nat :=
  let sign := if x.negative then Nat.pow 2 63 else 0
  if x.significand < leastNormal then sign + x.significand
  else sign + (x.exponent - leastExponent + 1).toNat * leastNormal + (x.significand - leastNormal)

/-- The double that 64 bits stand for; nothing where the exponent is above all others. -/
def ofBits? (bits : Nat) : Option Double :=
  let negative := decide (Nat.pow 2 63 ≤ bits)
  let exponent := bits / leastNormal % 2048
  let fraction := bits % leastNormal
  if exponent = 2047 then none
  else if exponent = 0 then some ⟨negative, fraction, leastExponent⟩
  else some ⟨negative, fraction + leastNormal, leastExponent + exponent - 1⟩

def toFloat (x : Double) : Float := Float.ofBits x.toBits.toUInt64

def ofFloat? (x : Float) : Option Double := ofBits? x.toBits.toNat

end LifecycleHooks.Double
