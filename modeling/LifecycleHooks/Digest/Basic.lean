import LifecycleHooks.Text.Bytes

/-!
What digests have in common: words from bytes and bytes from words, messages filled up to whole blocks,
and constants from the fractions of roots.
-/

namespace LifecycleHooks.Digest

open Text (Bytes)

/-- The number that bytes stand for, the first one weighing most. -/
def ofBytes (bytes : Bytes) : Nat := bytes.foldl (fun n byte => n * 256 + byte.toNat) 0

def toBytes : Nat → Nat → Bytes
  | 0, _ => []
  | count + 1, n => toBytes count (n / 256) ++ [n.toUInt8]

/-- Pieces of so many bytes; a rest that is too short is left out. `fuel` bounds their number. -/
def pieces (size : Nat) : Nat → Bytes → List Bytes
  | 0, _ => []
  | fuel + 1, bytes =>
      if bytes.length < size then [] else bytes.take size :: pieces size fuel (bytes.drop size)

/-- The pieces of a message, which is one piece and a half long at most, and of all others. -/
def blocks (size : Nat) (bytes : Bytes) : List Bytes := pieces size (bytes.length / size + 1) bytes

/-- A message filled up to whole blocks: a bit, zeros, and the length in so many bytes, written by the
function. -/
def padded (size lengthSize : Nat) (written : Nat → Nat → Bytes) (message : Bytes) : Bytes :=
  let used := (message.length + 1 + lengthSize) % size
  message ++ 128 :: List.replicate ((size - used) % size) 0 ++ written lengthSize (8 * message.length)

def root (power n : Nat) : Nat → Nat → Nat
  | 0, found => found
  | bits + 1, found =>
      let next := found + Nat.pow 2 bits
      root power n bits (if Nat.pow next power ≤ n then next else found)

def rootFraction (power bits n : Nat) : Nat :=
  root power (n * Nat.pow 2 (power * bits)) (bits + 8) 0 % Nat.pow 2 bits

def primes : List Nat :=
  (List.range 410).filter fun n => 2 ≤ n && (List.range n).all fun d => d < 2 || n % d != 0

def hex (bytes : Bytes) : String :=
  let digit (n : Nat) : Char := Char.ofNat (if n < 10 then 48 + n else 87 + n)
  String.ofList (bytes.flatMap fun byte => [digit (byte.toNat / 16), digit (byte.toNat % 16)])

end LifecycleHooks.Digest
