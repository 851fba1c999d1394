/-!
Bytes as text. A strict reading refuses what is not well-formed; a lossy reading puts one replacement
character in the place of every maximal part that begins a character but does not complete it.
-/

namespace LifecycleHooks.Text

abbrev Bytes := List UInt8

/-- The bytes that may follow a lead byte directly, and how many bytes follow in all. -/
def followers (lead : Nat) : Option (Nat × Nat × Nat) :=
  if 0xc2 ≤ lead ∧ lead ≤ 0xdf then some (1, 0x80, 0xbf)
  else if lead = 0xe0 then some (2, 0xa0, 0xbf)
  else if lead = 0xed then some (2, 0x80, 0x9f)
  else if 0xe1 ≤ lead ∧ lead ≤ 0xef then some (2, 0x80, 0xbf)
  else if lead = 0xf0 then some (3, 0x90, 0xbf)
  else if 0xf1 ≤ lead ∧ lead ≤ 0xf3 then some (3, 0x80, 0xbf)
  else if lead = 0xf4 then some (3, 0x80, 0x8f)
  else none

def leadBits (count lead : Nat) : Nat := lead % Nat.pow 2 (6 - count)

/-- A character still being read: its bits so far, how many bytes it lacks, and the range of the
next one. -/
structure Unfinished where
  bits : Nat
  missing : Nat
  low : Nat
  high : Nat

inductive Piece
  | character (c : Char)
  | invalid
  deriving DecidableEq

def Piece.shown : Piece → Char
  | .character c => c
  | .invalid => Char.ofNat 0xfffd

def Piece.valid? : Piece → Option Char
  | .character c => some c
  | .invalid => none

def beginPiece (byte : Nat) : List Piece × Option Unfinished :=
  if byte < 0x80 then ([.character (Char.ofNat byte)], none)
  else
    match followers byte with
    | none => ([.invalid], none)
    | some (count, low, high) => ([], some ⟨leadBits count byte, count, low, high⟩)

def pieces : Option Unfinished → Bytes → List Piece
  | none, [] => []
  | some _, [] => [.invalid]
  | none, byte :: rest =>
      let (done, open?) := beginPiece byte.toNat
      done ++ pieces open? rest
  | some unfinished, byte :: rest =>
      let n := byte.toNat
      if unfinished.low ≤ n ∧ n ≤ unfinished.high then
        let bits := unfinished.bits * 64 + n % 64
        if unfinished.missing ≤ 1 then .character (Char.ofNat bits) :: pieces none rest
        else pieces (some ⟨bits, unfinished.missing - 1, 0x80, 0xbf⟩) rest
      else
        let (done, open?) := beginPiece n
        .invalid :: (done ++ pieces open? rest)

/-- Every invalid part becomes U+FFFD. -/
def decodeLossy (bytes : Bytes) : String :=
  String.ofList ((pieces none bytes).map Piece.shown)

def decode? (bytes : Bytes) : Option String :=
  ((pieces none bytes).mapM Piece.valid?).map String.ofList

def encode (text : String) : Bytes := text.toUTF8.toList

end LifecycleHooks.Text
