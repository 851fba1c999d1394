import LifecycleHooks.Json.Basic

/-!
The tokens of JSON text, and what makes a text unreadable: it ends too early, or it goes wrong
somewhere before its end.
-/

namespace LifecycleHooks.Json

inductive Fault
  | ended
  | malformed
  deriving DecidableEq, Repr

inductive Token
  | openArray
  | closeArray
  | openObject
  | closeObject
  | colon
  | comma
  | text (value : String)
  /-- Nothing stands for a number that is not finite. -/
  | number (value : Option Number)
  /-- An unquoted name; one written with escapes is never a literal. -/
  | word (name : String) (escaped : Bool)
  /-- A text that cannot be read to its end. -/
  | badText (fault : Fault)
  /-- Anything else that is no token. -/
  | bad (fault : Fault)
  deriving DecidableEq, Repr

def punctuation? : Char → Option Token
  | '[' => some .openArray
  | ']' => some .closeArray
  | '\x7b' => some .openObject
  | '\x7d' => some .closeObject
  | ':' => some .colon
  | ',' => some .comma
  | _ => none

def isDigit (c : Char) : Bool := '0' ≤ c && c ≤ '9'

def digitValue (c : Char) : Nat := c.toNat - 48

def hexValue? (c : Char) : Option Nat :=
  if isDigit c then some (c.toNat - 48)
  else if 'a' ≤ c && c ≤ 'f' then some (c.toNat - 87)
  else if 'A' ≤ c && c ≤ 'F' then some (c.toNat - 55)
  else none

def natOfDigits (digits : List Char) : Nat :=
  digits.foldl (fun n c => n * 10 + digitValue c) 0

/-- The fault of a text that stops being readable where `rest` begins. -/
def faultAt (rest : List Char) : Fault := if rest.isEmpty then .ended else .malformed

def isHighSurrogate (unit : Nat) : Bool := 0xd800 ≤ unit && unit ≤ 0xdbff

def isLowSurrogate (unit : Nat) : Bool := 0xdc00 ≤ unit && unit ≤ 0xdfff

def pairChar (high low : Nat) : Char :=
  Char.ofNat (0x10000 + (high - 0xd800) * 0x400 + (low - 0xdc00))

def hexUnit : List Char → Except Fault (Nat × List Char)
  | a :: b :: c :: d :: rest =>
      match hexValue? a, hexValue? b, hexValue? c, hexValue? d with
      | some a, some b, some c, some d => .ok (a * 4096 + b * 256 + c * 16 + d, rest)
      | _, _, _, _ => .error .malformed
  | rest =>
      if 4 ≤ (String.ofList rest).utf8ByteSize then .error .malformed else .error .ended

/-- The character of a `u` escape: one unit, or a pair of surrogates in two escapes. -/
def unicodeEscape (chars : List Char) : Except Fault (Char × List Char) :=
  match hexUnit chars with
  | .error fault => .error fault
  | .ok (unit, rest) =>
      if isLowSurrogate unit then .error .malformed
      else if isHighSurrogate unit then
        match rest with
        | [] => .error .ended
        | ['\\'] => .error .ended
        | '\\' :: 'u' :: rest =>
            match hexUnit rest with
            | .error fault => .error fault
            | .ok (low, rest) =>
                if isLowSurrogate low then .ok (pairChar unit low, rest) else .error .malformed
        | _ => .error .malformed
      else .ok (Char.ofNat unit, rest)

theorem hexUnit_length {chars rest : List Char} {unit : Nat}
    (read : hexUnit chars = .ok (unit, rest)) : rest.length < chars.length := by
  unfold hexUnit at read
  split at read
  · split at read
    · simp only [Except.ok.injEq, Prod.mk.injEq] at read
      obtain ⟨-, rfl⟩ := read
      simp only [List.length_cons]
      omega
    · simp at read
  · split at read <;> simp at read

theorem unicodeEscape_length {chars rest : List Char} {c : Char}
    (read : unicodeEscape chars = .ok (c, rest)) : rest.length < chars.length := by
  unfold unicodeEscape at read
  split at read
  · simp at read
  · rename_i first
    have shorter := hexUnit_length first
    split at read
    · simp at read
    · split at read
      · split at read
        · simp at read
        · simp at read
        · split at read
          · simp at read
          · rename_i second
            have shorterStill := hexUnit_length second
            split at read
            · simp only [Except.ok.injEq, Prod.mk.injEq] at read
              obtain ⟨-, rfl⟩ := read
              simp only [List.length_cons] at shorter
              omega
            · simp at read
        · simp at read
      · simp only [Except.ok.injEq, Prod.mk.injEq] at read
        obtain ⟨-, rfl⟩ := read
        exact shorter

def tokensBy (scan : List Char → Option (Token × List Char))
    (shortens : ∀ {chars rest token}, scan chars = some (token, rest) →
      rest.length < chars.length) (chars : List Char) : List Token :=
  match _found : scan chars with
  | none => []
  | some (token, rest) => token :: tokensBy scan shortens rest
termination_by chars.length
decreasing_by exact shortens _found

end LifecycleHooks.Json
