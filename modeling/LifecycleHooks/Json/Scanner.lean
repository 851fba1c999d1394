import LifecycleHooks.Json.Token

/-!
Strict JSON text as tokens. Whole numbers of 64 bits are kept exactly; all others become doubles,
from as many leading digits as fit 64 bits, scaled by a power of ten.
-/

namespace LifecycleHooks

def greatestWhole : Nat := 0xffffffffffffffff

def fitsWhole (value : Int) : Bool := -0x8000000000000000 ≤ value && value ≤ greatestWhole

namespace Double

/-- A double divided by `10 ^ 308` as long as the power of ten that is left is too small for one
step. -/
def shrink : Nat → Double → Int → Option Double
  | 0, x, _ => some (zero x.negative)
  | steps + 1, x, power =>
      if -308 ≤ power then
        (ofDecimal false 1 (-power)).bind x.divide
      else if x.isZero then some x
      else
        match (ofDecimal false 1 308).bind x.divide with
        | some smaller => shrink steps smaller (power + 308)
        | none => none

/-- `significand * 10 ^ power` by rounding the significand and then the product or quotient. -/
def scale (negative : Bool) (significand : Nat) (power : Int) : Option Double :=
  match nearest negative significand 1 with
  | none => none
  | some x =>
      if power < 0 then shrink 4 x power
      else if power ≤ 308 then (ofDecimal false 1 power).bind x.times
      else if x.isZero then some x
      else none

end Double

namespace Json

def isGap (c : Char) : Bool := c == ' ' || c == '\n' || c == '\t' || c == '\r'

def shortEscape? : Char → Option Char
  | '"' => some '"'
  | '\\' => some '\\'
  | '/' => some '/'
  | 'b' => some '\x08'
  | 'f' => some '\x0c'
  | 'n' => some '\n'
  | 'r' => some '\r'
  | 't' => some '\t'
  | _ => none

def escape : List Char → Except Fault (Char × List Char)
  | [] => .error .ended
  | c :: rest =>
      if c = 'u' then unicodeEscape rest
      else
        match shortEscape? c with
        | some e => .ok (e, rest)
        | none => .error .malformed

theorem escape_length {chars rest : List Char} {c : Char}
    (read : escape chars = .ok (c, rest)) : rest.length < chars.length := by
  cases chars with
  | nil => simp [escape] at read
  | cons first others =>
      simp only [escape] at read
      split at read
      · have shorter := unicodeEscape_length read
        simp only [List.length_cons]
        omega
      · split at read
        · simp only [Except.ok.injEq, Prod.mk.injEq] at read
          obtain ⟨-, rfl⟩ := read
          simp
        · simp at read

def textBody (chars : List Char) : Except Fault (List Char × List Char) :=
  match chars with
  | [] => .error .ended
  | c :: rest =>
      if c = '"' then .ok ([], rest)
      else if c = '\\' then
        match _found : escape rest with
        | .error fault => .error fault
        | .ok (e, rest) =>
            match textBody rest with
            | .error fault => .error fault
            | .ok (others, rest) => .ok (e :: others, rest)
      else if c.toNat < 32 then .error .malformed
      else
        match textBody rest with
        | .error fault => .error fault
        | .ok (others, rest) => .ok (c :: others, rest)
termination_by chars.length
decreasing_by
  · have shorter := escape_length _found
    simp only [List.length_cons]
    omega
  · simp

theorem textBody_length {chars body rest : List Char}
    (read : textBody chars = .ok (body, rest)) : rest.length < chars.length := by
  fun_induction textBody chars generalizing body rest with
  | case1 => simp at read
  | case2 => simp at read; simp [read.2]
  | case3 => simp at read
  | case4 => simp at read
  | case5 =>
      rename_i found _ _ again _ ih
      simp only [Except.ok.injEq, Prod.mk.injEq] at read
      obtain ⟨-, rfl⟩ := read
      have shorter := escape_length found
      have shorterStill := ih again
      simp only [List.length_cons]
      omega
  | case6 => simp at read
  | case7 => simp at read
  | case8 _ rest' _ _ _ _ _ again ih =>
      simp only [Except.ok.injEq, Prod.mk.injEq] at read
      obtain ⟨-, rfl⟩ := read
      have shorter := ih again
      simp only [List.length_cons]
      omega

/-- Appends digits to a significand as long as it has 64 bits; counts the digits taken. -/
def absorb (significand : Nat) : List Char → Nat × Nat
  | [] => (significand, 0)
  | c :: rest =>
      let longer := significand * 10 + digitValue c
      if greatestWhole < longer then (significand, 0)
      else
        let (final, taken) := absorb longer rest
        (final, taken + 1)

structure Literal where
  negative : Bool
  whole : List Char
  fraction : Option (List Char)
  power : Option Int

/-- A literal of digits alone is a whole number if it fits; minus zero is a double. -/
def Literal.value? (literal : Literal) : Option Number :=
  let magnitude := natOfDigits literal.whole
  let exact : Int := if literal.negative then -(magnitude : Int) else magnitude
  if literal.fraction.isNone && literal.power.isNone && fitsWhole exact &&
      !(literal.negative && magnitude == 0) then
    some (.whole exact)
  else
    let (significand, taken) := absorb 0 literal.whole
    let dropped : Int := literal.whole.length - taken
    let (significand, places) := absorb significand (literal.fraction.getD [])
    let power := dropped - places + literal.power.getD 0
    (Double.scale literal.negative significand power).map .double

def someDigits (chars : List Char) : Except Fault (List Char × List Char) :=
  let digits := chars.takeWhile isDigit
  let rest := chars.dropWhile isDigit
  if digits.isEmpty then .error (faultAt rest) else .ok (digits, rest)

def wholeDigits (chars : List Char) : Except Fault (List Char × List Char) :=
  match someDigits chars with
  | .error fault => .error fault
  | .ok (digits, rest) =>
      if digits.head? = some '0' ∧ 1 < digits.length then .error .malformed else .ok (digits, rest)

def fractionDigits (chars : List Char) : Except Fault (Option (List Char) × List Char) :=
  match chars with
  | '.' :: rest =>
      match someDigits rest with
      | .error fault => .error fault
      | .ok (digits, rest) => .ok (some digits, rest)
  | _ => .ok (none, chars)

def withoutSign : List Char → Bool × List Char
  | '-' :: rest => (true, rest)
  | '+' :: rest => (false, rest)
  | chars => (false, chars)

def powerPart (chars : List Char) : Except Fault (Option Int × List Char) :=
  match chars with
  | [] => .ok (none, [])
  | c :: rest =>
      if c = 'e' ∨ c = 'E' then
        let (negative, rest) := withoutSign rest
        match someDigits rest with
        | .error fault => .error fault
        | .ok (digits, rest) =>
            let power : Int := natOfDigits digits
            .ok (some (if negative then -power else power), rest)
      else .ok (none, c :: rest)

def numberLiteral (negative : Bool) (chars : List Char) : Except Fault (Number × List Char) :=
  match wholeDigits chars with
  | .error fault => .error fault
  | .ok (whole, rest) =>
      match fractionDigits rest with
      | .error fault => .error fault
      | .ok (fraction, rest) =>
          match powerPart rest with
          | .error fault => .error fault
          | .ok (power, rest) =>
              match (Literal.mk negative whole fraction power).value? with
              | some value => .ok (value, rest)
              | none => .error .malformed

def expect : List Char → List Char → Except Fault (List Char)
  | [], chars => .ok chars
  | _ :: _, [] => .error .ended
  | e :: expected, c :: chars => if e = c then expect expected chars else .error .malformed

def wordToken (name : String) (tail chars : List Char) : Token × List Char :=
  match expect tail chars with
  | .ok rest => (.word name false, rest)
  | .error fault => (.bad fault, [])

def numberToken (negative : Bool) (chars : List Char) : Token × List Char :=
  match numberLiteral negative chars with
  | .ok (value, rest) => (.number (some value), rest)
  | .error fault => (.bad fault, [])

def textToken (chars : List Char) : Token × List Char :=
  match textBody chars with
  | .ok (body, rest) => (.text (String.ofList body), rest)
  | .error fault => (.badText fault, [])

def tokenFrom (c : Char) (rest : List Char) : Token × List Char :=
  if c = '"' then textToken rest
  else if c = '-' then numberToken true rest
  else if isDigit c then numberToken false (c :: rest)
  else if c = 't' then wordToken "true" ['r', 'u', 'e'] rest
  else if c = 'f' then wordToken "false" ['a', 'l', 's', 'e'] rest
  else if c = 'n' then wordToken "null" ['u', 'l', 'l'] rest
  else (.bad .malformed, [])

def scan : List Char → Option (Token × List Char)
  | [] => none
  | c :: rest =>
      if isGap c then scan rest
      else
        match punctuation? c with
        | some token => some (token, rest)
        | none => some (tokenFrom c rest)

theorem someDigits_length {chars digits rest : List Char}
    (found : someDigits chars = .ok (digits, rest)) : rest.length < chars.length := by
  simp only [someDigits] at found
  split at found
  · simp at found
  · rename_i notEmpty
    simp only [Except.ok.injEq, Prod.mk.injEq] at found
    obtain ⟨-, rfl⟩ := found
    cases chars with
    | nil => simp at notEmpty
    | cons c others =>
        by_cases digit : isDigit c = true
        · have bound := (List.dropWhile_sublist (l := others) isDigit).length_le
          simp only [List.dropWhile, digit, List.length_cons]
          omega
        · simp [List.takeWhile, digit] at notEmpty

theorem wholeDigits_length {chars digits rest : List Char}
    (found : wholeDigits chars = .ok (digits, rest)) : rest.length < chars.length := by
  simp only [wholeDigits] at found
  split at found
  · simp at found
  · rename_i inner
    split at found
    · simp at found
    · simp only [Except.ok.injEq, Prod.mk.injEq] at found
      obtain ⟨rfl, rfl⟩ := found
      exact someDigits_length inner

theorem fractionDigits_length {chars rest : List Char} {digits : Option (List Char)}
    (found : fractionDigits chars = .ok (digits, rest)) : rest.length ≤ chars.length := by
  unfold fractionDigits at found
  split at found
  · split at found
    · simp at found
    · rename_i inner
      simp only [Except.ok.injEq, Prod.mk.injEq] at found
      obtain ⟨-, rfl⟩ := found
      have shorter := someDigits_length inner
      simp only [List.length_cons]
      omega
  · simp only [Except.ok.injEq, Prod.mk.injEq] at found
    simp [found.2]

theorem withoutSign_length (chars : List Char) :
    (withoutSign chars).2.length ≤ chars.length := by
  unfold withoutSign
  split <;> simp

theorem powerPart_length {chars rest : List Char} {power : Option Int}
    (found : powerPart chars = .ok (power, rest)) : rest.length ≤ chars.length := by
  unfold powerPart at found
  split at found
  · simp only [Except.ok.injEq, Prod.mk.injEq] at found
    simp [← found.2]
  · rename_i c others
    split at found
    · simp only at found
      split at found
      · simp at found
      · rename_i inner
        simp only [Except.ok.injEq, Prod.mk.injEq] at found
        obtain ⟨-, rfl⟩ := found
        have shorter := someDigits_length inner
        have unsigned := withoutSign_length others
        simp only [List.length_cons]
        omega
    · simp only [Except.ok.injEq, Prod.mk.injEq] at found
      simp [← found.2]

theorem numberLiteral_length {negative : Bool} {chars rest : List Char} {value : Number}
    (found : numberLiteral negative chars = .ok (value, rest)) :
    rest.length < chars.length := by
  unfold numberLiteral at found
  split at found
  · simp at found
  · rename_i whole
    split at found
    · simp at found
    · rename_i fraction
      split at found
      · simp at found
      · rename_i power
        split at found
        · simp only [Except.ok.injEq, Prod.mk.injEq] at found
          obtain ⟨-, rfl⟩ := found
          have first := wholeDigits_length whole
          have second := fractionDigits_length fraction
          have third := powerPart_length power
          omega
        · simp at found

theorem expect_length {expected chars rest : List Char}
    (found : expect expected chars = .ok rest) : rest.length ≤ chars.length := by
  induction expected generalizing chars with
  | nil => simp only [expect, Except.ok.injEq] at found; simp [found]
  | cons e expected ih =>
      cases chars with
      | nil => simp [expect] at found
      | cons c chars =>
          simp only [expect] at found
          split at found
          · have shorter := ih found
            simp only [List.length_cons]
            omega
          · simp at found

theorem wordToken_length (name : String) (tail chars : List Char) :
    (wordToken name tail chars).2.length ≤ chars.length := by
  unfold wordToken
  split
  · rename_i found
    exact expect_length found
  · simp

theorem numberToken_length (negative : Bool) (c : Char) (chars : List Char) :
    (numberToken negative (c :: chars)).2.length ≤ chars.length := by
  unfold numberToken
  split
  · rename_i found
    have shorter := numberLiteral_length found
    simp only [List.length_cons] at shorter
    simp only
    omega
  · simp

theorem numberToken_length_le (negative : Bool) (chars : List Char) :
    (numberToken negative chars).2.length ≤ chars.length := by
  cases chars with
  | nil => simp [numberToken, numberLiteral, wholeDigits, someDigits]
  | cons c rest =>
      have shorter := numberToken_length negative c rest
      simp only [List.length_cons]
      omega

theorem textToken_length (chars : List Char) :
    (textToken chars).2.length ≤ chars.length := by
  unfold textToken
  split
  · rename_i found
    exact Nat.le_of_lt (textBody_length found)
  · simp

theorem tokenFrom_length (c : Char) (rest : List Char) :
    (tokenFrom c rest).2.length ≤ rest.length := by
  unfold tokenFrom
  split
  · exact textToken_length rest
  split
  · exact numberToken_length_le true rest
  split
  · exact numberToken_length false c rest
  split
  · exact wordToken_length _ _ rest
  split
  · exact wordToken_length _ _ rest
  split
  · exact wordToken_length _ _ rest
  · simp

theorem scan_length {chars rest : List Char} {token : Token}
    (found : scan chars = some (token, rest)) : rest.length < chars.length := by
  induction chars with
  | nil => simp [scan] at found
  | cons c others ih =>
      simp only [scan] at found
      split at found
      · have shorter := ih found
        simp only [List.length_cons]
        omega
      · split at found
        · simp only [Option.some.injEq, Prod.mk.injEq] at found
          simp [found.2]
        · simp only [Option.some.injEq] at found
          have bound := tokenFrom_length c others
          rw [found] at bound
          exact Nat.lt_succ_of_le bound

def tokens (text : String) : List Token := tokensBy scan scan_length text.toList

end Json

end LifecycleHooks
