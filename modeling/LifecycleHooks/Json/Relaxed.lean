import LifecycleHooks.Json.Reader
import LifecycleHooks.Text.Identifier

/-!
The relaxed form of JSON that people write by hand: comments, commas before closing brackets,
unquoted keys, single quotes, line continuations, hexadecimal numbers, explicit plus signs, bare
decimal points, and names for numbers that are not finite (which read as null).
-/

namespace LifecycleHooks.Json.Relaxed

open LifecycleHooks.Text

def isLineEnd (c : Char) : Bool :=
  c == '\n' || c == '\r' || c.toNat == 0x2028 || c.toNat == 0x2029

/-- The general category Zs beyond the space and the no-break space. -/
def isWideSpace (c : Char) : Bool :=
  let n := c.toNat
  n == 0x1680 || (0x2000 ≤ n && n ≤ 0x200a) || n == 0x202f || n == 0x205f || n == 0x3000

def isGap (c : Char) : Bool :=
  let n := c.toNat
  isLineEnd c || n == 9 || n == 11 || n == 12 || n == 0x20 || n == 0xa0 || n == 0xfeff ||
    isWideSpace c

def behindBlock : List Char → Option (List Char)
  | [] => none
  | '*' :: rest =>
      match rest with
      | '/' :: after => some after
      | _ => behindBlock rest
  | _ :: rest => behindBlock rest

def behindLine (chars : List Char) : List Char := chars.dropWhile fun c => !isLineEnd c

theorem behindBlock_length {chars rest : List Char} (found : behindBlock chars = some rest) :
    rest.length < chars.length := by
  fun_induction behindBlock chars with
  | case1 => simp at found
  | case2 after =>
      simp only [Option.some.injEq] at found
      subst found
      simp only [List.length_cons]
      omega
  | case3 _ _ ih =>
      have shorter := ih found
      simp only [List.length_cons]
      omega
  | case4 _ _ _ ih =>
      have shorter := ih found
      simp only [List.length_cons]
      omega

theorem behindLine_length (chars : List Char) : (behindLine chars).length ≤ chars.length :=
  (List.dropWhile_sublist _).length_le

/-- The text behind blanks and comments; a comment that does not end leaves its slash in front. -/
def skip (chars : List Char) : List Char :=
  match chars with
  | [] => []
  | c :: rest =>
      if isGap c then skip rest
      else if c = '/' then
        match rest with
        | [] => chars
        | d :: after =>
            if d = '/' then skip (behindLine after)
            else if d = '*' then
              match _found : behindBlock after with
              | some later => skip later
              | none => chars
            else chars
      else chars
termination_by chars.length
decreasing_by
  · simp
  · have bound := behindLine_length after
    simp only [List.length_cons]
    omega
  · have bound := behindBlock_length _found
    simp only [List.length_cons]
    omega

theorem skip_length (chars : List Char) : (skip chars).length ≤ chars.length := by
  fun_induction skip chars with
  | case1 => simp
  | case2 _ _ _ ih => simp only [List.length_cons]; omega
  | case3 => simp
  | case4 after _ ih =>
      have bound := behindLine_length after
      simp only [List.length_cons]
      omega
  | case5 =>
      rename_i found _ _ ih
      have bound := behindBlock_length found
      simp only [List.length_cons]
      omega
  | case6 => simp
  | case7 => simp
  | case8 => simp

/-- The rest behind a line end, taking a carriage return and a line feed together. -/
def behindLineEnd (c : Char) (rest : List Char) : List Char :=
  if c = '\r' then
    match rest with
    | '\n' :: after => after
    | _ => rest
  else rest

def plainEscape (c : Char) : Char :=
  if c = 'b' then '\x08'
  else if c = 't' then '\t'
  else if c = 'n' then '\n'
  else if c = 'v' then '\x0b'
  else if c = 'f' then '\x0c'
  else if c = 'r' then '\r'
  else c

/-- What an escape contributes, read behind its backslash: at most one character. -/
def escape (chars : List Char) : Except Fault (List Char × List Char) :=
  match chars with
  | [] => .error .ended
  | c :: rest =>
      if isLineEnd c then .ok ([], behindLineEnd c rest)
      else if c = 'u' then
        match unicodeEscape rest with
        | .ok (e, rest) => .ok ([e], rest)
        | .error fault => .error fault
      else if c = 'x' then
        match rest with
        | a :: b :: rest =>
            match hexValue? a, hexValue? b with
            | some a, some b => .ok ([Char.ofNat (a * 16 + b)], rest)
            | _, _ => .error .malformed
        | _ => .error .ended
      else if c = '0' then
        match rest with
        | d :: _ => if isDigit d then .error .malformed else .ok ([Char.ofNat 0], rest)
        | [] => .ok ([Char.ofNat 0], rest)
      else if isDigit c then .error .malformed
      else .ok ([plainEscape c], rest)

theorem behindLineEnd_length (c : Char) (rest : List Char) :
    (behindLineEnd c rest).length ≤ rest.length := by
  unfold behindLineEnd
  split
  · split <;> simp
  · simp

theorem escape_length {chars given rest : List Char}
    (read : escape chars = .ok (given, rest)) : rest.length < chars.length := by
  unfold escape at read
  split at read
  · simp at read
  · rename_i c others
    split at read
    · simp only [Except.ok.injEq, Prod.mk.injEq] at read
      have bound := behindLineEnd_length c others
      rw [read.2] at bound
      simp only [List.length_cons]
      omega
    split at read
    · split at read
      · rename_i found
        simp only [Except.ok.injEq, Prod.mk.injEq] at read
        obtain ⟨-, rfl⟩ := read
        have shorter := unicodeEscape_length found
        simp only [List.length_cons]
        omega
      · simp at read
    split at read
    · split at read
      · split at read
        · simp only [Except.ok.injEq, Prod.mk.injEq] at read
          obtain ⟨-, rfl⟩ := read
          simp only [List.length_cons]
          omega
        · simp at read
      · simp at read
    split at read
    · split at read
      · split at read
        · simp at read
        · simp only [Except.ok.injEq, Prod.mk.injEq] at read
          simp [read.2]
      · simp only [Except.ok.injEq, Prod.mk.injEq] at read
        simp [read.2]
    split at read
    · simp at read
    · simp only [Except.ok.injEq, Prod.mk.injEq] at read
      simp [read.2]

def textBody (quote : Char) (chars : List Char) : Except Fault (List Char × List Char) :=
  match chars with
  | [] => .error .ended
  | c :: rest =>
      if c = quote then .ok ([], rest)
      else if c = '\\' then
        match _found : escape rest with
        | .error fault => .error fault
        | .ok (given, rest) =>
            match textBody quote rest with
            | .error fault => .error fault
            | .ok (others, rest) => .ok (given ++ others, rest)
      else if c = '\n' ∨ c = '\r' then .error .malformed
      else
        match textBody quote rest with
        | .error fault => .error fault
        | .ok (others, rest) => .ok (c :: others, rest)
termination_by chars.length
decreasing_by
  · have shorter := escape_length _found
    simp only [List.length_cons]
    omega
  · simp

theorem textBody_length {quote : Char} {chars body rest : List Char}
    (read : textBody quote chars = .ok (body, rest)) : rest.length < chars.length := by
  fun_induction textBody quote chars generalizing body rest with
  | case1 => simp at read
  | case2 => simp at read; simp [read.2]
  | case3 => simp at read
  | case4 => simp at read
  | case5 =>
      rename_i found _ _ again _ ih
      simp only [Except.ok.injEq, Prod.mk.injEq] at read
      obtain ⟨-, rfl⟩ := read
      have shorter := escape_length found
      have shorterStill := ih again
      simp only [List.length_cons]
      omega
  | case6 => simp at read
  | case7 => simp at read
  | case8 _ rest' _ _ _ _ _ again ih =>
      simp only [Except.ok.injEq, Prod.mk.injEq] at read
      obtain ⟨-, rfl⟩ := read
      have shorter := ih again
      simp only [List.length_cons]
      omega

/-- The next character of a name, whether it was escaped, and the rest; nothing where the name
ends. -/
def nameChar : List Char → Except Fault (Option (Char × Bool × List Char))
  | [] => .ok none
  | c :: rest =>
      if continuesIdentifier c then .ok (some (c, false, rest))
      else if c = '\\' then
        match rest with
        | 'u' :: rest =>
            match unicodeEscape rest with
            | .error fault => .error fault
            | .ok (e, rest) =>
                if continuesIdentifier e then .ok (some (e, true, rest)) else .error .malformed
        | _ => .error .malformed
      else .ok none

theorem nameChar_length {chars rest : List Char} {c : Char} {escaped : Bool}
    (found : nameChar chars = .ok (some (c, escaped, rest))) : rest.length < chars.length := by
  unfold nameChar at found
  split at found
  · simp at found
  · split at found
    · simp only [Except.ok.injEq, Option.some.injEq, Prod.mk.injEq] at found
      simp [found.2.2]
    split at found
    · split at found
      · split at found
        · simp at found
        · rename_i unit
          split at found
          · simp only [Except.ok.injEq, Option.some.injEq, Prod.mk.injEq] at found
            obtain ⟨-, -, rfl⟩ := found
            have shorter := unicodeEscape_length unit
            simp only [List.length_cons]
            omega
          · simp at found
      · simp at found
    · simp at found

def nameBody (chars : List Char) : Except Fault (List Char × Bool × List Char) :=
  match _found : nameChar chars with
  | .error fault => .error fault
  | .ok none => .ok ([], false, chars)
  | .ok (some (c, escaped, rest)) =>
      match nameBody rest with
      | .error fault => .error fault
      | .ok (others, more, rest) => .ok (c :: others, escaped || more, rest)
termination_by chars.length
decreasing_by exact nameChar_length _found

theorem nameBody_length {chars body rest : List Char} {escaped : Bool}
    (read : nameBody chars = .ok (body, escaped, rest)) :
    rest.length + body.length ≤ chars.length := by
  fun_induction nameBody chars generalizing body escaped rest with
  | case1 => simp at read
  | case2 =>
      simp only [Except.ok.injEq, Prod.mk.injEq] at read
      simp [← read.1, ← read.2.2]
  | case3 => simp at read
  | case4 =>
      rename_i found _ _ _ again ih
      simp only [Except.ok.injEq, Prod.mk.injEq] at read
      obtain ⟨rfl, -, rfl⟩ := read
      have shorter := nameChar_length found
      have shorterStill := ih again
      simp only [List.length_cons]
      omega

def nameToken (chars : List Char) : Token × List Char :=
  match nameBody chars with
  | .error fault => (.bad fault, [])
  | .ok (name, escaped, rest) =>
      match name with
      | c :: _ =>
          if beginsIdentifier c then (.word (String.ofList name) escaped, rest)
          else (.bad .malformed, [])
      | [] => (.bad .malformed, [])

/-- A whole number of 64 bits, else the nearest double; nothing when that is not finite. -/
def exactNumber (value : Int) : Option Number :=
  if fitsWhole value then some (.whole value) else (Double.ofInt value).map .double

def natOfHex (digits : List Char) : Nat :=
  digits.foldl (fun n c => n * 16 + (hexValue? c).getD 0) 0

def withSign (negative : Bool) (n : Nat) : Int := if negative then -(n : Int) else n

/-- Holds of magnitudes beyond the whole numbers of 128 bits with or without a sign. -/
def isTooWide (negative : Bool) (n : Nat) : Bool :=
  if negative then decide (Nat.pow 2 127 < n) else decide (Nat.pow 2 128 ≤ n)

def hexNumber (negative : Bool) (chars : List Char) : Token × List Char :=
  let digits := chars.takeWhile fun c => (hexValue? c).isSome
  let rest := chars.dropWhile fun c => (hexValue? c).isSome
  let n := natOfHex digits
  if digits.isEmpty || isTooWide negative n then (.bad .malformed, [])
  else (.number (exactNumber (withSign negative n)), rest)

def fractionPart : List Char → Option (List Char) × List Char
  | '.' :: rest => (some (rest.takeWhile isDigit), rest.dropWhile isDigit)
  | chars => (none, chars)

def decimalNumber (negative : Bool) (chars : List Char) : Token × List Char :=
  let whole := chars.takeWhile isDigit
  let (fraction, rest) := fractionPart (chars.dropWhile isDigit)
  let places := fraction.getD []
  if (whole.isEmpty ∧ places.isEmpty) ∨ (whole.head? = some '0' ∧ 1 < whole.length) then
    (.bad .malformed, [])
  else
    match powerPart rest with
    | .error fault => (.bad fault, [])
    | .ok (power, rest) =>
        if fraction.isNone ∧ power.isNone then
          (.number (exactNumber (withSign negative (natOfDigits whole))), rest)
        else
          let exponent := power.getD 0 - places.length
          let value := Double.ofDecimal negative (natOfDigits (whole ++ places)) exponent
          (.number (value.map .double), rest)

def unsignedNumber (negative : Bool) (chars : List Char) : Token × List Char :=
  match chars with
  | '0' :: 'x' :: rest => hexNumber negative rest
  | '0' :: 'X' :: rest => hexNumber negative rest
  | _ => decimalNumber negative chars

/-- A sign needs a number directly behind it, which may be one that is not finite. -/
def signedNumber (negative : Bool) (chars : List Char) : Token × List Char :=
  match expect "Infinity".toList chars with
  | .ok rest => (.number none, rest)
  | .error _ =>
      match expect "NaN".toList chars with
      | .ok rest => (.number none, rest)
      | .error _ => unsignedNumber negative chars

def textToken (quote : Char) (chars : List Char) : Token × List Char :=
  match textBody quote chars with
  | .ok (body, rest) => (.text (String.ofList body), rest)
  | .error fault => (.badText fault, [])

theorem nameToken_length (c : Char) (rest : List Char) :
    (nameToken (c :: rest)).2.length ≤ rest.length := by
  unfold nameToken
  split
  · simp
  · rename_i found
    have bound := nameBody_length found
    split
    · split
      · simp only [List.length_cons] at bound
        simp only
        omega
      · simp
    · simp

theorem hexNumber_length (negative : Bool) (chars : List Char) :
    (hexNumber negative chars).2.length ≤ chars.length := by
  simp only [hexNumber]
  split
  · simp
  · exact (List.dropWhile_sublist _).length_le

theorem fractionPart_length (chars : List Char) :
    (fractionPart chars).2.length ≤ chars.length := by
  unfold fractionPart
  split
  · rename_i rest
    have bound := (List.dropWhile_sublist (l := rest) isDigit).length_le
    simp only [List.length_cons]
    omega
  · simp

theorem decimalNumber_length (negative : Bool) (chars : List Char) :
    (decimalNumber negative chars).2.length ≤ chars.length := by
  have first := (List.dropWhile_sublist (l := chars) isDigit).length_le
  have second := fractionPart_length (chars.dropWhile isDigit)
  simp only [decimalNumber]
  split
  · simp
  · split
    · simp
    · rename_i found
      have third := powerPart_length found
      split <;> simp only <;> omega

theorem decimalNumber_length_cons (negative : Bool) (c : Char) (rest : List Char) :
    (decimalNumber negative (c :: rest)).2.length ≤ rest.length := by
  by_cases digit : isDigit c = true
  · have first := (List.dropWhile_sublist (l := rest) isDigit).length_le
    have second := fractionPart_length (rest.dropWhile isDigit)
    simp only [decimalNumber, List.dropWhile, digit]
    split
    · simp
    · split
      · simp
      · rename_i found
        have third := powerPart_length found
        split <;> simp only <;> omega
  · by_cases point : c = '.'
    · subst point
      have first := (List.dropWhile_sublist (l := rest) isDigit).length_le
      simp only [decimalNumber, List.dropWhile, digit, fractionPart]
      split
      · simp
      · split
        · simp
        · rename_i found
          have second := powerPart_length found
          split <;> simp only <;> omega
    · have noFraction : fractionPart (c :: rest) = (none, c :: rest) := by
        unfold fractionPart
        split
        · rename_i same
          simp only [List.cons.injEq] at same
          exact absurd same.1 point
        · rfl
      simp [decimalNumber, List.dropWhile, List.takeWhile, digit, noFraction]

theorem unsignedNumber_length (negative : Bool) (chars : List Char) :
    (unsignedNumber negative chars).2.length ≤ chars.length := by
  unfold unsignedNumber
  split
  · rename_i rest
    have bound := hexNumber_length negative rest
    simp only [List.length_cons]
    omega
  · rename_i rest
    have bound := hexNumber_length negative rest
    simp only [List.length_cons]
    omega
  · exact decimalNumber_length negative chars

theorem unsignedNumber_length_cons (negative : Bool) (c : Char) (rest : List Char) :
    (unsignedNumber negative (c :: rest)).2.length ≤ rest.length := by
  unfold unsignedNumber
  split
  · rename_i after same
    simp only [List.cons.injEq] at same
    obtain ⟨-, rfl⟩ := same
    have bound := hexNumber_length negative after
    simp only [List.length_cons]
    omega
  · rename_i after same
    simp only [List.cons.injEq] at same
    obtain ⟨-, rfl⟩ := same
    have bound := hexNumber_length negative after
    simp only [List.length_cons]
    omega
  · exact decimalNumber_length_cons negative c rest

theorem signedNumber_length (negative : Bool) (chars : List Char) :
    (signedNumber negative chars).2.length ≤ chars.length := by
  unfold signedNumber
  split
  · rename_i found
    exact expect_length found
  · split
    · rename_i found
      exact expect_length found
    · exact unsignedNumber_length negative chars

theorem textToken_length (quote : Char) (chars : List Char) :
    (textToken quote chars).2.length ≤ chars.length := by
  unfold textToken
  split
  · rename_i found
    exact Nat.le_of_lt (textBody_length found)
  · simp

def tokenFrom (c : Char) (rest : List Char) : Token × List Char :=
  if c = '"' ∨ c = '\'' then textToken c rest
  else if c = '-' then signedNumber true rest
  else if c = '+' then signedNumber false rest
  else if isDigit c ∨ c = '.' then unsignedNumber false (c :: rest)
  else nameToken (c :: rest)

theorem tokenFrom_length (c : Char) (rest : List Char) :
    (tokenFrom c rest).2.length ≤ rest.length := by
  unfold tokenFrom
  split
  · exact textToken_length c rest
  split
  · exact signedNumber_length true rest
  split
  · exact signedNumber_length false rest
  split
  · exact unsignedNumber_length_cons false c rest
  · exact nameToken_length c rest

def scan (chars : List Char) : Option (Token × List Char) :=
  match skip chars with
  | [] => none
  | c :: rest =>
      match punctuation? c with
      | some token => some (token, rest)
      | none => some (tokenFrom c rest)

theorem scan_length {chars rest : List Char} {token : Token}
    (found : scan chars = some (token, rest)) : rest.length < chars.length := by
  have bound := skip_length chars
  unfold scan at found
  split at found
  · simp at found
  · rename_i c others skipped
    rw [skipped] at bound
    simp only [List.length_cons] at bound
    split at found
    · simp only [Option.some.injEq, Prod.mk.injEq] at found
      rw [← found.2]
      omega
    · simp only [Option.some.injEq] at found
      have shorter := tokenFrom_length c others
      rw [found] at shorter
      exact Nat.lt_of_le_of_lt shorter (by omega)

def literal? : String → Option Json
  | "Infinity" => some .null
  | "NaN" => some .null
  | name => strictLiteral? name

/-- Relaxed JSON has no limit on nesting. -/
def dialect : Dialect := ⟨none, true, literal?⟩

def parse (text : String) : Except Fault Json :=
  dialect.read (tokensBy scan scan_length text.toList)

end LifecycleHooks.Json.Relaxed
