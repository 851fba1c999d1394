import LifecycleHooks.Json.Printer
import LifecycleHooks.Json.Reader

/-!
What is printed is scanned again: texts with all their escapes, the three words, and whole numbers of
64 bits are read as the tokens they were printed for, whatever may stand behind them.
-/

namespace LifecycleHooks.Json

/-! Texts. -/

theorem hexValue?_digitChar {n : Nat} (small : n < 16) : hexValue? n.digitChar = some n := by
  have all : ∀ digit : Fin 16, hexValue? digit.val.digitChar = some digit.val := by decide
  exact all ⟨n, small⟩

theorem hexUnit_fourHex {n : Nat} (small : n < 65536) (rest : List Char) :
    hexUnit (fourHex n ++ rest) = .ok (n, rest) := by
  have digit (m : Nat) : hexValue? (m % 16).digitChar = some (m % 16) :=
    hexValue?_digitChar (Nat.mod_lt m (by decide))
  have sum : n / 4096 % 16 * 4096 + n / 256 % 16 * 256 + n / 16 % 16 * 16 + n % 16 = n := by omega
  simp only [fourHex, List.map_cons, List.map_nil, List.cons_append, List.nil_append, hexUnit, digit,
    sum]

theorem unicodeEscape_fourHex {n : Nat} (small : n < 0xd800) (rest : List Char) :
    unicodeEscape (fourHex n ++ rest) = .ok (Char.ofNat n, rest) := by
  have notLow : isLowSurrogate n = false := by
    simp only [isLowSurrogate, Bool.and_eq_false_iff, decide_eq_false_iff_not]
    omega
  have notHigh : isHighSurrogate n = false := by
    simp only [isHighSurrogate, Bool.and_eq_false_iff, decide_eq_false_iff_not]
    omega
  rw [unicodeEscape, hexUnit_fourHex (by omega)]
  simp only [notLow, notHigh, Bool.false_eq_true, ↓reduceIte]

theorem escapedChar_cases (c : Char) :
    (escapedChar c = [c] ∧ c ≠ '"' ∧ c ≠ '\\' ∧ ¬ c.toNat < 32) ∨
      ∃ chars, escapedChar c = '\\' :: chars ∧ ∀ rest, escape (chars ++ rest) = .ok (c, rest) := by
  have known {n : Nat} (code : c.toNat = n) : c = Char.ofNat n := by rw [← code, Char.ofNat_toNat]
  unfold escapedChar
  split
  · rename_i quote
    subst quote
    exact .inr ⟨_, rfl, fun _ => rfl⟩
  split
  · rename_i backslash
    subst backslash
    exact .inr ⟨_, rfl, fun _ => rfl⟩
  split
  · rename_i newline
    subst newline
    exact .inr ⟨_, rfl, fun _ => rfl⟩
  split
  · rename_i carriageReturn
    subst carriageReturn
    exact .inr ⟨_, rfl, fun _ => rfl⟩
  split
  · rename_i tab
    subst tab
    exact .inr ⟨_, rfl, fun _ => rfl⟩
  split
  · rename_i backspace
    obtain rfl := known backspace
    exact .inr ⟨_, rfl, fun _ => rfl⟩
  split
  · rename_i formFeed
    obtain rfl := known formFeed
    exact .inr ⟨_, rfl, fun _ => rfl⟩
  split
  · rename_i control
    refine .inr ⟨_, rfl, fun rest => ?_⟩
    rw [List.cons_append, escape, if_pos rfl, unicodeEscape_fourHex (by omega), Char.ofNat_toNat]
  · exact .inl ⟨rfl, ‹_›, ‹_›, ‹_›⟩

theorem textBody_escapedChar (c : Char) {chars others rest : List Char}
    (read : textBody chars = .ok (others, rest)) :
    textBody (escapedChar c ++ chars) = .ok (c :: others, rest) := by
  rcases escapedChar_cases c with ⟨same, noQuote, noBackslash, noControl⟩ | ⟨escaped, same, stands⟩
  · rw [same, List.singleton_append, textBody, if_neg noQuote, if_neg noBackslash,
      if_neg noControl, read]
  · rw [same, List.cons_append, textBody, if_neg (by decide), if_pos rfl]
    split
    · rename_i failed
      rw [stands] at failed
      contradiction
    · rename_i found
      rw [stands] at found
      obtain ⟨rfl, rfl⟩ := Prod.mk.inj (Except.ok.inj found)
      rw [read]

theorem textBody_flatMap (body rest : List Char) :
    textBody (body.flatMap escapedChar ++ '"' :: rest) = .ok (body, rest) := by
  induction body with
  | nil => rw [List.flatMap_nil, List.nil_append, textBody, if_pos rfl]
  | cons c others ih =>
      rw [List.flatMap_cons, List.append_assoc]
      exact textBody_escapedChar c ih

theorem scan_stringChars (text : String) (rest : List Char) :
    scan (stringChars text ++ rest) = some (.text text, rest) := by
  have token : textToken (text.toList.flatMap escapedChar ++ '"' :: rest) = (.text text, rest) := by
    simp only [textToken, textBody_flatMap, String.ofList_toList]
  have printed : stringChars text ++ rest =
      '"' :: (text.toList.flatMap escapedChar ++ '"' :: rest) := by
    simp only [stringChars, List.cons_append, List.append_assoc, List.nil_append]
  rw [printed, scan, if_neg (by decide)]
  exact congrArg some token

/-! Whole numbers. -/

/-- What stands behind a value: nothing, or the comma or bracket that ends it. -/
def Closes : List Char → Prop
  | [] => True
  | c :: _ => c = ',' ∨ c = ']' ∨ c = '\x7d'

theorem closes_comma (rest : List Char) : Closes (',' :: rest) := Or.inl rfl

theorem closes_bracket (rest : List Char) : Closes (']' :: rest) := Or.inr (Or.inl rfl)

theorem closes_brace (rest : List Char) : Closes ('\x7d' :: rest) := Or.inr (Or.inr rfl)

theorem Closes.notDigit {rest : List Char} (closes : Closes rest) :
    rest.takeWhile isDigit = [] ∧ rest.dropWhile isDigit = rest := by
  cases rest with
  | nil => exact ⟨rfl, rfl⟩
  | cons c others => rcases closes with rfl | rfl | rfl <;> exact ⟨rfl, rfl⟩

theorem Closes.fractionDigits {rest : List Char} (closes : Closes rest) :
    fractionDigits rest = .ok (none, rest) := by
  cases rest with
  | nil => rfl
  | cons c others => rcases closes with rfl | rfl | rfl <;> rfl

theorem Closes.powerPart {rest : List Char} (closes : Closes rest) :
    powerPart rest = .ok (none, rest) := by
  cases rest with
  | nil => rfl
  | cons c others => rcases closes with rfl | rfl | rfl <;> rfl

theorem isDigit_of_mem_toDigits {n : Nat} {c : Char} (member : c ∈ Nat.toDigits 10 n) :
    isDigit c = true :=
  Nat.isDigit_of_mem_toDigits (by decide) (by decide) member

theorem natOfDigits_toDigits (n : Nat) : natOfDigits (Nat.toDigits 10 n) = n := by
  have same : natOfDigits (Nat.toDigits 10 n) = Nat.ofDigitChars 10 (Nat.toDigits 10 n) 0 := by
    simp only [natOfDigits, Nat.ofDigitChars, digitValue, Nat.mul_comm]
    rfl
  rw [same, Nat.ofDigitChars_ten_toDigits]

theorem eq_zero_of_head?_toDigits {n : Nat} (zero : (Nat.toDigits 10 n).head? = some '0') :
    n = 0 := by
  induction n using Nat.strongRecOn with
  | ind n ih =>
      rw [Nat.toDigits_eq_if (by decide)] at zero
      split at zero
      · rename_i small
        have all : ∀ digit : Fin 10, digit.val.digitChar = '0' → digit.val = 0 := by decide
        exact all ⟨n, small⟩ (Option.some.inj zero)
      · rename_i large
        -- The first digit is the one of the higher digits, which stand for a smaller number.
        have higher : (Nat.toDigits 10 (n / 10)).head? = some '0' := by
          rwa [List.head?_append, List.head?_eq_some_head Nat.toDigits_ne_nil, Option.some_or,
            ← List.head?_eq_some_head Nat.toDigits_ne_nil] at zero
        have vanishes := ih (n / 10) (by omega) higher
        omega

theorem wholeDigits_toDigits (n : Nat) {rest : List Char} (closes : Closes rest) :
    wholeDigits (Nat.toDigits 10 n ++ rest) = .ok (Nat.toDigits 10 n, rest) := by
  have digits : ∀ c ∈ Nat.toDigits 10 n, isDigit c = true := fun c => isDigit_of_mem_toDigits
  have read : someDigits (Nat.toDigits 10 n ++ rest) = .ok (Nat.toDigits 10 n, rest) := by
    simp only [someDigits, List.takeWhile_append_of_pos digits, List.dropWhile_append_of_pos digits,
      closes.notDigit, List.append_nil, List.isEmpty_eq_false_iff.mpr Nat.toDigits_ne_nil,
      Bool.false_eq_true, ↓reduceIte]
  have noZero : ¬ ((Nat.toDigits 10 n).head? = .some '0' ∧ 1 < (Nat.toDigits 10 n).length) := by
    rintro ⟨zero, long⟩
    rw [eq_zero_of_head?_toDigits zero, Nat.toDigits_zero] at long
    exact absurd long (by decide)
  simp only [wholeDigits, read, if_neg noZero]

theorem numberToken_toDigits (negative : Bool) (n : Nat) {value : Int} {rest : List Char}
    (closes : Closes rest) (signed : (if negative then -(n : Int) else n) = value)
    (fits : fitsWhole value = true) (notZero : negative = true → n ≠ 0) :
    numberToken negative (Nat.toDigits 10 n ++ rest) = (.number (some (.whole value)), rest) := by
  have proper : (negative && n == 0) = false := by
    cases negative with
    | true => simpa using notZero rfl
    | false => rfl
  have exact : (Literal.mk negative (Nat.toDigits 10 n) none none).value? = some (.whole value) := by
    simp only [Literal.value?, natOfDigits_toDigits, signed, fits, proper, Option.isNone_none,
      Bool.and_self, Bool.not_false, ↓reduceIte]
  simp only [numberToken, numberLiteral, wholeDigits_toDigits n closes, closes.fractionDigits,
    closes.powerPart, exact]

theorem scan_digit {c : Char} (digit : isDigit c = true) (rest : List Char) :
    scan (c :: rest) = some (numberToken false (c :: rest)) := by
  have different (other : Char) (noDigit : isDigit other = false) : c ≠ other := by
    rintro rfl
    rw [digit] at noDigit
    contradiction
  have noGap : isGap c = false := by
    simp only [isGap, Bool.or_eq_false_iff, beq_eq_false_iff_ne]
    exact ⟨⟨⟨different _ rfl, different _ rfl⟩, different _ rfl⟩, different _ rfl⟩
  have noPunctuation : punctuation? c = none := by
    unfold punctuation?
    split
    case h_7 => rfl
    all_goals exact absurd rfl (different _ rfl)
  simp only [scan, noGap, noPunctuation, tokenFrom, digit, if_neg (different '"' rfl),
    if_neg (different '-' rfl), Bool.false_eq_true, ↓reduceIte]

theorem scan_whole {value : Int} (fits : fitsWhole value = true) {rest : List Char}
    (closes : Closes rest) :
    scan (Number.chars (.whole value) ++ rest) = some (.number (some (.whole value)), rest) := by
  rw [Number.chars]
  split
  · rename_i negative
    have signed : -(value.natAbs : Int) = value := by omega
    rw [List.cons_append, scan, if_neg (by decide)]
    exact congrArg some
      (numberToken_toDigits true value.natAbs closes ((if_pos rfl).trans signed) fits (by omega))
  · rename_i positive
    have signed : (value.natAbs : Int) = value := by omega
    have token := numberToken_toDigits false value.natAbs closes
      ((if_neg Bool.false_ne_true).trans signed) fits fun negative => absurd negative Bool.false_ne_true
    cases printed : Nat.toDigits 10 value.natAbs with
    | nil => exact absurd printed Nat.toDigits_ne_nil
    | cons c others =>
        rw [printed] at token
        have digit : isDigit c = true := isDigit_of_mem_toDigits (printed ▸ List.mem_cons_self)
        rw [List.cons_append, scan_digit digit]
        exact congrArg some token

/-! Words. -/

theorem scan_null (rest : List Char) :
    scan (Json.null.chars ++ rest) = some (.word "null" false, rest) := rfl

theorem scan_bool (value : Bool) (rest : List Char) :
    scan ((Json.bool value).chars ++ rest) =
      some (.word (if value then "true" else "false") false, rest) := by
  cases value <;> rfl

end LifecycleHooks.Json
