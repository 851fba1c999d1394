import LifecycleHooks.Proofs.Json.KeyOrder

/-!
JSON values as texts can give them: the keys of every object ascend, and whole numbers have 64 bits.
-/

namespace LifecycleHooks

def Number.Fits : Number → Prop
  | .whole value => fitsWhole value = true
  | .double _ => True

def Number.IsWhole : Number → Prop
  | .whole _ => True
  | .double _ => False

namespace Json

inductive Numbers (holds : Number → Prop) : Json → Prop
  | null : Numbers holds .null
  | bool (value : Bool) : Numbers holds (.bool value)
  | number {value : Number} (here : holds value) : Numbers holds (.number value)
  | string (value : String) : Numbers holds (.string value)
  | array {items : List Json} (each : ∀ item ∈ items, Numbers holds item) :
      Numbers holds (.array items)
  | object {fields : Fields Json} (each : ∀ field ∈ fields, Numbers holds field.2) :
      Numbers holds (.object fields)

structure WellFormed (value : Json) : Prop where
  ordered : value.Ordered
  fits : value.Numbers Number.Fits

variable {holds : Number → Prop}

theorem numbers_number_iff {value : Number} : Numbers holds (.number value) ↔ holds value :=
  ⟨fun (.number here) => here, .number⟩

theorem numbers_array_iff {items : List Json} :
    Numbers holds (.array items) ↔ ∀ item ∈ items, Numbers holds item :=
  ⟨fun (.array each) => each, .array⟩

theorem numbers_object_iff {fields : Fields Json} :
    Numbers holds (.object fields) ↔ ∀ field ∈ fields, Numbers holds field.2 :=
  ⟨fun (.object each) => each, .object⟩

theorem Numbers.insert {key : String} {value : Json} {fields : Fields Json}
    (before : Numbers holds (.object fields)) (inner : Numbers holds value) :
    Numbers holds (.object (Fields.insert key value fields)) := by
  refine .object fun field member => ?_
  rcases mem_insert member with rfl | old
  · exact inner
  · exact numbers_object_iff.mp before field old

theorem kept_numbers : Kept (Numbers holds) where
  null := .null
  bool := .bool
  string := .string
  noItems := .array (by simp)
  item before inner :=
    .array (List.forall_mem_cons.mpr ⟨inner, numbers_array_iff.mp before⟩)
  reverse before :=
    .array fun item member => numbers_array_iff.mp before item (List.mem_reverse.mp member)
  noFields := .object (by simp)
  field := Numbers.insert

theorem WellFormed.insert {key : String} {value : Json} {fields : Fields Json}
    (before : WellFormed (.object fields)) (inner : value.WellFormed) :
    WellFormed (.object (Fields.insert key value fields)) :=
  ⟨before.ordered.insert inner.ordered, before.fits.insert inner.fits⟩

theorem wellFormed_objectOf {pairs : List (String × Json)}
    (each : ∀ pair ∈ pairs, pair.2.WellFormed) : (objectOf pairs).WellFormed := by
  suffices kept : ∀ before, WellFormed (.object before) →
      WellFormed (.object
        (pairs.foldl (fun fields pair => Fields.insert pair.1 pair.2 fields) before)) from
    kept [] ⟨kept_ordered.noFields, kept_numbers.noFields⟩
  induction pairs with
  | nil => exact fun _ before => before
  | cons pair rest ih =>
      obtain ⟨first, others⟩ := List.forall_mem_cons.mp each
      exact fun before wellFormed => ih others _ (wellFormed.insert first)

theorem wellFormed_string (text : String) : (Json.string text).WellFormed :=
  ⟨.string text, .string text⟩

theorem wellFormed_bool (flag : Bool) : (Json.bool flag).WellFormed := ⟨.bool flag, .bool flag⟩

theorem wellFormed_ofNat {n : Nat} (small : n ≤ greatestWhole) : (Json.ofNat n).WellFormed := by
  have fits : fitsWhole n = true := by
    simp only [fitsWhole, Bool.and_eq_true, decide_eq_true_eq, Int.ofNat_le]
    exact ⟨by omega, small⟩
  exact ⟨.number _, .number fits⟩

/-! The numbers of a text. -/

theorem fits_value? {literal : Literal} {value : Number} (found : literal.value? = some value) :
    value.Fits := by
  unfold Literal.value? at found
  extract_lets magnitude whole at found
  split at found
  · rename_i small
    obtain rfl := Option.some.inj found
    simp only [Bool.and_eq_true] at small
    exact small.1.2
  · obtain ⟨double, -, rfl⟩ := Option.map_eq_some_iff.mp found
    trivial

theorem fits_numberLiteral {negative : Bool} {chars rest : List Char} {value : Number}
    (found : numberLiteral negative chars = .ok (value, rest)) : value.Fits := by
  unfold numberLiteral at found
  split at found
  · contradiction
  · split at found
    · contradiction
    · split at found
      · contradiction
      · split at found
        · rename_i read
          obtain ⟨rfl, -⟩ := Prod.mk.inj (Except.ok.inj found)
          exact fits_value? read
        · contradiction

theorem has_numberToken (negative : Bool) (chars : List Char) :
    (numberToken negative chars).1.Has (Numbers Number.Fits) := by
  unfold numberToken
  split
  · rename_i read
    exact .number (fits_numberLiteral read)
  · trivial

theorem has_textToken (chars : List Char) :
    (textToken chars).1.Has (Numbers Number.Fits) := by
  unfold textToken
  split <;> trivial

theorem has_wordToken (name : String) (tail chars : List Char) :
    (wordToken name tail chars).1.Has (Numbers Number.Fits) := by
  unfold wordToken
  split <;> trivial

theorem has_tokenFrom (c : Char) (rest : List Char) :
    (tokenFrom c rest).1.Has (Numbers Number.Fits) := by
  unfold tokenFrom
  split
  · exact has_textToken rest
  split
  · exact has_numberToken true rest
  split
  · exact has_numberToken false (c :: rest)
  split
  · exact has_wordToken _ _ rest
  split
  · exact has_wordToken _ _ rest
  split
  · exact has_wordToken _ _ rest
  · trivial

theorem has_punctuation {c : Char} {token : Token} (found : punctuation? c = some token) :
    token.Has (Numbers Number.Fits) := by
  unfold punctuation? at found
  split at found
  case h_7 => contradiction
  all_goals
    obtain rfl := Option.some.inj found
    trivial

theorem has_scan {chars rest : List Char} {token : Token}
    (found : scan chars = some (token, rest)) : token.Has (Numbers Number.Fits) := by
  induction chars with
  | nil => simp [scan] at found
  | cons c others ih =>
      simp only [scan] at found
      split at found
      · exact ih found
      · split at found
        · rename_i punctuation
          obtain ⟨rfl, -⟩ := Prod.mk.inj (Option.some.inj found)
          exact has_punctuation punctuation
        · have scanned := has_tokenFrom c others
          rwa [Option.some.inj found] at scanned

theorem has_of_mem_tokens {text : String} {token : Token} (member : token ∈ tokens text) :
    token.Has (Numbers Number.Fits) := by
  unfold tokens at member
  generalize text.toList = chars at member
  fun_induction tokensBy scan scan_length chars with
  | case1 => simp at member
  | case2 chars first rest found ih =>
      rcases List.mem_cons.mp member with rfl | later
      · exact has_scan found
      · exact ih later

theorem wellFormed_parse {text : String} {value : Json} (read : parse text = .ok value) :
    value.WellFormed where
  ordered := ordered_parse read
  fits := has_read kept_numbers kept_numbers.strict (fun _ member => has_of_mem_tokens member) read

end Json

end LifecycleHooks
