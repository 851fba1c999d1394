import LifecycleHooks.Text.Octets

/-!
Texts of octets character by character. The octets of a character other than the slash are none of
them slashes, so a text and its octets are divided by the same slashes.
-/

namespace LifecycleHooks.Text

theorem toList_loop (bytes : ByteArray) (i : Nat) (taken : List UInt8) :
    ByteArray.toList.loop bytes i taken = taken.reverse ++ bytes.data.toList.drop i := by
  fun_induction ByteArray.toList.loop bytes i taken with
  | case1 i taken more ih =>
      have bound : i < bytes.data.toList.length := more
      have byte : bytes.get! i = bytes.data.toList[i] := getElem!_pos bytes.data i more
      rw [ih, List.drop_eq_getElem_cons bound, List.reverse_cons, List.append_assoc, byte]
      rfl
  | case2 i taken done =>
      have bound : bytes.data.toList.length ≤ i := Nat.le_of_not_lt done
      rw [List.drop_eq_nil_of_le bound, List.append_nil]

theorem encode_eq (text : String) : encode text = text.toList.flatMap String.utf8EncodeChar := by
  have bytes : text.toUTF8 = (text.toList.flatMap String.utf8EncodeChar).toByteArray := by
    conv => lhs; rw [← String.ofList_toList (s := text)]
    exact String.toByteArray_ofList
  rw [encode, bytes, ByteArray.toList, toList_loop]
  exact List.toList_data_toByteArray

def charOctets (c : Char) : List Char :=
  (String.utf8EncodeChar c).map fun byte => Char.ofNat byte.toNat

theorem toList_toOctets (text : String) :
    (toOctets text).toList = text.toList.flatMap charOctets := by
  rw [toOctets, ofOctets, String.toList_ofList, encode_eq, List.map_flatMap]
  rfl

theorem toOctets_append (a b : String) : toOctets (a ++ b) = toOctets a ++ toOctets b := by
  apply String.toList_injective
  rw [String.toList_append]
  simp only [toList_toOctets, String.toList_append, List.flatMap_append]

theorem charOctets_of_small {c : Char} (small : c.toNat < 128) : charOctets c = [c] := by
  have one : String.utf8EncodeChar c = [UInt8.ofNat c.toNat] := if_pos (Nat.le_of_lt_succ small)
  have back : Char.ofNat (UInt8.ofNat c.toNat).toNat = c := by
    rw [UInt8.toNat_ofNat', Nat.mod_eq_of_lt (by omega), Char.ofNat_toNat]
  rw [charOctets, one, List.map_singleton, back]

/-- All other characters have octets of eight bits only. -/
theorem charOctets_of_large {c : Char} (large : 128 ≤ c.toNat) :
    charOctets c ≠ [] ∧ ∀ octet ∈ charOctets c, 128 ≤ octet.toNat := by
  have high (n : Nat) (least : 128 ≤ n) (small : n < 256) :
      128 ≤ (Char.ofNat (UInt8.ofNat n).toNat).toNat := by
    rwa [UInt8.toNat_ofNat', Nat.mod_eq_of_lt small, toNat_ofNat_of_isValidChar n (.inl (by omega))]
  unfold charOctets String.utf8EncodeChar
  extract_lets code
  have noAscii : ¬ code ≤ 127 := Nat.not_le.mpr large
  rw [if_neg noAscii]
  split
  · refine ⟨List.cons_ne_nil _ _, ?_⟩
    simp only [List.map_cons, List.map_nil, List.forall_mem_cons]
    exact ⟨high _ (by omega) (by omega), high _ (by omega) (by omega), by simp⟩
  split
  · refine ⟨List.cons_ne_nil _ _, ?_⟩
    simp only [List.map_cons, List.map_nil, List.forall_mem_cons]
    exact ⟨high _ (by omega) (by omega), high _ (by omega) (by omega),
      high _ (by omega) (by omega), by simp⟩
  · refine ⟨List.cons_ne_nil _ _, ?_⟩
    simp only [List.map_cons, List.map_nil, List.forall_mem_cons]
    exact ⟨high _ (by omega) (by omega), high _ (by omega) (by omega),
      high _ (by omega) (by omega), high _ (by omega) (by omega), by simp⟩

theorem charOctets_cases (c : Char) :
    charOctets c = [c] ∨ charOctets c ≠ [] ∧ ∀ octet ∈ charOctets c, 128 ≤ octet.toNat :=
  (Nat.lt_or_ge c.toNat 128).imp charOctets_of_small charOctets_of_large

def isSmall (text : String) : Bool :=
  text.toList.all fun c => c.toNat < 128

theorem toOctets_of_small {text : String} (small : isSmall text = true) : toOctets text = text := by
  have same (chars : List Char) (small : ∀ c ∈ chars, c.toNat < 128) :
      chars.flatMap charOctets = chars := by
    induction chars with
    | nil => rfl
    | cons c rest ih =>
        obtain ⟨first, others⟩ := List.forall_mem_cons.mp small
        rw [List.flatMap_cons, charOctets_of_small first, ih others]
        rfl
  apply String.toList_injective
  rw [toList_toOctets, same]
  simpa only [isSmall, List.all_eq_true, decide_eq_true_eq] using small

theorem charOctets_ne_nil (c : Char) : charOctets c ≠ [] := by
  rcases charOctets_cases c with same | ⟨notEmpty, -⟩
  · rw [same]
    exact List.cons_ne_nil _ _
  · exact notEmpty

theorem eq_of_mem_charOctets {c small : Char} (isSmall : small.toNat < 128)
    (member : small ∈ charOctets c) : c = small := by
  rcases charOctets_cases c with same | ⟨-, high⟩
  · rw [same] at member
    exact (List.mem_singleton.mp member).symm
  · exact absurd (high small member) (Nat.not_le.mpr isSmall)

theorem toOctets_inj {a b : String} : toOctets a = toOctets b ↔ a = b := by
  constructor
  · intro same
    have bytes : encode a = encode b := by
      rw [← octets_ofOctets (encode a), ← octets_ofOctets (encode b)]
      exact congrArg octets same
    simp only [encode, ByteArray.toList, toList_loop, List.drop_zero] at bytes
    exact String.toByteArray_inj.mp (ByteArray.ext (Array.toList_inj.mp bytes))
  · exact congrArg toOctets

/-! First and last characters, and the empty text. -/

theorem toOctets_eq_empty_iff (text : String) : toOctets text = "" ↔ text = "" := by
  rw [← String.toList_eq_nil_iff, toList_toOctets, List.flatMap_eq_nil_iff,
    ← String.toList_eq_nil_iff]
  constructor
  · intro allEmpty
    exact List.eq_nil_iff_forall_not_mem.mpr fun c member =>
      charOctets_ne_nil c (allEmpty c member)
  · intro empty c member
    rw [empty] at member
    contradiction

theorem head?_toOctets_eq_slash_iff (text : String) :
    (toOctets text).toList.head? = some '/' ↔ text.toList.head? = some '/' := by
  rw [toList_toOctets]
  cases text.toList with
  | nil => rfl
  | cons c rest =>
      rw [List.flatMap_cons, List.head?_cons, List.head?_append,
        List.head?_eq_some_head (charOctets_ne_nil c), Option.some_or, Option.some_inj,
        Option.some_inj]
      constructor
      · intro slash
        exact eq_of_mem_charOctets (by decide) (slash ▸ List.head_mem _)
      · rintro rfl
        rfl

theorem getLast?_toOctets_eq_slash_iff (text : String) :
    (toOctets text).toList.getLast? = some '/' ↔ text.toList.getLast? = some '/' := by
  rw [toList_toOctets]
  rcases List.eq_nil_or_concat text.toList with empty | ⟨front, c, split⟩
  · rw [empty]
    rfl
  · rw [split, List.concat_eq_append, List.flatMap_append, List.flatMap_singleton,
      List.getLast?_append, List.getLast?_eq_some_getLast (charOctets_ne_nil c), Option.some_or,
      List.getLast?_concat, Option.some_inj, Option.some_inj]
    constructor
    · intro slash
      exact eq_of_mem_charOctets (by decide) (slash ▸ List.getLast_mem _)
    · rintro rfl
      rfl

end LifecycleHooks.Text
