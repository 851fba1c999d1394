import LifecycleHooks.Json.Relaxed
import LifecycleHooks.Proofs.Json.WellFormed
import LifecycleHooks.Settings.Basic

/-!
Relaxed JSON gives the values that strict JSON gives: objects whose keys ascend, and whole numbers of
64 bits. So do settings for every key.
-/

namespace LifecycleHooks

namespace Json.Relaxed

theorem fits_exactNumber {value : Int} {number : Number} (exact : exactNumber value = some number) :
    number.Fits := by
  unfold exactNumber at exact
  split at exact
  · rename_i fits
    obtain rfl := Option.some.inj exact
    exact fits
  · obtain ⟨double, -, rfl⟩ := Option.map_eq_some_iff.mp exact
    trivial

theorem has_number {value : Option Number} (fits : ∀ number, value = some number → number.Fits) :
    (Token.number value).Has (Numbers Number.Fits) := by
  cases value with
  | none => trivial
  | some number => exact .number (fits number rfl)

theorem has_hexNumber (negative : Bool) (chars : List Char) :
    (hexNumber negative chars).1.Has (Numbers Number.Fits) := by
  unfold hexNumber
  extract_lets digits rest magnitude
  split
  · trivial
  · exact has_number fun _ => fits_exactNumber

theorem has_decimalNumber (negative : Bool) (chars : List Char) :
    (decimalNumber negative chars).1.Has (Numbers Number.Fits) := by
  simp only [decimalNumber]
  split
  · trivial
  · split
    · trivial
    · split
      · exact has_number fun _ => fits_exactNumber
      · refine has_number fun number found => ?_
        obtain ⟨double, -, rfl⟩ := Option.map_eq_some_iff.mp found
        trivial

theorem has_unsignedNumber (negative : Bool) (chars : List Char) :
    (unsignedNumber negative chars).1.Has (Numbers Number.Fits) := by
  unfold unsignedNumber
  split
  · exact has_hexNumber negative _
  · exact has_hexNumber negative _
  · exact has_decimalNumber negative chars

theorem has_signedNumber (negative : Bool) (chars : List Char) :
    (signedNumber negative chars).1.Has (Numbers Number.Fits) := by
  unfold signedNumber
  split
  · trivial
  · split
    · trivial
    · exact has_unsignedNumber negative chars

theorem has_textToken (quote : Char) (chars : List Char) :
    (textToken quote chars).1.Has (Numbers Number.Fits) := by
  unfold textToken
  split <;> trivial

theorem has_nameToken (chars : List Char) :
    (nameToken chars).1.Has (Numbers Number.Fits) := by
  unfold nameToken
  split
  · trivial
  · split
    · split <;> trivial
    · trivial

theorem has_tokenFrom (c : Char) (rest : List Char) :
    (tokenFrom c rest).1.Has (Numbers Number.Fits) := by
  unfold tokenFrom
  split
  · exact has_textToken c rest
  split
  · exact has_signedNumber true rest
  split
  · exact has_signedNumber false rest
  split
  · exact has_unsignedNumber false (c :: rest)
  · exact has_nameToken (c :: rest)

theorem has_scan {chars rest : List Char} {token : Token}
    (found : scan chars = some (token, rest)) : token.Has (Numbers Number.Fits) := by
  unfold scan at found
  split at found
  · contradiction
  · rename_i c others _
    split at found
    · rename_i punctuation
      obtain ⟨rfl, -⟩ := Prod.mk.inj (Option.some.inj found)
      exact has_punctuation punctuation
    · have scanned := has_tokenFrom c others
      rwa [Option.some.inj found] at scanned

theorem has_of_mem_tokensBy {chars : List Char} {token : Token}
    (member : token ∈ tokensBy scan scan_length chars) : token.Has (Numbers Number.Fits) := by
  fun_induction tokensBy scan scan_length chars with
  | case1 => contradiction
  | case2 chars first rest found ih =>
      rcases List.mem_cons.mp member with rfl | later
      · exact has_scan found
      · exact ih later

theorem has_dialect {holds : Json → Prop} (kept : Kept holds) : dialect.Has holds := by
  intro name value found
  simp only [dialect, literal?] at found
  split at found
  · obtain rfl := Option.some.inj found
    exact kept.null
  · obtain rfl := Option.some.inj found
    exact kept.null
  · exact kept.strict name value found

theorem wellFormed_parse {text : String} {value : Json} (read : parse text = .ok value) :
    value.WellFormed where
  ordered := has_read kept_ordered (has_dialect kept_ordered) (fun token _ => has_ordered token) read
  fits := has_read kept_numbers (has_dialect kept_numbers) (fun _ => has_of_mem_tokensBy) read

end Json.Relaxed

namespace Json

theorem WellFormed.of_field? {value inner : Json} {key : String} (wellFormed : value.WellFormed)
    (found : value.field? key = some inner) : inner.WellFormed := by
  refine ⟨wellFormed.ordered.of_field? found, ?_⟩
  cases value with
  | object fields => exact numbers_object_iff.mp wellFormed.fits (key, inner) (mem_of_find? found)
  | _ => contradiction

theorem WellFormed.of_mem {items : List Json} (wellFormed : (Json.array items).WellFormed) :
    ∀ item ∈ items, item.WellFormed := by
  intro item member
  exact ⟨ordered_array_iff.mp wellFormed.ordered item member,
    numbers_array_iff.mp wellFormed.fits item member⟩

end Json

namespace Settings

theorem wellFormed_descend {value inner : Json} {keys : List String} (wellFormed : value.WellFormed)
    (found : descend value keys = some inner) : inner.WellFormed := by
  induction keys generalizing value with
  | nil =>
      obtain rfl := Option.some.inj found
      exact wellFormed
  | cons key keys ih =>
      simp only [descend] at found
      split at found
      · rename_i below
        exact ih (wellFormed.of_field? below) found
      · contradiction

theorem wellFormed_get? {text : String} {settings : Settings} {key : String} {value : Json}
    (read : ofText text = .ok settings) (found : settings.get? key = some value) :
    value.WellFormed := by
  have wellFormed : (Json.object settings.values).WellFormed := by
    unfold ofText at read
    split at read
    · rename_i parsed
      obtain rfl := Except.ok.inj read
      exact Json.Relaxed.wellFormed_parse parsed
    · contradiction
    · contradiction
  unfold get? at found
  split at found
  · rename_i flat
    obtain rfl := Option.some.inj found
    exact wellFormed.of_field? flat
  · exact wellFormed_descend wellFormed found

end Settings

end LifecycleHooks
