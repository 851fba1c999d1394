import LifecycleHooks.Json.Expectation

/-!
Each reading of a plain form accepts exactly the values that are written for what it gives.
-/

namespace LifecycleHooks.Json

theorem bind_eq_ok_iff {ε α β : Type} {first : Except ε α} {next : α → Except ε β} {b : β} :
    first >>= next = .ok b ↔ ∃ a, first = .ok a ∧ next a = .ok b := by
  cases first <;> simp [bind, Except.bind]

theorem asString_eq_ok_iff {expected : String} {value : Json} {text : String} :
    asString expected value = .ok text ↔ value = .string text := by
  cases value <;> simp [asString]

theorem asText_eq_ok_iff {value : Json} {text : String} :
    asText value = .ok text ↔ value = .string text :=
  asString_eq_ok_iff

theorem asBool_eq_ok_iff {value : Json} {flag : Bool} :
    asBool value = .ok flag ↔ value = .bool flag := by
  cases value <;> simp [asBool]

theorem asNat_eq_ok_iff {value : Json} {n : Nat} : asNat value = .ok n ↔ value = ofNat n := by
  cases value with
  | number given =>
      cases given with
      | whole given =>
          simp only [asNat, ofNat, number.injEq, Number.whole.injEq]
          split
          · simp only [reduceCtorEq, false_iff]
            omega
          · simp only [Except.ok.injEq]
            omega
      | double given => simp [asNat, ofNat]
  | _ => simp [asNat, ofNat]

theorem mapM_eq_ok_iff {α β : Type} {decode : α → Decoded β} {form : β → α}
    (reads : ∀ value a, decode value = .ok a ↔ value = form a) (values : List α) (as : List β) :
    values.mapM decode = .ok as ↔ values = as.map form := by
  induction values generalizing as with
  | nil => cases as <;> simp [pure, Except.pure]
  | cons value rest ih =>
      simp only [List.mapM_cons, bind_eq_ok_iff, reads, ih]
      constructor
      · rintro ⟨a, rfl, others, rfl, same⟩
        obtain rfl := Except.ok.inj same
        rfl
      · intro written
        obtain ⟨a, others, rfl, rfl, rfl⟩ := List.map_eq_cons_iff.mp written.symm
        exact ⟨a, rfl, others, rfl, rfl⟩

theorem asTextList_eq_ok_iff {value : Json} {texts : List String} :
    asTextList value = .ok texts ↔ value = .array (texts.map .string) := by
  cases value with
  | array items =>
      rw [asTextList, mapM_eq_ok_iff (fun _ _ => asText_eq_ok_iff), array.injEq]
  | _ => simp [asTextList]

theorem asTextField_eq_ok_iff {field : String × Json} {read : String × String} :
    asTextField field = .ok read ↔ field = (read.1, .string read.2) := by
  obtain ⟨key, value⟩ := field
  obtain ⟨name, text⟩ := read
  cases value <;> simp [asTextField, asText, asString]

theorem asTextFields_eq_ok_iff {value : Json} {texts : Fields String} :
    asTextFields value = .ok texts ↔
      value = .object (texts.map fun field => (field.1, .string field.2)) := by
  cases value with
  | object fields =>
      rw [asTextFields, mapM_eq_ok_iff (fun _ _ => asTextField_eq_ok_iff), object.injEq]
  | _ => simp [asTextFields]

theorem asOptional_eq_ok_iff {α : Type} {decode : Json → Decoded α} {form : α → Json}
    (reads : ∀ value a, decode value = .ok a ↔ value = form a) (notNull : ∀ a, form a ≠ .null)
    (value : Json) (found : Option α) :
    asOptional decode value = .ok found ↔ value = ofOption form found := by
  by_cases null : value = .null
  · subst null
    cases found with
    | none => simp [asOptional, ofOption]
    | some a => simpa [asOptional, ofOption] using (notNull a).symm
  · rw [asOptional]
    · cases found with
      | none => cases decode value <;> simpa [ofOption] using null
      | some a =>
          rw [ofOption, ← reads]
          cases decode value <;> simp
    · exact null

end LifecycleHooks.Json
