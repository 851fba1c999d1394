import Mathlib.Data.String.Basic
import LifecycleHooks.Proofs.Json.Building

/-!
The fields of every object that is read stand in the order of their keys, so no key occurs twice in
an object, however often the text gives it.
-/

namespace LifecycleHooks.Json

/-- In every object, however deep inside, the keys ascend. -/
inductive Ordered : Json → Prop
  | null : Ordered .null
  | bool (value : Bool) : Ordered (.bool value)
  | number (value : Number) : Ordered (.number value)
  | string (value : String) : Ordered (.string value)
  | array {items : List Json} (each : ∀ item ∈ items, Ordered item) : Ordered (.array items)
  | object {fields : Fields Json} (ascending : fields.Pairwise fun a b => a.1 < b.1)
      (each : ∀ field ∈ fields, Ordered field.2) : Ordered (.object fields)

theorem ordered_array_iff {items : List Json} :
    Ordered (.array items) ↔ ∀ item ∈ items, Ordered item := by
  constructor
  · rintro ⟨⟩
    assumption
  · exact .array

theorem ordered_object_iff {fields : Fields Json} :
    Ordered (.object fields) ↔
      (fields.Pairwise fun a b => a.1 < b.1) ∧ ∀ field ∈ fields, Ordered field.2 := by
  constructor
  · rintro ⟨⟩
    exact ⟨‹_›, ‹_›⟩
  · exact fun ⟨ascending, each⟩ => .object ascending each

theorem Ordered.cons {item : Json} {items : List Json} (ordered : Ordered (.array items))
    (first : item.Ordered) : Ordered (.array (item :: items)) :=
  .array (List.forall_mem_cons.mpr ⟨first, ordered_array_iff.mp ordered⟩)

theorem Ordered.reverse {items : List Json} (ordered : Ordered (.array items)) :
    Ordered (.array items.reverse) :=
  .array fun item member => ordered_array_iff.mp ordered item (List.mem_reverse.mp member)

theorem mem_of_find? {α : Type} {key : String} {value : α} {fields : Fields α}
    (found : Fields.find? key fields = some value) : (key, value) ∈ fields := by
  induction fields with
  | nil => simp [Fields.find?] at found
  | cons field rest ih =>
      simp only [Fields.find?] at found
      split at found
      · rename_i same
        obtain rfl := Option.some.inj found
        exact same ▸ List.mem_cons_self
      · exact List.mem_cons_of_mem _ (ih found)

theorem Ordered.of_field? {value inner : Json} {key : String} (ordered : value.Ordered)
    (found : value.field? key = some inner) : inner.Ordered := by
  cases ordered with
  | object _ each => exact each (key, inner) (mem_of_find? found)
  | _ => simp [field?] at found

/-! Inserting a field. -/

theorem mem_insert {α : Type} {key : String} {value : α} {fields : Fields α} {field : String × α}
    (member : field ∈ Fields.insert key value fields) : field = (key, value) ∨ field ∈ fields := by
  induction fields with
  | nil => exact Or.inl (List.mem_singleton.mp member)
  | cons first rest ih =>
      simp only [Fields.insert] at member
      split at member
      · exact List.mem_cons.mp member
      · split at member
        · exact (List.mem_cons.mp member).imp_right (List.mem_cons_of_mem _)
        · rcases List.mem_cons.mp member with rfl | later
          · exact Or.inr List.mem_cons_self
          · exact (ih later).imp_right (List.mem_cons_of_mem _)

theorem ascending_insert {α : Type} (key : String) (value : α) {fields : Fields α}
    (ascending : fields.Pairwise fun a b => a.1 < b.1) :
    (Fields.insert key value fields).Pairwise fun a b => a.1 < b.1 := by
  induction fields with
  | nil => simp [Fields.insert]
  | cons first rest ih =>
      obtain ⟨below, restAscending⟩ := List.pairwise_cons.mp ascending
      simp only [Fields.insert]
      split
      · rename_i smaller
        refine List.pairwise_cons.mpr ⟨?_, ascending⟩
        intro field member
        rcases List.mem_cons.mp member with rfl | later
        · exact smaller
        · exact lt_trans smaller (below field later)
      · rename_i notSmaller
        split
        · rename_i same
          exact List.pairwise_cons.mpr ⟨same ▸ below, restAscending⟩
        · rename_i different
          refine List.pairwise_cons.mpr ⟨?_, ih restAscending⟩
          intro field member
          rcases mem_insert member with rfl | old
          · exact lt_of_le_of_ne (not_lt.mp notSmaller) (Ne.symm different)
          · exact below field old

theorem Ordered.insert {key : String} {value : Json} {fields : Fields Json}
    (ordered : Ordered (.object fields)) (inner : value.Ordered) :
    Ordered (.object (Fields.insert key value fields)) := by
  obtain ⟨ascending, each⟩ := ordered_object_iff.mp ordered
  refine .object (ascending_insert key value ascending) ?_
  intro field member
  rcases mem_insert member with rfl | old
  · exact inner
  · exact each field old

/-! The reader. -/

theorem kept_ordered : Kept Ordered where
  null := .null
  bool := .bool
  string := .string
  noItems := .array (by simp)
  item := Ordered.cons
  reverse := Ordered.reverse
  noFields := .object .nil (by simp)
  field := Ordered.insert

theorem has_ordered (token : Token) : token.Has Ordered := by
  cases token with
  | number value =>
      cases value with
      | some value => exact .number value
      | none => trivial
  | _ => trivial

/-- What is read is ordered, whatever the text. -/
theorem ordered_parse {text : String} {value : Json} (read : parse text = .ok value) :
    value.Ordered :=
  has_read kept_ordered kept_ordered.strict (fun token _ => has_ordered token) read

end LifecycleHooks.Json
