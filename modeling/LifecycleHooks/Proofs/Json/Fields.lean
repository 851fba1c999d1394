import LifecycleHooks.Proofs.Json.KeyOrder

/-!
Fields that are put together from a list of pairs. Where the keys of the list are distinct, each of
them has its own value, and fields whose keys ascend are put together as they are.
-/

namespace LifecycleHooks.Fields

variable {α : Type}

theorem find?_eq_none {key : String} {fields : Fields α}
    (absent : ∀ field ∈ fields, field.1 ≠ key) : find? key fields = none := by
  induction fields with
  | nil => rfl
  | cons field rest ih =>
      rw [find?, if_neg (absent field List.mem_cons_self)]
      exact ih fun other member => absent other (List.mem_cons_of_mem _ member)

theorem find?_of_mem {key : String} {value : α} {fields : Fields α}
    (distinct : fields.Pairwise fun a b => a.1 ≠ b.1) (member : (key, value) ∈ fields) :
    find? key fields = some value := by
  induction fields with
  | nil => contradiction
  | cons field rest ih =>
      obtain ⟨fresh, restDistinct⟩ := List.pairwise_cons.mp distinct
      rcases List.mem_cons.mp member with rfl | later
      · exact if_pos rfl
      · rw [find?, if_neg (fresh _ later)]
        exact ih restDistinct later

theorem mem_iff_find? {key : String} {value : α} {fields : Fields α}
    (distinct : fields.Pairwise fun a b => a.1 ≠ b.1) :
    (key, value) ∈ fields ↔ find? key fields = some value :=
  ⟨find?_of_mem distinct, Json.mem_of_find?⟩

theorem find?_append (key : String) (front back : Fields α) :
    find? key (front ++ back) = (find? key front).or (find? key back) := by
  induction front with
  | nil => rfl
  | cons field rest ih =>
      simp only [List.cons_append, find?, ih]
      split <;> rfl

theorem find?_foldl_insert (key : String) {pairs : Fields α}
    (distinct : pairs.Pairwise fun a b => a.1 ≠ b.1) (before : Fields α) :
    find? key (pairs.foldl (fun fields pair => insert pair.1 pair.2 fields) before) =
      (find? key pairs).or (find? key before) := by
  induction pairs generalizing before with
  | nil => rfl
  | cons pair rest ih =>
      obtain ⟨fresh, restDistinct⟩ := List.pairwise_cons.mp distinct
      rw [List.foldl_cons, ih restDistinct, find?_insert, find?]
      split
      · rename_i same
        have absent : find? key rest = none :=
          find?_eq_none fun other member => same ▸ (fresh other member).symm
        rw [absent]
        rfl
      · rfl

theorem mem_foldl_insert {pairs before : Fields α} {field : String × α}
    (member : field ∈ pairs.foldl (fun fields pair => insert pair.1 pair.2 fields) before) :
    field ∈ before ∨ field ∈ pairs := by
  induction pairs generalizing before with
  | nil => exact .inl member
  | cons pair rest ih =>
      rcases ih member with inserted | later
      · rcases Json.mem_insert inserted with rfl | old
        · exact .inr List.mem_cons_self
        · exact .inl old
      · exact .inr (List.mem_cons_of_mem _ later)

theorem ascending_foldl_insert (pairs : Fields α) {before : Fields α}
    (ascending : before.Pairwise fun a b => a.1 < b.1) :
    (pairs.foldl (fun fields pair => insert pair.1 pair.2 fields) before).Pairwise
      fun a b => a.1 < b.1 := by
  induction pairs generalizing before with
  | nil => exact ascending
  | cons pair rest ih => exact ih (Json.ascending_insert pair.1 pair.2 ascending)

theorem find?_foldl_insert_eq_getLast? (key : String) (pairs before : Fields α) :
    find? key (pairs.foldl (fun fields pair => insert pair.1 pair.2 fields) before) =
      (pairs.filterMap fun pair => if pair.1 = key then some pair.2 else none).getLast?.or
        (find? key before) := by
  induction pairs generalizing before with
  | nil => rfl
  | cons pair rest ih =>
      rw [List.foldl_cons, ih, find?_insert, List.filterMap_cons]
      by_cases same : pair.1 = key
      · rw [if_pos same, if_pos same, List.getLast?_cons]
        cases (rest.filterMap fun pair => if pair.1 = key then some pair.2 else none).getLast? <;> rfl
      · rw [if_neg same, if_neg same]

theorem find?_ofList (key : String) {pairs : Fields α}
    (distinct : pairs.Pairwise fun a b => a.1 ≠ b.1) : find? key (ofList pairs) = find? key pairs := by
  rw [ofList, find?_foldl_insert key distinct, find?, Option.or_none]

theorem insert_of_above (key : String) (value : α) {fields : Fields α}
    (above : ∀ field ∈ fields, field.1 < key) : insert key value fields = fields ++ [(key, value)] := by
  induction fields with
  | nil => rfl
  | cons field rest ih =>
      obtain ⟨smaller, restSmaller⟩ := List.forall_mem_cons.mp above
      rw [insert, if_neg (lt_asymm smaller), if_neg (ne_of_gt smaller), ih restSmaller]
      rfl

theorem foldl_insert_of_ascending {before pairs : Fields α}
    (ascending : (before ++ pairs).Pairwise fun a b => a.1 < b.1) :
    pairs.foldl (fun fields pair => insert pair.1 pair.2 fields) before = before ++ pairs := by
  induction pairs generalizing before with
  | nil => exact (List.append_nil before).symm
  | cons pair rest ih =>
      have above : ∀ field ∈ before, field.1 < pair.1 := fun field member =>
        (List.pairwise_append.mp ascending).2.2 field member pair List.mem_cons_self
      have moved : (before ++ [pair]) ++ rest = before ++ pair :: rest := List.append_cons .. |>.symm
      rw [List.foldl_cons, insert_of_above pair.1 pair.2 above, ih (moved ▸ ascending), moved]

theorem ofList_of_ascending {fields : Fields α}
    (ascending : fields.Pairwise fun a b => a.1 < b.1) : ofList fields = fields :=
  foldl_insert_of_ascending ascending

end LifecycleHooks.Fields
