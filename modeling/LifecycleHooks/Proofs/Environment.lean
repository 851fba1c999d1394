import Mathlib.Data.List.Sort
import LifecycleHooks.Environment
import LifecycleHooks.Proofs.Json.Fields
import LifecycleHooks.Proofs.Text.Octets

/-!
Environments as processes hand them on: entries, each with a name and a value and an equals sign
between them. Nothing keeps an equals sign out of the name that a value is set under, and what is
behind it then counts as value; so the entries can give a name several values, and which of them is
found depends on who looks for it.
-/

namespace LifecycleHooks.Environment

/-- The value that an entry gives to a name; the name ends at the first equals sign. -/
def valueFor? (name entry : String) : Option String :=
  (divide? entry.toList).bind fun (front, value) =>
    if String.ofList front = name then some (String.ofList value) else none

def valuesFor (name : String) (entries : List String) : List String :=
  entries.filterMap (valueFor? name)

def entryOf (field : String × String) : String := field.1 ++ "=" ++ field.2

/-- The values that a name is given under longer names, in which an equals sign follows it. -/
def strays (name : String) (fields : Environment) : List String :=
  fields.filterMap fun field => (valueFor? name field.1).map fun rest => entryOf (rest, field.2)

/-- A name that a process can look for. -/
def IsName (name : String) : Prop := name ≠ "" ∧ '=' ∉ name.toList

/-! Entries in two parts. -/

theorem divide?_append {front : List Char} (noEquals : '=' ∉ front) (back : List Char) :
    divide? (front ++ back) =
      (divide? back).map fun (between, value) => (front ++ between, value) := by
  induction front with
  | nil => simp
  | cons c rest ih =>
      obtain ⟨other, noLater⟩ := List.ne_and_not_mem_of_not_mem_cons noEquals
      rw [List.cons_append, divide?, if_neg (Ne.symm other), ih noLater, Option.map_map]
      rfl

theorem divide?_eq_some_iff {chars front value : List Char} :
    divide? chars = some (front, value) ↔ chars = front ++ '=' :: value ∧ '=' ∉ front := by
  constructor
  · intro divided
    induction chars generalizing front with
    | nil => contradiction
    | cons c rest ih =>
        rw [divide?] at divided
        split at divided
        · rename_i sign
          obtain ⟨rfl, rfl⟩ := Prod.mk.inj (Option.some.inj divided)
          exact ⟨congrArg (· :: rest) sign, List.not_mem_nil⟩
        · rename_i other
          obtain ⟨⟨inner, behind⟩, found, same⟩ := Option.map_eq_some_iff.mp divided
          obtain ⟨rfl, rfl⟩ := Prod.mk.inj same
          obtain ⟨rfl, noEquals⟩ := ih found
          exact ⟨rfl, List.not_mem_cons_of_ne_of_not_mem (Ne.symm other) noEquals⟩
  · rintro ⟨rfl, noEquals⟩
    rw [divide?_append noEquals, divide?, if_pos rfl]
    simp

theorem divide?_eq_none_iff {chars : List Char} : divide? chars = none ↔ '=' ∉ chars := by
  induction chars with
  | nil => simp [divide?]
  | cons c rest ih =>
      rw [divide?]
      split
      · rename_i sign
        simp [sign]
      · rename_i other
        rw [Option.map_eq_none_iff, ih, List.mem_cons, not_or]
        exact (and_iff_right (Ne.symm other)).symm

theorem valueFor?_eq_none {name entry : String} (noEquals : '=' ∉ entry.toList) :
    valueFor? name entry = none := by
  rw [valueFor?, divide?_eq_none_iff.mpr noEquals]
  rfl

theorem valueFor?_eq_some_iff {name entry value : String} (noEquals : '=' ∉ name.toList) :
    valueFor? name entry = some value ↔ entry = name ++ "=" ++ value := by
  have parts : entry = name ++ "=" ++ value ↔
      divide? entry.toList = some (name.toList, value.toList) := by
    rw [divide?_eq_some_iff, ← String.toList_inj]
    simp [noEquals]
  rw [parts, valueFor?]
  cases divide? entry.toList with
  | none => simp
  | some found =>
      simp [Prod.ext_iff, ← String.toList_inj]

/-- What is added to a name behind an equals sign is the beginning of a value. -/
theorem valueFor?_entryOf {name : String} (noEquals : '=' ∉ name.toList) (key value : String) :
    valueFor? name (entryOf (key, value)) =
      if key = name then some value
      else (valueFor? name key).map fun rest => entryOf (rest, value) := by
  have chars : (entryOf (key, value)).toList = key.toList ++ '=' :: value.toList := by
    simp [entryOf]
  cases divided : divide? key.toList with
  | none =>
      have whole : divide? (entryOf (key, value)).toList = some (key.toList, value.toList) :=
        divide?_eq_some_iff.mpr ⟨chars, divide?_eq_none_iff.mp divided⟩
      simp [valueFor?, whole, divided]
  | some parts =>
      obtain ⟨front, rest⟩ := parts
      obtain ⟨split, noSign⟩ := divide?_eq_some_iff.mp divided
      have whole : divide? (entryOf (key, value)).toList =
          some (front, rest ++ '=' :: value.toList) :=
        divide?_eq_some_iff.mpr ⟨by rw [chars, split, List.append_assoc]; rfl, noSign⟩
      have other : key ≠ name := by
        rintro rfl
        exact noEquals (split ▸ List.mem_append_right _ List.mem_cons_self)
      rw [if_neg other, valueFor?, valueFor?, whole, divided]
      simp only [Option.bind_some]
      split
      · simp [entryOf, ← String.toList_inj]
      · rfl

theorem lt_of_valueFor? {name key rest : String} (noEquals : '=' ∉ name.toList)
    (found : valueFor? name key = some rest) : name < key := by
  obtain rfl := (valueFor?_eq_some_iff noEquals).mp found
  refine lt_of_le_of_ne ?_ ?_
  · rw [String.le_iff_toList_le, String.append_assoc, String.toList_append, ← not_lt]
    exact List.le_append_left
  · intro same
    have lengths := congrArg String.length same
    simp only [String.length_append] at lengths
    have sign : "=".length = 1 := rfl
    omega

/-! Entries in octets. -/

theorem equals_not_mem_charOctets {c : Char} (other : c ≠ '=') : '=' ∉ Text.charOctets c :=
  fun member => other (Text.eq_of_mem_charOctets (by decide) member)

theorem divide?_flatMap_charOctets (chars : List Char) :
    divide? (chars.flatMap Text.charOctets) =
      (divide? chars).map fun (front, value) =>
        (front.flatMap Text.charOctets, value.flatMap Text.charOctets) := by
  induction chars with
  | nil => rfl
  | cons c rest ih =>
      rw [List.flatMap_cons, divide?]
      split
      · rename_i sign
        subst sign
        rw [Text.charOctets_of_small (by decide)]
        rfl
      · rename_i other
        rw [divide?_append (equals_not_mem_charOctets other), ih, Option.map_map, Option.map_map]
        rfl

theorem valueFor?_toOctets (name entry : String) :
    valueFor? (Text.toOctets name) (Text.toOctets entry) =
      (valueFor? name entry).map Text.toOctets := by
  have octets (chars : List Char) :
      String.ofList (chars.flatMap Text.charOctets) = Text.toOctets (String.ofList chars) := by
    rw [← String.toList_inj, Text.toList_toOctets, String.toList_ofList, String.toList_ofList]
  rw [valueFor?, valueFor?, Text.toList_toOctets, divide?_flatMap_charOctets]
  cases divide? entry.toList with
  | none => rfl
  | some parts =>
      simp only [Option.map_some, Option.bind_some, octets, Text.toOctets_inj]
      split <;> rfl

theorem valuesFor_map_toOctets (name : String) (entries : List String) :
    valuesFor (Text.toOctets name) (entries.map Text.toOctets) =
      (valuesFor name entries).map Text.toOctets := by
  rw [valuesFor, valuesFor, List.filterMap_map, List.map_filterMap]
  exact List.filterMap_congr fun entry _ => valueFor?_toOctets name entry

theorem entryOf_toOctets (field : String × String) :
    entryOf (Text.toOctets field.1, Text.toOctets field.2) = Text.toOctets (entryOf field) := by
  rw [entryOf, entryOf, Text.toOctets_append, Text.toOctets_append,
    @Text.toOctets_of_small "=" (by decide)]

/-! Variables in order. -/

/-- The value that is set under a name comes first, because longer names come behind it. -/
theorem valuesFor_map_entryOf {name : String} (noEquals : '=' ∉ name.toList)
    {fields : Environment} (ascending : fields.Pairwise fun a b => a.1 < b.1) :
    valuesFor name (fields.map entryOf) =
      (Fields.find? name fields).toList ++ strays name fields := by
  induction fields with
  | nil => rfl
  | cons field rest ih =>
      obtain ⟨above, restAscending⟩ := List.pairwise_cons.mp ascending
      have whole := ih restAscending
      simp only [valuesFor, strays, List.map_cons, List.filterMap_cons, Fields.find?] at whole ⊢
      rw [whole, show entryOf field = entryOf (field.1, field.2) from rfl, valueFor?_entryOf noEquals]
      by_cases same : field.1 = name
      · have later : Fields.find? name rest = none :=
          Fields.find?_eq_none fun other member => same ▸ (ne_of_lt (above other member)).symm
        have noStray : valueFor? name field.1 = none := by
          rw [Option.eq_none_iff_forall_ne_some]
          exact fun behind found => (lt_of_valueFor? noEquals found).ne same.symm
        rw [if_pos same, if_pos same, noStray, later]
        rfl
      · cases longer : valueFor? name field.1 with
        | none => simp [same]
        | some behind =>
            have later : Fields.find? name rest = none :=
              Fields.find?_eq_none fun other member =>
                ((lt_of_valueFor? noEquals longer).trans (above other member)).ne'
            simp [same, later]

theorem strays_eq_nil {name : String} {fields : Environment}
    (noEquals : ∀ field ∈ fields, '=' ∉ field.1.toList) : strays name fields = [] := by
  refine List.filterMap_eq_nil_iff.mpr fun field member => ?_
  rw [valueFor?_eq_none (noEquals field member)]
  rfl

theorem strays_filter (name : String) (fields : Environment) :
    strays name (fields.filter fun field => (valueFor? name field.1).isSome) =
      strays name fields := by
  rw [strays, strays, List.filterMap_filter]
  refine List.filterMap_congr fun field _ => ?_
  cases valueFor? name field.1 <;> rfl

theorem strays_congr {name : String} {first second : Environment}
    (firstAscending : first.Pairwise fun a b => a.1 < b.1)
    (secondAscending : second.Pairwise fun a b => a.1 < b.1)
    (same : ∀ field : String × String, (valueFor? name field.1).isSome = true →
      (field ∈ first ↔ field ∈ second)) :
    strays name first = strays name second := by
  have antisymm : Std.Antisymm fun a b : String × String => a.1 < b.1 :=
    ⟨fun _ _ before after => absurd before (lt_asymm after)⟩
  have irrefl : Std.Irrefl fun a b : String × String => a.1 < b.1 := ⟨fun _ => lt_irrefl _⟩
  rw [← strays_filter name first, ← strays_filter name second]
  refine congrArg (strays name) ?_
  refine (firstAscending.filter _).eq_of_mem_iff (secondAscending.filter _) fun field => ?_
  rw [List.mem_filter, List.mem_filter]
  exact and_congr_left fun stray => same field stray

/-! The environment of a started process. -/

theorem assigned?_eq_some_iff {entry key value : String} :
    assigned? entry = some (key, value) ↔
      entry = key ++ "=" ++ value ∧ key ≠ "" ∧ '=' ∉ key.toList.tail := by
  rw [← String.toList_inj, ne_eq, ← String.toList_eq_nil_iff, assigned?]
  split
  · rename_i empty
    simp [empty]
  · rename_i c rest chars
    simp only [Option.map_eq_some_iff, Prod.exists, divide?_eq_some_iff, Prod.mk.injEq,
      ← String.toList_inj, String.toList_ofList, chars]
    constructor
    · rintro ⟨front, behind, ⟨rfl, noEquals⟩, named, rfl⟩
      simp [← named, noEquals]
    · rintro ⟨whole, nonempty, noEquals⟩
      obtain ⟨d, front, split⟩ := List.exists_cons_of_ne_nil nonempty
      refine ⟨front, value.toList, ?_⟩
      simp_all

/-- A process finds in its environment the last of the values that it was started with. -/
theorem find?_ofEntries {name : String} (isName : IsName name) (entries : List String) :
    Fields.find? name (ofEntries entries) = (valuesFor name entries).getLast? := by
  rw [ofEntries, Fields.ofList, Fields.find?_foldl_insert_eq_getLast?, Fields.find?, Option.or_none,
    List.filterMap_filterMap]
  refine congrArg List.getLast? (List.filterMap_congr fun entry _ => ?_)
  have noEquals : '=' ∉ name.toList.tail := fun member => isName.2 (List.mem_of_mem_tail member)
  have read (value : String) :
      assigned? entry = some (name, value) ↔ valueFor? name entry = some value := by
    rw [assigned?_eq_some_iff, valueFor?_eq_some_iff isName.2]
    exact and_iff_left ⟨isName.1, noEquals⟩
  ext value
  rw [← read]
  simp [Option.bind_eq_some_iff]

theorem ascending_ofEntries (entries : List String) :
    (ofEntries entries).Pairwise fun a b => a.1 < b.1 :=
  Fields.ascending_foldl_insert _ .nil

/-- It finds no name with an equals sign in it. -/
theorem valueFor?_of_mem_ofEntries {name : String} (isName : IsName name) {entries : List String}
    {field : String × String} (member : field ∈ ofEntries entries) :
    valueFor? name field.1 = none := by
  rcases Fields.mem_foldl_insert member with old | given
  · contradiction
  · obtain ⟨entry, -, read⟩ := List.mem_filterMap.mp given
    obtain ⟨-, -, noEquals⟩ := assigned?_eq_some_iff.mp read
    rw [Option.eq_none_iff_forall_ne_some]
    intro rest found
    rw [(valueFor?_eq_some_iff isName.2).mp found] at noEquals
    obtain ⟨c, front, split⟩ :=
      List.exists_cons_of_ne_nil (mt String.toList_eq_nil_iff.mp isName.1)
    simp [split] at noEquals

end LifecycleHooks.Environment
