import LifecycleHooks.Proofs.Json.Fields
import LifecycleHooks.Proofs.Json.Scanning
import LifecycleHooks.Proofs.Json.WellFormed

/-!
Printed values that are read again. A value without doubles, nested no deeper than the reader admits,
is read from its text as itself; the fields of an object may be printed in any order.
-/

namespace LifecycleHooks.Json

/-- Arrays and objects nest at most so deep. -/
inductive NestsWithin : Nat → Json → Prop
  | null (depth : Nat) : NestsWithin depth .null
  | bool (depth : Nat) (value : Bool) : NestsWithin depth (.bool value)
  | number (depth : Nat) (value : Number) : NestsWithin depth (.number value)
  | string (depth : Nat) (value : String) : NestsWithin depth (.string value)
  | array {depth : Nat} {items : List Json} (each : ∀ item ∈ items, NestsWithin depth item) :
      NestsWithin (depth + 1) (.array items)
  | object {depth : Nat} {fields : Fields Json}
      (each : ∀ field ∈ fields, NestsWithin depth field.2) :
      NestsWithin (depth + 1) (.object fields)

/-- A value whose numbers are whole numbers of 64 bits, and which nests at most so deep. -/
structure Readable (depth : Nat) (value : Json) : Prop where
  wellFormed : value.WellFormed
  whole : value.Numbers Number.IsWhole
  nests : value.NestsWithin depth

theorem readable_null (depth : Nat) : Json.null.Readable depth := ⟨⟨.null, .null⟩, .null, .null depth⟩

theorem readable_string (depth : Nat) (text : String) : (Json.string text).Readable depth :=
  ⟨wellFormed_string text, .string text, .string depth text⟩

theorem readable_ofInt (depth : Nat) {value : Int} (fits : fitsWhole value = true) :
    (Json.ofInt value).Readable depth :=
  ⟨⟨.number _, .number fits⟩, .number trivial, .number depth _⟩

theorem readable_array {depth : Nat} {items : List Json}
    (each : ∀ item ∈ items, item.Readable depth) : (Json.array items).Readable (depth + 1) where
  wellFormed := ⟨.array fun item member => (each item member).wellFormed.ordered,
    .array fun item member => (each item member).wellFormed.fits⟩
  whole := .array fun item member => (each item member).whole
  nests := .array fun item member => (each item member).nests

theorem readable_object {depth : Nat} {fields : Fields Json}
    (ascending : fields.Pairwise fun a b => a.1 < b.1)
    (each : ∀ field ∈ fields, field.2.Readable depth) : (Json.object fields).Readable (depth + 1) where
  wellFormed := ⟨.object ascending fun field member => (each field member).wellFormed.ordered,
    .object fun field member => (each field member).wellFormed.fits⟩
  whole := .object fun field member => (each field member).whole
  nests := .object fun field member => (each field member).nests

/-! Reading on from a state. -/

def readOn (state : State) (chars : List Char) : Except Fault State :=
  (tokensBy scan scan_length chars).foldlM strict.step state

theorem readOn_nil (state : State) : readOn state [] = .ok state := by
  rw [readOn, tokensBy]
  rfl

theorem readOn_step {state next : State} {chars rest : List Char} {token : Token}
    (scanned : scan chars = some (token, rest)) (stepped : strict.step state token = .ok next) :
    readOn state chars = readOn next rest := by
  rw [readOn, tokensBy]
  split
  · rename_i nothing
    rw [scanned] at nothing
    contradiction
  · rename_i found
    rw [scanned] at found
    obtain ⟨rfl, rfl⟩ := Prod.mk.inj (Option.some.inj found)
    rw [List.foldlM_cons, stepped]
    rfl

theorem parse_ofList {chars : List Char} {value : Json}
    (run : readOn start chars = .ok (.closed value, [])) :
    parse (String.ofList chars) = .ok value := by
  rw [readOn] at run
  simp only [parse, tokens, String.toList_ofList, Dialect.read, run, finish]

/-- In this state a value has to come, with these values open around it. -/
def Awaits (state : State) (around : List Frame) : Prop :=
  ∀ token, token ≠ .closeArray → strict.step state token = strict.open around token

theorem awaits_value (around : List Frame) : Awaits (.value, around) around := by
  intro token _
  rw [Dialect.step]

theorem awaits_firstItem (around : List Frame) :
    Awaits (.firstItem, around) (.items [] :: around) := by
  intro token noClose
  rw [Dialect.step]
  exact noClose

theorem awaits_nextItem (done : List Json) (around : List Frame) :
    Awaits (.nextItem done, around) (.items done :: around) := by
  intro token noClose
  rw [Dialect.step]
  exact noClose

/-- In this state a key has to come, behind the fields that are done. -/
def AwaitsKey (state : State) (done : Fields Json) (around : List Frame) : Prop :=
  ∀ key, strict.step state (.text key) = .ok (.colon done key, around)

theorem strict_admits {depth : Nat} {around : List Frame}
    (room : around.length + (depth + 1) ≤ 127) : strict.admits (around.length + 1) = true := by
  simp only [Dialect.admits, strict, decide_eq_true_eq]
  omega

/-- Where a value has to come, and there is room for one so deep, the text of the value is read as
the value. -/
def ReadBack (depth : Nat) (value : Json) : Prop :=
  ∀ state around rest, Awaits state around → around.length + depth ≤ 127 → Closes rest →
    readOn state (value.chars ++ rest) = readOn (.closed value, around) rest

/-! Arrays. -/

theorem readOn_items {depth : Nat} {items : List Json} (notEmpty : items ≠ [])
    (each : ∀ item ∈ items, ReadBack depth item) {state : State} {done : List Json}
    {around : List Frame} (awaits : Awaits state (.items done :: around))
    (room : around.length + (depth + 1) ≤ 127) (rest : List Char) :
    readOn state (itemsChars items ++ ']' :: rest) =
      readOn (.closed (.array (done.reverse ++ items)), around) rest := by
  have deeper : (Frame.items done :: around).length + depth ≤ 127 := by
    rw [List.length_cons]
    omega
  induction items generalizing state done with
  | nil => exact absurd rfl notEmpty
  | cons item others ih =>
      obtain ⟨first, otherEach⟩ := List.forall_mem_cons.mp each
      cases others with
      | nil =>
          calc readOn state (item.chars ++ ']' :: rest)
            _ = readOn (.closed item, .items done :: around) (']' :: rest) :=
                first _ _ _ awaits deeper (closes_bracket _)
            _ = readOn (.closed (.array (item :: done).reverse), around) rest := readOn_step rfl rfl
            _ = _ := by rw [List.reverse_cons]
      | cons second others =>
          calc readOn state ((item.chars ++ ',' :: itemsChars (second :: others)) ++ ']' :: rest)
            _ = readOn state (item.chars ++ ',' :: (itemsChars (second :: others) ++ ']' :: rest)) := by
                rw [List.append_assoc, List.cons_append]
            _ = readOn (.closed item, .items done :: around)
                  (',' :: (itemsChars (second :: others) ++ ']' :: rest)) :=
                first _ _ _ awaits deeper (closes_comma _)
            _ = readOn (.nextItem (item :: done), around)
                  (itemsChars (second :: others) ++ ']' :: rest) := readOn_step rfl rfl
            _ = readOn (.closed (.array ((item :: done).reverse ++ second :: others)), around) rest :=
                ih (List.cons_ne_nil _ _) otherEach (awaits_nextItem _ _) deeper
            _ = _ := by rw [List.reverse_cons, List.append_assoc, List.singleton_append]

theorem readBack_array {depth : Nat} {items : List Json}
    (each : ∀ item ∈ items, ReadBack depth item) : ReadBack (depth + 1) (.array items) := by
  intro state around rest awaits room _
  have opened : strict.step state .openArray = .ok (.firstItem, around) := by
    rw [awaits _ Token.noConfusion, Dialect.open, if_pos (strict_admits room)]
  rw [chars, List.cons_append, List.append_assoc, List.singleton_append, readOn_step rfl opened]
  cases items with
  | nil => exact readOn_step rfl rfl
  | cons item others =>
      exact readOn_items (List.cons_ne_nil _ _) each (awaits_firstItem around) room rest

/-! Objects. -/

theorem readOn_fields {depth : Nat} {fields : Fields Json} (notEmpty : fields ≠ [])
    (each : ∀ field ∈ fields, ReadBack depth field.2) {state : State} {done : Fields Json}
    {around : List Frame} (awaits : AwaitsKey state done around)
    (room : around.length + (depth + 1) ≤ 127) (rest : List Char) :
    readOn state (fieldsChars fields ++ '\x7d' :: rest) =
      readOn (.closed (.object
        (fields.foldl (fun fields field => Fields.insert field.1 field.2 fields) done)), around)
        rest := by
  induction fields generalizing state done with
  | nil => exact absurd rfl notEmpty
  | cons field others ih =>
      obtain ⟨key, value⟩ := field
      obtain ⟨first, otherEach⟩ := List.forall_mem_cons.mp each
      have deeper : (Frame.fields done key :: around).length + depth ≤ 127 := by
        rw [List.length_cons]
        omega
      have named (behind : List Char) (closes : Closes behind) :
          readOn state (stringChars key ++ ':' :: (value.chars ++ behind)) =
            readOn (.closed value, .fields done key :: around) behind :=
        calc readOn state (stringChars key ++ ':' :: (value.chars ++ behind))
          _ = readOn (.colon done key, around) (':' :: (value.chars ++ behind)) :=
              readOn_step (scan_stringChars key _) (awaits key)
          _ = readOn (.value, .fields done key :: around) (value.chars ++ behind) :=
              readOn_step rfl rfl
          _ = _ := first _ _ _ (awaits_value _) deeper closes
      cases others with
      | nil =>
          rw [fieldsChars, List.append_assoc, List.cons_append, named _ (closes_brace _)]
          exact readOn_step rfl rfl
      | cons second others =>
          rw [fieldsChars, List.append_assoc, List.cons_append, List.append_assoc, List.cons_append,
            named _ (closes_comma _)]
          · exact (readOn_step rfl rfl).trans (ih (List.cons_ne_nil _ _) otherEach fun _ => rfl)
          · exact List.cons_ne_nil _ _

theorem readOn_object {depth : Nat} {fields : List (String × Json)}
    (each : ∀ field ∈ fields, ReadBack depth field.2) {state : State} {around : List Frame}
    (awaits : Awaits state around) (room : around.length + (depth + 1) ≤ 127) (rest : List Char) :
    readOn state ((Json.object fields).chars ++ rest) =
      readOn (.closed (objectOf fields), around) rest := by
  have opened : strict.step state .openObject = .ok (.firstField, around) := by
    rw [awaits _ Token.noConfusion, Dialect.open, if_pos (strict_admits room)]
  rw [chars, List.cons_append, List.append_assoc, List.singleton_append, readOn_step rfl opened]
  cases fields with
  | nil => exact readOn_step rfl rfl
  | cons field others =>
      exact readOn_fields (List.cons_ne_nil _ _) each (fun _ => rfl) room rest

/-! Values. -/

theorem readBack_of_readable {depth : Nat} {value : Json} (readable : value.Readable depth) :
    ReadBack depth value := by
  obtain ⟨wellFormed, whole, nests⟩ := readable
  induction nests with
  | null depth =>
      intro state around rest awaits _ _
      exact readOn_step (scan_null rest) (awaits _ Token.noConfusion)
  | bool depth value =>
      intro state around rest awaits _ _
      refine readOn_step (scan_bool value rest) ((awaits _ Token.noConfusion).trans ?_)
      cases value <;> rfl
  | number depth value =>
      intro state around rest awaits _ closes
      cases value with
      | whole value =>
          have fits := numbers_number_iff.mp wellFormed.fits
          exact readOn_step (scan_whole fits closes) (awaits _ Token.noConfusion)
      | double value => exact absurd (numbers_number_iff.mp whole) id
  | string depth value =>
      intro state around rest awaits _ _
      exact readOn_step (scan_stringChars value rest) (awaits _ Token.noConfusion)
  | array each ih =>
      refine readBack_array fun item member => ih item member ⟨?_, ?_⟩ ?_
      · exact ordered_array_iff.mp wellFormed.ordered item member
      · exact numbers_array_iff.mp wellFormed.fits item member
      · exact numbers_array_iff.mp whole item member
  | object each ih =>
      obtain ⟨ascending, ordered⟩ := ordered_object_iff.mp wellFormed.ordered
      intro state around rest awaits room _
      -- The reader sorts the fields by their keys, in which order they are already.
      rw [readOn_object _ awaits room rest, objectOf, Fields.ofList_of_ascending ascending]
      refine fun field member => ih field member ⟨?_, ?_⟩ ?_
      · exact ordered field member
      · exact numbers_object_iff.mp wellFormed.fits field member
      · exact numbers_object_iff.mp whole field member

/-- The text of a value is read as the value. -/
theorem parse_text {value : Json} (readable : value.Readable 127) : parse value.text = .ok value := by
  have run := readBack_of_readable readable start [] [] (awaits_value []) (by simp) trivial
  rw [List.append_nil, readOn_nil] at run
  exact parse_ofList run

/-- An object takes up one level of its own, so its fields have one less. -/
theorem parse_object_text {fields : List (String × Json)}
    (each : ∀ field ∈ fields, field.2.Readable 126) :
    parse (Json.object fields).text = .ok (objectOf fields) := by
  have run := readOn_object (fun field member => readBack_of_readable (each field member))
    (awaits_value []) (by simp) []
  rw [List.append_nil, readOn_nil] at run
  exact parse_ofList run

end LifecycleHooks.Json
