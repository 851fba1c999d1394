import LifecycleHooks.Proofs.Json.RoundTrip
import LifecycleHooks.Proofs.Loading

/-!
What becomes of everything that a workspace document has under `hooks`: each entry of an event type
is a hook or is complained about at its own position, each other value is complained about once, and
no entry has a say in what becomes of another one.
-/

namespace LifecycleHooks

/-- The key of a document that a complaint names. -/
def Warning.names? : Warning → Option String
  | badList source _ => some source
  | badHook _ source _ => some source
  | unknownEvent name => some name
  | _ => none

namespace Loading

def about (key : String) (warnings : List Warning) : List Warning :=
  warnings.filter fun warning => warning.names? == some key

/-- The entries that a value lists: those of an array, or an object by itself. -/
inductive Lists : Json → List Json → Prop
  | array (items : List Json) : Lists (.array items) items
  | object (fields : Fields Json) : Lists (.object fields) [.object fields]

def complaint? (source : String) (index : Nat) (entry : Json) : Option Warning :=
  (rejected? (Hook.ofJson entry)).map (.badHook index source)

/-- Each entry is a hook or is complained about, in the order of the entries. -/
structure Divided (source : String) (entries : List Json) (hooks : List Hook)
    (warnings : List Warning) : Prop where
  kept : hooks = entries.filterMap declared?
  refused : ∃ refused : List (Nat × Hook.Invalid),
    warnings = refused.map (fun entry => .badHook entry.1 source entry.2) ∧
    (refused.map Prod.fst).Pairwise (· < ·) ∧
    ∀ index cause, (index, cause) ∈ refused ↔
      ∃ entry, entries[index]? = some entry ∧ Hook.ofJson entry = .error cause
  counted : hooks.length + warnings.length = entries.length

/-- What hooks and complaints make of the fields under `hooks`: those of each key, and no others. -/
structure Accounted (fields : Fields Json) (map : HookMap) (warnings : List Warning) : Prop where
  listed : ∀ event value entries, (event.name, value) ∈ fields → Lists value entries →
    Divided event.name entries (map.get event) (about event.name warnings)
  unlisted : ∀ event value, (event.name, value) ∈ fields → (∀ entries, ¬ Lists value entries) →
    map.get event = [] ∧ about event.name warnings = [.badList event.name value]
  unknown : ∀ key value, (key, value) ∈ fields → (∀ event : EventType, event.name ≠ key) →
    about key warnings = [.unknownEvent key]
  absent : ∀ event, (∀ value, (event.name, value) ∉ fields) → map.get event = []
  noOthers : warnings = fields.flatMap fun field => about field.1 warnings

/-! The entries of one list. -/

/-- The entries that are refused, by their positions from `first` on, with the reasons. -/
def refusals (first : Nat) (entries : List Json) : List (Nat × Hook.Invalid) :=
  (entries.zipIdx first).filterMap fun entry =>
    (rejected? (Hook.ofJson entry.1)).map fun cause => (entry.2, cause)

theorem rejected?_ofJson_eq_some_iff {entry : Json} {cause : Hook.Invalid} :
    rejected? (Hook.ofJson entry) = some cause ↔ Hook.ofJson entry = .error cause := by
  cases Hook.ofJson entry with
  | ok hook => simp [rejected?]
  | error other => simp [rejected?]

theorem declared?_eq_accepted? (entry : Json) :
    declared? entry = accepted? (Hook.ofJson entry) := by
  rw [← accepted?_readEntry "" entry 0, readEntry]
  cases Hook.ofJson entry <;> rfl

theorem refusals_cons (first : Nat) (entry : Json) (rest : List Json) :
    refusals first (entry :: rest) =
      (rejected? (Hook.ofJson entry)).toList.map (fun cause => (first, cause)) ++
        refusals (first + 1) rest := by
  rw [refusals, List.zipIdx_cons, List.filterMap_cons]
  cases rejected? (Hook.ofJson entry) <;> rfl

theorem refusals_append (first : Nat) (front back : List Json) :
    refusals first (front ++ back) = refusals first front ++ refusals (first + front.length) back := by
  rw [refusals, List.zipIdx_append, List.filterMap_append]
  rfl

theorem mem_refusals_iff (entries : List Json) (index : Nat) (cause : Hook.Invalid) :
    (index, cause) ∈ refusals 0 entries ↔
      ∃ entry, entries[index]? = some entry ∧ Hook.ofJson entry = .error cause := by
  simp only [refusals, List.mem_filterMap, Option.map_eq_some_iff, rejected?_ofJson_eq_some_iff,
    Prod.exists, Prod.mk.injEq]
  constructor
  · rintro ⟨entry, position, member, reason, failed, rfl, rfl⟩
    exact ⟨entry, List.mk_mem_zipIdx_iff_getElem?.mp member, failed⟩
  · rintro ⟨entry, found, failed⟩
    exact ⟨entry, index, List.mk_mem_zipIdx_iff_getElem?.mpr found, cause, failed, rfl, rfl⟩

theorem pairwise_refusals (first : Nat) (entries : List Json) :
    ((refusals first entries).map Prod.fst).Pairwise (· < ·) := by
  have positions : (entries.zipIdx first).Pairwise fun a b => a.2 < b.2 := by
    have ascending := List.pairwise_lt_range' (s := first) (n := entries.length)
    rwa [← List.zipIdx_map_snd, List.pairwise_map] at ascending
  rw [List.pairwise_map]
  refine positions.filterMap _ ?_
  rintro earlier later before _ found _ foundLater
  obtain ⟨_, _, rfl⟩ := Option.map_eq_some_iff.mp found
  obtain ⟨_, _, rfl⟩ := Option.map_eq_some_iff.mp foundLater
  exact before

theorem length_declared_add_refusals (first : Nat) (entries : List Json) :
    (entries.filterMap declared?).length + (refusals first entries).length = entries.length := by
  induction entries generalizing first with
  | nil => rfl
  | cons entry rest ih =>
      have restCount := ih (first + 1)
      rw [refusals_cons, List.filterMap_cons, declared?_eq_accepted?]
      cases Hook.ofJson entry with
      | ok hook =>
          simp only [accepted?, rejected?, Option.toList_none, List.map_nil, List.nil_append,
            List.length_cons]
          omega
      | error cause =>
          simp only [accepted?, rejected?, Option.toList_some, List.map_cons, List.map_nil,
            List.length_append, List.length_cons, List.length_nil]
          omega

theorem complaints_readEntry (source : String) (first : Nat) (entries : List Json) :
    ((entries.zipIdx first).map (readEntry source)).filterMap rejected? =
      (refusals first entries).map fun entry => .badHook entry.1 source entry.2 := by
  induction entries generalizing first with
  | nil => rfl
  | cons entry rest ih =>
      rw [List.zipIdx_cons, List.map_cons, List.filterMap_cons, ih, refusals_cons, List.map_append,
        readEntry]
      cases Hook.ofJson entry <;> rfl

theorem declared_of_lists {value : Json} {entries : List Json} (lists : Lists value entries) :
    declared (some value) = entries.filterMap declared? := by
  cases lists <;> rfl

theorem warnings_hookList {value : Json} {entries : List Json} (source : String)
    (lists : Lists value entries) :
    (hookList source value).2 =
      (refusals 0 entries).map fun entry => .badHook entry.1 source entry.2 := by
  cases lists with
  | array => exact complaints_readEntry source 0 entries
  | object fields => exact complaints_readEntry source 0 [.object fields]

theorem divided_hookList {value : Json} {entries : List Json} (source : String)
    (lists : Lists value entries) :
    Divided source entries (hookList source value).1 (hookList source value).2 where
  kept := by rw [hookList_eq, declared_of_lists lists]
  refused := ⟨refusals 0 entries, warnings_hookList source lists, pairwise_refusals 0 entries,
    mem_refusals_iff entries⟩
  counted := by
    rw [hookList_eq, declared_of_lists lists, warnings_hookList source lists, List.length_map,
      length_declared_add_refusals]

theorem hookList_of_unlisted {value : Json} (source : String)
    (unlisted : ∀ entries, ¬ Lists value entries) :
    hookList source value = ([], [.badList source value]) := by
  cases value with
  | array items => exact absurd (.array items) (unlisted items)
  | object fields => exact absurd (.object fields) (unlisted _)
  | _ => rfl

/-! The fields under `hooks`. -/

def fieldWarnings (field : String × Json) : List Warning :=
  match EventType.ofName? field.1 with
  | none => [.unknownEvent field.1]
  | some _ => (hookList field.1 field.2).2

theorem fieldWarnings_of_event (event : EventType) (value : Json) :
    fieldWarnings (event.name, value) = (hookList event.name value).2 := by
  simp only [fieldWarnings, EventType.ofName?_name]

theorem fieldWarnings_of_unknown {key : String} (value : Json)
    (unknown : ∀ event : EventType, event.name ≠ key) :
    fieldWarnings (key, value) = [.unknownEvent key] := by
  cases found : EventType.ofName? key with
  | none => simp only [fieldWarnings, found]
  | some event => exact absurd (EventType.name_of_ofName? found) (unknown event)

theorem warnings_foldl_documentEntry (fields : Fields Json) (loaded : Loaded HookMap) :
    (fields.foldl documentEntry loaded).2 = loaded.2 ++ fields.flatMap fieldWarnings := by
  induction fields generalizing loaded with
  | nil => exact (List.append_nil _).symm
  | cons field rest ih =>
      have first : (documentEntry loaded field).2 = loaded.2 ++ fieldWarnings field := by
        simp only [documentEntry, fieldWarnings]
        cases EventType.ofName? field.1 <;> rfl
      rw [List.foldl_cons, ih, first, List.flatMap_cons, List.append_assoc]

theorem names?_of_mem_hookList {source : String} {value : Json} {warning : Warning}
    (member : warning ∈ (hookList source value).2) : warning.names? = some source := by
  by_cases listed : ∃ entries, Lists value entries
  · obtain ⟨entries, lists⟩ := listed
    rw [warnings_hookList source lists] at member
    obtain ⟨entry, -, rfl⟩ := List.mem_map.mp member
    rfl
  · rw [hookList_of_unlisted source (not_exists.mp listed)] at member
    obtain rfl := List.mem_singleton.mp member
    rfl

theorem names?_of_mem_fieldWarnings {field : String × Json} {warning : Warning}
    (member : warning ∈ fieldWarnings field) : warning.names? = some field.1 := by
  simp only [fieldWarnings] at member
  split at member
  · obtain rfl := List.mem_singleton.mp member
    rfl
  · exact names?_of_mem_hookList member

theorem about_fieldWarnings (field : String × Json) :
    about field.1 (fieldWarnings field) = fieldWarnings field := by
  refine List.filter_eq_self.mpr fun warning member => ?_
  rw [names?_of_mem_fieldWarnings member]
  exact beq_self_eq_true _

theorem about_flatMap_of_absent {key : String} {fields : Fields Json}
    (absent : ∀ field ∈ fields, field.1 ≠ key) :
    about key (fields.flatMap fieldWarnings) = [] := by
  refine List.filter_eq_nil_iff.mpr fun warning inside => ?_
  obtain ⟨field, member, warned⟩ := List.mem_flatMap.mp inside
  rw [names?_of_mem_fieldWarnings warned]
  simpa using absent field member

theorem about_flatMap_fieldWarnings {fields : Fields Json} {field : String × Json}
    (distinct : fields.Pairwise fun a b => a.1 ≠ b.1) (member : field ∈ fields) :
    about field.1 (fields.flatMap fieldWarnings) = fieldWarnings field := by
  obtain ⟨front, back, rfl⟩ := List.append_of_mem member
  obtain ⟨-, behind, apart⟩ := List.pairwise_append.mp distinct
  have before : about field.1 (front.flatMap fieldWarnings) = [] :=
    about_flatMap_of_absent fun other inFront => apart other inFront field List.mem_cons_self
  have after : about field.1 (back.flatMap fieldWarnings) = [] :=
    about_flatMap_of_absent fun other inBack =>
      ((List.pairwise_cons.mp behind).1 other inBack).symm
  have own := about_fieldWarnings field
  rw [about] at before after own
  rw [about, List.flatMap_append, List.flatMap_cons, List.filter_append, List.filter_append, before,
    after, own, List.nil_append, List.append_nil]

/-! Whole documents. -/

theorem workspaceDocument_eq {text : String} {value : Json} {fields : Fields Json}
    (read : Json.parse text = .ok value) (inside : value.field? "hooks" = some (.object fields)) :
    (fields.Pairwise fun a b => a.1 ≠ b.1) ∧
    ∃ map, workspaceDocument text = .ok (map, fields.flatMap fieldWarnings) ∧
      ∀ event : EventType, map.get event = declared (Fields.find? event.name fields) := by
  have ordered := Json.ordered_parse read
  have ascending := (Json.ordered_object_iff.mp (ordered.of_field? inside)).1
  refine ⟨ascending.imp fun before => ne_of_lt before, (document value).1, ?_, ?_⟩
  · have loaded : document value = fields.foldl documentEntry (.empty, []) := by
      simp only [document, sectionName, inside]
    have warned := warnings_foldl_documentEntry fields (.empty, [])
    rw [List.nil_append, ← loaded] at warned
    rw [workspaceDocument, read, ← warned]
  · intro event
    rw [get_document value ordered, inside]
    rfl

theorem accounted_of_get {fields : Fields Json} {map : HookMap}
    (distinct : fields.Pairwise fun a b => a.1 ≠ b.1)
    (gets : ∀ event : EventType, map.get event = declared (Fields.find? event.name fields)) :
    Accounted fields map (fields.flatMap fieldWarnings) := by
  -- The hooks and the complaints of an event type are those of its own value alone.
  have own {event : EventType} {value : Json} (member : (event.name, value) ∈ fields) :
      map.get event = (hookList event.name value).1 ∧
        about event.name (fields.flatMap fieldWarnings) = (hookList event.name value).2 := by
    constructor
    · rw [gets, Fields.find?_of_mem distinct member, hookList_eq]
    · rw [← fieldWarnings_of_event]
      exact about_flatMap_fieldWarnings distinct member
  constructor
  case listed =>
    intro event value entries member lists
    obtain ⟨hooks, complaints⟩ := own member
    rw [hooks, complaints]
    exact divided_hookList event.name lists
  case unlisted =>
    intro event value member unlisted
    obtain ⟨hooks, complaints⟩ := own member
    rw [hooks, complaints, hookList_of_unlisted event.name unlisted]
    exact ⟨rfl, rfl⟩
  case unknown =>
    intro key value member unknown
    rw [← fieldWarnings_of_unknown value unknown]
    exact about_flatMap_fieldWarnings distinct member
  case absent =>
    intro event missing
    have nowhere : Fields.find? event.name fields = none := by
      refine Fields.find?_eq_none fun field member same => missing field.2 ?_
      rwa [← same]
    rw [gets, nowhere]
    rfl
  case noOthers =>
    refine List.flatMap_congr fun field member => ?_
    exact (about_flatMap_fieldWarnings distinct member).symm

/-! One entry among others. -/

theorem fieldWarnings_of_entry {value entry : Json} {front back : List Json} (event : EventType)
    (lists : Lists value (front ++ entry :: back)) :
    fieldWarnings (event.name, value) =
      (refusals 0 front).map (fun entry => .badHook entry.1 event.name entry.2) ++
        ((complaint? event.name front.length entry).toList ++
          (refusals (front.length + 1) back).map
            fun entry => .badHook entry.1 event.name entry.2) := by
  rw [fieldWarnings_of_event, warnings_hookList _ lists, refusals_append, refusals_cons,
    Nat.zero_add, List.map_append, List.map_append, complaint?]
  cases rejected? (Hook.ofJson entry) <;> rfl

theorem find?_of_other {event other : EventType} (different : other ≠ event)
    (left right : Fields Json) (value : Json) :
    Fields.find? other.name (left ++ (event.name, value) :: right) =
      Fields.find? other.name (left ++ right) := by
  have apart : event.name ≠ other.name :=
    fun same => different (EventType.name_inj.mp same).symm
  rw [Fields.find?_append, Fields.find?_append, Fields.find?, if_neg apart]

/-- A document with an object under `hooks` is accounted for, and where one entry of an event type
is replaced by another, only what comes of this entry is replaced. -/
theorem documents_accounted :
    (∀ text value fields, Json.parse text = .ok value →
      value.field? "hooks" = some (.object fields) →
      ∃ map warnings, workspaceDocument text = .ok (map, warnings) ∧
        Accounted fields map warnings) ∧
    ∀ (event : EventType) (left right : Fields Json) (front back : List Json),
      ∃ (others : EventType → List Hook) (earlier later : List Warning),
        ∀ text value written entry, Json.parse text = .ok value →
          value.field? "hooks" = some (.object (left ++ (event.name, written) :: right)) →
          Lists written (front ++ entry :: back) →
          ∃ map, workspaceDocument text = .ok
              (map, earlier ++ (complaint? event.name front.length entry).toList ++ later) ∧
            map.get event = front.filterMap declared? ++ (declared? entry).toList ++
              back.filterMap declared? ∧
            ∀ other, other ≠ event → map.get other = others other := by
  constructor
  · intro text value fields read inside
    obtain ⟨distinct, map, loaded, gets⟩ := workspaceDocument_eq read inside
    exact ⟨map, _, loaded, accounted_of_get distinct gets⟩
  · intro event left right front back
    refine ⟨fun other => declared (Fields.find? other.name (left ++ right)),
      left.flatMap fieldWarnings ++
        (refusals 0 front).map (fun entry => .badHook entry.1 event.name entry.2),
      (refusals (front.length + 1) back).map (fun entry => .badHook entry.1 event.name entry.2) ++
        right.flatMap fieldWarnings, ?_⟩
    intro text value written entry read inside lists
    obtain ⟨distinct, map, loaded, gets⟩ := workspaceDocument_eq read inside
    refine ⟨map, ?_, ?_, ?_⟩
    · rw [loaded, List.flatMap_append, List.flatMap_cons, fieldWarnings_of_entry event lists]
      simp only [List.append_assoc]
    · rw [gets, Fields.find?_of_mem distinct (List.mem_append_right _ List.mem_cons_self),
        declared_of_lists lists, List.filterMap_append, List.filterMap_cons]
      cases declared? entry <;> simp
    · intro other different
      rw [gets, find?_of_other different]

def commandEntry (command : String) : Json := .object [("command", .string command)]

def mixedFields (entry : Json) : Fields Json :=
  [("file-save", .null), ("pre-commit", .array [commandEntry "lint", entry, .null]),
    ("pre-xyz", .array [])]

def mixedDocument (entry : Json) : Json := .object [("hooks", .object (mixedFields entry))]

theorem readable_commandEntry (command : String) : (commandEntry command).Readable 124 :=
  Json.readable_object (List.pairwise_singleton _ _)
    (List.forall_mem_singleton.mpr (Json.readable_string 123 command))

theorem parse_mixedDocument {entry : Json} (readable : entry.Readable 124) :
    Json.parse (mixedDocument entry).text = .ok (mixedDocument entry) := by
  have entries : ∀ item ∈ [commandEntry "lint", entry, .null], item.Readable 124 := by
    simp [readable_commandEntry, readable, Json.readable_null]
  have noItems : (Json.array []).Readable 125 := Json.readable_array (List.forall_mem_nil _)
  have fields : ∀ field ∈ mixedFields entry, field.2.Readable 125 := by
    simp [mixedFields, Json.readable_null, Json.readable_array entries, noItems]
  have ascending : (mixedFields entry).Pairwise fun a b => a.1 < b.1 := by
    simp only [mixedFields, List.pairwise_cons, List.forall_mem_cons]
    decide
  exact Json.parse_text (Json.readable_object (List.pairwise_singleton _ _)
    (List.forall_mem_singleton.mpr (Json.readable_object ascending fields)))

theorem documents_accounted_mixed :
    let broken := Json.object []
    let hook (command : String) : Hook :=
      ⟨.command command [], Hook.defaultTimeout, false, false, none, []⟩
    (∃ map warnings, workspaceDocument (mixedDocument broken).text = .ok (map, warnings) ∧
      Accounted (mixedFields broken) map warnings) ∧
    ∃ earlier later,
      (∃ map, workspaceDocument (mixedDocument broken).text =
          .ok (map, earlier ++ [.badHook 1 "pre-commit" .missingAction] ++ later) ∧
        map.get .preCommit = [hook "lint"]) ∧
      ∃ map, workspaceDocument (mixedDocument (commandEntry "build")).text =
          .ok (map, earlier ++ [] ++ later) ∧
        map.get .preCommit = [hook "lint", hook "build"] := by
  intro broken hook
  have readBroken : Json.parse (mixedDocument broken).text = .ok (mixedDocument broken) :=
    parse_mixedDocument (Json.readable_object .nil (List.forall_mem_nil _))
  have readWhole := parse_mixedDocument (readable_commandEntry "build")
  obtain ⟨accounted, replaced⟩ := documents_accounted
  obtain ⟨others, earlier, later, comes⟩ := replaced .preCommit [("file-save", .null)]
    [("pre-xyz", .array [])] [commandEntry "lint"] [.null]
  obtain ⟨brokenMap, brokenLoaded, brokenKept, -⟩ := comes _ _ _ broken readBroken rfl (.array _)
  obtain ⟨wholeMap, wholeLoaded, wholeKept, -⟩ := comes _ _ _ _ readWhole rfl (.array _)
  exact ⟨accounted _ _ _ readBroken rfl, earlier, later, ⟨brokenMap, brokenLoaded, brokenKept⟩,
    wholeMap, wholeLoaded, wholeKept⟩

end Loading

end LifecycleHooks
