import LifecycleHooks.Proofs.Engine.Gating
import LifecycleHooks.Proofs.Hook.Declaration
import LifecycleHooks.Proofs.Json.RoundTrip

/-!
The text about its event that every hook of a call gets. It is read as the context it was made for, so
no two contexts have the same text.
-/

namespace LifecycleHooks.Context

open Hook.Declaration (asPath optionalField pathJson forall_mem_optionalField)
open Json (Readable objectOf)

/-! The fields of a context. -/

def sortedFields (context : Context) : List (String × Json) :=
  ("data", context.data) :: ("eventType", .string context.eventType.name) ::
    (optionalField "file" pathJson context.file ++
      optionalField "workspace" pathJson context.workspace)

theorem ofList_fields (context : Context) :
    Fields.ofList context.fields = context.sortedFields := by
  have dataFirst : "data" < "eventType" ∧ "data" < "file" ∧ "data" < "workspace" := by decide
  have fileBetween : ¬ "file" < "eventType" ∧ "file" ≠ "eventType" ∧ "file" < "workspace" := by
    decide
  have workspaceLast : ¬ "workspace" < "eventType" ∧ "workspace" ≠ "eventType" := by decide
  obtain ⟨event, workspace, file, data⟩ := context
  cases workspace <;> cases file <;>
    simp only [fields, sortedFields, optionalField, Fields.ofList, Fields.insert, List.foldl_cons,
      List.foldl_nil, List.cons_append, List.nil_append, dataFirst, fileBetween, workspaceLast,
      ↓reduceIte]

theorem ofJson_objectOf (context : Context) :
    Context.ofJson (objectOf context.fields) = .ok context := by
  obtain ⟨event, workspace, file, data⟩ := context
  have eventRead : EventType.ofJson (.string event.name) = .ok event := by
    rw [EventType.ofJson, EventType.ofJson.ofVariant, EventType.ofName?_name]
  have pathRead (path : Path) : Json.asOptional asPath (pathJson path) = .ok (some path) := rfl
  rw [objectOf, ofList_fields]
  cases workspace <;> cases file <;>
    simp only [ofJson, Json.asRecord, sortedFields, optionalField, List.cons_append,
      List.nil_append, List.foldlM_cons, List.foldlM_nil, Draft.set, eventRead, pathRead, bind,
      Except.bind, pure, Except.pure]

theorem readable_fields {context : Context} {depth : Nat} (readable : context.data.Readable depth) :
    ∀ field ∈ context.fields, field.2.Readable depth := by
  have path (name : String) (path : Option Path) :
      ∀ field ∈ optionalField name pathJson path, field.2.Readable depth :=
    forall_mem_optionalField fun _ _ => Json.readable_string depth _
  simp only [fields, List.forall_mem_cons, List.forall_mem_append]
  exact ⟨Json.readable_string depth _, ⟨path _ _, path _ _⟩, readable, by simp⟩

theorem keys_fields (context : Context) :
    context.fields.map Prod.fst =
      "eventType" :: ((if context.workspace.isSome then ["workspace"] else []) ++
        (if context.file.isSome then ["file"] else []) ++ ["data"]) := by
  obtain ⟨event, workspace, file, data⟩ := context
  cases workspace <;> cases file <;> rfl

/-! The text. -/

theorem text_eq (context : Context) : context.text = (Json.object context.fields).text := rfl

theorem parse_text {context : Context} (readable : context.data.Readable 126) :
    Json.parse context.text = .ok (objectOf context.fields) :=
  Json.parse_object_text (readable_fields readable)

theorem eq_of_text_eq {a b : Context} (readableA : a.data.Readable 126)
    (readableB : b.data.Readable 126) (same : a.text = b.text) : a = b := by
  have sameFields : objectOf a.fields = objectOf b.fields := by
    have parsed := parse_text readableA
    rw [same, parse_text readableB] at parsed
    exact (Except.ok.inj parsed).symm
  have read := ofJson_objectOf a
  rw [sameFields, ofJson_objectOf b] at read
  exact (Except.ok.inj read).symm

open Engine in
theorem invocation_of_mem_calls {Callback Rest : Type} {host : Host Callback Rest}
    {event : EventType} {context : Context} {state : State Callback Rest} {invocation : Invocation}
    {outcome : Outcome}
    (called : .run invocation outcome ∈
      (execute host.logging event context (state.logged [])).2.calls) :
    ∃ hook, invocation = Invocation.ofHook hook context := by
  unfold execute at called
  split at called
  · simp only [runHooks_logging, State.calls_logged, List.nil_append, List.mem_flatMap] at called
    obtain ⟨turn, -, inTurn⟩ := called
    rcases List.mem_cons.mp inTurn with run | told
    · exact ⟨turn.hook, (Call.run.inj run).1⟩
    · obtain ⟨subscriber, -, notified⟩ := List.mem_map.mp told
      contradiction
  · simp only [State.calls_logged, List.not_mem_nil] at called

/-- Every hook that a call runs gets the text of the context of the call. The text is an object with
the keys of what is set, in their order; it is read as the context it was made for; and no other
context has the same text. -/
theorem text_faithful :
    (∀ (Callback Rest : Type) (host : Engine.Host Callback Rest) (event : EventType)
      (context : Context) (state : Engine.State Callback Rest) (invocation : Invocation)
      (outcome : Outcome),
      .run invocation outcome ∈
        (Engine.execute host.logging event context (state.logged [])).2.calls →
      invocation.contextText = context.text) ∧
    ∀ context : Context, context.data.Readable 126 →
      (∃ members, context.text = (Json.object members).text ∧
        members.map Prod.fst =
          "eventType" :: ((if context.workspace.isSome then ["workspace"] else []) ++
            (if context.file.isSome then ["file"] else []) ++ ["data"]) ∧
        Json.parse context.text = .ok (objectOf members)) ∧
      (∃ value, Json.parse context.text = .ok value ∧ Context.ofJson value = .ok context) ∧
      ∀ other : Context, other.data.Readable 126 → other ≠ context → other.text ≠ context.text := by
  refine ⟨?_, fun context readable => ⟨?_, ?_, ?_⟩⟩
  · intro Callback Rest host event context state invocation outcome called
    obtain ⟨hook, rfl⟩ := invocation_of_mem_calls called
    rfl
  · exact ⟨context.fields, text_eq context, keys_fields context, parse_text readable⟩
  · exact ⟨_, parse_text readable, ofJson_objectOf context⟩
  · exact fun other otherReadable different same =>
      different (eq_of_text_eq otherReadable readable same)

def saving : Context :=
  ⟨.fileSave, some ⟨"/repo"⟩, none,
    .object [("marks", .array [Json.ofInt (-3), .string "tab\t, \"quoted\""])]⟩

theorem readable_saving : saving.data.Readable 126 :=
  Json.readable_object (List.pairwise_singleton _ _) (List.forall_mem_singleton.mpr
    (Json.readable_array (List.forall_mem_cons.mpr ⟨Json.readable_ofInt _ rfl,
      List.forall_mem_singleton.mpr (Json.readable_string _ _)⟩)))

open Engine in
theorem text_faithful_saving :
    (∃ invocation outcome,
      .run invocation outcome ∈ (execute (steadyHost lintFails).logging .fileSave saving
        ((stateOf .fileSave [plainCommand "lint"] ()).logged [])).2.calls ∧
      invocation.contextText = saving.text) ∧
    (∃ value, Json.parse saving.text = .ok value ∧ Context.ofJson value = .ok saving) ∧
    (bare .fileSave).text ≠ saving.text := by
  obtain ⟨-, read, different⟩ := text_faithful.2 saving readable_saving
  have called : Call.run (Invocation.ofHook (plainCommand "lint") saving) ⟨.ok ⟨1, "", "style"⟩, 0⟩ ∈
      (execute (steadyHost lintFails).logging .fileSave saving
        ((stateOf .fileSave [plainCommand "lint"] ()).logged [])).2.calls := List.mem_cons_self
  exact ⟨⟨_, _, called, text_faithful.1 _ _ _ _ _ _ _ _ called⟩, read,
    different _ (Json.readable_null 126) (by decide)⟩

end LifecycleHooks.Context
