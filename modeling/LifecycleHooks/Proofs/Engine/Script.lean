import LifecycleHooks.Proofs.Engine.System

/-!
What an execution does when the results of a runner depend on the invocation alone: the hooks of its
snapshot say it beforehand. What it did so far and what it has still to do always make up what it
would do alone.
-/

namespace LifecycleHooks.Engine

variable {Callback Rest Seen : Type}

/-- Results depend on the invocation alone as far as they are looked at, which is far enough to tell
whether a hook succeeded, and nothing is cancelled. -/
structure Steady (host : Host Callback Rest) (view : Result → Seen) : Prop where
  answers : ∀ invocation first second,
    view (host.run invocation first).1.result = view (host.run invocation second).1.result
  success : ∀ first second, view first = view second → first.success = second.success
  calm : ∀ state, host.isCancelled state = false

/-- What hooks do one after the other when the runner is always called in the same state. -/
def script (host : Host Callback Rest) (context : Context) (state : State Callback Rest) :
    List Hook → List (Hook × Result)
  | [] => []
  | hook :: hooks =>
      let result := (host.run (Invocation.ofHook hook context) state).1.result
      (hook, result) :: if aborts hook result then [] else script host context state hooks

/-- A hook that was run, with what is looked at of its result. -/
def seen (view : Result → Seen) (run : Hook × Result) : Hook × Seen := (run.1, view run.2)

theorem map_fst_script_isPrefix (host : Host Callback Rest) (context : Context)
    (state : State Callback Rest) (hooks : List Hook) :
    (script host context state hooks).map Prod.fst <+: hooks := by
  induction hooks with
  | nil => exact List.prefix_rfl
  | cons hook hooks ih =>
      simp only [script, List.map_cons]
      refine (List.prefix_cons_inj hook).mpr ?_
      split
      · exact List.nil_prefix
      · exact ih

variable {host : Host Callback Rest} {view : Result → Seen}

theorem Steady.aborts_eq (steady : Steady host view) (hook : Hook) {first second : Result}
    (same : view first = view second) : aborts hook first = aborts hook second := by
  rw [aborts, aborts, steady.success first second same]

/-! One execution alone. -/

theorem map_seen_taken (steady : Steady host view) (context : Context)
    (fixed : State Callback Rest) (hooks : List Hook) (state : State Callback Rest) :
    (taken host (turns host context hooks state)).map
        (fun turn => (turn.hook, view turn.result)) =
      (script host context fixed hooks).map (seen view) := by
  induction hooks generalizing state with
  | nil => rfl
  | cons hook hooks ih =>
      have same : view (turn host context hook state).result =
          view (host.run (Invocation.ofHook hook context) fixed).1.result :=
        steady.answers (Invocation.ofHook hook context) state fixed
      have ends := steady.aborts_eq hook same
      simp only [turns, taken, steady.calm, turn_hook, ends, script, Bool.false_eq_true, ↓reduceIte]
      split
      · simp [seen, same]
      · simp [seen, same, ih]

theorem runs_append (first rest : List (Call Callback)) :
    runs (first ++ rest) = runs first ++ runs rest :=
  List.filterMap_append

theorem runs_calls (context : Context) (turn : Turn Callback Rest) :
    runs (turn.calls context) = [Invocation.ofHook turn.hook context] := by
  have noRuns : runs (turn.ran.executions.subscribers.map fun subscriber =>
      Call.notify subscriber.2 (turn.execution context)) = [] := by
    rw [runs, List.filterMap_eq_nil_iff]
    intro call member
    obtain ⟨subscriber, _, rfl⟩ := List.mem_map.mp member
    rfl
  exact congrArg (Invocation.ofHook turn.hook context :: ·) noRuns

theorem runs_flatMap_calls (context : Context) (turns : List (Turn Callback Rest)) :
    runs (turns.flatMap (Turn.calls context)) =
      turns.map fun turn => Invocation.ofHook turn.hook context := by
  induction turns with
  | nil => rfl
  | cons turn rest ih =>
      rw [List.flatMap_cons, runs_append, runs_calls, ih]
      rfl

theorem execute_script (steady : Steady host view) (context : Context)
    (fixed state : State Callback Rest) :
    let alone := execute host.logging context.eventType context (state.logged [])
    let planned := script host context fixed (state.registry.list context.eventType)
    ∃ results, alone.1 = .ok results ∧
      results.map view = planned.map (fun run => view run.2) ∧
      runs alone.2.calls = planned.map fun run => Invocation.ofHook run.1 context := by
  intro alone planned
  let done := taken host (turns host context (state.registry.list context.eventType) state)
  have whole : alone = (.ok (done.map Turn.result),
      (left state done).logged (done.flatMap (Turn.calls context))) :=
    execute_logging host context state
  have seenTaken :=
    map_seen_taken steady context fixed (state.registry.list context.eventType) state
  refine ⟨done.map Turn.result, by rw [whole], ?_, ?_⟩
  · have results := congrArg (List.map Prod.snd) seenTaken
    simpa [Function.comp_def, seen] using results
  · have hooks := congrArg (List.map fun run => Invocation.ofHook run.1 context) seenTaken
    rw [whole, State.calls_logged, runs_flatMap_calls]
    simpa [Function.comp_def, seen] using hooks

/-! Step by step. -/

def Progress.rest (host : Host Callback Rest) (state : State Callback Rest) (progress : Progress) :
    List (Hook × Result) :=
  match progress.untold with
  | some (hook, result) =>
      if aborts hook result then [] else script host progress.context state progress.waiting
  | none => script host progress.context state progress.waiting

/-- What an execution did and what it has still to do make up what the hooks of its snapshot say. -/
structure Progress.Along (host : Host Callback Rest) (view : Result → Seen)
    (fixed : State Callback Rest) (progress begun : Progress) : Prop where
  context : progress.context = begun.context
  refusal : progress.refusal = begun.refusal
  invocations : progress.invocations =
    progress.ran.map fun run => Invocation.ofHook run.1 progress.context
  planned : (progress.ran ++ progress.rest host fixed).map (seen view) =
    (script host begun.context fixed begun.waiting).map (seen view)

variable {fixed : State Callback Rest} {begun progress : Progress}

theorem Progress.along_start (event : EventType) (context : Context) (registry : Registry) :
    (Progress.start event context registry).Along host view fixed
      (Progress.start event context registry) := by
  simp only [Progress.start]
  split
  · exact ⟨rfl, rfl, rfl, rfl⟩
  · exact ⟨rfl, rfl, rfl, rfl⟩

theorem Progress.Along.run (steady : Steady host view)
    (along : progress.Along host view fixed begun) (state : State Callback Rest) :
    (progress.run host state).1.Along host view fixed begun := by
  cases untold : progress.untold with
  | some run => simpa [Progress.run, untold] using along
  | none =>
      cases waiting : progress.waiting with
      | nil => simpa [Progress.run, untold, waiting] using along
      | cons hook hooks =>
          -- The hook that is run is the first one that was still to be run, and its result looks as
          -- it was to be.
          rw [Progress.run_eq host state untold waiting (steady.calm state)]
          have same : view (turn host progress.context hook state).result =
              view (host.run (Invocation.ofHook hook progress.context) fixed).1.result :=
            steady.answers (Invocation.ofHook hook progress.context) state fixed
          have ends := steady.aborts_eq hook same
          have planned := along.planned
          refine ⟨along.context, along.refusal, ?_, ?_⟩
          · simp [along.invocations, Progress.ran, untold]
          · rw [← planned]
            simp only [Progress.ran, Progress.rest, untold, waiting, script, ends]
            simp [seen, same]

theorem Progress.Along.tell (along : progress.Along host view fixed begun) {hook : Hook}
    {result : Result} (untold : progress.untold = some (hook, result)) :
    (progress.tell hook result).Along host view fixed begun := by
  refine ⟨along.context, along.refusal, ?_, ?_⟩
  · simp [along.invocations, Progress.ran, Progress.tell, untold]
  · rw [← along.planned]
    by_cases aborting : aborts hook result = true
    · simp [Progress.ran, Progress.rest, Progress.tell, untold, aborting, script]
    · simp [Progress.ran, Progress.rest, Progress.tell, untold, aborting]

/-! What it comes to. -/

/-- What an execution that was begun in a state did so far is what it would do alone from there;
when it has finished, it is all of that. -/
structure Undisturbed (host : Host Callback Rest) (view : Result → Seen) (event : EventType)
    (context : Context) (state : State Callback Rest) (progress : Progress) : Prop where
  invocations : progress.invocations <+:
    runs (execute host.logging event context (state.logged [])).2.calls
  results : ∀ results, (execute host.logging event context (state.logged [])).1 = .ok results →
    progress.results.map view <+: results.map view
  finished : progress.Finished →
    progress.invocations = runs (execute host.logging event context (state.logged [])).2.calls ∧
      progress.answer.map (List.map view) =
        (execute host.logging event context (state.logged [])).1.map (List.map view)

theorem Progress.rest_of_finished (finished : progress.Finished) (state : State Callback Rest) :
    progress.rest host state = [] := by
  simp only [Progress.rest, finished.1, finished.2, script]

theorem Progress.Along.map_ran (along : progress.Along host view fixed begun) {Other : Type}
    (look : Hook × Seen → Other) :
    (progress.ran ++ progress.rest host fixed).map (look ∘ seen view) =
      (script host begun.context fixed begun.waiting).map (look ∘ seen view) := by
  rw [← List.map_map, along.planned, List.map_map]

theorem Progress.Along.undisturbed (steady : Steady host view) {event : EventType}
    {context : Context} {state : State Callback Rest}
    (along : progress.Along host view fixed (Progress.start event context state.registry)) :
    Undisturbed host view event context state progress := by
  by_cases same : context.eventType = event
  · subst same
    rw [Progress.start, if_pos rfl] at along
    obtain ⟨results, given, looked, called⟩ := execute_script steady context fixed state
    have invocations : progress.invocations ++
        (progress.rest host fixed).map (fun run => Invocation.ofHook run.1 context) =
        runs (execute host.logging context.eventType context (state.logged [])).2.calls := by
      rw [called, along.invocations, along.context, ← List.map_append]
      exact along.map_ran fun run => Invocation.ofHook run.1 context
    have answers : progress.results.map view ++
        (progress.rest host fixed).map (fun run => view run.2) = results.map view := by
      rw [looked, Progress.results, List.map_map, Function.comp_def, ← List.map_append]
      exact along.map_ran Prod.snd
    refine ⟨⟨_, invocations⟩, ?_, ?_⟩
    · intro others same
      obtain rfl := Except.ok.inj (given.symm.trans same)
      exact ⟨_, answers⟩
    · intro finished
      rw [Progress.rest_of_finished finished, List.map_nil, List.append_nil] at invocations answers
      refine ⟨invocations, ?_⟩
      rw [Progress.answer, along.refusal, given]
      exact congrArg Except.ok answers
  · rw [Progress.start, if_neg same] at along
    have refused : execute host.logging event context (state.logged []) =
        (.error ⟨event, context.eventType⟩, state.logged []) := by
      rw [execute, if_neg same]
    have nothing : progress.ran = [] := by
      have whole := along.map_ran Prod.fst
      simp only [script, List.map_nil, List.map_eq_nil_iff, List.append_eq_nil_iff] at whole
      exact whole.1
    have invocations := along.invocations
    rw [nothing, List.map_nil] at invocations
    refine ⟨?_, ?_, fun _ => ⟨?_, ?_⟩⟩
    · rw [invocations]
      exact List.nil_prefix
    · intro results given
      rw [refused] at given
      contradiction
    · rw [invocations, refused]
      rfl
    · rw [Progress.answer, along.refusal, refused]

theorem map_eq_zipWith {Hooks Results Events : Type} (f : Hooks × Results → Events)
    (pairs : List (Hooks × Results)) {hooks : List Hooks}
    (isPrefix : pairs.map Prod.fst <+: hooks) :
    pairs.map f = List.zipWith (fun hook result => f (hook, result)) hooks
      (pairs.map Prod.snd) := by
  induction pairs generalizing hooks with
  | nil => simp
  | cons pair rest ih =>
      obtain ⟨later, rfl⟩ := isPrefix
      exact congrArg _ (ih ⟨later, rfl⟩)

theorem Progress.context_start (event : EventType) (context : Context) (registry : Registry) :
    (Progress.start event context registry).context = context := by
  simp only [Progress.start]
  split
  · rfl
  · rfl

theorem Progress.waiting_start_isPrefix (event : EventType) (context : Context)
    (registry : Registry) :
    (Progress.start event context registry).waiting <+: registry.list event := by
  simp only [Progress.start]
  split
  · exact List.prefix_rfl
  · exact List.nil_prefix

/-- The hooks that an execution ran are the first ones that were registered when it was begun, each
with its result. -/
theorem Progress.Along.map_executionOf {event : EventType} {context : Context}
    {registry : Registry}
    (along : progress.Along host view fixed (Progress.start event context registry)) :
    progress.ran.map (executionOf context) =
      List.zipWith (fun hook result => executionOf context (hook, result)) (registry.list event)
        progress.results := by
  have whole := along.map_ran Prod.fst
  rw [List.map_append] at whole
  have planned : progress.ran.map Prod.fst <+: (script host
      (Progress.start event context registry).context fixed
      (Progress.start event context registry).waiting).map Prod.fst := ⟨_, whole⟩
  exact map_eq_zipWith _ _ ((planned.trans (map_fst_script_isPrefix host _ fixed _)).trans
    (Progress.waiting_start_isPrefix event context registry))

end LifecycleHooks.Engine
