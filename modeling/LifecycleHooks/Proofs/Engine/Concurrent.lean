import Mathlib.Data.List.Induction
import LifecycleHooks.Proofs.Engine.Gating
import LifecycleHooks.Proofs.Engine.Script

/-!
Executions do not disturb each other. Each keeps the hooks of its own snapshot, so steps of others
change neither what it has still to do nor what its subscribers were told of it.
-/

namespace LifecycleHooks.Engine

variable {Callback Rest Seen : Type}

section

variable {host : Host Callback Rest} {view : Result → Seen} {system : System Callback Rest}
  {call : Nat} {fixed : State Callback Rest} {begun progress : Progress}

/-! Steps of a system. -/

/-- What becomes of one execution in a step, with what subscribers are told in this step: it may be
a step of others, or its own. -/
inductive Moves (host : Host Callback Rest) (ids : List Nat) (call : Nat) (progress : Progress) :
    Progress → List Told → Prop
  | rests (news : List Told) (others : ∀ entry ∈ news, entry.call ≠ call) :
      Moves host ids call progress progress news
  | runs (state : State Callback Rest) :
      Moves host ids call progress (progress.run host state).1 []
  | tells (hook : Hook) (result : Result) (untold : progress.untold = some (hook, result)) :
      Moves host ids call progress (progress.tell hook result)
        (ids.map fun id => ⟨call, id, executionOf progress.context (hook, result)⟩)

theorem moves_advance (host : Host Callback Rest) (reloading : Reloading Callback Rest)
    (step : Step Callback) (found : system.calls[call]? = some progress) :
    ∃ next news, (system.advance host reloading step).calls[call]? = some next ∧
      (system.advance host reloading step).told = system.told ++ news ∧
      Moves host system.state.executions.ids call progress next news := by
  have idle : Moves host system.state.executions.ids call progress progress [] :=
    .rests [] fun _ member => absurd member List.not_mem_nil
  have same := (List.append_nil system.told).symm
  -- A step that carries another number, or none, leaves the execution as it is.
  cases step with
  | begin event context =>
      obtain ⟨inside, _⟩ := List.getElem?_eq_some_iff.mp found
      exact ⟨progress, [], (List.getElem?_append_left inside).trans found, same, idle⟩
  | change change => exact ⟨progress, [], found, same, idle⟩
  | run other =>
      rw [System.advance]
      cases foundOther : system.calls[other]? with
      | none =>
          rw [System.run_of_absent foundOther]
          exact ⟨progress, [], found, same, idle⟩
      | some otherProgress =>
          rw [System.run_of_found foundOther]
          by_cases own : other = call
          · subst own
            obtain rfl := Option.some.inj (foundOther.symm.trans found)
            exact ⟨_, [], System.getElem?_set_of_found found _, same, .runs system.state⟩
          · exact ⟨progress, [], (List.getElem?_set_ne own).trans found, same, idle⟩
  | tell other =>
      rw [System.advance]
      cases foundOther : system.calls[other]? with
      | none =>
          rw [System.tell_of_absent foundOther]
          exact ⟨progress, [], found, same, idle⟩
      | some otherProgress =>
          cases untold : otherProgress.untold with
          | none =>
              rw [System.tell_of_free foundOther untold]
              exact ⟨progress, [], found, same, idle⟩
          | some run =>
              rw [System.tell_of_untold foundOther untold]
              by_cases own : other = call
              · subst own
                obtain rfl := Option.some.inj (foundOther.symm.trans found)
                exact ⟨_, _, System.getElem?_set_of_found found _, rfl, .tells _ _ untold⟩
              · refine ⟨progress, _, (List.getElem?_set_ne own).trans found, rfl, .rests _ ?_⟩
                intro entry member
                obtain ⟨id, _, rfl⟩ := List.mem_map.mp member
                exact own

theorem along_after (steady : Steady host view) (reloading : Reloading Callback Rest)
    (steps : List (Step Callback)) (found : system.calls[call]? = some progress)
    (along : progress.Along host view fixed begun) :
    ∃ next, (system.after host reloading steps).calls[call]? = some next ∧
      next.Along host view fixed begun := by
  induction steps generalizing system progress with
  | nil => exact ⟨progress, found, along⟩
  | cons step steps ih =>
      obtain ⟨next, news, foundNext, _, moves⟩ := moves_advance host reloading step found
      refine ih foundNext ?_
      cases moves with
      | rests => exact along
      | runs state => exact along.run steady state
      | tells hook result untold => exact along.tell untold

/-! What one subscriber is told by one execution. -/

theorem stream_append (id : Nat) (first rest : List Told) :
    stream id (first ++ rest) = stream id first ++ stream id rest := by
  rw [stream, List.filter_append, List.map_append]
  rfl

theorem ofCall_append (call : Nat) (first rest : List (Nat × Execution)) :
    ofCall call (first ++ rest) = ofCall call first ++ ofCall call rest := by
  rw [ofCall, List.filter_append, List.map_append]
  rfl

theorem ofCall_stream_of_others (call id : Nat) {news : List Told}
    (others : ∀ entry ∈ news, entry.call ≠ call) : ofCall call (stream id news) = [] := by
  have noEntry : (stream id news).filter (fun entry => entry.1 == call) = [] := by
    rw [List.filter_eq_nil_iff]
    intro entry member
    obtain ⟨told, inside, rfl⟩ := List.mem_map.mp member
    simpa using others told (List.mem_filter.mp inside).1
  rw [ofCall, noEntry, List.map_nil]

theorem ofCall_stream_own (call id : Nat) (ids : List Nat) (execution : Execution) :
    ofCall call (stream id (ids.map fun other => ⟨call, other, execution⟩)) =
      List.replicate (ids.count id) execution := by
  have mine : ids.filter (fun other => other == id) = List.replicate (ids.count id) id :=
    List.filter_beq id
  simp [ofCall, stream, List.filter_map, Function.comp_def, mine]

theorem streams_after (reloading : Reloading Callback Rest) (id : Nat)
    (steps : List (Step Callback)) (found : system.calls[call]? = some progress)
    (told : ofCall call (stream id system.told) =
      progress.told.map (executionOf progress.context))
    (stays : ∀ past, past <+: steps →
      (system.after host reloading past).state.executions.ids.count id = 1) :
    ∃ next, (system.after host reloading steps).calls[call]? = some next ∧
      ofCall call (stream id (system.after host reloading steps).told) =
        next.told.map (executionOf next.context) := by
  induction steps generalizing system progress with
  | nil => exact ⟨progress, found, told⟩
  | cons step steps ih =>
      obtain ⟨next, news, foundNext, toldNext, moves⟩ := moves_advance host reloading step found
      have once : system.state.executions.ids.count id = 1 := stays [] List.nil_prefix
      refine ih foundNext ?_ fun past isPrefix =>
        stays (step :: past) ((List.prefix_cons_inj step).mpr isPrefix)
      -- What is told in its name is what it ran last, once to everybody who is there.
      rw [toldNext, stream_append, ofCall_append, told]
      cases moves with
      | rests news others => rw [ofCall_stream_of_others call id others, List.append_nil]
      | runs state => simp [Progress.told_run, Progress.context_run, stream, ofCall]
      | tells hook result untold => simp [ofCall_stream_own, once, Progress.tell]

/-! Numbers of executions. -/

theorem reached_append (host : Host Callback Rest) (reloading : Reloading Callback Rest)
    (state : State Callback Rest) (first rest : List (Step Callback)) :
    reached host reloading state (first ++ rest) =
      (reached host reloading state first).after host reloading rest :=
  List.foldl_append

theorem length_calls_advance (host : Host Callback Rest) (reloading : Reloading Callback Rest)
    (system : System Callback Rest) (step : Step Callback) :
    (system.advance host reloading step).calls.length =
      system.calls.length + match step with
        | .begin _ _ => 1
        | _ => 0 := by
  cases step with
  | begin event context => exact List.length_append
  | change change => rfl
  | run other =>
      simp only [System.advance, System.run]
      split
      · rfl
      · exact List.length_set
  | tell other =>
      simp only [System.advance, System.tell]
      split
      · rfl
      · split
        · rfl
        · exact List.length_set

/-- Every execution was begun by some step, and has the number of those that were begun before. -/
theorem begun_of_lt (reloading : Reloading Callback Rest) (state : State Callback Rest)
    (steps : List (Step Callback)) (call : Nat)
    (below : call < (reached host reloading state steps).calls.length) :
    ∃ before event context, before ++ [.begin event context] <+: steps ∧
      call = (reached host reloading state before).calls.length := by
  induction steps using List.reverseRecOn with
  | nil => exact absurd below (Nat.not_lt_zero call)
  | append_singleton steps step ih =>
      rw [reached_append] at below
      change call < (System.advance host reloading _ step).calls.length at below
      rw [length_calls_advance] at below
      -- It was begun before the last step, or by it.
      by_cases earlier : call < (reached host reloading state steps).calls.length
      · obtain ⟨before, event, context, isPrefix, number⟩ := ih earlier
        exact ⟨before, event, context, isPrefix.trans (List.prefix_append _ _), number⟩
      · cases step with
        | begin event context =>
            refine ⟨steps, event, context, List.prefix_rfl, ?_⟩
            simp only at below
            omega
        | _ => exact absurd below earlier

theorem told_advance (reloading : Reloading Callback Rest) (step : Step Callback) {entry : Told}
    (member : entry ∈ (system.advance host reloading step).told) :
    entry ∈ system.told ∨ entry.call < system.calls.length := by
  cases step with
  | begin event context => exact Or.inl member
  | change change => exact Or.inl member
  | run other =>
      rw [System.advance] at member
      cases found : system.calls[other]? with
      | none =>
          rw [System.run_of_absent found] at member
          exact Or.inl member
      | some progress =>
          rw [System.run_of_found found] at member
          exact Or.inl member
  | tell other =>
      rw [System.advance] at member
      cases found : system.calls[other]? with
      | none =>
          rw [System.tell_of_absent found] at member
          exact Or.inl member
      | some progress =>
          cases untold : progress.untold with
          | none =>
              rw [System.tell_of_free found untold] at member
              exact Or.inl member
          | some run =>
              rw [System.tell_of_untold found untold] at member
              rcases List.mem_append.mp member with old | new
              · exact Or.inl old
              · obtain ⟨id, _, rfl⟩ := List.mem_map.mp new
                exact Or.inr (List.getElem?_eq_some_iff.mp found).1

theorem call_lt_of_told (reloading : Reloading Callback Rest) (steps : List (Step Callback))
    (below : ∀ entry ∈ system.told, entry.call < system.calls.length) :
    ∀ entry ∈ (system.after host reloading steps).told,
      entry.call < (system.after host reloading steps).calls.length := by
  induction steps generalizing system with
  | nil => exact below
  | cons step steps ih =>
      refine ih fun entry member => ?_
      rw [length_calls_advance]
      refine Nat.lt_add_right _ ?_
      rcases told_advance reloading step member with old | new
      · exact below entry old
      · exact new

/-! All executions of a system. -/

theorem own_of_mem_ownSteps {count : Nat} {step : Step Callback}
    (member : step ∈ System.ownSteps call count) : step = .run call ∨ step = .tell call := by
  induction count with
  | zero => exact absurd member List.not_mem_nil
  | succ count ih =>
      rcases List.mem_cons.mp member with rfl | member
      · exact Or.inl rfl
      · rcases List.mem_cons.mp member with rfl | member
        · exact Or.inr rfl
        · exact ih member

theorem exists_finished (host : Host Callback Rest) (reloading : Reloading Callback Rest)
    (found : system.calls[call]? = some progress) :
    ∃ own : List (Step Callback), (∀ step ∈ own, step = .run call ∨ step = .tell call) ∧
      ∃ last, (system.after host reloading own).calls[call]? = some last ∧ last.Finished := by
  cases untold : progress.untold with
  | none =>
      obtain ⟨last, foundLast, finished, _⟩ := System.after_ownSteps host reloading call
        progress.waiting.length system progress found untold (Nat.le_refl _)
      exact ⟨_, fun step => own_of_mem_ownSteps, last, foundLast, finished⟩
  | some run =>
      obtain ⟨hook, result⟩ := run
      have told := System.getElem?_set_of_found found (progress.tell hook result)
      obtain ⟨last, foundLast, finished, _⟩ := System.after_ownSteps host reloading call
        (progress.tell hook result).waiting.length (system.tell host call)
        (progress.tell hook result) (by rw [System.tell_of_untold found untold]; exact told) rfl
        (Nat.le_refl _)
      refine ⟨.tell call :: System.ownSteps call _, ?_, last, foundLast, finished⟩
      intro step member
      rcases List.mem_cons.mp member with rfl | member
      · exact Or.inr rfl
      · exact own_of_mem_ownSteps member

/-- A subscriber is there, once, at every moment from one to another. -/
def StaysSubscribed (host : Host Callback Rest) (reloading : Reloading Callback Rest)
    (state : State Callback Rest) (id : Nat) (first last : List (Step Callback)) : Prop :=
  ∀ past, first <+: past → past <+: last →
    (reached host reloading state past).state.executions.ids.count id = 1

/-- What holds of the executions that are begun among some steps. -/
structure Isolated (host : Host Callback Rest) (reloading : Reloading Callback Rest)
    (view : Result → Seen) (state : State Callback Rest) (steps : List (Step Callback)) :
    Prop where
  /-- Each does what it would do alone from the state in which it was begun. -/
  undisturbed : ∀ before event context, before ++ [.begin event context] <+: steps →
    ∃ progress,
      (reached host reloading state steps).calls[
          (reached host reloading state before).calls.length]? = some progress ∧
      Undisturbed host view event context (reached host reloading state before).state progress
  /-- Of each execution a subscriber that stays is told one event after the other, one for each
  result, with the hooks that were registered when it was begun; at most the last one is still to be
  told of. -/
  streams : ∀ before event context, before ++ [.begin event context] <+: steps →
    ∀ id, StaysSubscribed host reloading state id before steps →
    ∀ progress,
      (reached host reloading state steps).calls[
          (reached host reloading state before).calls.length]? = some progress →
      ofCall (reached host reloading state before).calls.length
            (stream id (reached host reloading state steps).told) ++
          (progress.untold.map (executionOf context)).toList =
        List.zipWith (fun hook result => executionOf context (hook, result))
          ((reached host reloading state before).state.registry.list event) progress.results
  /-- No subscriber is told anything else. -/
  nothingElse : ∀ id, ∀ entry ∈ stream id (reached host reloading state steps).told,
    ∃ before event context, before ++ [.begin event context] <+: steps ∧
      entry.1 = (reached host reloading state before).calls.length
  /-- Each can be brought to its end by steps of its own. -/
  endings : ∀ call < (reached host reloading state steps).calls.length,
    ∃ own : List (Step Callback), (∀ step ∈ own, step = .run call ∨ step = .tell call) ∧
      ∃ last, (reached host reloading state (steps ++ own)).calls[call]? = some last ∧
        last.Finished

theorem getElem?_begin (host : Host Callback Rest) (reloading : Reloading Callback Rest)
    (state : State Callback Rest) (before : List (Step Callback)) (event : EventType)
    (context : Context) :
    (reached host reloading state (before ++ [.begin event context])).calls[
        (reached host reloading state before).calls.length]? =
      some (Progress.start event context
        (reached host reloading state before).state.registry) := by
  rw [reached_append]
  exact List.getElem?_concat_length

theorem along_reached (steady : Steady host view) (reloading : Reloading Callback Rest)
    (state : State Callback Rest) (before after : List (Step Callback)) (event : EventType)
    (context : Context) :
    let begun := reached host reloading state before
    ∃ progress,
      (reached host reloading state (before ++ [.begin event context] ++ after)).calls[
        begun.calls.length]? = some progress ∧
      progress.Along host view begun.state
        (Progress.start event context begun.state.registry) := by
  intro begun
  rw [reached_append]
  exact along_after steady reloading after
    (getElem?_begin host reloading state before event context)
    (Progress.along_start event context begun.state.registry)

/-- Nobody is told by an execution before it is begun, and who stays subscribed is told by it once
for each of its hooks. -/
theorem streams_reached (host : Host Callback Rest) (reloading : Reloading Callback Rest)
    (state : State Callback Rest) (before after : List (Step Callback)) (event : EventType)
    (context : Context) (id : Nat)
    (stays : StaysSubscribed host reloading state id before
      (before ++ [.begin event context] ++ after)) :
    let begun := reached host reloading state before
    let last := reached host reloading state (before ++ [.begin event context] ++ after)
    ∃ progress, last.calls[begun.calls.length]? = some progress ∧
      ofCall begun.calls.length (stream id last.told) =
        progress.told.map (executionOf progress.context) := by
  intro begun last
  have earlier : ∀ entry ∈ begun.told, entry.call < begun.calls.length :=
    call_lt_of_told reloading before fun _ member => absurd member List.not_mem_nil
  have untold : ofCall begun.calls.length
        (stream id (reached host reloading state (before ++ [.begin event context])).told) =
      (Progress.start event context begun.state.registry).told.map
        (executionOf (Progress.start event context begun.state.registry).context) := by
    rw [reached_append]
    change ofCall begun.calls.length (stream id begun.told) = _
    rw [ofCall_stream_of_others _ _ fun entry member => Nat.ne_of_lt (earlier entry member)]
    simp only [Progress.start]
    split
    · rfl
    · rfl
  have told := streams_after reloading id after
    (getElem?_begin host reloading state before event context) untold fun past isPrefix => by
      rw [← reached_append]
      refine stays _ ?_ ((List.prefix_append_right_inj _).mpr isPrefix)
      rw [List.append_assoc]
      exact List.prefix_append _ _
  rwa [← reached_append] at told

/-- Executions on one engine do not disturb each other, in whatever order their steps, those of
others and changes of the registry come, if the results of the runner depend on the invocation alone
and nothing is cancelled. -/
theorem executions_isolated (host : Host Callback Rest) (reloading : Reloading Callback Rest)
    (view : Result → Seen) (steady : Steady host view) (state : State Callback Rest)
    (steps : List (Step Callback)) : Isolated host reloading view state steps where
  undisturbed before event context isPrefix := by
    obtain ⟨after, rfl⟩ := isPrefix
    obtain ⟨progress, found, along⟩ :=
      along_reached steady reloading state before after event context
    exact ⟨progress, found, along.undisturbed steady⟩
  streams before event context isPrefix id stays progress found := by
    obtain ⟨after, rfl⟩ := isPrefix
    obtain ⟨next, foundNext, along⟩ :=
      along_reached steady reloading state before after event context
    obtain rfl := Option.some.inj (foundNext.symm.trans found)
    obtain ⟨other, foundOther, told⟩ :=
      streams_reached host reloading state before after event context id stays
    obtain rfl := Option.some.inj (foundOther.symm.trans found)
    have same := along.context.trans (Progress.context_start event context _)
    rw [told, same, ← along.map_executionOf, Progress.ran, List.map_append, Option.toList_map]
  nothingElse id entry member := by
    obtain ⟨told, inside, rfl⟩ := List.mem_map.mp member
    have below : told.call < (reached host reloading state steps).calls.length :=
      call_lt_of_told reloading steps (fun _ member => absurd member List.not_mem_nil) told
        (List.mem_filter.mp inside).1
    exact begun_of_lt reloading state steps told.call below
  endings call below := by
    obtain ⟨own, ownOnly, last, found, finished⟩ := exists_finished host reloading
      (List.getElem?_eq_getElem below)
    refine ⟨own, ownOnly, last, ?_, finished⟩
    rw [reached_append]
    exact found

end

/-- Of two commands one is run before another command takes their place; an execution that is begun
then runs the new one only, while the first one goes on. -/
theorem executions_isolated_replaced :
    let host := steadyHost lintFails
    let reloading : Reloading Unit Unit := fun _ _ state => state
    let state := stateOf .preCommit [plainCommand "build", plainCommand "lint"] ()
    let context := Context.bare .preCommit
    let steps : List (Step Unit) :=
      [.change (.subscribe ()), .begin .preCommit context, .run 0, .change (.clear .preCommit),
        .change (.register .preCommit (plainCommand "test")), .begin .preCommit context, .run 1,
        .tell 1, .tell 0, .run 0, .tell 0]
    Steady host id ∧
      (stream 0 (reached host reloading state steps).told).map
          (fun entry => (entry.1, entry.2.hook.label)) =
        [(1, "test"), (0, "build"), (0, "lint")] ∧
      Isolated host reloading id state steps := by
  intro host reloading state context steps
  have steady : Steady host id :=
    ⟨fun _ _ _ => rfl, fun _ _ same => congrArg Result.success same, fun _ => rfl⟩
  exact ⟨steady, by decide, executions_isolated host reloading id steady state steps⟩

end LifecycleHooks.Engine
