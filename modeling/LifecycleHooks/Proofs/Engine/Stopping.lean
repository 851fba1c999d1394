import LifecycleHooks.Proofs.Engine.Gating
import LifecycleHooks.Proofs.Engine.Script

/-!
Stopping earlier only cuts the tail. Two executions of the same hooks stay in step until one of them
stops. If more hooks ask for the end of the chain in the first one, and it is cancelled no later than
the second one, then the first one is the one that stops.
-/

namespace LifecycleHooks.Engine

variable {Callback Rest Seen : Type}

/-- Results depend on the invocation alone as far as they are looked at, which is far enough to tell
whether a hook succeeded. -/
structure Consistent (host : Host Callback Rest) (view : Result → Seen) : Prop where
  answers : ∀ invocation first second,
    view (host.run invocation first).1.result = view (host.run invocation second).1.result
  success : ∀ first second, view first = view second → first.success = second.success

/-- The same hook, which may ask for the end of the chain where the other one does not. -/
structure Stricter (first second : Hook) : Prop where
  same : first.withAbortOnFailure false = second.withAbortOnFailure false
  flagged : second.abortOnFailure = true → first.abortOnFailure = true

/-- An execution comes to a turn unless it is cancelled before or a hook in front ends the chain. -/
def ComesTo (host : Host Callback Rest) (all : List (Turn Callback Rest)) (count : Nat)
    (next : Turn Callback Rest) : Prop :=
  all[count]? = some next ∧
  ∀ turn ∈ all.take count,
    host.isCancelled turn.before = false ∧ aborts turn.hook turn.result = false

/-- Wherever both executions come to a hook and the second one is cancelled by then, so is the
first one. -/
def CancelledNoLater (host : Host Callback Rest) (first second : List (Turn Callback Rest)) : Prop :=
  ∀ count next other, ComesTo host first count next → ComesTo host second count other →
    host.isCancelled other.before = true → host.isCancelled next.before = true

def course (host : Host Callback Rest) (context : Context) (state : State Callback Rest) :
    List (Turn Callback Rest) :=
  taken host (turns host context (state.registry.list context.eventType) state)

variable {host : Host Callback Rest} {view : Result → Seen}

/-! One hook in both executions. -/

theorem Stricter.invocation {first second : Hook} (stricter : Stricter first second)
    (context : Context) : Invocation.ofHook first context = Invocation.ofHook second context := by
  have flagless := congrArg (Invocation.ofHook · context) stricter.same
  exact flagless

theorem Stricter.aborts {first second : Hook} (stricter : Stricter first second)
    {result other : Result} (same : result.success = other.success)
    (ends : aborts second other = true) : aborts first result = true := by
  simp only [Engine.aborts, Bool.and_eq_true, Bool.not_eq_true'] at ends ⊢
  exact ⟨same.trans ends.1, stricter.flagged ends.2⟩

theorem Consistent.turn (consistent : Consistent host view) {first second : Hook}
    (stricter : Stricter first second) (context : Context) (state other : State Callback Rest) :
    view (turn host context first state).result = view (turn host context second other).result := by
  have same := consistent.answers (Invocation.ofHook first context) state other
  rw [stricter.invocation context] at same
  simpa only [Engine.turn, Turn.result, stricter.invocation context] using same

/-! When an execution is cancelled. -/

theorem comesTo_zero (host : Host Callback Rest) (turn : Turn Callback Rest)
    (rest : List (Turn Callback Rest)) : ComesTo host (turn :: rest) 0 turn := by
  refine ⟨rfl, ?_⟩
  intro before member
  cases member

theorem ComesTo.succ {turn next : Turn Callback Rest} {rest : List (Turn Callback Rest)}
    {count : Nat} (comes : ComesTo host rest count next)
    (going : ¬ host.isCancelled turn.before = true)
    (passing : ¬ Engine.aborts turn.hook turn.result = true) :
    ComesTo host (turn :: rest) (count + 1) next := by
  refine ⟨comes.1, ?_⟩
  intro before member
  rcases List.mem_cons.mp member with rfl | behind
  · exact ⟨Bool.eq_false_iff.mpr going, Bool.eq_false_iff.mpr passing⟩
  · exact comes.2 before behind

theorem cancelledNoLater_of_le {first second : List (Turn Callback Rest)} (early late : Nat)
    (stays : ∀ count next, first[count]? = some next → early ≤ count →
      host.isCancelled next.before = true)
    (begins : ∀ count other, second[count]? = some other → host.isCancelled other.before = true →
      late ≤ count)
    (le : early ≤ late) : CancelledNoLater host first second := by
  intro count next other comes comesOther cancelled
  exact stays count next comes.1 (le.trans (begins count other comesOther.1 cancelled))

/-! Both executions in step. -/

theorem map_taken_isPrefix (consistent : Consistent host view) (context : Context)
    {hooks others : List Hook} (stricter : List.Forall₂ Stricter hooks others)
    (first second : State Callback Rest)
    (noLater : CancelledNoLater host (turns host context hooks first)
      (turns host context others second)) :
    (taken host (turns host context hooks first)).map
        (fun turn => (Invocation.ofHook turn.hook context, view turn.result)) <+:
      (taken host (turns host context others second)).map
        (fun turn => (Invocation.ofHook turn.hook context, view turn.result)) := by
  induction stricter generalizing first second with
  | nil => exact List.nil_prefix
  | @cons hook other hooks others head tail ih =>
      simp only [turns, taken]
      by_cases stopped : host.isCancelled first = true
      · simp [stopped]
      -- The first execution is not cancelled here, so the second one is not either.
      have going : ¬ host.isCancelled second = true := by
        intro cancelled
        exact stopped (noLater 0 _ _ (comesTo_zero host _ _) (comesTo_zero host _ _) cancelled)
      have looked := consistent.turn head context first second
      have success := consistent.success _ _ looked
      have invocation := head.invocation context
      by_cases ends : aborts other (turn host context other second).result = true
      · simp [stopped, going, ends, head.aborts success ends, looked, invocation]
      · by_cases cut : aborts hook (turn host context hook first).result = true
        · simp [stopped, going, ends, cut, looked, invocation]
        · have later : CancelledNoLater host
              (turns host context hooks (turn host context hook first).after)
              (turns host context others (turn host context other second).after) := by
            intro count next otherNext comes comesOther
            exact noLater (count + 1) next otherNext (comes.succ stopped cut)
              (comesOther.succ going ends)
          simpa [stopped, going, ends, cut, looked, invocation] using ih _ _ later

/-- Two executions of hooks that are the same apart from the flags that end the chain. If the first
one has all the flags of the second one and is cancelled no later, then it calls the runner for the
first hooks of those for which the second one does, its results look like the first ones of the
second execution, and so do those that its subscribers are told. -/
theorem execute_isPrefix (consistent : Consistent host view) (context : Context)
    (first second : State Callback Rest)
    (stricter : List.Forall₂ Stricter (first.registry.list context.eventType)
      (second.registry.list context.eventType))
    (noLater : CancelledNoLater host
      (turns host context (first.registry.list context.eventType) first)
      (turns host context (second.registry.list context.eventType) second)) :
    let run state := execute host.logging context.eventType context (state.logged [])
    let published state := (course host context state).map (Turn.execution context)
    (∀ state, run state = (.ok ((course host context state).map Turn.result),
      (left state (course host context state)).logged
        ((course host context state).flatMap (Turn.calls context)))) ∧
    runs (run first).2.calls <+: runs (run second).2.calls ∧
    (∃ results others, (run first).1 = .ok results ∧ (run second).1 = .ok others ∧
      results.map view <+: others.map view) ∧
    (published first).map (fun event => view event.result) <+:
      (published second).map fun event => view event.result := by
  intro run published
  have inStep := map_taken_isPrefix consistent context stricter first second noLater
  have invocations := inStep.map Prod.fst
  have results := inStep.map Prod.snd
  simp only [List.map_map, Function.comp_def] at invocations results
  refine ⟨execute_logging host context, ?_, ⟨(course host context first).map Turn.result,
    (course host context second).map Turn.result, ?_, ?_, ?_⟩, ?_⟩
  · simp only [run, execute_logging, State.calls_logged, runs_flatMap_calls]
    exact invocations
  · exact congrArg Prod.fst (execute_logging host context first)
  · exact congrArg Prod.fst (execute_logging host context second)
  · simpa only [course, List.map_map, Function.comp_def] using results
  · simpa only [published, course, Turn.execution, List.map_map, Function.comp_def] using results

def countdown (ending : Invocation → Except RunFailure Output) : Host Unit Nat where
  run invocation state := (⟨ending invocation, 0⟩, state.edit Nat.pred)
  isCancelled state := state.rest == 0
  notify _ _ state := state

/-- The first execution is cancelled before its third hook and the second one behind all of them;
before that, the first one ends with its second hook, which fails. -/
theorem execute_isPrefix_lint :
    let host := countdown lintFails
    let context := Context.bare .preCommit
    let first := stateOf .preCommit [plainCommand "build",
      (plainCommand "lint").withAbortOnFailure true, plainCommand "test"] 2
    let second := stateOf .preCommit [plainCommand "build", plainCommand "lint",
      plainCommand "test"] 3
    let run state := execute host.logging .preCommit context (state.logged [])
    let published state := (course host context state).map (Turn.execution context)
    Consistent host id ∧
    List.Forall₂ Stricter (first.registry.list .preCommit) (second.registry.list .preCommit) ∧
    CancelledNoLater host (turns host context (first.registry.list .preCommit) first)
      (turns host context (second.registry.list .preCommit) second) ∧
    (∀ state, run state = (.ok ((course host context state).map Turn.result),
      (left state (course host context state)).logged
        ((course host context state).flatMap (Turn.calls context)))) ∧
    runs (run first).2.calls <+: runs (run second).2.calls ∧
    (∃ results others, (run first).1 = .ok results ∧ (run second).1 = .ok others ∧
      results.map id <+: others.map id) ∧
    (published first).map (fun event => id event.result) <+:
      (published second).map fun event => id event.result := by
  intro host context first second run published
  have consistent : Consistent host id := ⟨fun _ _ _ => rfl, fun _ _ same => congrArg _ same⟩
  have stricter : List.Forall₂ Stricter (first.registry.list .preCommit)
      (second.registry.list .preCommit) :=
    .cons ⟨rfl, id⟩ (.cons ⟨rfl, fun _ => rfl⟩ (.cons ⟨rfl, id⟩ .nil))
  have noLater : CancelledNoLater host
      (turns host context (first.registry.list .preCommit) first)
      (turns host context (second.registry.list .preCommit) second) := by
    apply cancelledNoLater_of_le 2 3
    · intro count next found late
      match count with
      | 2 => obtain rfl := Option.some.inj found; rfl
    · intro count other found cancelled
      match count with
      | 0 => obtain rfl := Option.some.inj found; contradiction
      | 1 => obtain rfl := Option.some.inj found; contradiction
      | 2 => obtain rfl := Option.some.inj found; contradiction
      | count + 3 => omega
    · omega
  exact ⟨consistent, stricter, noLater,
    execute_isPrefix consistent context first second stricter noLater⟩

end LifecycleHooks.Engine
