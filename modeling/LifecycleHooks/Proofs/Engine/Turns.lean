import Mathlib.Order.Bounds.Basic
import LifecycleHooks.Engine.Basic

/-!
What an execution does, hook by hook. A turn is one hook that is run and told of; an execution takes
the first turns of those its hooks would take one after the other, up to the first place where the
chain ends.
-/

namespace LifecycleHooks.Engine

variable {Callback Rest : Type}

/-- One hook that is run: the states in which the runner is called, in which the subscribers are
told, and which they leave behind. -/
structure Turn (Callback Rest : Type) where
  hook : Hook
  before : State Callback Rest
  outcome : Outcome
  ran : State Callback Rest
  after : State Callback Rest

def Turn.result (turn : Turn Callback Rest) : Result := turn.outcome.result

def Turn.execution (context : Context) (turn : Turn Callback Rest) : Execution :=
  ⟨context.eventType, turn.hook, turn.result, context⟩

/-- The turn of a hook: the runner gets the invocation of the hook for the context, and whoever is
subscribed when it returns learns about the result. -/
def turn (host : Host Callback Rest) (context : Context) (hook : Hook)
    (before : State Callback Rest) : Turn Callback Rest :=
  let answer := host.run (Invocation.ofHook hook context) before
  let result := answer.1.result
  let ran :=
    if result.success then answer.2
    else answer.2.warn (.failedHook hook.label context.eventType result.exitCode result.stderr)
  let after := ran.executions.subscribers.foldl (fun state subscriber =>
    host.notify subscriber.2 ⟨context.eventType, hook, result, context⟩ state) ran
  ⟨hook, before, answer.1, ran, after⟩

def turns (host : Host Callback Rest) (context : Context) :
    List Hook → State Callback Rest → List (Turn Callback Rest)
  | [], _ => []
  | hook :: hooks, state =>
      turn host context hook state :: turns host context hooks (turn host context hook state).after

def left (state : State Callback Rest) : List (Turn Callback Rest) → State Callback Rest
  | [] => state
  | turn :: rest => left turn.after rest

/-- A chain ends before a turn when there is no hook left, when the execution is cancelled by then,
or when the hook before failed and asks for it. -/
def EndsAt (host : Host Callback Rest) (all : List (Turn Callback Rest)) (count : Nat) : Prop :=
  count = all.length ∨
  (∃ turn, all[count]? = some turn ∧ host.isCancelled turn.before = true) ∨
  (∃ turn last, count = last + 1 ∧ all[last]? = some turn ∧
    turn.result.success = false ∧ turn.hook.abortOnFailure = true)

/-- A result says what its outcome says: what the process left behind if it ran to its end, else
the reason why it did not. -/
def Reported (outcome : Outcome) (result : Result) : Prop :=
  result.executionTimeMs = outcome.elapsedMicros / 1000 ∧
  match outcome.ending with
  | .ok output =>
      result.exitCode = output.exitCode ∧ result.stdout = output.stdout ∧
      result.stderr = output.stderr ∧ (result.success = true ↔ output.exitCode = 0)
  | .error failure =>
      result.exitCode = -1 ∧ result.stdout = "" ∧ result.stderr = failure.message ∧
      result.success = false

theorem reported_result (outcome : Outcome) : Reported outcome outcome.result := by
  obtain ⟨ending, elapsed⟩ := outcome
  cases ending with
  | ok output => simp [Reported, Outcome.result, Result.completed]
  | error failure =>
      simp [Reported, Outcome.result, Result.failed, Result.failureCode]

/-! A host that writes down the calls it gets. -/

inductive Call (Callback : Type)
  | run (invocation : Invocation) (outcome : Outcome)
  | notify (callback : Callback) (execution : Execution)

/-- The calls of a turn: one to the runner, then one to each of those who are subscribed when it
returns, in their order. -/
def Turn.calls (context : Context) (turn : Turn Callback Rest) : List (Call Callback) :=
  .run (Invocation.ofHook turn.hook context) turn.outcome ::
    turn.ran.executions.subscribers.map fun subscriber =>
      .notify subscriber.2 (turn.execution context)

namespace State

def withRest {Other : Type} (state : State Callback Rest) (rest : Other) : State Callback Other :=
  ⟨state.registry, state.executions, state.reloads, state.warnings, rest⟩

def logged (state : State Callback Rest) (calls : List (Call Callback)) :
    State Callback (Rest × List (Call Callback)) :=
  state.withRest (state.rest, calls)

def plain (state : State Callback (Rest × List (Call Callback))) : State Callback Rest :=
  state.withRest state.rest.1

def calls (state : State Callback (Rest × List (Call Callback))) : List (Call Callback) :=
  state.rest.2

@[simp] theorem plain_logged (state : State Callback Rest) (calls : List (Call Callback)) :
    (state.logged calls).plain = state := rfl

@[simp] theorem calls_logged (state : State Callback Rest) (calls : List (Call Callback)) :
    (state.logged calls).calls = calls := rfl

end State

/-- A host that does what another one does and writes down every call. -/
def Host.logging (host : Host Callback Rest) : Host Callback (Rest × List (Call Callback)) where
  run invocation state :=
    let answer := host.run invocation state.plain
    (answer.1, answer.2.logged (state.calls ++ [.run invocation answer.1]))
  isCancelled state := host.isCancelled state.plain
  notify callback execution state :=
    (host.notify callback execution state.plain).logged
      (state.calls ++ [.notify callback execution])

/-! One turn of the engine. -/

@[simp] theorem turn_hook (host : Host Callback Rest) (context : Context) (hook : Hook)
    (state : State Callback Rest) : (turn host context hook state).hook = hook := rfl

@[simp] theorem turn_before (host : Host Callback Rest) (context : Context) (hook : Hook)
    (state : State Callback Rest) : (turn host context hook state).before = state := rfl

@[simp] theorem isCancelled_logging (host : Host Callback Rest) (state : State Callback Rest)
    (calls : List (Call Callback)) :
    host.logging.isCancelled (state.logged calls) = host.isCancelled state := rfl

theorem launch_eq (host : Host Callback Rest) (context : Context) (hook : Hook)
    (state : State Callback Rest) :
    launch host context hook state =
      ((turn host context hook state).result, (turn host context hook state).ran) := by
  simp only [launch, turn, Turn.result]
  split <;> rfl

theorem announce_eq (host : Host Callback Rest) (context : Context) (hook : Hook)
    (state : State Callback Rest) :
    announce host context hook (turn host context hook state).result
      (turn host context hook state).ran = (turn host context hook state).after := rfl

theorem launch_logging (host : Host Callback Rest) (context : Context) (hook : Hook)
    (state : State Callback Rest) (calls : List (Call Callback)) :
    launch host.logging context hook (state.logged calls) =
      ((turn host context hook state).result,
        (turn host context hook state).ran.logged (calls ++
          [.run (Invocation.ofHook hook context) (turn host context hook state).outcome])) := by
  simp only [launch, turn, Turn.result, Host.logging, State.plain_logged, State.calls_logged]
  by_cases succeeded :
    (host.run (Invocation.ofHook hook context) state).1.result.success = true
  · simp only [succeeded, ↓reduceIte]
  · simp only [succeeded, Bool.false_eq_true, ↓reduceIte]
    rfl

theorem notifyAll_logging (host : Host Callback Rest) (execution : Execution)
    (subscribers : List (Nat × Callback)) (state : State Callback Rest)
    (calls : List (Call Callback)) :
    subscribers.foldl (fun state subscriber => host.logging.notify subscriber.2 execution state)
        (state.logged calls) =
      (subscribers.foldl (fun state subscriber => host.notify subscriber.2 execution state)
        state).logged
        (calls ++ subscribers.map fun subscriber => .notify subscriber.2 execution) := by
  induction subscribers generalizing state calls with
  | nil => simp
  | cons subscriber rest ih =>
      simp only [List.foldl_cons, List.map_cons]
      rw [show host.logging.notify subscriber.2 execution (state.logged calls) =
        (host.notify subscriber.2 execution state).logged
          (calls ++ [.notify subscriber.2 execution]) from rfl, ih]
      simp

theorem announce_logging (host : Host Callback Rest) (context : Context) (hook : Hook)
    (state : State Callback Rest) (calls : List (Call Callback)) :
    announce host.logging context hook (turn host context hook state).result
        ((turn host context hook state).ran.logged (calls ++
          [.run (Invocation.ofHook hook context) (turn host context hook state).outcome])) =
      (turn host context hook state).after.logged
        (calls ++ (turn host context hook state).calls context) := by
  have told := notifyAll_logging host ((turn host context hook state).execution context)
    (turn host context hook state).ran.executions.subscribers (turn host context hook state).ran
    (calls ++ [.run (Invocation.ofHook hook context) (turn host context hook state).outcome])
  rw [List.append_assoc] at told
  exact told

/-! The chain of turns. -/

theorem map_hook_turns (host : Host Callback Rest) (context : Context) (hooks : List Hook)
    (state : State Callback Rest) : (turns host context hooks state).map Turn.hook = hooks := by
  induction hooks generalizing state with
  | nil => rfl
  | cons hook hooks ih => simp [turns, ih]

def taken (host : Host Callback Rest) : List (Turn Callback Rest) → List (Turn Callback Rest)
  | [] => []
  | turn :: rest =>
      if host.isCancelled turn.before then []
      else if aborts turn.hook turn.result then [turn]
      else turn :: taken host rest

theorem taken_isPrefix (host : Host Callback Rest) (all : List (Turn Callback Rest)) :
    taken host all <+: all := by
  induction all with
  | nil => exact List.prefix_rfl
  | cons turn rest ih =>
      simp only [taken]
      split
      · exact List.nil_prefix
      · split
        · exact ⟨rest, rfl⟩
        · exact List.prefix_cons_inj turn |>.mpr ih

theorem taken_eq_take (host : Host Callback Rest) (all : List (Turn Callback Rest)) :
    taken host all = all.take (taken host all).length :=
  List.prefix_iff_eq_take.mp (taken_isPrefix host all)

theorem endsAt_zero_iff (host : Host Callback Rest) (turn : Turn Callback Rest)
    (rest : List (Turn Callback Rest)) :
    EndsAt host (turn :: rest) 0 ↔ host.isCancelled turn.before = true := by
  simp [EndsAt]

/-- A hook that does not end the chain leaves the question to those behind it. -/
theorem endsAt_succ_iff (host : Host Callback Rest) (turn : Turn Callback Rest)
    (rest : List (Turn Callback Rest)) (count : Nat) :
    EndsAt host (turn :: rest) (count + 1) ↔
      (count = 0 ∧ aborts turn.hook turn.result = true) ∨ EndsAt host rest count := by
  simp only [EndsAt, aborts, Bool.and_eq_true, Bool.not_eq_true', List.length_cons,
    List.getElem?_cons_succ, Nat.add_right_cancel_iff]
  constructor
  · rintro (stop | stop | ⟨found, last, rfl, atLast, failed, asked⟩)
    · exact Or.inr (Or.inl stop)
    · exact Or.inr (Or.inr (Or.inl stop))
    · cases count with
      | zero =>
          obtain rfl : turn = found := by simpa using atLast
          exact Or.inl ⟨rfl, failed, asked⟩
      | succ last =>
          exact Or.inr (Or.inr (Or.inr ⟨found, last, rfl, by simpa using atLast, failed, asked⟩))
  · rintro (⟨rfl, failed, asked⟩ | stop | stop | ⟨found, last, rfl, atLast, failed, asked⟩)
    · exact Or.inr (Or.inr ⟨turn, 0, rfl, rfl, failed, asked⟩)
    · exact Or.inl stop
    · exact Or.inr (Or.inl stop)
    · exact Or.inr (Or.inr ⟨found, last + 1, rfl, by simpa using atLast, failed, asked⟩)

theorem isLeast_length_taken (host : Host Callback Rest) (all : List (Turn Callback Rest)) :
    IsLeast {count | EndsAt host all count} (taken host all).length := by
  induction all with
  | nil => exact ⟨Or.inl rfl, fun _ _ => Nat.zero_le _⟩
  | cons turn rest ih =>
      simp only [taken]
      split
      · rename_i cancelled
        exact ⟨(endsAt_zero_iff host turn rest).mpr cancelled, fun _ _ => Nat.zero_le _⟩
      · rename_i going
        have positive : ∀ count, EndsAt host (turn :: rest) count →
            ∃ before, count = before + 1 := by
          intro count ends
          cases count with
          | zero => exact absurd ((endsAt_zero_iff host turn rest).mp ends) going
          | succ before => exact ⟨before, rfl⟩
        split
        · rename_i aborting
          refine ⟨(endsAt_succ_iff host turn rest 0).mpr (Or.inl ⟨rfl, aborting⟩), ?_⟩
          intro count ends
          obtain ⟨before, rfl⟩ := positive count ends
          exact Nat.succ_le_succ (Nat.zero_le before)
        · rename_i passing
          refine ⟨(endsAt_succ_iff host turn rest _).mpr (Or.inr ih.1), ?_⟩
          intro count ends
          obtain ⟨before, rfl⟩ := positive count ends
          rcases (endsAt_succ_iff host turn rest before).mp ends with ⟨_, aborting⟩ | later
          · exact absurd aborting passing
          · exact Nat.succ_le_succ (ih.2 later)

/-! The loop of the engine takes these turns. -/

theorem runHooks_eq (host : Host Callback Rest) (context : Context) (hooks : List Hook)
    (state : State Callback Rest) :
    runHooks host context hooks state =
      ((taken host (turns host context hooks state)).map Turn.result,
        left state (taken host (turns host context hooks state))) := by
  induction hooks generalizing state with
  | nil => rfl
  | cons hook hooks ih =>
      by_cases cancelled : host.isCancelled state = true
      · simp [runHooks, turns, taken, left, cancelled]
      · by_cases aborting : aborts hook (turn host context hook state).result = true
        · simp [runHooks, turns, taken, left, launch_eq, announce_eq, cancelled, aborting]
        · simp [runHooks, turns, taken, left, launch_eq, announce_eq, cancelled, aborting, ih]

theorem runHooks_logging (host : Host Callback Rest) (context : Context) (hooks : List Hook)
    (state : State Callback Rest) (calls : List (Call Callback)) :
    runHooks host.logging context hooks (state.logged calls) =
      ((taken host (turns host context hooks state)).map Turn.result,
        (left state (taken host (turns host context hooks state))).logged
          (calls ++
            (taken host (turns host context hooks state)).flatMap (Turn.calls context))) := by
  induction hooks generalizing state calls with
  | nil => simp [runHooks, turns, taken, left]
  | cons hook hooks ih =>
      by_cases cancelled : host.isCancelled state = true
      · simp [runHooks, turns, taken, left, cancelled]
      · by_cases aborting : aborts hook (turn host context hook state).result = true
        · simp [runHooks, turns, taken, left, launch_logging, announce_logging, cancelled, aborting]
        · simp [runHooks, turns, taken, left, launch_logging, announce_logging, cancelled, aborting,
            ih]

theorem execute_eq (host : Host Callback Rest) (context : Context) (state : State Callback Rest) :
    execute host context.eventType context state =
      (.ok ((taken host (turns host context (state.registry.list context.eventType) state)).map
          Turn.result),
        left state (taken host (turns host context (state.registry.list context.eventType)
          state))) := by
  rw [execute, if_pos rfl, runHooks_eq]

theorem execute_logging (host : Host Callback Rest) (context : Context)
    (state : State Callback Rest) :
    execute host.logging context.eventType context (state.logged []) =
      (.ok ((taken host (turns host context (state.registry.list context.eventType) state)).map
          Turn.result),
        (left state (taken host (turns host context (state.registry.list context.eventType)
          state))).logged
            ((taken host (turns host context (state.registry.list context.eventType)
              state)).flatMap (Turn.calls context))) := by
  rw [execute, if_pos rfl]
  -- Writing calls down leaves the registry alone, so the hooks are those of `state`.
  have given := runHooks_logging host context (state.registry.list context.eventType) state []
  exact congrArg (fun given => (Except.ok given.1, given.2)) given

/-- An execution takes the turns of the hooks that are registered when it begins, in their order,
up to the first place where the chain ends. These turns are all it does: the runner is called once
in each of them, every subscriber there is by then is told once, and nobody else is called. -/
theorem execute_trace (host : Host Callback Rest) (context : Context)
    (state : State Callback Rest) :
    let hooks := state.registry.list context.eventType
    let all := turns host context hooks state
    ∃ count, IsLeast {count | EndsAt host all count} count ∧
      (all.take count).map Turn.hook = hooks.take count ∧
      (∀ turn ∈ all.take count, Reported turn.outcome turn.result) ∧
      execute host context.eventType context state =
        (.ok ((all.take count).map Turn.result), left state (all.take count)) ∧
      execute host.logging context.eventType context (state.logged []) =
        (.ok ((all.take count).map Turn.result),
          (left state (all.take count)).logged
            ((all.take count).flatMap (Turn.calls context))) := by
  intro hooks all
  have first := taken_eq_take host all
  refine ⟨(taken host all).length, isLeast_length_taken host all, ?_, ?_, ?_, ?_⟩
  · rw [List.map_take, map_hook_turns]
  · intro turn _
    exact reported_result turn.outcome
  · rw [← first]
    exact execute_eq host context state
  · rw [← first]
    exact execute_logging host context state

end LifecycleHooks.Engine
