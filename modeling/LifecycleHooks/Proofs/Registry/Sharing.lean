import LifecycleHooks.Proofs.Registry.History

/-!
A registry with several owners is one registry: whoever acts on it, what it holds is what the
history of all of them says.
-/

namespace LifecycleHooks.Registry

namespace Session

inductive Step
  | act (operation : Operation)
  | clone
  | drop
  | useClone

def issuedHandles (session : Session) : List Instance := (session.handles.map Prod.snd).reverse

/-- Carries out a step if the owner at work can. Handles need no names here, and disposing one needs
no owner. -/
def perform (session : Session) : Step → Except Refusal Session
  | .act (.register event hook) => session.held?.map fun _ => (session.register "" event hook).2
  | .act (.dispose handle) =>
      match session.issuedHandles[handle]? with
      | some entry => .ok (session.dispose entry)
      | none => .error .noHandle
  | .act (.clear event) => session.held?.map fun _ => session.change (·.clear event)
  | .act (.replaceAll map) => session.held?.map fun _ => session.change (·.replaceAll map)
  | .clone => session.held?.map fun _ => session.clone
  | .drop => .ok session.drop
  | .useClone => .ok session.useClone

/-- What is done with the registry in the course of steps, by any of its owners. -/
def operations (steps : List Step) : List Operation :=
  steps.filterMap fun
    | .act operation => some operation
    | _ => none

def ledger (session : Session) : Ledger := ⟨session.registry, session.issuedHandles⟩

theorem held_of_held? {session : Session} {registry : Registry}
    (found : session.held? = .ok registry) : session.held = true ∧ session.registry = registry := by
  simp only [held?] at found
  split at found
  · rename_i held
    exact ⟨held, Except.ok.inj found⟩
  · contradiction

theorem held_of_map {session next : Session} {change : Registry → Session}
    (performed : session.held?.map change = .ok next) :
    session.held = true ∧ next = change session.registry := by
  cases found : session.held? with
  | error refusal => simp [found, Except.map] at performed
  | ok registry =>
      obtain ⟨held, rfl⟩ := held_of_held? found
      simp only [found, Except.map, Except.ok.injEq] at performed
      exact ⟨held, performed.symm⟩

theorem alive_of_perform {session next : Session} {step : Step}
    (performed : session.perform step = .ok next) (alive : next.alive = true) :
    session.alive = true := by
  have ofHeld (held : session.held = true) : session.alive = true := by simp [Session.alive, held]
  cases step with
  | act operation =>
      cases operation with
      | register event hook => exact ofHeld (held_of_map performed).1
      | dispose handle =>
          simp only [perform] at performed
          split at performed
          · rw [← Except.ok.inj performed] at alive
            by_contra dead
            simp only [Session.dispose, dead] at alive
            contradiction
          · contradiction
      | clear event => exact ofHeld (held_of_map performed).1
      | replaceAll map => exact ofHeld (held_of_map performed).1
  | clone => exact ofHeld (held_of_map performed).1
  | drop =>
      rw [← Except.ok.inj performed] at alive
      simp only [Session.alive, Session.drop, Bool.false_or] at alive
      simp [Session.alive, alive]
  | useClone =>
      rw [← Except.ok.inj performed] at alive
      simp only [Session.alive, Session.useClone, Bool.or_eq_true, bne_iff_ne] at alive
      have kept : session.clones ≠ 0 := by omega
      simp [Session.alive, kept]

theorem ledger_perform {session next : Session} {step : Step}
    (performed : session.perform step = .ok next) (alive : session.alive = true) :
    next.ledger = (operations [step]).foldl Ledger.apply session.ledger := by
  cases step with
  | act operation =>
      cases operation with
      | register event hook =>
          obtain ⟨_, rfl⟩ := held_of_map performed
          simp [ledger, operations, Session.register, issuedHandles, Ledger.apply]
      | dispose handle =>
          simp only [perform] at performed
          split at performed
          · rename_i entry found
            have given : session.ledger.handles[handle]? = some entry := found
            rw [← Except.ok.inj performed, Session.dispose, if_pos alive]
            simp only [operations, List.filterMap_cons, List.filterMap_nil, List.foldl_cons,
              List.foldl_nil, Ledger.apply, given]
            rfl
          · contradiction
      | clear event =>
          obtain ⟨_, rfl⟩ := held_of_map performed
          rfl
      | replaceAll map =>
          obtain ⟨_, rfl⟩ := held_of_map performed
          rfl
  | clone =>
      obtain ⟨_, rfl⟩ := held_of_map performed
      rfl
  | drop =>
      rw [← Except.ok.inj performed]
      rfl
  | useClone =>
      rw [← Except.ok.inj performed]
      rfl

theorem operations_cons (step : Step) (later : List Step) :
    operations (step :: later) = operations [step] ++ operations later := by
  rw [← List.singleton_append, operations, List.filterMap_append]
  rfl

theorem ledger_foldlM (steps : List Step) (session last : Session)
    (performed : steps.foldlM perform session = .ok last) (alive : last.alive = true) :
    session.alive = true ∧
      last.ledger = (operations steps).foldl Ledger.apply session.ledger := by
  induction steps generalizing session with
  | nil =>
      obtain rfl := Except.ok.inj performed
      exact ⟨alive, rfl⟩
  | cons step later ih =>
      rw [List.foldlM_cons] at performed
      cases first : session.perform step with
      | error refusal => simp [first, bind, Except.bind] at performed
      | ok next =>
          rw [first] at performed
          obtain ⟨nextAlive, run⟩ := ih next performed
          have sessionAlive := alive_of_perform first nextAlive
          refine ⟨sessionAlive, ?_⟩
          rw [run, ledger_perform first sessionAlive, ← List.foldl_append, ← operations_cons]

/-- What an owner finds in a registry is what the history of all owners says. Each instance is there
once, and a handle removes the instance that it was issued for, even if there are equal hooks; it
removes nothing once all hooks of its event type were done away with after it was issued. -/
theorem content_of_history (steps : List Step) (session : Session) (registry : Registry)
    (performed : steps.foldlM perform start = .ok session)
    (owned : session.held? = .ok registry) :
    let history := operations steps
    (∀ event, registry.listInstances event = content event history) ∧
    (∀ event, registry.list event = (content event history).map Instance.hook) ∧
    (registry.instances.map Instance.id).Nodup ∧
    session.issuedHandles = registered 0 history ∧
    (∀ handle ∈ session.issuedHandles, ∀ event,
      (session.dispose handle).registry.listInstances event =
        (registry.listInstances event).filter (· ≠ handle)) ∧
    ∀ past operation later, history = past ++ operation :: later →
      ∀ handle ∈ registered 0 past, operation.resets handle.event = true →
        (session.dispose handle).registry = registry := by
  intro history
  obtain ⟨held, rfl⟩ := held_of_held? owned
  have alive : session.alive = true := by simp [alive, held]
  have ledgerIs : session.ledger = Ledger.after history :=
    (ledger_foldlM steps start session performed alive).2
  have registryIs : session.registry = (Ledger.after history).registry :=
    congrArg Ledger.registry ledgerIs
  have handlesAre : session.issuedHandles = (Ledger.after history).handles :=
    congrArg Ledger.handles ledgerIs
  have disposed (handle : Instance) :
      (session.dispose handle).registry = session.registry.dispose handle := by
    rw [Session.dispose, if_pos alive]
  have sound := Ledger.sound_after history
  have contents (event : EventType) :
      session.registry.listInstances event = content event history := by
    rw [registryIs]
    exact listInstances_after event history
  refine ⟨contents, ?_, ?_, ?_, ?_, ?_⟩
  · intro event
    rw [list, contents]
  · rw [registryIs]
    exact sound.distinct
  · rw [handlesAre]
    exact handles_after history
  · intro handle issued event
    rw [handlesAre] at issued
    rw [disposed, registryIs]
    exact listInstances_dispose_of_sound sound handle issued event
  · intro past operation later split handle issued resets
    rw [disposed, registryIs]
    apply dispose_of_absent
    rw [split]
    exact absent_after_reset past operation later handle issued resets

/-- One owner registers equal hooks and disposes the first of them twice, another one takes the same
hook in their place, registers it again and disposes a handle from before. -/
def handedOver (hook : Hook) : List Step :=
  [.act (.register .preCommit hook), .act (.register .preCommit hook), .clone, .act (.dispose 0),
    .act (.dispose 0), .drop, .useClone,
    .act (.replaceAll (HookMap.empty.extend .preCommit [hook])),
    .act (.register .preCommit hook), .act (.dispose 1)]

theorem content_of_history_handedOver :
    let hook : Hook := ⟨.command "lint" [], Hook.defaultTimeout, false, false, none, []⟩
    let history := operations (handedOver hook)
    ∃ session registry,
      (handedOver hook).foldlM perform start = .ok session ∧ session.held? = .ok registry ∧
      registry.instances = [⟨2, .preCommit, hook⟩, ⟨3, .preCommit, hook⟩] ∧
      (∀ event, registry.listInstances event = content event history) ∧
      session.issuedHandles = registered 0 history ∧
      (session.dispose ⟨1, .preCommit, hook⟩).registry = registry := by
  intro hook history
  obtain ⟨contents, -, -, handles, -, stale⟩ := content_of_history (handedOver hook) _ _ rfl rfl
  have before : registered 0 (history.take 4) =
      [⟨0, .preCommit, hook⟩, ⟨1, .preCommit, hook⟩] := rfl
  refine ⟨_, _, rfl, rfl, rfl, contents, handles, ?_⟩
  exact stale (history.take 4) (.replaceAll (HookMap.empty.extend .preCommit [hook]))
    (history.drop 5) rfl _ (before ▸ List.mem_cons_of_mem _ List.mem_cons_self) rfl

end Session

end LifecycleHooks.Registry
