import LifecycleHooks.Proofs.Engine.Reachable
import LifecycleHooks.Proofs.HookMap

/-!
Reloads whose subscribers register, dispose and clear hooks. A reload forgets the state that it
finds: two engines that load the same hooks and have the same subscribers differ afterwards by the
numbers of instances only, and the handles that they issued before stand for nothing.
-/

namespace LifecycleHooks.Engine

/-- Registering, disposing and clearing hooks, and looking at them. -/
def Action.tame : Action → Bool
  | .register _ _ _ | .dispose _ | .clear _ | .list _ | .has _ | .requiresAwait _ => true
  | _ => false

namespace Machine

def Behaviour.Tame (behave : Behaviour) (listener : Listener) : Prop :=
  ∀ summary registered, ∀ action ∈ behave listener summary registered, action.tame = true

def performed (behave : Behaviour) (summary : Summary) : List Listener → Machine → List Action
  | [], _ => []
  | listener :: rest, machine =>
      behave listener summary machine.registry.list ++
        performed behave summary rest (answering behave listener summary machine)

def noteAll (machine : Machine) (entries : List Note) : Machine :=
  machine.edit fun desk => { desk with notes := desk.notes ++ entries }

/-! Tame actions and notes. -/

theorem act_noteAll (machine : Machine) (entries : List Note) {action : Action}
    (tame : action.tame = true) :
    ((machine.noteAll entries).act action).2 = (machine.act action).2.noteAll entries := by
  cases action with
  | dispose name =>
      simp only [act, noteAll, State.edit]
      split
      · rfl
      · rfl
  | register | clear | list | has | requiresAwait => rfl
  | _ => contradiction

theorem actAll_noteAll (machine : Machine) (entries : List Note) {actions : List Action}
    (tame : ∀ action ∈ actions, action.tame = true) :
    (machine.noteAll entries).actAll actions = (machine.actAll actions).noteAll entries := by
  induction actions generalizing machine with
  | nil => rfl
  | cons action actions ih =>
      obtain ⟨first, rest⟩ := List.forall_mem_cons.mp tame
      simp only [actAll, List.foldl_cons] at ih ⊢
      rw [act_noteAll machine entries first, ih _ rest]

theorem actAll_append (machine : Machine) (first rest : List Action) :
    machine.actAll (first ++ rest) = (machine.actAll first).actAll rest :=
  List.foldl_append

theorem tame_performed {behave : Behaviour} {listeners : List Listener}
    (tame : ∀ listener ∈ listeners, behave.Tame listener) (summary : Summary)
    (machine : Machine) :
    ∀ action ∈ performed behave summary listeners machine, action.tame = true := by
  induction listeners generalizing machine with
  | nil => exact fun _ member => absurd member List.not_mem_nil
  | cons listener rest ih =>
      obtain ⟨first, others⟩ := List.forall_mem_cons.mp tame
      intro action member
      rcases List.mem_append.mp member with own | later
      · exact first summary _ action own
      · exact ih others _ action later

theorem foldl_answering {behave : Behaviour} {listeners : List Listener}
    (tame : ∀ listener ∈ listeners, behave.Tame listener) (summary : Summary)
    (machine : Machine) :
    listeners.foldl (fun machine listener => answering behave listener summary machine) machine =
      (machine.actAll (performed behave summary listeners machine)).noteAll
        (listeners.map fun listener => .reload listener.name summary) := by
  induction listeners generalizing machine with
  | nil => simp [performed, actAll, noteAll, State.edit]
  | cons listener rest ih =>
      obtain ⟨first, others⟩ := List.forall_mem_cons.mp tame
      let own := behave listener summary machine.registry.list
      have answered : answering behave listener summary machine =
          (machine.actAll own).noteAll [.reload listener.name summary] :=
        actAll_noteAll machine _ (first summary _)
      -- The notes that are taken in between are out of the way of all actions behind them.
      rw [List.foldl_cons, ih others, performed, actAll_append]
      generalize laterEq :
        performed behave summary rest (answering behave listener summary machine) = later
      have laterTame := tame_performed others summary
        (answering behave listener summary machine)
      rw [laterEq] at laterTame
      rw [answered, actAll_noteAll _ _ laterTame]
      simp [noteAll, State.edit, own]

theorem reloads_act (machine : Machine) {action : Action} (tame : action.tame = true) :
    (machine.act action).2.reloads = machine.reloads := by
  cases action with
  | dispose name =>
      simp only [act]
      split
      · rfl
      · rfl
  | register | clear | list | has | requiresAwait => rfl
  | _ => contradiction

theorem reloads_actAll (machine : Machine) {actions : List Action}
    (tame : ∀ action ∈ actions, action.tame = true) :
    (machine.actAll actions).reloads = machine.reloads := by
  induction actions generalizing machine with
  | nil => rfl
  | cons action actions ih =>
      obtain ⟨first, rest⟩ := List.forall_mem_cons.mp tame
      exact (ih (machine.act action).2 rest).trans (reloads_act machine first)

/-! Engines that differ by their numbers. -/

def raise (base : Nat) (entry : Instance) : Instance := { entry with id := base + entry.id }

/-- The second engine holds the hooks of the first, with their numbers raised. Beside the handles of
the first one it has stale ones, whose numbers are too small for any hook that it holds. -/
structure Raised (base : Nat) (stale : List (String × Instance)) (low high : Machine) : Prop where
  nextId : high.registry.nextId = base + low.registry.nextId
  instances : high.registry.instances = low.registry.instances.map (raise base)
  handles : high.rest.handles =
    low.rest.handles.map (fun entry => (entry.1, raise base entry.2)) ++ stale
  below : ∀ entry ∈ stale, entry.2.id < base

variable {base : Nat} {stale : List (String × Instance)} {low high : Machine}

theorem Raised.list (raised : Raised base stale low high) :
    high.registry.list = low.registry.list := by
  funext event
  simp only [Registry.list, Registry.listInstances, raised.instances, List.filter_map,
    List.map_map]
  rfl

theorem Raised.dispose_of_lt (raised : Raised base stale low high) {handle : Instance}
    (old : handle.id < base) : high.registry.dispose handle = high.registry := by
  have kept : high.registry.instances.filter (fun entry => entry.id != handle.id) =
      high.registry.instances := by
    rw [List.filter_eq_self, raised.instances]
    intro entry member
    obtain ⟨lower, _, rfl⟩ := List.mem_map.mp member
    have different : base + lower.id ≠ handle.id := by omega
    simpa [raise] using different
  rw [Registry.dispose, kept]

theorem lookup_raise (name : String) (entries : List (String × Instance)) :
    lookup name (entries.map fun entry => (entry.1, raise base entry.2)) =
      (lookup name entries).map (raise base) := by
  simp only [lookup, List.find?_map, Option.map_map]
  rfl

theorem lookup_append {α : Type} (name : String) (front back : List (String × α)) :
    lookup name (front ++ back) = (lookup name front).or (lookup name back) := by
  simp only [lookup, List.find?_append, Option.map_or]

theorem dispose_raise (instances : List Instance) (handle : Instance) :
    (instances.map (raise base)).filter (fun entry => entry.id != (raise base handle).id) =
      (instances.filter fun entry => entry.id != handle.id).map (raise base) := by
  rw [List.filter_map]
  congr 1
  refine List.filter_congr fun entry _ => ?_
  simp [raise, bne]

theorem Raised.dispose (raised : Raised base stale low high) (name : String) :
    Raised base stale (low.act (.dispose name)).2 (high.act (.dispose name)).2 := by
  have found : lookup name high.rest.handles =
      ((lookup name low.rest.handles).map (raise base)).or (lookup name stale) := by
    rw [raised.handles, lookup_append, lookup_raise]
  simp only [act]
  -- A name stands for the same handle in both engines, or at most for a stale one in the second.
  cases lowFound : lookup name low.rest.handles with
  | some handle =>
      rw [lowFound, Option.map_some, Option.some_or] at found
      rw [found]
      exact { raised with
        instances := by simp only [Registry.dispose, raised.instances, dispose_raise] }
  | none =>
      rw [lowFound, Option.map_none, Option.none_or] at found
      rw [found]
      cases staleFound : lookup name stale with
      | none => exact raised
      | some handle =>
          obtain ⟨entry, member, rfl⟩ := Option.map_eq_some_iff.mp staleFound
          have old := raised.below entry (List.mem_of_find?_eq_some member)
          simpa only [raised.dispose_of_lt old] using raised

theorem Raised.act (raised : Raised base stale low high) {action : Action}
    (tame : action.tame = true) : Raised base stale (low.act action).2 (high.act action).2 := by
  cases action with
  | register event name hook =>
      constructor
      · simp [Machine.act, State.edit, Registry.register, raised.nextId, Nat.add_assoc]
      · simp [Machine.act, State.edit, Registry.register, raised.nextId, raised.instances, raise]
      · simp [Machine.act, State.edit, Registry.register, raised.nextId, raised.handles, raise]
      · exact raised.below
  | dispose name => exact raised.dispose name
  | clear event =>
      exact { raised with
        instances := by
          simp only [Machine.act, Registry.clear, raised.instances, List.filter_map]
          rfl }
  | list | has | requiresAwait => exact raised
  | _ => contradiction

theorem Raised.actAll (raised : Raised base stale low high) {actions : List Action}
    (tame : ∀ action ∈ actions, action.tame = true) :
    Raised base stale (low.actAll actions) (high.actAll actions) := by
  induction actions generalizing low high with
  | nil => exact raised
  | cons action actions ih =>
      obtain ⟨first, rest⟩ := List.forall_mem_cons.mp tame
      exact ih (raised.act first) rest

theorem Raised.answering (raised : Raised base stale low high) {behave : Behaviour}
    {listener : Listener} (tame : behave.Tame listener) (summary : Summary) :
    Raised base stale (Machine.answering behave listener summary low)
      (Machine.answering behave listener summary high) := by
  have noted : Raised base stale (low.note (.reload listener.name summary))
      (high.note (.reload listener.name summary)) := { raised with }
  simp only [Machine.answering, raised.list]
  exact noted.actAll (tame summary _)

theorem Raised.performed (raised : Raised base stale low high) {behave : Behaviour}
    {listeners : List Listener} (tame : ∀ listener ∈ listeners, behave.Tame listener)
    (summary : Summary) :
    Machine.performed behave summary listeners high =
      Machine.performed behave summary listeners low := by
  induction listeners generalizing low high with
  | nil => rfl
  | cons listener rest ih =>
      obtain ⟨first, others⟩ := List.forall_mem_cons.mp tame
      simp only [Machine.performed, raised.list, ih (raised.answering first summary) others]

theorem number_raise (base first : Nat) (hooks : List (EventType × Hook)) :
    Registry.number (base + first) hooks = (Registry.number first hooks).map (raise base) := by
  induction hooks generalizing first with
  | nil => rfl
  | cons pair rest ih =>
      simp only [Registry.number, List.map_cons, Nat.add_assoc, ih]
      rfl

/-! What a reload does. -/

def listeners (machine : Machine) : List Listener := machine.reloads.subscribers.map Prod.snd

def summary (sources : Sources) : Summary := Summary.ofMap (Loading.load sources).1

def loaded (sources : Sources) (machine : Machine) : Machine :=
  { machine.warnAll (Loading.load sources).2 with
    registry := machine.registry.replaceAll (Loading.load sources).1 }

def done (sources : Sources) (behave : Behaviour) (machine : Machine) : List Action :=
  performed behave (summary sources) machine.listeners (machine.loaded sources)

theorem reload_eq {behave : Behaviour} {machine : Machine}
    (tame : ∀ listener ∈ machine.listeners, behave.Tame listener) (sources : Sources) :
    Engine.reload sources (answering behave) machine =
      (summary sources, ((machine.loaded sources).actAll (machine.done sources behave)).noteAll
        (machine.listeners.map fun listener => .reload listener.name (summary sources))) := by
  rw [done, ← foldl_answering tame, listeners, List.foldl_map]
  rfl

/-- An engine without a past that holds what is loaded. -/
def pristine (sources : Sources) : Machine := (start sources []).loaded sources

theorem Sound.raised {machine : Machine} (sound : machine.Sound) (sources : Sources) :
    Raised machine.registry.nextId machine.rest.handles (pristine sources)
      (machine.loaded sources) where
  nextId := by simp [pristine, loaded, start, Registry.replaceAll, Registry.empty]
  instances := number_raise machine.registry.nextId 0 _
  handles := rfl
  below _ member := sound.handle_lt member

theorem Sound.done_eq {machine : Machine} (sound : machine.Sound) {behave : Behaviour}
    (tame : ∀ listener ∈ machine.listeners, behave.Tame listener) (sources : Sources) :
    machine.done sources behave =
      performed behave (summary sources) machine.listeners (pristine sources) :=
  (sound.raised sources).performed tame _

/-- A reload leaves the hooks that it would leave in an engine without a past. -/
theorem Sound.list_reload {machine : Machine} (sound : machine.Sound) {behave : Behaviour}
    (tame : ∀ listener ∈ machine.listeners, behave.Tame listener) (sources : Sources) :
    (Engine.reload sources (Machine.answering behave) machine).2.registry.list =
      ((pristine sources).actAll
        (performed behave (summary sources) machine.listeners (pristine sources))
      ).registry.list := by
  have tameDone := tame_performed tame (summary sources) (machine.loaded sources)
  rw [reload_eq tame, ← sound.done_eq tame]
  exact ((sound.raised sources).actAll tameDone).list

theorem listeners_reload {behave : Behaviour} {machine : Machine}
    (tame : ∀ listener ∈ machine.listeners, behave.Tame listener) (sources : Sources) :
    listeners (Engine.reload sources (answering behave) machine).2 = machine.listeners := by
  have tameDone := tame_performed tame (summary sources) (machine.loaded sources)
  rw [reload_eq tame, listeners, noteAll, State.edit, done, reloads_actAll _ tameDone]
  rfl

/-! Hooks that stay. -/

/-- An instance is registered, and its number is that of handles of one name only. -/
structure Keeps (name : String) (entry : Instance) (machine : Machine) : Prop where
  sound : machine.Sound
  held : entry ∈ machine.registry.instances
  named : ∀ handle ∈ machine.rest.handles, handle.2.id = entry.id → handle.1 = name

theorem Sound.keeps {machine : Machine} (sound : machine.Sound) (event : EventType)
    (name : String) (hook : Hook) :
    Keeps name ⟨machine.registry.nextId, event, hook⟩
      (machine.act (.register event name hook)).2 where
  sound := sound.act _
  held := List.mem_append_right _ List.mem_cons_self
  named handle member same := by
    rcases List.mem_cons.mp member with rfl | old
    · rfl
    · exact absurd same (Nat.ne_of_lt (sound.handle_lt old))

theorem Keeps.act {name : String} {entry : Instance} {machine : Machine}
    (keeps : Keeps name entry machine) {action : Action} (tame : action.tame = true)
    (notCleared : action ≠ .clear entry.event) (notDisposed : action ≠ .dispose name) :
    Keeps name entry (machine.act action).2 := by
  refine ⟨keeps.sound.act action, ?_, ?_⟩
  · cases action with
    | register event other hook => exact List.mem_append_left _ keeps.held
    | dispose other =>
        simp only [Machine.act]
        cases found : lookup other machine.rest.handles with
        | none => exact keeps.held
        | some handle =>
            -- A handle of another name has another number.
            obtain ⟨pair, member, rfl⟩ := Option.map_eq_some_iff.mp found
            have called : pair.1 = other := by simpa using List.find?_some member
            have different : entry.id ≠ pair.2.id := by
              intro same
              have own := keeps.named pair (List.mem_of_find?_eq_some member) same.symm
              exact notDisposed (by rw [← called, own])
            exact List.mem_filter.mpr ⟨keeps.held, by simpa using different⟩
    | clear event =>
        have different : entry.event ≠ event := fun same => notCleared (by rw [same])
        exact List.mem_filter.mpr ⟨keeps.held, by simpa using different⟩
    | list | has | requiresAwait => exact keeps.held
    | _ => contradiction
  · cases action with
    | register event other hook =>
        intro handle member same
        rcases List.mem_cons.mp member with rfl | old
        · exact absurd same.symm (Nat.ne_of_lt (keeps.sound.entryBelow entry keeps.held))
        · exact keeps.named handle old same
    | dispose other =>
        simp only [Machine.act]
        split
        · exact keeps.named
        · exact keeps.named
    | clear | list | has | requiresAwait => exact keeps.named
    | _ => contradiction

theorem Keeps.actAll {name : String} {entry : Instance} {machine : Machine}
    (keeps : Keeps name entry machine) {actions : List Action}
    (tame : ∀ action ∈ actions, action.tame = true)
    (notCleared : .clear entry.event ∉ actions) (notDisposed : .dispose name ∉ actions) :
    Keeps name entry (machine.actAll actions) := by
  induction actions generalizing machine with
  | nil => exact keeps
  | cons action actions ih =>
      obtain ⟨first, rest⟩ := List.forall_mem_cons.mp tame
      obtain ⟨firstKept, restKept⟩ := List.ne_and_not_mem_of_not_mem_cons notCleared
      obtain ⟨firstOwn, restOwn⟩ := List.ne_and_not_mem_of_not_mem_cons notDisposed
      exact ih (keeps.act first firstKept.symm firstOwn.symm) rest restKept restOwn

/-! What is counted. -/

theorem foldl_counts (counts : List (EventType × Nat)) (first : Nat) :
    counts.foldl (fun total entry => total + entry.2) first =
      first + (counts.map Prod.snd).sum := by
  induction counts generalizing first with
  | nil => rfl
  | cons entry rest ih => simp [ih, Nat.add_assoc]

theorem list_replaceAll (registry : Registry) (map : HookMap) (event : EventType) :
    (registry.replaceAll map).list event = map.get event := by
  rw [Registry.list, Registry.listInstances_replaceAll, Registry.fresh, List.map_map]
  exact List.zipIdx_map_fst _ _

/-- What holds of a reload whose subscribers register, dispose and clear hooks. -/
structure ReloadLaw (sources : Sources) (behave : Behaviour) (machine : Machine) : Prop where
  /-- The subscribers are told the same summary one after the other, which is also what the reload
  gives; what it leaves are the loaded hooks, changed by what the subscribers do. -/
  result : Engine.reload sources (answering behave) machine =
    (summary sources, ((machine.loaded sources).actAll (machine.done sources behave)).noteAll
      (machine.listeners.map fun listener => .reload listener.name (summary sources)))
  /-- The first subscriber finds exactly what was loaded. -/
  found : ∀ event,
    (machine.loaded sources).registry.list event = (Loading.load sources).1.get event
  /-- Nothing that was registered before is there any more. -/
  gone : ∀ old ∈ machine.registry.instances, ∀ entry ∈ (machine.loaded sources).registry.instances,
    entry.id ≠ old.id
  /-- The summary has the event types with loaded hooks, each once, with their number. -/
  counted : ∀ event count, (event, count) ∈ (summary sources).hooksPerType ↔
    count = ((Loading.load sources).1.get event).length ∧ count ≠ 0
  once : ((summary sources).hooksPerType.map Prod.fst).Nodup
  total : (summary sources).total = ((summary sources).hooksPerType.map Prod.snd).sum
  /-- What a subscriber registers is there after the reload, unless what is done later disposes or
  clears it. -/
  kept : ∀ before event name hook after,
    machine.done sources behave = before ++ .register event name hook :: after →
    .clear event ∉ after → .dispose name ∉ after →
    ⟨((machine.loaded sources).actAll before).registry.nextId, event, hook⟩ ∈
      (Engine.reload sources (answering behave) machine).2.registry.listInstances event
  /-- Disposing a handle from before the reload does nothing, whenever a subscriber does it. -/
  stale : ∀ before, before <+: machine.done sources behave →
    ∀ handle ∈ machine.rest.handles,
      ((machine.loaded sources).actAll before).registry.dispose handle.2 =
        ((machine.loaded sources).actAll before).registry
  /-- The state before makes no difference to the summary and to the hooks of any event type. -/
  forgetful : ∀ other, Reachable other → other.listeners = machine.listeners →
    (Engine.reload sources (answering behave) other).1 =
        (Engine.reload sources (answering behave) machine).1 ∧
      ∀ event, (Engine.reload sources (answering behave) other).2.registry.list event =
        (Engine.reload sources (answering behave) machine).2.registry.list event
  /-- Another reload leaves the same. -/
  again : let next := (Engine.reload sources (answering behave) machine).2
    (Engine.reload sources (answering behave) next).1 =
        (Engine.reload sources (answering behave) machine).1 ∧
      ∀ event, (Engine.reload sources (answering behave) next).2.registry.list event =
        next.registry.list event

theorem reload_law (sources : Sources) (behave : Behaviour) (machine : Machine)
    (reachable : Reachable machine)
    (tame : ∀ listener ∈ machine.listeners, behave.Tame listener) :
    ReloadLaw sources behave machine where
  result := reload_eq tame sources
  found event := list_replaceAll machine.registry (Loading.load sources).1 event
  gone old member entry newer := by
    have older := reachable.sound.entryBelow old member
    have bounds := Registry.bounds_of_mem_number newer
    exact Nat.ne_of_gt (Nat.lt_of_lt_of_le older bounds.1)
  counted event count := HookMap.mem_counts_dropEmpty_iff _ event count
  once := HookMap.nodup_map_fst_counts _
  total := (foldl_counts _ 0).trans (Nat.zero_add _)
  kept before event name hook after split notCleared notDisposed := by
    have tameDone : ∀ action ∈ machine.done sources behave, action.tame = true :=
      tame_performed tame _ _
    rw [split, List.forall_mem_append, List.forall_mem_cons] at tameDone
    have sound : (machine.loaded sources).Sound := reachable.sound.replaceAll _
    have keeps := (sound.actAll before).keeps event name hook
    have final := keeps.actAll tameDone.2.2 notCleared notDisposed
    rw [reload_eq tame, split, actAll_append]
    exact List.mem_filter.mpr ⟨final.held, by simp⟩
  stale before isPrefix handle member := by
    obtain ⟨after, split⟩ := isPrefix
    have tameDone : ∀ action ∈ machine.done sources behave, action.tame = true :=
      tame_performed tame _ _
    rw [← split, List.forall_mem_append] at tameDone
    have raised := (reachable.sound.raised sources).actAll tameDone.1
    exact raised.dispose_of_lt (reachable.sound.handle_lt member)
  forgetful other otherReachable same := by
    have otherTame : ∀ listener ∈ other.listeners, behave.Tame listener := same ▸ tame
    refine ⟨rfl, fun event => ?_⟩
    rw [otherReachable.sound.list_reload otherTame, reachable.sound.list_reload tame, same]
  again := by
    have next := reachable.reload sources behave
    have same := listeners_reload tame sources
    have nextTame := same.symm ▸ tame
    refine ⟨rfl, fun event => ?_⟩
    rw [next.sound.list_reload nextTame, same, reachable.sound.list_reload tame]

/-- A commit hook in the settings. A commit hook is registered by hand, too, and a subscriber of
reloads disposes it and registers it anew under its name. -/
def owned (hook : Hook) : Machine :=
  let entry : Json := .object [("command", .string "lint")]
  let sources : Sources :=
    ⟨fun key => if key = "hooks.preCommit" then some entry else none,
      fun path => .error (.notFound path), none⟩
  (start sources []).actAll
    [.register .preCommit "own" hook,
      .onReload "owner" [.dispose "own", .register .preCommit "own" hook]]

theorem reload_law_owned :
    let hook : Hook := ⟨.command "build" [], Hook.defaultTimeout, false, false, none, []⟩
    let behave : Behaviour := fun listener _ _ => listener.actions
    let machine := owned hook
    (∀ listener ∈ machine.listeners, behave.Tame listener) ∧ Reachable machine ∧
      (machine.reload.2.registry.list .preCommit).map Hook.label = ["lint", "build"] ∧
      ReloadLaw machine.rest.sources behave machine := by
  intro hook behave machine
  have reachable : Reachable machine := ((Reachable.start _ _).act _).act _
  have tame : ∀ listener ∈ machine.listeners, behave.Tame listener := by
    intro listener member summary registered action inside
    obtain rfl := List.mem_singleton.mp member
    rcases List.mem_pair.mp inside with rfl | rfl
    · rfl
    · rfl
  exact ⟨tame, reachable, by decide, reload_law _ behave machine reachable tame⟩

end Machine

end LifecycleHooks.Engine
