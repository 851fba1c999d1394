import Mathlib.Data.List.Induction
import Mathlib.Data.List.Nodup
import LifecycleHooks.Proofs.Bus.Run

/-!
Who is reached by a publish call: those who were subscribed when it began. What carries this through
a run is that the subscribers a call has reached and those it has still to reach are always these.
-/

namespace LifecycleHooks.Bus

variable {Event : Type}

namespace Moment

def subscriber? : Moment Event → Option Nat
  | subscribed id => some id
  | _ => none

def call? : Moment Event → Option Nat
  | began call _ => some call
  | _ => none

/-- Who is subscribed after a moment, given who was before, in the order of subscription. -/
def change (ids : List Nat) : Moment Event → List Nat
  | subscribed id => ids ++ [id]
  | unsubscribed id => ids.filter (· != id)
  | _ => ids

end Moment

/-- Who is subscribed after some moments, in the order of subscription. -/
def live (moments : List (Moment Event)) : List Nat := moments.foldl Moment.change []

/-- The callbacks that a call invoked, in order, by the numbers of the subscribers and with the
event that they got. -/
def Host.invoked (host : Host Event) (call : Nat) : List (Nat × Event) :=
  (host.delivered.filter fun delivery => delivery.call == call).map fun delivery =>
    (delivery.subscriber, delivery.event)

theorem live_concat (moments : List (Moment Event)) (moment : Moment Event) :
    live (moments ++ [moment]) = moment.change (live moments) := by
  simp [live]

theorem split_concat {moments before after : List (Moment Event)} {last moment : Moment Event}
    (split : moments ++ [last] = before ++ moment :: after) :
    (after = [] ∧ moments = before ∧ last = moment) ∨
      ∃ rest, after = rest ++ [last] ∧ moments = before ++ moment :: rest := by
  rcases List.eq_nil_or_concat' after with rfl | ⟨rest, other, rfl⟩
  · have parts := List.append_inj' split rfl
    exact Or.inl ⟨rfl, parts.1, List.singleton_inj.mp parts.2⟩
  · rw [← List.cons_append, ← List.append_assoc] at split
    have parts := List.append_inj' split rfl
    obtain rfl := List.singleton_inj.mp parts.2
    exact Or.inr ⟨rest, rfl, parts.1⟩

theorem nodup_concat {number? : Moment Event → Option Nat} {moments : List (Moment Event)}
    (distinct : (moments.filterMap number?).Nodup) {moment : Moment Event} {number : Nat}
    (given : number? moment = some number)
    (fresh : ∀ earlier ∈ moments, number? earlier ≠ some number) :
    ((moments ++ [moment]).filterMap number?).Nodup := by
  have last : [moment].filterMap number? = [number] := by simp [given]
  rw [List.filterMap_append, last]
  refine List.nodup_append.mpr ⟨distinct, List.nodup_singleton number, ?_⟩
  rintro first member second single rfl
  obtain rfl := List.mem_singleton.mp single
  obtain ⟨earlier, inside, same⟩ := List.mem_filterMap.mp member
  exact fresh earlier inside same

/-! Subscriptions. -/

/-- The bus holds those who are subscribed by what happened, and its numbers and handles belong to
subscriptions that began. -/
structure Members (host : Host Event) (moments : List (Moment Event)) : Prop where
  ids : ∀ bus, host.bus = some bus → bus.ids = live moments
  below : ∀ bus, host.bus = some bus → ∀ id, .subscribed id ∈ moments → id < bus.nextId
  distinct : (moments.filterMap Moment.subscriber?).Nodup
  handles : ∀ entry ∈ host.handles, .subscribed entry.2 ∈ moments
  known : ∀ before id after, moments = before ++ .unsubscribed id :: after →
    .subscribed id ∈ before

theorem Members.start : Members (Host.start : Host Event) [] where
  ids bus found := by
    obtain rfl := Option.some.inj found
    rfl
  below _ _ id member := absurd member List.not_mem_nil
  distinct := List.nodup_nil
  handles _ member := absurd member List.not_mem_nil
  known before id after split := by simp at split

theorem Members.quiet {host : Host Event} {moments : List (Moment Event)}
    (members : Members host moments) (next : Host Event) (moment : Moment Event)
    (sameBus : next.bus = host.bus) (sameHandles : next.handles = host.handles)
    (silent : ∀ ids, moment.change ids = ids) (nobody : moment.subscriber? = none)
    (other : ∀ id, moment ≠ .unsubscribed id) : Members next (moments ++ [moment]) where
  ids bus found := by
    rw [live_concat, silent]
    exact members.ids bus (sameBus ▸ found)
  below bus found id member := by
    refine members.below bus (sameBus ▸ found) id ?_
    rcases List.mem_append.mp member with old | new
    · exact old
    · obtain rfl := List.mem_singleton.mp new
      simp [Moment.subscriber?] at nobody
  distinct := by simpa [nobody] using members.distinct
  handles entry member := by
    rw [sameHandles] at member
    exact List.mem_append_left _ (members.handles entry member)
  known before id after split := by
    rcases split_concat split with ⟨_, _, last⟩ | ⟨rest, _, earlier⟩
    · exact absurd last (other id)
    · exact members.known before id rest earlier

theorem Members.subscribe {host : Host Event} {moments : List (Moment Event)}
    (members : Members host moments) {bus : Bus (Callback Event)} (found : host.bus = some bus)
    (name : String) (callback : Callback Event) :
    Members
      { host with
        bus := some (bus.subscribe callback).2
        handles := (name, bus.nextId) :: host.handles }
      (moments ++ [.subscribed bus.nextId]) where
  ids later same := by
    obtain rfl := Option.some.inj same
    rw [ids_subscribe, members.ids bus found, live_concat]
    rfl
  below later same id member := by
    obtain rfl := Option.some.inj same
    rcases List.mem_append.mp member with old | new
    · exact Nat.lt_succ_of_lt (members.below bus found id old)
    · obtain rfl := Moment.subscribed.inj (List.mem_singleton.mp new)
      exact Nat.lt_succ_self _
  distinct := by
    refine nodup_concat members.distinct rfl fun moment inside given => ?_
    cases moment with
    | subscribed id =>
        obtain rfl := Option.some.inj given
        exact Nat.lt_irrefl _ (members.below bus found _ inside)
    | _ => contradiction
  handles entry member := by
    rcases List.mem_cons.mp member with rfl | old
    · exact List.mem_append_right _ List.mem_cons_self
    · exact List.mem_append_left _ (members.handles entry old)
  known before id after split := by
    rcases split_concat split with ⟨_, _, last⟩ | ⟨rest, _, earlier⟩
    · contradiction
    · exact members.known before id rest earlier

theorem Members.unsubscribe {host : Host Event} {moments : List (Moment Event)}
    (members : Members host moments) {name : String} {id : Nat}
    (found : host.handle? name = some id) :
    Members { host with bus := host.bus.map (·.unsubscribe id) }
      (moments ++ [.unsubscribed id]) where
  ids later same := by
    obtain ⟨bus, busFound, rfl⟩ := Option.map_eq_some_iff.mp same
    rw [ids_unsubscribe, members.ids bus busFound, live_concat]
    rfl
  below later same other member := by
    obtain ⟨bus, busFound, rfl⟩ := Option.map_eq_some_iff.mp same
    exact members.below bus busFound other (by simpa using member)
  distinct := by
    have nobody : (Moment.unsubscribed id : Moment Event).subscriber? = none := rfl
    simpa [nobody] using members.distinct
  handles entry member := List.mem_append_left _ (members.handles entry member)
  known before other after split := by
    rcases split_concat split with ⟨_, whole, last⟩ | ⟨rest, _, earlier⟩
    · obtain rfl := Moment.unsubscribed.inj last
      obtain ⟨entry, given, rfl⟩ := Option.map_eq_some_iff.mp found
      exact whole ▸ members.handles entry (List.mem_of_find?_eq_some given)
    · exact members.known before other rest earlier

theorem Members.act {host : Host Event} {moments : List (Moment Event)}
    (members : Members host moments) (publish : Event → Host Event → Host Event)
    (step : Step Event) (silent : ∀ event, step ≠ .publish event) :
    Members (host.act publish step).2 (moments ++ Run.noted host step) := by
  cases step with
  | subscribe name actions =>
      cases found : host.bus with
      | none => simpa [Host.act, Run.noted, found] using members
      | some bus =>
          simpa [Host.act, Run.noted, found, Bus.subscribe] using
            members.subscribe found name ⟨name, actions⟩
  | unsubscribe name =>
      cases found : host.handle? name with
      | none => simpa [Host.act, Run.noted, found] using members
      | some id => simpa [Host.act, Run.noted, found] using members.unsubscribe found
  | forget name =>
      simp only [Run.noted, List.append_nil]
      exact { members with
        handles := fun entry member => members.handles entry (List.mem_of_mem_filter member) }
  | publish event => exact absurd rfl (silent event)
  | dropBus =>
      simp only [Run.noted, List.append_nil]
      exact { members with
        ids := fun _ found => by contradiction
        below := fun _ found => by contradiction }
  | count => simpa [Host.act, Run.noted] using members

theorem fresh_of_nodup {moments : List (Moment Event)} {id : Nat}
    (distinct : ((moments ++ [Moment.subscribed id]).filterMap Moment.subscriber?).Nodup) :
    Moment.subscribed id ∉ moments := by
  intro member
  rw [List.filterMap_append] at distinct
  have apart := (List.nodup_append.mp distinct).2.2
  exact apart id (List.mem_filterMap.mpr ⟨_, member, rfl⟩) id List.mem_cons_self rfl

/-- When nobody subscribes twice or unsubscribes before, who is subscribed is who did subscribe and
did not unsubscribe. -/
theorem live_spec (moments : List (Moment Event))
    (distinct : (moments.filterMap Moment.subscriber?).Nodup)
    (known : ∀ before id after, moments = before ++ .unsubscribed id :: after →
      .subscribed id ∈ before) :
    (live moments).Nodup ∧
      ∀ id, id ∈ live moments ↔ .subscribed id ∈ moments ∧ .unsubscribed id ∉ moments := by
  -- Who is subscribed changes by the last moment, and what holds of all moments holds without it.
  induction moments using List.reverseRecOn with
  | nil => simp [live]
  | append_singleton moments moment ih =>
      obtain ⟨nodup, mem⟩ := ih
        (distinct.sublist ((List.sublist_append_left _ _).filterMap _))
        fun before id after split =>
          known before id (after ++ [moment]) (by rw [split, List.append_assoc, List.cons_append])
      rw [live_concat]
      cases moment with
      | subscribed id =>
          have fresh : .subscribed id ∉ moments := fresh_of_nodup distinct
          have unknown : .unsubscribed id ∉ moments := by
            intro member
            obtain ⟨before, after, split⟩ := List.append_of_mem member
            refine fresh ?_
            rw [split]
            refine List.mem_append_left _ (known before id (after ++ [.subscribed id]) ?_)
            rw [split, List.append_assoc, List.cons_append]
          refine ⟨?_, fun other => ?_⟩
          · refine List.nodup_append.mpr ⟨nodup, List.nodup_singleton id, ?_⟩
            rintro first inside last single rfl
            obtain rfl := List.mem_singleton.mp single
            exact fresh ((mem first).mp inside).1
          · by_cases same : other = id
            · simp [Moment.change, same, unknown]
            · simp [Moment.change, same, mem]
      | unsubscribed id =>
          refine ⟨nodup.filter _, fun other => ?_⟩
          by_cases same : other = id
          · simp [Moment.change, same]
          · simp [Moment.change, same, mem]
      | began call event => simpa [Moment.change] using ⟨nodup, mem⟩
      | ended call => simpa [Moment.change] using ⟨nodup, mem⟩

theorem Members.live_spec {host : Host Event} {moments : List (Moment Event)}
    (members : Members host moments) {before after : List (Moment Event)}
    (split : moments = before ++ after) :
    (live before).Nodup ∧
      ∀ id, id ∈ live before ↔ .subscribed id ∈ before ∧ .unsubscribed id ∉ before := by
  refine Bus.live_spec before ?_ ?_
  · refine members.distinct.sublist (.filterMap _ ?_)
    rw [split]
    exact List.sublist_append_left _ _
  · intro first id rest inside
    refine members.known first id (rest ++ after) ?_
    rw [split, inside, List.append_assoc, List.cons_append]

/-! Calls. -/

/-- What a call has still to deliver, given that for the calls that are open. -/
def owed (call : Nat) (pending : List (Nat × List (Nat × Event))) : List (Nat × Event) :=
  (pending.filter fun entry => entry.1 == call).flatMap Prod.snd

/-- Calls are told apart by their numbers, a call is open until it has ended, and what a call
delivered so far and what it has still to deliver make up those who were subscribed when it
began. -/
structure Dispatch (host : Host Event) (pending : List (Nat × List (Nat × Event)))
    (moments : List (Moment Event)) : Prop where
  began : ∀ call event, .began call event ∈ moments → call < host.calls
  distinct : (moments.filterMap Moment.call?).Nodup
  delivered : ∀ delivery ∈ host.delivered, delivery.call < host.calls
  opened : ∀ entry ∈ pending, entry.1 < host.calls
  apart : (pending.map Prod.fst).Nodup
  ended : ∀ call, .ended call ∈ moments →
    call < host.calls ∧ ∀ entry ∈ pending, entry.1 ≠ call
  settled : ∀ call event, .began call event ∈ moments →
    .ended call ∈ moments ∨ ∃ entry ∈ pending, entry.1 = call
  complete : ∀ before call event after, moments = before ++ .began call event :: after →
    host.invoked call ++ owed call pending = (live before).map fun id => (id, event)

theorem Dispatch.start : Dispatch (Host.start : Host Event) [] [] where
  began _ _ member := absurd member List.not_mem_nil
  distinct := List.nodup_nil
  delivered _ member := absurd member List.not_mem_nil
  opened _ member := absurd member List.not_mem_nil
  apart := List.nodup_nil
  ended _ member := absurd member List.not_mem_nil
  settled _ _ member := absurd member List.not_mem_nil
  complete before call event after split := by simp at split

theorem Dispatch.quiet {host : Host Event} {pending : List (Nat × List (Nat × Event))}
    {moments : List (Moment Event)} (dispatch : Dispatch host pending moments)
    (next : Host Event) (moment : Moment Event) (sameCalls : next.calls = host.calls)
    (sameDelivered : next.delivered = host.delivered)
    (noBegin : ∀ call event, moment ≠ .began call event)
    (noEnd : ∀ call, moment ≠ .ended call) :
    Dispatch next pending (moments ++ [moment]) where
  began call event member := by
    rcases List.mem_append.mp member with old | new
    · exact sameCalls ▸ dispatch.began call event old
    · exact absurd (List.mem_singleton.mp new).symm (noBegin call event)
  distinct := by
    have noCall : moment.call? = none := by
      cases moment with
      | began call event => exact absurd rfl (noBegin call event)
      | _ => rfl
    simpa [noCall] using dispatch.distinct
  delivered := sameCalls ▸ sameDelivered ▸ dispatch.delivered
  opened := sameCalls ▸ dispatch.opened
  apart := dispatch.apart
  ended call member := by
    rcases List.mem_append.mp member with old | new
    · exact sameCalls ▸ dispatch.ended call old
    · exact absurd (List.mem_singleton.mp new).symm (noEnd call)
  settled call event member := by
    rcases List.mem_append.mp member with old | new
    · exact (dispatch.settled call event old).imp_left (List.mem_append_left _)
    · exact absurd (List.mem_singleton.mp new).symm (noBegin call event)
  complete before call event after split := by
    rcases split_concat split with ⟨_, _, last⟩ | ⟨rest, _, earlier⟩
    · exact absurd last (noBegin call event)
    · rw [Host.invoked, sameDelivered]
      exact dispatch.complete before call event rest earlier

theorem invoked_eq_nil (host : Host Event) {call : Nat}
    (unused : ∀ delivery ∈ host.delivered, delivery.call ≠ call) : host.invoked call = [] := by
  have noDelivery : host.delivered.filter (fun delivery => delivery.call == call) = [] :=
    List.filter_eq_nil_iff.mpr fun delivery member => by simpa using unused delivery member
  rw [Host.invoked, noDelivery, List.map_nil]

theorem owed_eq_nil {pending : List (Nat × List (Nat × Event))} {call : Nat}
    (closed : ∀ entry ∈ pending, entry.1 ≠ call) : owed call pending = [] := by
  have noEntry : pending.filter (fun entry => entry.1 == call) = [] :=
    List.filter_eq_nil_iff.mpr fun entry member => by simpa using closed entry member
  rw [owed, noEntry, List.flatMap_nil]

theorem owed_cons (call number : Nat) (deliveries : List (Nat × Event))
    (pending : List (Nat × List (Nat × Event))) :
    owed call ((number, deliveries) :: pending) =
      (if number = call then deliveries else []) ++ owed call pending := by
  by_cases same : number = call
  · simp [owed, same]
  · simp [owed, same]

theorem invoked_record (host : Host Event) (delivery : Delivery Event) (call : Nat) :
    (host.record delivery).invoked call =
      host.invoked call ++
        if delivery.call = call then [(delivery.subscriber, delivery.event)] else [] := by
  by_cases same : delivery.call = call
  · simp [Host.invoked, Host.record, same]
  · simp [Host.invoked, Host.record, same]

theorem Dispatch.begin {host : Host Event} {pending : List (Nat × List (Nat × Event))}
    {moments : List (Moment Event)} (dispatch : Dispatch host pending moments) (event : Event) :
    Dispatch { host with calls := host.calls + 1 }
      ((host.calls, (live moments).map fun id => (id, event)) :: pending)
      (moments ++ [.began host.calls event]) where
  began call other member := by
    rcases List.mem_append.mp member with old | new
    · exact Nat.lt_succ_of_lt (dispatch.began call other old)
    · obtain ⟨rfl, _⟩ := Moment.began.inj (List.mem_singleton.mp new)
      exact Nat.lt_succ_self _
  distinct := by
    refine nodup_concat dispatch.distinct rfl fun moment inside given => ?_
    cases moment with
    | began call other =>
        obtain rfl := Option.some.inj given
        exact Nat.lt_irrefl _ (dispatch.began _ other inside)
    | _ => contradiction
  delivered delivery member := Nat.lt_succ_of_lt (dispatch.delivered delivery member)
  opened entry member := by
    rcases List.mem_cons.mp member with rfl | old
    · exact Nat.lt_succ_self _
    · exact Nat.lt_succ_of_lt (dispatch.opened entry old)
  apart := by
    refine List.nodup_cons.mpr ⟨?_, dispatch.apart⟩
    intro member
    obtain ⟨entry, inside, same⟩ := List.mem_map.mp member
    exact Nat.lt_irrefl _ (same ▸ dispatch.opened entry inside)
  ended call member := by
    rcases List.mem_append.mp member with old | new
    · obtain ⟨before, closed⟩ := dispatch.ended call old
      exact ⟨Nat.lt_succ_of_lt before, List.forall_mem_cons.mpr ⟨Nat.ne_of_gt before, closed⟩⟩
    · exact absurd (List.mem_singleton.mp new) (by simp)
  settled call other member := by
    rcases List.mem_append.mp member with old | new
    · exact (dispatch.settled call other old).imp (List.mem_append_left _)
        fun ⟨entry, inside, same⟩ => ⟨entry, List.mem_cons_of_mem _ inside, same⟩
    · obtain ⟨rfl, _⟩ := Moment.began.inj (List.mem_singleton.mp new)
      exact Or.inr ⟨_, List.mem_cons_self, rfl⟩
  complete before call other after split := by
    rw [owed_cons]
    rcases split_concat split with ⟨_, whole, last⟩ | ⟨rest, _, earlier⟩
    · -- The call that begins has delivered nothing, and no call that is open has its number.
      obtain ⟨rfl, rfl⟩ := Moment.began.inj last
      have noDelivery : ∀ delivery ∈ host.delivered, delivery.call ≠ host.calls :=
        fun delivery member => Nat.ne_of_lt (dispatch.delivered delivery member)
      have noEntry : ∀ entry ∈ pending, entry.1 ≠ host.calls :=
        fun entry member => Nat.ne_of_lt (dispatch.opened entry member)
      have nothing := invoked_eq_nil { host with calls := host.calls + 1 } noDelivery
      rw [nothing, owed_eq_nil noEntry, if_pos rfl, List.append_nil, List.nil_append, whole]
    · have older : call < host.calls := by
        refine dispatch.began call other ?_
        rw [earlier]
        exact List.mem_append_right _ List.mem_cons_self
      rw [if_neg (Nat.ne_of_gt older), List.nil_append]
      exact dispatch.complete before call other rest earlier

theorem Dispatch.deliver {host : Host Event} {pending : List (Nat × List (Nat × Event))}
    {moments : List (Moment Event)} {call id : Nat} {event : Event}
    {later : List (Nat × Event)}
    (dispatch : Dispatch host ((call, (id, event) :: later) :: pending) moments) (name : String) :
    Dispatch (host.record ⟨call, id, name, event⟩) ((call, later) :: pending) moments where
  began := dispatch.began
  distinct := dispatch.distinct
  delivered delivery member := by
    rcases List.mem_append.mp member with old | new
    · exact dispatch.delivered delivery old
    · obtain rfl := List.mem_singleton.mp new
      exact dispatch.opened _ List.mem_cons_self
  opened := by simpa [Host.record] using dispatch.opened
  apart := dispatch.apart
  ended := by simpa [Host.record] using dispatch.ended
  settled := by simpa using dispatch.settled
  complete before number other after split := by
    have before := dispatch.complete before number other after split
    rw [owed_cons] at before ⊢
    rw [invoked_record, ← before]
    by_cases same : call = number
    · simp [same]
    · simp [same]

theorem Dispatch.end {host : Host Event} {pending : List (Nat × List (Nat × Event))}
    {moments : List (Moment Event)} {call : Nat}
    (dispatch : Dispatch host ((call, []) :: pending) moments) :
    Dispatch host pending (moments ++ [.ended call]) where
  began number event member := by
    rcases List.mem_append.mp member with old | new
    · exact dispatch.began number event old
    · exact absurd (List.mem_singleton.mp new) (by simp)
  distinct := by
    have noCall : (Moment.ended call : Moment Event).call? = none := rfl
    simpa [noCall] using dispatch.distinct
  delivered := dispatch.delivered
  opened entry member := dispatch.opened entry (List.mem_cons_of_mem _ member)
  apart := (List.nodup_cons.mp dispatch.apart).2
  ended number member := by
    rcases List.mem_append.mp member with old | new
    · obtain ⟨before, closed⟩ := dispatch.ended number old
      exact ⟨before, fun entry inside => closed entry (List.mem_cons_of_mem _ inside)⟩
    · obtain rfl := Moment.ended.inj (List.mem_singleton.mp new)
      refine ⟨dispatch.opened _ List.mem_cons_self, ?_⟩
      rintro entry inside rfl
      exact (List.nodup_cons.mp dispatch.apart).1 (List.mem_map.mpr ⟨entry, inside, rfl⟩)
  settled number event member := by
    rcases List.mem_append.mp member with old | new
    · rcases dispatch.settled number event old with done | ⟨entry, inside, same⟩
      · exact Or.inl (List.mem_append_left _ done)
      · rcases List.mem_cons.mp inside with rfl | waiting
        · exact Or.inl (List.mem_append_right _ (by simpa using same.symm))
        · exact Or.inr ⟨entry, waiting, same⟩
    · exact absurd (List.mem_singleton.mp new) (by simp)
  complete before number event after split := by
    rcases split_concat split with ⟨_, _, last⟩ | ⟨rest, _, earlier⟩
    · contradiction
    · have before := dispatch.complete before number event rest earlier
      rw [owed_cons] at before
      simpa using before

theorem Dispatch.act {host : Host Event} {pending : List (Nat × List (Nat × Event))}
    {moments : List (Moment Event)} (dispatch : Dispatch host pending moments)
    (publish : Event → Host Event → Host Event) (step : Step Event)
    (silent : ∀ event, step ≠ .publish event) :
    Dispatch (host.act publish step).2 pending (moments ++ Run.noted host step) := by
  cases step with
  | subscribe name actions =>
      cases found : host.bus with
      | none => simpa [Host.act, Run.noted, found] using dispatch
      | some bus =>
          simp only [Host.act, Run.noted, found]
          exact dispatch.quiet _ (.subscribed bus.nextId) rfl rfl (by simp) (by simp)
  | unsubscribe name =>
      cases found : host.handle? name with
      | none => simpa [Host.act, Run.noted, found] using dispatch
      | some id =>
          simp only [Host.act, Run.noted, found]
          exact dispatch.quiet _ (.unsubscribed id) rfl rfl (by simp) (by simp)
  | publish event => exact absurd rfl (silent event)
  | forget name => simpa [Run.noted] using { dispatch with }
  | dropBus => simpa [Run.noted] using { dispatch with }
  | count => simpa [Host.act, Run.noted] using dispatch

/-! Runs. -/

namespace Run

variable {equal : Event → Event → Bool} {limit : Option Nat}

def pending (run : Run Event) : List (Nat × List (Nat × Event)) :=
  run.frames.map fun frame =>
    (frame.call, frame.waiting.map fun subscriber => (subscriber.1, frame.event))

structure Sound (run : Run Event) : Prop where
  members : Members run.host run.moments
  dispatch : Dispatch run.host run.pending run.moments

theorem Sound.start (program : List (Step Event)) : (start program).Sound :=
  ⟨.start, .start⟩

theorem Sound.call {run : Run Event} (sound : run.Sound) (event : Event) :
    (run.call limit event).Sound := by
  simp only [Run.call]
  split
  · exact sound
  · rename_i bus found
    split
    · have begun := sound.dispatch.begin event
      rw [← sound.members.ids bus found, ids, List.map_map] at begun
      exact ⟨sound.members.quiet { run.host with calls := run.host.calls + 1 }
        (.began run.host.calls event) rfl rfl (fun _ => rfl) rfl (by simp), begun⟩
    · exact sound

theorem Sound.perform {run : Run Event} (sound : run.Sound) (step : Step Event) :
    (run.perform limit step).Sound := by
  cases step with
  | publish event => exact sound.call event
  | _ => exact ⟨sound.members.act _ _ (by simp), sound.dispatch.act _ _ (by simp)⟩

-- What an open call has to deliver goes down by one when a subscriber is reached. A callback at
-- work does what the program does outside, whatever its own call has still to deliver.
theorem Sound.advance {run : Run Event} (sound : run.Sound) :
    (run.advance equal limit).Sound := by
  obtain ⟨host, frames, program, moments⟩ := run
  obtain ⟨members, dispatch⟩ := sound
  cases frames with
  | nil =>
      cases program with
      | nil => exact ⟨members, dispatch⟩
      | cons step program =>
          have sound : Sound ⟨host, [], program, moments⟩ := ⟨members, dispatch⟩
          exact sound.perform step
  | cons frame outer =>
      obtain ⟨call, event, actions, waiting⟩ := frame
      cases actions with
      | cons action actions =>
          have sound : Sound ⟨host, ⟨call, event, actions, waiting⟩ :: outer, program, moments⟩ :=
            ⟨members, dispatch⟩
          simp only [Run.advance]
          split
          · exact sound.perform action.2
          · exact sound
      | nil =>
          cases waiting with
          | cons subscriber waiting =>
              exact ⟨{ members with }, dispatch.deliver subscriber.2.name⟩
          | nil =>
              exact ⟨members.quiet host (.ended call) rfl rfl (fun _ => rfl) rfl (by simp),
                dispatch.end⟩

theorem sound_after (equal : Event → Event → Bool) (limit : Option Nat)
    (program : List (Step Event)) (count : Nat) : (after equal limit program count).Sound := by
  induction count with
  | zero => exact .start program
  | succ count ih => exact ih.advance

/-- What holds of the deliveries of a program, however far it has come. -/
structure Lawful (run : Run Event) : Prop where
  /-- Calls do not share a number. -/
  calls : (run.moments.filterMap Moment.call?).Nodup
  /-- Subscribers do not share a number. -/
  subscribers : (run.moments.filterMap Moment.subscriber?).Nodup
  /-- Those are subscribed at a moment who did subscribe and did not unsubscribe. -/
  subscribed : ∀ before after, run.moments = before ++ after →
    (live before).Nodup ∧
      ∀ id, id ∈ live before ↔ .subscribed id ∈ before ∧ .unsubscribed id ∉ before
  /-- A call that no frame stands for any more has ended. -/
  closed : ∀ call event, .began call event ∈ run.moments →
    (∀ frame ∈ run.frames, frame.call ≠ call) → .ended call ∈ run.moments
  /-- A call that has ended invoked the callbacks of those who were subscribed when it began, in the
  order of their subscriptions. -/
  reached : ∀ before call event after, run.moments = before ++ .began call event :: after →
    .ended call ∈ run.moments →
    run.host.invoked call = (live before).map fun id => (id, event)
  /-- Who subscribes after a call began gets nothing from it. -/
  added : ∀ before call event during id after,
    run.moments = before ++ .began call event :: during ++ .subscribed id :: after →
    id ∉ (run.host.invoked call).map Prod.fst
  /-- Who unsubscribes after a call began still gets its event. -/
  removed : ∀ before call event during id after,
    run.moments = before ++ .began call event :: during ++ .unsubscribed id :: after →
    id ∈ live before → .ended call ∈ run.moments → (id, event) ∈ run.host.invoked call
  /-- Who unsubscribed before a call began gets nothing from it. -/
  gone : ∀ before id between call event after,
    run.moments = before ++ .unsubscribed id :: between ++ .began call event :: after →
    id ∉ (run.host.invoked call).map Prod.fst

theorem Sound.mem_live {run : Run Event} (sound : run.Sound)
    {before after : List (Moment Event)} {call id : Nat} {event : Event}
    (split : run.moments = before ++ .began call event :: after)
    (member : id ∈ (run.host.invoked call).map Prod.fst) : id ∈ live before := by
  have whole := congrArg (List.map Prod.fst)
    (sound.dispatch.complete before call event after split)
  rw [List.map_append, List.map_map] at whole
  have names : (live before).map (Prod.fst ∘ fun id => (id, event)) = live before := List.map_id _
  rw [← names, ← whole]
  exact List.mem_append_left _ member

theorem Sound.invoked_eq {run : Run Event} (sound : run.Sound)
    {before after : List (Moment Event)} {call : Nat} {event : Event}
    (split : run.moments = before ++ .began call event :: after)
    (ended : .ended call ∈ run.moments) :
    run.host.invoked call = (live before).map fun id => (id, event) := by
  have whole := sound.dispatch.complete before call event after split
  rwa [owed_eq_nil (sound.dispatch.ended call ended).2, List.append_nil] at whole

theorem Sound.lawful {run : Run Event} (sound : run.Sound) : run.Lawful where
  calls := sound.dispatch.distinct
  subscribers := sound.members.distinct
  subscribed _ _ split := sound.members.live_spec split
  closed call event member noFrame := by
    refine (sound.dispatch.settled call event member).resolve_right ?_
    rintro ⟨entry, inside, same⟩
    obtain ⟨frame, begun, rfl⟩ := List.mem_map.mp inside
    exact noFrame frame begun same
  reached _ _ _ _ split ended := sound.invoked_eq split ended
  added before call event during id after split member := by
    rw [List.append_assoc, List.cons_append] at split
    have early := ((sound.members.live_spec split).2 id).mp (sound.mem_live split member)
    have twice : (before ++ .began call event :: during ++ [.subscribed id]) ++ after =
        run.moments := by simp [split]
    have distinct := sound.members.distinct
    rw [← twice, List.filterMap_append] at distinct
    exact fresh_of_nodup (List.nodup_append.mp distinct).1 (List.mem_append_left _ early.1)
  removed before call event during id after split inside ended := by
    rw [List.append_assoc, List.cons_append] at split
    rw [sound.invoked_eq split ended]
    exact List.mem_map_of_mem inside
  gone before id between call event after split member := by
    have late := ((sound.members.live_spec split).2 id).mp (sound.mem_live split member)
    exact late.2 (List.mem_append_right _ List.mem_cons_self)

/-- Every publish call of every program reaches those who are subscribed when it begins, each once,
in order and with its event, whatever callbacks do meanwhile: at each moment of a run, be nested
calls limited or not. Running a program in one go, with calls limited to any depth, is the end of
such a run, the limit of `Host.step` included; and if all calls of a program end without a limit, it
comes to that end. -/
theorem publish_reaches_live (equal : Event → Event → Bool) (program : List (Step Event)) :
    (∀ limit count, (after equal limit program count).Lawful) ∧
      (∀ depth, ∃ count, (after equal (some depth) program count).Finished ∧
        atOnce equal depth program Host.start = (after equal (some depth) program count).host) ∧
      program.foldl (fun host step => (host.step equal step).2) Host.start =
        atOnce equal Host.depthLimit program Host.start ∧
      ∀ count, (after equal none program count).Finished →
        ∀ depth, count ≤ depth →
          atOnce equal depth program Host.start = (after equal none program count).host := by
  refine ⟨fun limit count => (sound_after equal limit program count).lawful, fun depth => ?_, rfl,
    fun count finished depth deep => atOnce_eq_of_finished equal program count depth finished deep⟩
  obtain ⟨count, finished, host⟩ := after_eq_atOnce equal depth program
  exact ⟨count, finished, host.symm⟩

end Run

end LifecycleHooks.Bus
