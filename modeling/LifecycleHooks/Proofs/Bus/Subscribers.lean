import Mathlib.Data.List.Dedup
import LifecycleHooks.Proofs.Bus.Run

/-!
Who is in the list of a bus, told by what was done to it. A roll calls subscribers by the places in
which they came and knows of no counter; the numbers of the bus are these places, so what a handle
removes is the subscriber that it was given for.
-/

namespace LifecycleHooks.Bus

variable {Event : Type}

/-- Everybody who has subscribed, in order; the handles, each for the place of one of them; the
places of those who were unsubscribed, as often as that was done; and whether the bus is dropped. -/
structure Roll (Event : Type) where
  made : List (Callback Event)
  handles : List (String × Nat)
  left : List Nat
  dropped : Bool

namespace Roll

def empty : Roll Event := ⟨[], [], [], false⟩

def handle? (roll : Roll Event) (name : String) : Option Nat :=
  (roll.handles.find? fun entry => entry.1 == name).map Prod.snd

def note (roll : Roll Event) : Step Event → Roll Event
  | .subscribe name actions =>
      if roll.dropped then roll
      else
        { roll with
          made := roll.made ++ [⟨name, actions⟩]
          handles := (name, roll.made.length) :: roll.handles }
  | .unsubscribe name => { roll with left := roll.left ++ (roll.handle? name).toList }
  | .forget name => { roll with handles := roll.handles.filter fun entry => entry.1 != name }
  | .publish _ => roll
  | .dropBus => { roll with dropped := true }
  | .count => roll

def ofSteps (steps : List (Step Event)) : Roll Event := steps.foldl note empty

/-- Those who have subscribed and were not unsubscribed, in order, with their places. -/
def present (roll : Roll Event) : List (Nat × Callback Event) :=
  (roll.made.zipIdx.filter fun entry => entry.2 ∉ roll.left).map Prod.swap

structure Sound (roll : Roll Event) : Prop where
  issued : ∀ entry ∈ roll.handles, ∃ actions, roll.made[entry.2]? = some ⟨entry.1, actions⟩
  known : ∀ place ∈ roll.left, place < roll.made.length

theorem Sound.handle? {roll : Roll Event} (sound : roll.Sound) {name : String} {place : Nat}
    (found : roll.handle? name = some place) :
    ∃ actions, roll.made[place]? = some ⟨name, actions⟩ := by
  obtain ⟨entry, first, rfl⟩ := Option.map_eq_some_iff.mp found
  have named : entry.1 = name := by simpa using List.find?_some first
  exact named ▸ sound.issued entry (List.mem_of_find?_eq_some first)

theorem Sound.note {roll : Roll Event} (sound : roll.Sound) (step : Step Event) :
    (roll.note step).Sound := by
  cases step with
  | subscribe name actions =>
      rw [Roll.note]
      split
      · exact sound
      · refine ⟨?_, fun place gone => ?_⟩
        · intro entry member
          rcases List.mem_cons.mp member with rfl | old
          · exact ⟨actions, by simp⟩
          · obtain ⟨others, found⟩ := sound.issued entry old
            obtain ⟨bound, -⟩ := List.getElem?_eq_some_iff.mp found
            exact ⟨others, by rw [List.getElem?_append_left bound, found]⟩
        · rw [List.length_append]
          exact Nat.lt_add_right _ (sound.known place gone)
  | unsubscribe name =>
      refine ⟨sound.issued, fun place gone => ?_⟩
      rcases List.mem_append.mp gone with old | new
      · exact sound.known place old
      · obtain ⟨actions, found⟩ := sound.handle? (Option.mem_toList.mp new)
        exact (List.getElem?_eq_some_iff.mp found).1
  | forget name =>
      exact ⟨fun entry member => sound.issued entry (List.mem_of_mem_filter member), sound.known⟩
  | publish event => exact sound
  | dropBus => exact ⟨sound.issued, sound.known⟩
  | count => exact sound

theorem Sound.foldl {roll : Roll Event} (sound : roll.Sound) (steps : List (Step Event)) :
    (steps.foldl Roll.note roll).Sound := by
  induction steps generalizing roll with
  | nil => exact sound
  | cons step rest ih => exact ih (sound.note step)

theorem sound_ofSteps (steps : List (Step Event)) : (ofSteps steps).Sound :=
  Sound.foldl ⟨by simp [empty], by simp [empty]⟩ steps

theorem mem_present_iff (roll : Roll Event) (place : Nat) (callback : Callback Event) :
    (place, callback) ∈ roll.present ↔ roll.made[place]? = some callback ∧ place ∉ roll.left := by
  simp [present, List.mk_mem_zipIdx_iff_getElem?, and_comm]

theorem places_present (roll : Roll Event) :
    roll.present.map Prod.fst = (List.range roll.made.length).filter (· ∉ roll.left) := by
  rw [present, List.map_map, List.range_eq_range', ← List.zipIdx_map_snd 0 roll.made,
    List.filter_map]
  rfl

theorem present_made {roll : Roll Event} (sound : roll.Sound) (callback : Callback Event)
    (handles : List (String × Nat)) (dropped : Bool) :
    present ⟨roll.made ++ [callback], handles, roll.left, dropped⟩ =
      roll.present ++ [(roll.made.length, callback)] := by
  have fresh : roll.made.length ∉ roll.left :=
    fun gone => Nat.lt_irrefl _ (sound.known _ gone)
  simp [present, List.zipIdx_append, fresh]

theorem present_left (roll : Roll Event) (place : Nat) :
    present { roll with left := roll.left ++ [place] } =
      roll.present.filter fun entry => entry.1 != place := by
  simp only [present, List.filter_map, List.filter_filter]
  refine congrArg (List.map Prod.swap) (List.filter_congr fun entry _ => ?_)
  by_cases same : entry.2 = place
  · simp [same]
  · simp [same]

theorem length_present_add {roll : Roll Event} (sound : roll.Sound) :
    roll.present.length + roll.left.dedup.length = roll.made.length := by
  have gone : ((List.range roll.made.length).filter (· ∈ roll.left)).Perm roll.left.dedup := by
    rw [List.perm_ext_iff_of_nodup (List.nodup_range.filter _) roll.left.nodup_dedup]
    intro place
    rw [List.mem_filter, List.mem_dedup, List.mem_range, decide_eq_true_eq]
    exact ⟨fun ⟨_, member⟩ => member, fun member => ⟨sound.known place member, member⟩⟩
  have here : roll.present.length =
      ((List.range roll.made.length).filter fun place => !decide (place ∈ roll.left)).length := by
    have places := congrArg List.length (places_present roll)
    rw [List.length_map] at places
    simpa using places
  have parts := List.length_eq_length_filter_add (l := List.range roll.made.length)
    (· ∈ roll.left)
  rw [List.length_range, gone.length_eq, ← here] at parts
  rw [parts, Nat.add_comm]

end Roll

/-! What the list of a bus comes to. -/

/-- The numbers of subscribers do as words of 64 bits what they do as numbers. -/
structure FitsWords (bus : Bus (Callback Event)) : Prop where
  counter : bus.nextId.toUInt64.toNat = bus.nextId
  ascending : (bus.ids.map Nat.toUInt64).Pairwise (· < ·)
  below : ∀ id ∈ bus.ids, id.toUInt64 < bus.nextId.toUInt64
  removal : ∀ id < bus.nextId, (bus.unsubscribe id).subscribers =
    bus.subscribers.filter fun subscriber => subscriber.1.toUInt64 != id.toUInt64

/-- A bus holds what a roll says. -/
structure Tallied (bus : Bus (Callback Event)) (roll : Roll Event) : Prop where
  ascending : bus.ids.Pairwise (· < ·)
  below : ∀ id ∈ bus.ids, id < bus.nextId
  counter : bus.nextId = roll.made.length
  listed : bus.subscribers = roll.present
  count : bus.count + roll.left.dedup.length = roll.made.length
  /-- Before 2^64 have subscribed the counter does not run over. -/
  words : roll.made.length < UInt64.size → bus.FitsWords

theorem fitsWords_of_lt {bus : Bus (Callback Event)} (ascending : bus.ids.Pairwise (· < ·))
    (below : ∀ id ∈ bus.ids, id < bus.nextId) (few : bus.nextId < UInt64.size) : bus.FitsWords := by
  have whole : ∀ id ≤ bus.nextId, id.toUInt64.toNat = id :=
    fun id le => UInt64.toNat_ofNat_of_lt' (Nat.lt_of_le_of_lt le few)
  have order : ∀ first ≤ bus.nextId, ∀ second ≤ bus.nextId,
      (first.toUInt64 < second.toUInt64 ↔ first < second) := by
    intro first firstLe second secondLe
    rw [UInt64.lt_iff_toNat_lt, whole first firstLe, whole second secondLe]
  have bound : ∀ id ∈ bus.ids, id ≤ bus.nextId := fun id member => Nat.le_of_lt (below id member)
  refine ⟨whole _ (Nat.le_refl _), ?_, ?_, ?_⟩
  · rw [List.pairwise_map]
    exact ascending.imp_of_mem fun first second => (order _ (bound _ first) _ (bound _ second)).mpr
  · exact fun id member => (order id (bound id member) _ (Nat.le_refl _)).mpr (below id member)
  · intro id lt
    refine List.filter_congr fun subscriber member => ?_
    have le : subscriber.1 ≤ bus.nextId := bound _ (List.mem_map_of_mem member)
    rw [bne, bne, Bool.eq_iff_iff]
    simp only [Bool.not_eq_true', beq_eq_false_iff_ne, ne_eq, ← UInt64.toNat_inj, whole _ le,
      whole id (Nat.le_of_lt lt)]

theorem Tallied.of_listed {bus : Bus (Callback Event)} {roll : Roll Event} (sound : roll.Sound)
    (counter : bus.nextId = roll.made.length) (listed : bus.subscribers = roll.present) :
    Tallied bus roll := by
  have ids : bus.ids = (List.range roll.made.length).filter (· ∉ roll.left) := by
    rw [Bus.ids, listed, roll.places_present]
  have ascending : bus.ids.Pairwise (· < ·) := ids ▸ List.pairwise_lt_range.filter _
  have below : ∀ id ∈ bus.ids, id < bus.nextId := by
    intro id member
    rw [ids] at member
    rw [counter]
    exact List.mem_range.mp (List.mem_of_mem_filter member)
  refine ⟨ascending, below, counter, listed, ?_, ?_⟩
  · rw [Bus.count, listed]
    exact Roll.length_present_add sound
  · intro few
    exact fitsWords_of_lt ascending below (counter ▸ few)

/-! Steps. -/

structure Enrolled (host : Host Event) (roll : Roll Event) : Prop where
  handles : host.handles = roll.handles
  dropped : host.bus.isNone = roll.dropped
  counter : ∀ bus, host.bus = some bus → bus.nextId = roll.made.length
  listed : ∀ bus, host.bus = some bus → bus.subscribers = roll.present

theorem Enrolled.start : Enrolled (Host.start : Host Event) Roll.empty where
  handles := rfl
  dropped := rfl
  counter bus found := by
    obtain rfl := Option.some.inj found
    rfl
  listed bus found := by
    obtain rfl := Option.some.inj found
    rfl

theorem Enrolled.handle? {host : Host Event} {roll : Roll Event} (enrolled : Enrolled host roll)
    (name : String) : host.handle? name = roll.handle? name := by
  rw [Host.handle?, Roll.handle?, enrolled.handles]

theorem Enrolled.subscribe {host : Host Event} {roll : Roll Event} (enrolled : Enrolled host roll)
    (sound : roll.Sound) (publish : Event → Host Event → Host Event) (name : String)
    (actions : List (Action Event)) :
    Enrolled (host.act publish (.subscribe name actions)).2
      (roll.note (.subscribe name actions)) := by
  cases found : host.bus with
  | none =>
      have dropped : roll.dropped = true := by rw [← enrolled.dropped, found, Option.isNone_none]
      simpa [Host.act, found, Roll.note, dropped] using enrolled
  | some bus =>
      have notDropped : roll.dropped = false := by rw [← enrolled.dropped, found, Option.isNone_some]
      have counter := enrolled.counter bus found
      have listed := enrolled.listed bus found
      simp only [Host.act, found, Roll.note, notDropped, Bool.false_eq_true, ↓reduceIte]
      refine ⟨?_, rfl, ?_, ?_⟩
      · simp [Bus.subscribe, counter, enrolled.handles]
      · intro later same
        obtain rfl := Option.some.inj same
        simp [Bus.subscribe, counter]
      · intro later same
        obtain rfl := Option.some.inj same
        rw [Roll.present_made sound, ← listed, ← counter]
        rfl

theorem Enrolled.unsubscribe {host : Host Event} {roll : Roll Event}
    (enrolled : Enrolled host roll) (publish : Event → Host Event → Host Event) (name : String) :
    Enrolled (host.act publish (.unsubscribe name)).2 (roll.note (.unsubscribe name)) := by
  rw [Host.act, Roll.note, enrolled.handle? name]
  cases roll.handle? name with
  | none => simpa using enrolled
  | some id =>
      refine ⟨enrolled.handles, ?_, ?_, ?_⟩
      · rw [Option.isNone_map]
        exact enrolled.dropped
      · intro later same
        obtain ⟨bus, found, rfl⟩ := Option.map_eq_some_iff.mp same
        exact enrolled.counter bus found
      · intro later same
        obtain ⟨bus, found, rfl⟩ := Option.map_eq_some_iff.mp same
        rw [Option.toList_some, Roll.present_left, ← enrolled.listed bus found]
        rfl

theorem Enrolled.act {host : Host Event} {roll : Roll Event} (enrolled : Enrolled host roll)
    (sound : roll.Sound) (publish : Event → Host Event → Host Event) (step : Step Event)
    (silent : ∀ event, step ≠ .publish event) :
    Enrolled (host.act publish step).2 (roll.note step) := by
  cases step with
  | subscribe name actions => exact enrolled.subscribe sound publish name actions
  | unsubscribe name => exact enrolled.unsubscribe publish name
  | forget name =>
      exact { enrolled with handles := by rw [Host.act, Roll.note, enrolled.handles] }
  | publish event => exact absurd rfl (silent event)
  | dropBus =>
      exact { enrolled with
        dropped := rfl
        counter := fun _ found => by contradiction
        listed := fun _ found => by contradiction }
  | count => exact enrolled

/-- What becomes of a host when someone is unsubscribed by the handle of a name: the handle's own
subscriber is taken out of the list; if that was done before, or the bus is dropped, nothing is. -/
structure Removal (before after : Host Event) (roll : Roll Event) (name : String) (id : Nat) :
    Prop where
  once : id ∉ roll.left → ∀ bus, before.bus = some bus → ∃ front actions back,
    roll.made[id]? = some ⟨name, actions⟩ ∧
      bus.subscribers = front ++ (id, ⟨name, actions⟩) :: back ∧
      after = { before with bus := some { bus with subscribers := front ++ back } }
  again : id ∈ roll.left → after = before
  dropped : before.bus = none → after = before

theorem filter_ne_eq {subscribers front back : List (Nat × Callback Event)} {id : Nat}
    {callback : Callback Event} (split : subscribers = front ++ (id, callback) :: back)
    (ascending : (subscribers.map Prod.fst).Pairwise (· < ·)) :
    subscribers.filter (fun subscriber => subscriber.1 != id) = front ++ back := by
  rw [List.pairwise_map, split, List.pairwise_append, List.pairwise_cons] at ascending
  obtain ⟨-, ⟨behind, -⟩, inFront⟩ := ascending
  rw [split, List.filter_append, List.filter_cons_of_neg (by simp), List.filter_eq_self.mpr,
    List.filter_eq_self.mpr]
  · intro subscriber member
    simpa using Nat.ne_of_gt (behind subscriber member)
  · intro subscriber member
    simpa using Nat.ne_of_lt (inFront subscriber member _ List.mem_cons_self)

theorem Enrolled.removal {host : Host Event} {roll : Roll Event} (enrolled : Enrolled host roll)
    (sound : roll.Sound) (publish : Event → Host Event → Host Event) {name : String} {id : Nat}
    (found : roll.handle? name = some id) :
    Removal host (host.act publish (.unsubscribe name)).2 roll name id := by
  have acted : (host.act publish (.unsubscribe name)).2 =
      { host with bus := host.bus.map (·.unsubscribe id) } := by
    rw [Host.act, enrolled.handle? name, found]
  refine ⟨?_, ?_, ?_⟩
  · intro here bus alive
    obtain ⟨actions, made⟩ := sound.handle? found
    have present := (roll.mem_present_iff id ⟨name, actions⟩).mpr ⟨made, here⟩
    rw [← enrolled.listed bus alive] at present
    obtain ⟨front, back, split⟩ := List.append_of_mem present
    have tallied := Tallied.of_listed sound (enrolled.counter bus alive) (enrolled.listed bus alive)
    refine ⟨front, actions, back, made, split, ?_⟩
    rw [acted, alive, Option.map_some, Bus.unsubscribe, filter_ne_eq split tallied.ascending]
  · intro gone
    cases alive : host.bus with
    | none =>
        rw [acted, alive, Option.map_none, ← alive]
    | some bus =>
        have absent : bus.unsubscribe id = bus := by
          refine congrArg (Bus.mk bus.nextId) (List.filter_eq_self.mpr ?_)
          rintro ⟨place, callback⟩ member
          rw [enrolled.listed bus alive, roll.mem_present_iff] at member
          have other : place ≠ id := fun same => member.2 (same ▸ gone)
          simpa using other
        rw [acted, alive, Option.map_some, absent, ← alive]
  · intro dropped
    rw [acted, dropped, Option.map_none, ← dropped]

/-! Runs. -/

namespace Run

variable {equal : Event → Event → Bool} {limit : Option Nat}

def step? (equal : Event → Event → Bool) (run : Run Event) : Option (Step Event) :=
  match run.frames with
  | [] => run.program.head?
  | frame :: _ =>
      match frame.actions with
      | [] => none
      | action :: _ => if action.1.all (equal frame.event) then some action.2 else none

/-- The steps that were taken so far, outside of callbacks and in them. -/
def performed (equal : Event → Event → Bool) (limit : Option Nat) (program : List (Step Event)) :
    Nat → List (Step Event)
  | 0 => []
  | count + 1 =>
      performed equal limit program count ++
        ((after equal limit program count).step? equal).toList

def roll (equal : Event → Event → Bool) (limit : Option Nat) (program : List (Step Event))
    (count : Nat) : Roll Event :=
  Roll.ofSteps (performed equal limit program count)

theorem host_perform {step : Step Event} (run : Run Event)
    (silent : ∀ event, step ≠ .publish event) :
    (run.perform limit step).host = (run.host.act (fun _ host => host) step).2 := by
  cases step with
  | publish event => exact absurd rfl (silent event)
  | _ => rfl

theorem enrolled_perform {run : Run Event} {roll : Roll Event} (enrolled : Enrolled run.host roll)
    (sound : roll.Sound) (step : Step Event) :
    Enrolled (run.perform limit step).host (roll.note step) := by
  cases step with
  | publish event =>
      simp only [Run.perform, Run.call]
      split
      · exact enrolled
      · split
        · exact { enrolled with }
        · exact enrolled
  | _ => exact enrolled.act sound _ _ (by simp)

/-- A moment takes the step that is next, or leaves the bus and the handles as they are. -/
theorem enrolled_advance {run : Run Event} {roll : Roll Event} (enrolled : Enrolled run.host roll)
    (sound : roll.Sound) :
    Enrolled (run.advance equal limit).host ((run.step? equal).toList.foldl Roll.note roll) := by
  obtain ⟨host, frames, program, moments⟩ := run
  cases frames with
  | nil =>
      cases program with
      | nil => exact enrolled
      | cons step program =>
          have enrolled : Enrolled (Run.mk host [] program moments).host roll := enrolled
          exact enrolled_perform enrolled sound step
  | cons frame outer =>
      obtain ⟨call, event, actions, waiting⟩ := frame
      cases actions with
      | cons action actions =>
          simp only [Run.advance, Run.step?]
          split
          · have enrolled : Enrolled (Run.mk host (⟨call, event, actions, waiting⟩ :: outer) program
                moments).host roll := enrolled
            exact enrolled_perform enrolled sound action.2
          · exact enrolled
      | nil =>
          cases waiting with
          | cons subscriber waiting => exact { enrolled with }
          | nil => exact enrolled

theorem host_advance {run : Run Event} {step : Step Event} (next : run.step? equal = some step)
    (silent : ∀ event, step ≠ .publish event) :
    (run.advance equal limit).host = (run.host.act (fun _ host => host) step).2 := by
  obtain ⟨host, frames, program, moments⟩ := run
  cases frames with
  | nil =>
      cases program with
      | nil => contradiction
      | cons first program =>
          obtain rfl := Option.some.inj next
          exact host_perform _ silent
  | cons frame outer =>
      obtain ⟨call, event, actions, waiting⟩ := frame
      cases actions with
      | cons action actions =>
          simp only [Run.step?, Option.ite_none_right_eq_some, Option.some.injEq] at next
          obtain ⟨meant, rfl⟩ := next
          simp only [Run.advance, meant, ↓reduceIte]
          exact host_perform _ silent
      | nil => contradiction

theorem sound_roll (equal : Event → Event → Bool) (limit : Option Nat)
    (program : List (Step Event)) (count : Nat) : (roll equal limit program count).Sound :=
  Roll.sound_ofSteps _

theorem enrolled_after (equal : Event → Event → Bool) (limit : Option Nat)
    (program : List (Step Event)) (count : Nat) :
    Enrolled (after equal limit program count).host (roll equal limit program count) := by
  induction count with
  | zero => exact .start
  | succ count ih =>
      rw [roll, performed, Roll.ofSteps, List.foldl_append]
      exact enrolled_advance ih (sound_roll equal limit program count)

/-- The list of a bus is told by what was done: at each moment of every run, in callbacks or outside
of them, it holds those who have subscribed and were not unsubscribed, numbered in order; to
unsubscribe takes out the handle's own subscriber, once. Running a program in one go comes to the
end of such a run. -/
theorem subscribers_tallied (equal : Event → Event → Bool) (program : List (Step Event)) :
    (∀ limit count bus, (after equal limit program count).host.bus = some bus →
      Tallied bus (roll equal limit program count)) ∧
    (∀ limit count name id,
      (after equal limit program count).step? equal = some (.unsubscribe name) →
      (roll equal limit program count).handle? name = some id →
      Removal (after equal limit program count).host (after equal limit program (count + 1)).host
        (roll equal limit program count) name id) ∧
    ∃ count, (after equal (some Host.depthLimit) program count).Finished ∧
      program.foldl (fun host step => (host.step equal step).2) Host.start =
        (after equal (some Host.depthLimit) program count).host := by
  refine ⟨?_, ?_, ?_⟩
  · intro limit count bus alive
    have enrolled := enrolled_after equal limit program count
    exact .of_listed (sound_roll equal limit program count) (enrolled.counter bus alive)
      (enrolled.listed bus alive)
  · intro limit count name id next found
    rw [after, host_advance next (by simp)]
    exact (enrolled_after equal limit program count).removal
      (sound_roll equal limit program count) _ found
  · obtain ⟨count, finished, host⟩ := after_eq_atOnce equal Host.depthLimit program
    exact ⟨count, finished, host.symm⟩

theorem subscribers_tallied_meddling :
    let program : List (Step Nat) :=
      [.subscribe "once" [(none, .unsubscribe "once"), (none, .subscribe "late" [])],
        .publish 5, .unsubscribe "once"]
    let equal : Nat → Nat → Bool := fun first second => first == second
    let run := after equal none program
    let roll := roll equal none program
    (∃ bus, (run 7).host.bus = some bus ∧ bus.ids = [1] ∧ (roll 7).left = [0, 0] ∧
      Tallied bus (roll 7) ∧ bus.FitsWords) ∧
    ∀ count ∈ [3, 6], (run count).step? equal = some (.unsubscribe "once") ∧
      (roll count).handle? "once" = some 0 ∧
      Removal (run count).host (run (count + 1)).host (roll count) "once" 0 := by
  intro program equal run roll
  obtain ⟨tallied, removal, -⟩ := subscribers_tallied equal program
  have alive : (run 7).host.bus = some ⟨2, [(1, ⟨"late", []⟩)]⟩ := by rfl
  have left : (roll 7).left = [0, 0] := by rfl
  have first : (run 3).step? equal = some (.unsubscribe "once") := by rfl
  have second : (run 6).step? equal = some (.unsubscribe "once") := by rfl
  have firstHandle : (roll 3).handle? "once" = some 0 := by rfl
  have secondHandle : (roll 6).handle? "once" = some 0 := by rfl
  have few : (roll 7).made.length < UInt64.size := by
    have two : (roll 7).made.length = 2 := by rfl
    rw [two]
    decide
  have whole : Tallied _ (roll 7) := tallied none 7 _ alive
  refine ⟨⟨_, alive, rfl, left, whole, whole.words few⟩, ?_⟩
  simp only [List.forall_mem_cons, List.not_mem_nil, false_implies, implies_true, and_true]
  exact ⟨⟨first, firstHandle, removal none 3 _ _ first firstHandle⟩,
    ⟨second, secondHandle, removal none 6 _ _ second secondHandle⟩⟩

end Run

end LifecycleHooks.Bus
