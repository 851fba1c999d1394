import Mathlib.Logic.Function.Iterate
import LifecycleHooks.Bus.Program

/-!
Programs over a bus, moment by moment. Every publish call that is open keeps the subscribers it has
still to reach and what the callback at work has still to do, so a program is always somewhere, even
one whose calls never end. Running a program in one go comes to the end of this run.
-/

namespace LifecycleHooks.Bus

variable {Event : Type}

inductive Moment (Event : Type)
  | subscribed (id : Nat)
  | unsubscribed (id : Nat)
  | began (call : Nat) (event : Event)
  | ended (call : Nat)

structure Frame (Event : Type) where
  call : Nat
  event : Event
  actions : List (Action Event)
  waiting : List (Nat × Callback Event)

/-- A program that is being run, with the calls that are open, innermost first, the steps that are
not begun yet, and what happened so far. -/
structure Run (Event : Type) where
  host : Host Event
  frames : List (Frame Event)
  program : List (Step Event)
  moments : List (Moment Event)

namespace Run

def start (program : List (Step Event)) : Run Event := ⟨Host.start, [], program, []⟩

/-- Begins a call that is to reach those who are subscribed now, unless there is a limit to how deep
calls may nest. -/
def call (limit : Option Nat) (event : Event) (run : Run Event) : Run Event :=
  match run.host.bus with
  | none => run
  | some bus =>
      if limit.all (run.frames.length < ·) then
        { run with
          host := { run.host with calls := run.host.calls + 1 }
          frames := ⟨run.host.calls, event, [], bus.subscribers⟩ :: run.frames
          moments := run.moments ++ [.began run.host.calls event] }
      else run

def noted (host : Host Event) : Step Event → List (Moment Event)
  | .subscribe _ _ => host.bus.toList.map fun bus => .subscribed bus.nextId
  | .unsubscribe name => (host.handle? name).toList.map .unsubscribed
  | _ => []

def perform (limit : Option Nat) (run : Run Event) : Step Event → Run Event
  | .publish event => run.call limit event
  | step =>
      { run with
        host := (run.host.act (fun _ host => host) step).2
        moments := run.moments ++ noted run.host step }

/-- One thing more is done: an action of the callback at work; if it has none left, the next
subscriber is reached; if there is none, the call ends. Outside of all calls it is the next step of
the program. -/
def advance (equal : Event → Event → Bool) (limit : Option Nat) (run : Run Event) : Run Event :=
  match run.frames with
  | [] =>
      match run.program with
      | [] => run
      | step :: program => { run with program := program }.perform limit step
  | frame :: outer =>
      match frame.actions with
      | action :: actions =>
          let run := { run with frames := { frame with actions := actions } :: outer }
          if action.1.all (equal frame.event) then run.perform limit action.2 else run
      | [] =>
          match frame.waiting with
          | subscriber :: waiting =>
              { run with
                host := run.host.record
                  ⟨frame.call, subscriber.1, subscriber.2.name, frame.event⟩
                frames :=
                  { frame with actions := subscriber.2.actions, waiting := waiting } :: outer }
          | [] => { run with frames := outer, moments := run.moments ++ [.ended frame.call] }

def after (equal : Event → Event → Bool) (limit : Option Nat) (program : List (Step Event)) :
    Nat → Run Event
  | 0 => start program
  | count + 1 => (after equal limit program count).advance equal limit

def Finished (run : Run Event) : Prop := run.frames = [] ∧ run.program = []

/-! Running in one go. -/

variable {equal : Event → Event → Bool} {limit : Option Nat}

def Leads (equal : Event → Event → Bool) (limit : Option Nat) (first last : Run Event) : Prop :=
  ∃ count, (advance equal limit)^[count] first = last

theorem Leads.refl (run : Run Event) : Leads equal limit run run := ⟨0, rfl⟩

theorem Leads.trans {first second third : Run Event} (leads : Leads equal limit first second)
    (further : Leads equal limit second third) : Leads equal limit first third := by
  obtain ⟨count, rfl⟩ := leads
  obtain ⟨more, rfl⟩ := further
  exact ⟨more + count, Function.iterate_add_apply _ _ _ _⟩

theorem Leads.of_advance {first last : Run Event}
    (leads : Leads equal limit (first.advance equal limit) last) :
    Leads equal limit first last := by
  obtain ⟨count, rfl⟩ := leads
  exact ⟨count + 1, Function.iterate_succ_apply _ _ _⟩

theorem after_of_leads {program : List (Step Event)} {run : Run Event}
    (leads : Leads equal limit (start program) run) :
    ∃ count, after equal limit program count = run := by
  obtain ⟨count, rfl⟩ := leads
  refine ⟨count, ?_⟩
  induction count with
  | zero => rfl
  | succ count ih => rw [after, ih, Function.iterate_succ_apply']

/-- Calls that may nest others to a depth come to the end that publishing comes to in one go. -/
def CallsEnd (equal : Event → Event → Bool) (limit : Option Nat) (depth : Nat) : Prop :=
  ∀ (event : Event) (host : Host Event) (frames : List (Frame Event))
    (program : List (Step Event)) (moments : List (Moment Event)),
    limit = some (frames.length + depth) →
    ∃ later, Leads equal limit (call limit event ⟨host, frames, program, moments⟩)
      ⟨Host.publish equal depth event host, frames, program, later⟩

theorem leads_actions (depth : Nat) (calls : CallsEnd equal limit depth) (frame : Frame Event)
    (actions : List (Action Event)) (host : Host Event) (outer : List (Frame Event))
    (program : List (Step Event)) (moments : List (Moment Event))
    (deep : limit = some (outer.length + 1 + depth)) :
    ∃ later, Leads equal limit
      ⟨host, { frame with actions := actions } :: outer, program, moments⟩
      ⟨Host.runActions equal (Host.publish equal depth) frame.event actions host,
        { frame with actions := [] } :: outer, program, later⟩ := by
  induction actions generalizing host moments with
  | nil => exact ⟨moments, .refl _⟩
  | cons action rest ih =>
      by_cases meant : action.1.all (equal frame.event) = true
      · -- A publish call takes many moments, and comes to its end by `calls`; other steps take one.
        obtain ⟨between, done⟩ : ∃ between, Leads equal limit
            (perform limit
              ⟨host, { frame with actions := rest } :: outer, program, moments⟩ action.2)
            ⟨(host.act (Host.publish equal depth) action.2).2,
              { frame with actions := rest } :: outer, program, between⟩ := by
          cases step : action.2 with
          | publish event => exact calls event host _ program moments (by simpa using deep)
          | _ => exact ⟨_, .refl _⟩
        obtain ⟨later, finished⟩ := ih (host.act (Host.publish equal depth) action.2).2 between
        refine ⟨later, .of_advance ?_⟩
        simp only [advance, meant, ↓reduceIte]
        exact done.trans (by simpa [Host.runActions, meant] using finished)
      · obtain ⟨later, finished⟩ := ih host moments
        refine ⟨later, .of_advance ?_⟩
        simp only [advance, meant]
        simpa [Host.runActions, meant] using finished

theorem leads_waiting (depth : Nat) (calls : CallsEnd equal limit depth) (number : Nat)
    (event : Event) (waiting : List (Nat × Callback Event)) (host : Host Event)
    (outer : List (Frame Event)) (program : List (Step Event)) (moments : List (Moment Event))
    (deep : limit = some (outer.length + 1 + depth)) :
    ∃ later, Leads equal limit ⟨host, ⟨number, event, [], waiting⟩ :: outer, program, moments⟩
      ⟨waiting.foldl (fun host subscriber =>
          Host.runActions equal (Host.publish equal depth) event subscriber.2.actions
            (host.record ⟨number, subscriber.1, subscriber.2.name, event⟩)) host,
        outer, program, later⟩ := by
  induction waiting generalizing host moments with
  | nil => exact ⟨moments ++ [.ended number], .of_advance (.refl _)⟩
  | cons subscriber rest ih =>
      obtain ⟨between, done⟩ := leads_actions depth calls ⟨number, event, [], rest⟩
        subscriber.2.actions (host.record ⟨number, subscriber.1, subscriber.2.name, event⟩)
        outer program moments deep
      obtain ⟨later, finished⟩ := ih _ between
      exact ⟨later, .of_advance (done.trans finished)⟩

theorem callsEnd (equal : Event → Event → Bool) (limit : Option Nat) (depth : Nat) :
    CallsEnd equal limit depth := by
  induction depth with
  | zero =>
      intro event host frames program moments deep
      refine ⟨moments, ?_⟩
      cases found : host.bus <;> simp [call, found, deep, Host.publish, Leads.refl]
  | succ depth ih =>
      intro event host frames program moments deep
      cases found : host.bus with
      | none =>
          refine ⟨moments, ?_⟩
          simp [call, found, Host.publish, Leads.refl]
      | some bus =>
          obtain ⟨later, finished⟩ := leads_waiting depth ih host.calls event bus.subscribers
            { host with calls := host.calls + 1 } frames program
            (moments ++ [.began host.calls event]) (by rw [deep]; congr 1; omega)
          refine ⟨later, ?_⟩
          have fits : limit.all (frames.length < ·) = true := by simp [deep]
          simpa [call, found, fits, Host.publish, Bus.publish] using finished

def atOnce (equal : Event → Event → Bool) (depth : Nat) (program : List (Step Event))
    (host : Host Event) : Host Event :=
  program.foldl (fun host step => (host.act (Host.publish equal depth) step).2) host

theorem leads_atOnce (depth : Nat) (program : List (Step Event)) (host : Host Event)
    (moments : List (Moment Event)) :
    ∃ later, Leads equal (some depth) ⟨host, [], program, moments⟩
      ⟨atOnce equal depth program host, [], [], later⟩ := by
  induction program generalizing host moments with
  | nil => exact ⟨moments, .refl _⟩
  | cons step rest ih =>
      obtain ⟨between, done⟩ : ∃ between, Leads equal (some depth)
          (perform (some depth) ⟨host, [], rest, moments⟩ step)
          ⟨(host.act (Host.publish equal depth) step).2, [], rest, between⟩ := by
        cases step with
        | publish event => exact callsEnd equal _ depth event host [] rest moments (by simp)
        | _ => exact ⟨_, .refl _⟩
      obtain ⟨later, finished⟩ := ih (host.act (Host.publish equal depth) step).2 between
      exact ⟨later, .of_advance (done.trans finished)⟩

theorem after_eq_atOnce (equal : Event → Event → Bool) (depth : Nat)
    (program : List (Step Event)) :
    ∃ count, (after equal (some depth) program count).Finished ∧
      (after equal (some depth) program count).host =
        atOnce equal depth program Host.start := by
  obtain ⟨later, finished⟩ : ∃ later, Leads equal (some depth) (start program)
      ⟨atOnce equal depth program Host.start, [], [], later⟩ :=
    leads_atOnce depth program Host.start []
  obtain ⟨count, reached⟩ := after_of_leads finished
  exact ⟨count, by simp [reached, Finished]⟩

/-! Without a limit. -/

theorem length_frames_advance (run : Run Event) :
    (run.advance equal limit).frames.length ≤ run.frames.length + 1 := by
  have performed : ∀ (run : Run Event) (step : Step Event),
      (run.perform limit step).frames.length ≤ run.frames.length + 1 := by
    intro run step
    cases step with
    | publish event =>
        simp only [perform, call]
        split
        · exact Nat.le_succ _
        · split <;> simp
    | _ => exact Nat.le_succ _
  simp only [advance]
  split
  · split
    · exact Nat.le_succ _
    · exact performed _ _
  · rename_i frame outer frames
    split
    · split
      · exact Nat.le_trans (performed _ _) (by simp [frames])
      · simp [frames]
    · split
      · simp [frames]
      · simp [frames]
        omega

theorem length_frames_after (program : List (Step Event)) (count : Nat) :
    (after equal limit program count).frames.length ≤ count := by
  induction count with
  | zero => exact Nat.le_refl 0
  | succ count ih => exact Nat.le_trans (length_frames_advance _) (Nat.succ_le_succ ih)

theorem advance_eq_of_lt (run : Run Event) (depth : Nat) (reach : run.frames.length < depth) :
    run.advance equal (some depth) = run.advance equal none := by
  have performed : ∀ (run : Run Event) (step : Step Event), run.frames.length < depth →
      run.perform (some depth) step = run.perform none step := by
    intro run step reach
    cases step with
    | publish event => simp [perform, call, reach]
    | _ => rfl
  simp only [advance]
  split
  · split
    · rfl
    · exact performed _ _ (by assumption)
  · rename_i frame outer frames
    rw [frames] at reach
    split
    · split
      · exact performed _ _ reach
      · rfl
    · rfl

theorem after_eq_of_le (program : List (Step Event)) (depth count : Nat) (le : count ≤ depth) :
    after equal (some depth) program count = after equal none program count := by
  induction count with
  | zero => rfl
  | succ count ih =>
      rw [after, after, ih (Nat.le_of_succ_le le)]
      exact advance_eq_of_lt _ _ (Nat.lt_of_le_of_lt (length_frames_after program count) le)

theorem advance_of_finished {run : Run Event} (finished : run.Finished) :
    run.advance equal limit = run := by
  simp [advance, finished.1, finished.2]

theorem after_add_of_finished (program : List (Step Event)) (count more : Nat)
    (finished : (after equal limit program count).Finished) :
    after equal limit program (count + more) = after equal limit program count := by
  induction more with
  | zero => rfl
  | succ more ih => rw [Nat.add_succ, after, ih, advance_of_finished finished]

theorem after_eq_of_finished (program : List (Step Event)) (first second : Nat)
    (firstFinished : (after equal limit program first).Finished)
    (secondFinished : (after equal limit program second).Finished) :
    after equal limit program first = after equal limit program second := by
  rw [← after_add_of_finished program first second firstFinished, Nat.add_comm,
    after_add_of_finished program second first secondFinished]

/-- A program whose calls all end comes to the same end when it is run in one go, with calls nested
as deep as they need to be or deeper. -/
theorem atOnce_eq_of_finished (equal : Event → Event → Bool) (program : List (Step Event))
    (count depth : Nat) (finished : (after equal none program count).Finished)
    (deep : count ≤ depth) :
    atOnce equal depth program Host.start = (after equal none program count).host := by
  obtain ⟨last, lastFinished, host⟩ := after_eq_atOnce equal depth program
  have limited : after equal (some depth) program count = after equal none program count :=
    after_eq_of_le program depth count deep
  rw [← limited] at finished ⊢
  rw [← host, after_eq_of_finished program last count lastFinished finished]

end Run

end LifecycleHooks.Bus
