import LifecycleHooks.Process.Transfer

/-!
Processes as what they do next, and their scheduling on one clock. Processes take turns; when all of
them wait, the clock goes on to the moment when the first sleeper wakes.
-/

namespace LifecycleHooks.Process

inductive Task
  | exit (ending : Ending)
  | act (run : World → World × Task)
  | await (ready : World → Bool) (next : Task)
  | sleep (micros : Nat) (next : Task)
  /-- Starts a process with descriptors made from those of its parent; both sides learn its number. -/
  | fork (channels : Channels → Channels) (child : Pid → Task) (next : Pid → Task)

structure Thread where
  pid : Pid
  task : Task
  wake : Nat

/-- How long one step takes, in microseconds. -/
def stepCost : Nat := 5

inductive Turn
  /-- The process did something: what it does next, and processes it started. -/
  | moved (thread : Option Thread) (started : List Thread)
  | waiting

def turn (world : World) (thread : Thread) : Turn × World :=
  if world.hasEnded thread.pid then (.moved none [], world)
  else if world.clock < thread.wake || world.isStopped thread.pid then (.waiting, world)
  else
    match thread.task with
    | .exit ending => (.moved none [], world.finish thread.pid ending)
    | .act run =>
        let (world, next) := run world
        (.moved (some { thread with task := next }) [],
          { world with clock := world.clock + stepCost })
    | .await ready next =>
        if ready world then (.moved (some { thread with task := next }) [], world)
        else (.waiting, world)
    | .sleep micros next =>
        (.moved (some ⟨thread.pid, next, world.clock + micros⟩) [], world)
    | .fork channels child next =>
        let (pid, world) := world.addProcess (channels (world.channels thread.pid)) thread.pid false
        (.moved (some { thread with task := next pid }) [⟨pid, child pid, 0⟩], world)

def nextWake (clock : Nat) (threads : List Thread) : Option Nat :=
  (threads.filterMap fun thread => if clock < thread.wake then some thread.wake else none).min?

/-- Lets processes take turns until a goal or the deadline is reached; gives what is left to be done
then. `idle` counts the processes in front that were found waiting since something moved last. -/
def schedule (goal : World → Bool) (deadline : Nat) :
    Nat → Nat → List Thread → World → World × List Thread
  | 0, _, threads, world => ({ world with clock := max world.clock deadline }, threads)
  | _ + 1, _, [], world =>
      if goal world then (world, []) else ({ world with clock := max world.clock deadline }, [])
  | fuel + 1, idle, thread :: threads, world =>
      if goal world || deadline ≤ world.clock then (world, thread :: threads)
      else if threads.length < idle then
        match nextWake world.clock (thread :: threads) with
        | some moment =>
            if moment < deadline then
              schedule goal deadline fuel 0 (thread :: threads) { world with clock := moment }
            else ({ world with clock := deadline }, thread :: threads)
        | none => ({ world with clock := deadline }, thread :: threads)
      else
        match turn world thread with
        | (.moved next started, world) =>
            schedule goal deadline fuel 0 (threads ++ started ++ next.toList) world
        | (.waiting, world) => schedule goal deadline fuel (idle + 1) (threads ++ [thread]) world

def turnLimit : Nat := 2000000

def runUntil (goal : World → Bool) (deadline : Nat) (threads : List Thread) (world : World) :
    World × List Thread :=
  schedule goal deadline turnLimit 0 threads world

end LifecycleHooks.Process
