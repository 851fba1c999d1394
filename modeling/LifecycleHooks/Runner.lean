import LifecycleHooks.Engine.Basic
import LifecycleHooks.Launch
import LifecycleHooks.Settings.File
import LifecycleHooks.Shell.Interpreter

/-!
Running hooks as processes. A hook runs until its process ends, its time is up or the execution is
cancelled, whichever comes first; whatever it started ends with it.
-/

namespace LifecycleHooks

open Process

/-- The machine that hooks run on, as its host sees it: its processes and files, what goes on in it,
the directory and the environment of the host, and the moment at which the execution is cancelled. -/
structure Machine where
  world : World
  threads : List Thread
  cwd : Location
  environment : Environment
  cancelAt : Option Nat

namespace Machine

def initPid : Pid := 1

def hostPid : Pid := 4320

def beginning : Int := World.beginning

def ofTree (tree : FileTree) (cwd : Location) (environment : Environment) (cancelAt : Option Nat) :
    Machine :=
  let bare : World :=
    { tree := tree, pipes := [], files := [], processes := [], clock := 0, fresh := hostPid }
  { world := (bare.addProcess [] initPid true).2
    threads := []
    cwd := cwd
    environment := environment
    cancelAt := cancelAt }

def tree (machine : Machine) : FileTree := machine.world.tree

def clock (machine : Machine) : Nat := machine.world.clock

structure Begun where
  pid : Pid
  outputPipe : Nat
  errorPipe : Nat

def begin (world : World) (input : Text.Bytes) : Begun × World :=
  let (inputPipe, world) := world.makePipe input
  let (outputPipe, world) := world.makePipe []
  let (errorPipe, world) := world.makePipe []
  let (pid, world) := world.addProcess
    [(0, .reader inputPipe), (1, .writer outputPipe), (2, .writer errorPipe)] hostPid true
  (⟨pid, outputPipe, errorPipe⟩,
    world.setChannels hostPid [(0, .reader outputPipe), (1, .reader errorPipe)])

/-- The code of a process that ended; one that was killed has none of its own. -/
def exitCode : Ending → Int
  | .exited code => (code % 256 : Nat)
  | .killed _ => -1

/-- How long the host waits for the end of a pipe when the hook has ended, in microseconds. -/
def pipeGrace : Nat := 100000

/-- What is in a pipe at its end. When something that outlives the hook keeps the pipe open, what is
in it is lost. -/
def collect (pipe : Nat) (world : World) (threads : List Thread) : String × World × List Thread :=
  let (world, threads) :=
    runUntil (fun world => world.isComplete pipe) (world.clock + pipeGrace) threads world
  (if world.isComplete pipe then Text.decodeLossy (world.pipeContent pipe) else "", world, threads)

def timeoutAt (machine : Machine) (invocation : Invocation) : Nat :=
  machine.world.clock + invocation.timeout * 1000

def stopAt (machine : Machine) (invocation : Invocation) : Nat :=
  match machine.cancelAt with
  | some moment => min (machine.timeoutAt invocation) moment
  | none => machine.timeoutAt invocation

def stopped (machine : Machine) (invocation : Invocation) : RunFailure :=
  match machine.cancelAt with
  | some moment =>
      if moment ≤ machine.timeoutAt invocation then .cancelled else .timeout invocation.timeout
  | none => .timeout invocation.timeout

/-- How long a hook cannot be told from one that has not begun, in microseconds. -/
def launchCost : Nat := 900

def timestamp : String := "2024-01-01T00:00:00.000000+00:00"

def pass (machine : Machine) (micros : Nat) : Machine :=
  let (world, threads) := runUntil (fun _ => false) (machine.world.clock + micros) machine.threads
    machine.world
  { machine with world := world, threads := threads }

def run (machine : Machine) (invocation : Invocation) : Outcome × Machine :=
  let launch := Launch.ofInvocation machine.environment timestamp invocation
  match launch.resolve machine.tree machine.cwd with
  | .error cause => (⟨.error (.launch (Launch.label invocation.program) cause), 0⟩, machine)
  | .ok (cwd, image) =>
      let (begun, world) := begin machine.world launch.input
      let work : Work Ending := do
        Work.sleep launchCost
        Shell.Interpreter.execute Shell.Interpreter.fuel image
          ⟨begun.pid, cwd, launch.environment, launch.program, launch.args⟩
      let (world, threads) := runUntil (fun world => world.hasEnded begun.pid)
        (machine.stopAt invocation) (machine.threads ++ [⟨begun.pid, work.task, 0⟩]) world
      let ending := world.ending? begun.pid
      let world := world.signalWhere Signal.kill fun _ entry => entry.group == begun.pid
      match ending with
      | none =>
          (⟨.error (machine.stopped invocation), world.clock - machine.clock⟩,
            { machine with world := world.setChannels hostPid [], threads := threads })
      | some ending =>
          let (stdout, world, threads) := collect begun.outputPipe world threads
          let (stderr, world, threads) := collect begun.errorPipe world threads
          (⟨.ok ⟨exitCode ending, stdout, stderr⟩, world.clock - machine.clock⟩,
            { machine with world := world.setChannels hostPid [], threads := threads })

def isCancelled (machine : Machine) : Bool :=
  match machine.cancelAt with
  | some moment => decide (moment ≤ machine.clock)
  | none => false

abbrev Runner : Type := Machine → Invocation → Outcome × Machine

/-- A machine with a runner as the host of an engine whose subscribers do nothing. -/
def hostOf (runner : Runner) : Engine.Host Unit Machine where
  run := fun invocation state =>
    let (outcome, machine) := runner state.rest invocation
    (outcome, { state with rest := machine })
  isCancelled := fun state => state.rest.isCancelled
  notify := fun _ _ state => state

def host : Engine.Host Unit Machine := hostOf run

def sources (machine : Machine) (settings : String → Option Json) (workspace : Option Path) :
    Sources :=
  ⟨settings, machine.tree.read machine.cwd, workspace⟩

def engine (machine : Machine) (settings : String → Option Json) (workspace : Option Path) :
    Engine.Summary × Engine.State Unit Machine :=
  Engine.reload (machine.sources settings workspace) (fun _ _ state => state)
    ⟨Registry.empty, Bus.empty, Bus.empty, [], machine⟩

end Machine

end LifecycleHooks
