import LifecycleHooks.FileTree.Route
import LifecycleHooks.Process.Channel
import LifecycleHooks.Process.Signal

/-!
What processes share: files, pipes, open files, the table of processes and the clock. A pipe is at
its end when nothing is left in it and no process holds a descriptor to write to it.
-/

namespace LifecycleHooks.Process

open Text (Bytes)

abbrev Pid := Nat

inductive Ending
  | exited (code : Nat)
  | killed (signal : Nat)
  deriving DecidableEq

/-- What is known of a process. One that has ended stays in the table for its ending to be asked for.
Processes that one has started belong to its group, unless they leave it. -/
structure Entry where
  channels : Channels
  ending : Option Ending
  parent : Pid
  group : Pid
  /-- The permissions that new files lack. -/
  mask : Nat
  /-- The signals that do nothing to the process. -/
  ignored : List Nat
  /-- The signals that the process takes note of. -/
  caught : List Nat
  /-- The signals that have arrived and were taken note of. -/
  pending : List Nat
  stopped : Bool
  /-- The signals that have arrived while the process was stopped. -/
  held : List Nat

namespace Entry

def finished (ending : Ending) (entry : Entry) : Entry :=
  if entry.ending.isSome then entry else { entry with channels := [], ending := some ending }

def receive (signal : Nat) (entry : Entry) : Entry :=
  if entry.ignored.contains signal then entry
  else if entry.caught.contains signal then
    if entry.pending.contains signal then entry
    else { entry with pending := entry.pending ++ [signal] }
  else if Signal.isStopping signal then { entry with stopped := true }
  else if Signal.isHarmless signal then entry
  else entry.finished (.killed signal)

def deliver (signal : Nat) (entry : Entry) : Entry :=
  if entry.ending.isSome then entry
  else if signal = Signal.kill then entry.finished (.killed signal)
  else if signal = Signal.stop then { entry with stopped := true }
  else if signal = Signal.resume then
    entry.held.foldl (fun entry signal => entry.receive signal)
      ({ entry with stopped := false, held := [] }.receive signal)
  else if entry.stopped then { entry with held := entry.held ++ [signal] }
  else entry.receive signal

end Entry

structure World where
  tree : FileTree
  pipes : Numbered Pipe
  files : Numbered OpenFile
  processes : Numbered Entry
  /-- Microseconds since the beginning. -/
  clock : Nat
  fresh : Nat

namespace World

def beginning : Int := 1704067200000000

def now (world : World) : Int := beginning + world.clock

def makePipe (world : World) (content : Bytes) : Nat × World :=
  (world.fresh, { world with
    pipes := (world.fresh, ⟨content, []⟩) :: world.pipes, fresh := world.fresh + 1 })

def openFile (world : World) (node : Nat) (access : Access) : Nat × World :=
  (world.fresh, { world with
    files := (world.fresh, ⟨node, 0, access⟩) :: world.files, fresh := world.fresh + 1 })

def entry? (world : World) (pid : Pid) : Option Entry := world.processes.find? pid

def changeEntry (world : World) (pid : Pid) (f : Entry → Entry) : World :=
  { world with processes := world.processes.change pid f }

def usualMask : Nat := 18

def addProcess (world : World) (channels : Channels) (parent : Pid) (apart : Bool) : Pid × World :=
  let pid := world.fresh
  let entry : Entry := match world.entry? parent with
    | some above =>
        ⟨channels, none, parent, if apart then pid else above.group, above.mask, above.ignored, [], [],
          false, []⟩
    | none => ⟨channels, none, parent, pid, usualMask, [], [], [], false, []⟩
  (pid, { world with processes := (pid, entry) :: world.processes, fresh := pid + 1 })

def parent? (world : World) (pid : Pid) : Option Pid := (world.entry? pid).map Entry.parent

def group? (world : World) (pid : Pid) : Option Pid := (world.entry? pid).map Entry.group

def mask (world : World) (pid : Pid) : Nat := ((world.entry? pid).map Entry.mask).getD usualMask

def leaveGroup (world : World) (pid : Pid) : World :=
  world.changeEntry pid fun entry => { entry with group := pid }

def channels (world : World) (pid : Pid) : Channels :=
  ((world.entry? pid).map Entry.channels).getD []

def channel? (world : World) (pid : Pid) (descriptor : Nat) : Option Channel :=
  Numbered.find? descriptor (world.channels pid)

def setChannels (world : World) (pid : Pid) (channels : Channels) : World :=
  world.changeEntry pid fun entry => { entry with channels := channels }

def ending? (world : World) (pid : Pid) : Option Ending := (world.entry? pid).bind Entry.ending

/-- A process that is not in the table counts as ended. -/
def hasEnded (world : World) (pid : Pid) : Bool :=
  match world.entry? pid with
  | some entry => entry.ending.isSome
  | none => true

def isStopped (world : World) (pid : Pid) : Bool := (world.entry? pid).any Entry.stopped

def pending (world : World) (pid : Pid) : List Nat := ((world.entry? pid).map Entry.pending).getD []

/-- Sends a signal to the processes that a condition selects. Parents hear of those that end. -/
def signalWhere (world : World) (signal : Nat) (selects : Pid → Entry → Bool) : World :=
  let ended := world.processes.filterMap fun (pid, entry) =>
    if selects pid entry && entry.ending.isNone && (entry.deliver signal).ending.isSome then
      some entry.parent
    else none
  let processes := world.processes.map fun (pid, entry) =>
    (pid, if selects pid entry then entry.deliver signal else entry)
  { world with
    processes := ended.foldl (fun processes parent =>
      processes.change parent (Entry.deliver Signal.childEnded)) processes }

def finish (world : World) (pid : Pid) (ending : Ending) : World :=
  match world.entry? pid with
  | none => world
  | some entry =>
      if entry.ending.isSome then world
      else (world.changeEntry pid (Entry.finished ending)).changeEntry entry.parent
        (Entry.deliver Signal.childEnded)

def holds (world : World) (channel : Channel) : Bool :=
  world.processes.any fun entry => entry.2.channels.any fun p => p.2 == channel

def pipe (world : World) (number : Nat) : Pipe := (world.pipes.find? number).getD .empty

def pipeContent (world : World) (number : Nat) : Bytes := (world.pipe number).content

def setPipe (world : World) (number : Nat) (pipe : Pipe) : World :=
  { world with pipes := world.pipes.change number fun _ => pipe }

def isComplete (world : World) (pipe : Nat) : Bool := !world.holds (.writer pipe)

def descriptorPlace (descriptor : Nat) : Location := ["proc", "self", "fd", toString descriptor]

def view (world : World) (pid : Pid) : FileTree :=
  (world.channels pid).foldl (fun tree (descriptor, channel) =>
    let place := descriptorPlace descriptor
    let known (number : Nat) : FileTree := { tree with entries := (place, number) :: tree.entries }
    let made (content : Content) : FileTree :=
      { entries := (place, tree.fresh) :: tree.entries
        nodes := (tree.fresh, ⟨content, 384, world.now⟩) :: tree.nodes
        fresh := tree.fresh + 1 }
    match channel with
    | .reader pipe => made (.pipe pipe false)
    | .writer pipe => made (.pipe pipe false)
    | .device device => made (.device device)
    | .directory number => known number
    | .file handle =>
        match world.files.find? handle with
        | some file => known file.node
        | none => tree) world.tree

def fileContent (world : World) (number : Nat) : Bytes :=
  ((world.tree.node? number).map Node.bytes).getD []

def setBytes (world : World) (number : Nat) (bytes : Bytes) : World :=
  { world with
    tree := world.tree.change number fun node =>
      { node with content := .file bytes, modified := world.now } }

def masked (world : World) (pid : Pid) (mode : Nat) : Nat := mode - (mode &&& world.mask pid)

def put (world : World) (pid : Pid) (location : Location) (content : Content) (mode : Nat) : World :=
  { world with tree := world.tree.put location ⟨content, world.masked pid mode, world.now⟩ }

end World

end LifecycleHooks.Process
