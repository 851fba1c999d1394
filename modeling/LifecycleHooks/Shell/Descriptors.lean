import LifecycleHooks.Shell.State
import LifecycleHooks.Tool.Basic

/-!
The descriptors of a shell: how they are set, the pipes it makes, and what it says about files that
cannot be opened.
-/

namespace LifecycleHooks.Shell.Descriptors

open Process

/-- Descriptors from here on are not handed to programs. -/
def firstPrivate : Nat := 10

def withoutPrivate (channels : Channels) : Channels :=
  channels.filter fun p => p.1 < firstPrivate

def setChannel (descriptor : Nat) (channel : Channel) (channels : Channels) : Channels :=
  (descriptor, channel) :: channels.filter fun p => p.1 != descriptor

def dropChannel (descriptor : Nat) (channels : Channels) : Channels :=
  channels.filter fun p => p.1 != descriptor

/-- Under which descriptor a shell holds a pipe while it starts processes on both sides. -/
def pipeHold (pipe : Nat) : Nat := 100 + pipe

def openPipe (content : Text.Bytes) : Run Nat := do
  let pid := (← get).pid
  (Work.change fun world =>
    let (pipe, world) := world.makePipe content
    (pipe, world.setChannels pid (setChannel (pipeHold pipe) (.reader pipe) (world.channels pid))) : Work Nat)

def releasePipe (pipe : Nat) : Run Unit := do
  let pid := (← get).pid
  (Work.change fun world =>
    ((), world.setChannels pid (dropChannel (pipeHold pipe) (world.channels pid))) : Work Unit)

def channels : Run Channels := do
  let pid := (← get).pid
  (Work.look fun world => world.channels pid : Work Channels)

def setChannels (channels : Channels) : Run Unit := do
  let pid := (← get).pid
  (Work.change fun world => ((), world.setChannels pid channels) : Work Unit)

def setDescriptor (descriptor : Nat) (channel : Option Channel) : Run Unit := do
  let current ← channels
  setChannels (match channel with
    | some channel => setChannel descriptor channel current
    | none => dropChannel descriptor current)

def openAs (descriptor : Nat) (path : Route) (access : Access) : Run (Option SystemError) := do
  let state ← get
  match ← (Work.openRoute state.pid state.cwd path access : Work (Except SystemError Nat)) with
  | .error e => return some e
  | .ok opened =>
      if opened ≠ descriptor then
        let current ← channels
        match current.find? fun p => p.1 == opened with
        | some (_, channel) => setChannels (setChannel descriptor channel (dropChannel opened current))
        | none => pure ()
      return none

def openComplaint (path : String) (writing : Bool) (e : SystemError) : String :=
  let reason :=
    if e = .noSuchFile ∨ e = .notADirectory then
      (if writing then "Directory nonexistent" else "No such file")
    else Tool.describe e
  (if writing then "cannot create " else "cannot open ") ++ path ++ ": " ++ reason

end LifecycleHooks.Shell.Descriptors
