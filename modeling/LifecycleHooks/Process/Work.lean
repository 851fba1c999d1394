import LifecycleHooks.Process.Task

/-!
The work of a process, written step by step. Work that gives a value is a function from what is done
with the value to what is done in all.
-/

namespace LifecycleHooks.Process

open Text (Bytes)

def Work (α : Type) : Type := (α → Task) → Task

namespace Work

instance : Monad Work where
  pure a := fun next => next a
  bind work f := fun next => work fun a => f a next

variable {α : Type}

def stop (ending : Ending) : Work α := fun _ => .exit ending

def hang : Work α := fun _ => .await (fun _ => false) (.exit (.exited 0))

def change (f : World → α × World) : Work α :=
  fun next => .act fun world =>
    let (a, world) := f world
    (world, next a)

def look (f : World → α) : Work α := change fun world => (f world, world)

def modify (f : World → World) : Work Unit := change fun world => ((), f world)

def view (pid : Pid) : Work FileTree := look fun world => world.view pid

def await (ready : World → Bool) : Work Unit := fun next => .await ready (next ())

def sleep (micros : Nat) : Work Unit := fun next => .sleep micros (next ())

def fork (channels : Channels → Channels) (child : Pid → Work Ending) : Work Pid :=
  fun next => .fork channels (fun pid => child pid .exit) next

def task (work : Work Ending) : Task := work .exit

def wait (pid : Pid) : Work Ending := do
  await fun world => world.hasEnded pid
  look fun world => (world.ending? pid).getD (.exited 0)

/-- Writes to a descriptor; answers why it cannot be written to. A process that writes where nobody
reads is ended, unless it has asked for something else. -/
def write (pid : Pid) (descriptor : Nat) (bytes : Bytes) : Work (Option SystemError) :=
  change fun world =>
    match world.write pid descriptor bytes with
    | .ok world => (none, world)
    | .error e =>
        (some e, if e = .brokenPipe then
          world.changeEntry pid (Entry.deliver Signal.brokenPipe) else world)

def writeText (pid : Pid) (descriptor : Nat) (text : String) : Work Unit := do
  let _ ← write pid descriptor (Text.octets text)

def readAll (pid : Pid) (descriptor : Nat) : Work (Except SystemError Bytes) := do
  await fun world => world.canReadAll pid descriptor
  change fun world => world.readAll pid descriptor

def read (pid : Pid) (descriptor count : Nat) : Work (Except SystemError Bytes) := do
  await fun world => world.canRead pid descriptor count
  change fun world => world.read pid descriptor count

def readSome (pid : Pid) (descriptor count : Nat) : Work (Except SystemError Bytes) := do
  await fun world => world.canReadSome pid descriptor
  change fun world => world.read pid descriptor count

def readLine (pid : Pid) (descriptor : Nat) : Work (Except SystemError Bytes) := do
  await fun world => world.canReadLine pid descriptor
  change fun world => world.readLine pid descriptor

def setChannels (pid : Pid) (f : Channels → Channels) : Work Unit :=
  modify fun world => world.setChannels pid (f (world.channels pid))

def close (pid : Pid) (descriptor : Nat) : Work Unit :=
  setChannels pid fun channels => channels.filter fun p => p.1 != descriptor

/-- Opens what is at the end of a path; answers its descriptor. Whoever opens a pipe by its name waits
for somebody at the other end. -/
def openRoute (pid : Pid) (cwd : Location) (route : Route) (access : Access) :
    Work (Except SystemError Nat) := do
  let opened ← change fun world =>
    match world.openRoute pid cwd route access with
    | (.error e, world) => (Except.error e, world)
    | (.ok (channel, named), world) =>
        let descriptor := world.freeDescriptor pid
        (.ok (descriptor, named),
          world.setChannels pid ((descriptor, channel) :: world.channels pid))
  match opened with
  | .error e => return .error e
  | .ok (descriptor, named) =>
      if named then await fun world => world.isMet pid descriptor
      return .ok descriptor

end Work

end LifecycleHooks.Process
