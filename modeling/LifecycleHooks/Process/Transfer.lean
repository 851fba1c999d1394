import LifecycleHooks.Process.World

/-!
How bytes get into files and pipes and out of them, and how files are opened.
-/

namespace LifecycleHooks.Process.World

open Text (Bytes)

def write (world : World) (pid : Pid) (descriptor : Nat) (bytes : Bytes) :
    Except SystemError World :=
  match world.channel? pid descriptor with
  | none => .error .badDescriptor
  | some (.reader _) => .error .badDescriptor
  | some (.directory _) => .error .badDescriptor
  | some (.device .full) => if bytes.isEmpty then .ok world else .error .noSpace
  | some (.device _) => .ok world
  | some (.writer pipe) =>
      if bytes.isEmpty then .ok world
      else if world.holds (.reader pipe) then
        .ok { world with pipes := world.pipes.change pipe fun pipe => pipe.push bytes }
      else .error .brokenPipe
  | some (.file handle) =>
      match world.files.find? handle with
      | none => .error .badDescriptor
      | some file =>
          if !file.access.writes then .error .badDescriptor
          else if bytes.isEmpty then .ok world
          else
            let content := world.fileContent file.node
            let offset := if file.access = .appending then content.length else file.offset
            let world := world.setBytes file.node (overwrite content offset bytes)
            .ok { world with
              files := world.files.change handle fun file =>
                { file with offset := offset + bytes.length } }

def takeFromFile (world : World) (handle : Nat) (take : Bytes → Bytes) :
    Except SystemError Bytes × World :=
  match world.files.find? handle with
  | none => (.error .badDescriptor, world)
  | some file =>
      if !file.access.reads then (.error .badDescriptor, world)
      else
        let bytes := take ((world.fileContent file.node).drop file.offset)
        (.ok bytes, { world with
          files := world.files.change handle fun file =>
            { file with offset := file.offset + bytes.length } })

/-- Takes bytes from what is behind a descriptor: from a pipe as the first function says, from a file
as the second one does, and so many zeros where there are zeros without an end. -/
def takeFrom (world : World) (pid : Pid) (descriptor : Nat) (fromPipe : Pipe → Bytes × Pipe)
    (fromFile : Bytes → Bytes) (zeros : Nat) : Except SystemError Bytes × World :=
  match world.channel? pid descriptor with
  | none => (.error .badDescriptor, world)
  | some (.writer _) => (.error .badDescriptor, world)
  | some (.directory _) => (.error .isADirectory, world)
  | some (.device .zeros) => (.ok (List.replicate zeros 0), world)
  | some (.device .full) => (.ok (List.replicate zeros 0), world)
  | some (.device _) => (.ok [], world)
  | some (.reader pipe) =>
      let (bytes, rest) := fromPipe (world.pipe pipe)
      (.ok bytes, world.setPipe pipe rest)
  | some (.file handle) => world.takeFromFile handle fromFile

def isEndless (world : World) (pid : Pid) (descriptor : Nat) : Bool :=
  match world.channel? pid descriptor with
  | some (.device .zeros) => true
  | some (.device .full) => true
  | _ => false

def canReadAll (world : World) (pid : Pid) (descriptor : Nat) : Bool :=
  match world.channel? pid descriptor with
  | some (.reader pipe) => world.isComplete pipe
  | _ => !world.isEndless pid descriptor

def readAll (world : World) (pid : Pid) (descriptor : Nat) : Except SystemError Bytes × World :=
  world.takeFrom pid descriptor (fun pipe => (pipe.content, .empty)) (fun rest => rest) 0

/-- Gives back the last bytes that were taken from a file; those of a pipe are gone. -/
def giveBack (world : World) (pid : Pid) (descriptor count : Nat) : World :=
  match world.channel? pid descriptor with
  | some (.file handle) =>
      { world with
        files := world.files.change handle fun file => { file with offset := file.offset - count } }
  | _ => world

def number? (world : World) (pid : Pid) (descriptor : Nat) : Option Nat :=
  match world.channel? pid descriptor with
  | some (.file handle) => (world.files.find? handle).map OpenFile.node
  | some (.directory number) => some number
  | _ => none

def canRead (world : World) (pid : Pid) (descriptor count : Nat) : Bool :=
  match world.channel? pid descriptor with
  | some (.reader pipe) => world.isComplete pipe || decide (count ≤ (world.pipe pipe).length)
  | _ => true

def canReadSome (world : World) (pid : Pid) (descriptor : Nat) : Bool :=
  match world.channel? pid descriptor with
  | some (.reader pipe) => !(world.pipe pipe).isEmpty || world.isComplete pipe
  | _ => true

def read (world : World) (pid : Pid) (descriptor count : Nat) : Except SystemError Bytes × World :=
  world.takeFrom pid descriptor (fun pipe => pipe.take count) (fun rest => rest.take count) count

def canReadLine (world : World) (pid : Pid) (descriptor : Nat) : Bool :=
  match world.channel? pid descriptor with
  | some (.reader pipe) => (world.pipe pipe).hasByte 10 || world.isComplete pipe
  | _ => !world.isEndless pid descriptor

def readLine (world : World) (pid : Pid) (descriptor : Nat) : Except SystemError Bytes × World :=
  world.takeFrom pid descriptor Pipe.takeLine (fun rest => (splitLine rest).1) 0

def make (world : World) (pid : Pid) (location : Location) : World :=
  world.put pid location (.file []) 438

def openNode (world : World) (number : Nat) (node : Node) (access : Access) :
    Except SystemError (Channel × Bool) × World :=
  let openAs (world : World) : Except SystemError (Channel × Bool) × World :=
    let (handle, world) := world.openFile number access
    (.ok (.file handle, false), world)
  match node.content with
  | .device .terminal => (.error .noSuchDevice, world)
  | .device device => (.ok (.device device, false), world)
  | .program _ =>
      if access.writes then (.error .fileBusy, world) else (.ok (.device .sink, false), world)
  | .directory =>
      if access.writes then (.error .isADirectory, world)
      else (.ok (.directory number, false), world)
  | .pipe pipe named =>
      (.ok (if access = .reading then .reader pipe else .writer pipe, named), world)
  | .file _ => openAs (if access = .writing then world.setBytes number [] else world)
  | .link _ => (.error .noSuchFile, world)

def openRoute (world : World) (pid : Pid) (cwd : Location) (route : Route) (access : Access) :
    Except SystemError (Channel × Bool) × World :=
  let tree := world.view pid
  match tree.locate cwd route with
  | .error e =>
      (.error (if e = .noSuchFile ∧ access.writes ∧ route.endsWithSlash then .isADirectory else e),
        world)
  | .ok location =>
      match tree.number? location, tree.find? location with
      | some number, some node => world.openNode number node access
      | _, _ =>
          if access.writes then
            let number := world.tree.fresh
            let world := world.make pid location
            let (handle, world) := world.openFile number access
            (.ok (.file handle, false), world)
          else (.error .noSuchFile, world)

def freeDescriptor (world : World) (pid : Pid) : Nat :=
  let used := (world.channels pid).map Prod.fst
  ((List.range (used.length + 1)).find? fun n => !used.contains n).getD used.length

def isMet (world : World) (pid : Pid) (descriptor : Nat) : Bool :=
  match world.channel? pid descriptor with
  | some (.reader pipe) => world.holds (.writer pipe) || !(world.pipe pipe).isEmpty
  | some (.writer pipe) => world.holds (.reader pipe)
  | _ => true

end LifecycleHooks.Process.World
