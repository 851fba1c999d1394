import LifecycleHooks.Json.Basic
import LifecycleHooks.Numbered
import LifecycleHooks.Tool.Basic
import LifecycleHooks.Tool.Records.Texts

/-!
What a program for records keeps while it runs: its variables and tables, the record at hand, and what it
reads from and writes to.
-/

namespace LifecycleHooks.Tool.Records

open Process Text

inductive Slot
  | value (value : Value)
  | table (number : Nat)
  /-- Nothing yet, but a certain table when it is used as one. -/
  | either (number : Nat)

structure Stream where
  descriptor : Nat
  buffer : Bytes
  finished : Bool

inductive Leave
  | nextRecord
  | nextFile
  | finish
  | leaveLoop
  | nextRound
  | giveBack (value : Value)
  /-- Something went wrong, and there was a complaint. -/
  | fail

structure State where
  frame : Frame
  definitions : List Definition
  /-- Starts a command of a shell, which is called by a name, with descriptors made from those of the
  program. -/
  start : (Channels → Channels) → String → String → Work Pid
  globals : Fields Slot
  locals : Fields Slot
  tables : Numbered Table
  nextTable : Nat
  record : String
  fields : List Value
  main : Option Stream
  /-- The next of the arguments that name what is read. -/
  argument : Nat
  /-- Whether something has been opened because an argument named it. -/
  opened : Bool
  readers : List (String × Stream)
  commands : List (String × Stream × Pid)
  writers : List (String × Nat)
  /-- Commands that get what is written to them when they are closed; the one used last comes first. -/
  pipes : List (String × Bytes)
  /-- Output that has not been written yet. -/
  buffered : Bytes
  /-- The rules for ranges of records that have begun. -/
  begun : List Nat
  code : Nat

abbrev Run (α : Type) : Type := ExceptT Leave (StateT State Work) α

def working {α : Type} (work : Work α) : Run α := fun state next => work fun a => next (.ok a, state)

/-- Output that waits is written at once when there is so much of it. -/
def bufferLimit : Nat := 4096

namespace Run

def slot? (name : String) : Run (Option Slot) := do
  let state ← get
  return (Fields.find? name state.locals).or (Fields.find? name state.globals)

def setSlot (name : String) (slot : Slot) : Run Unit :=
  modify fun state =>
    if (Fields.find? name state.locals).isSome then
      { state with locals := Fields.insert name slot state.locals }
    else { state with globals := Fields.insert name slot state.globals }

def valueOf (name : String) : Run Value := do
  if name == "NF" then return .number (Float.ofNat (← get).fields.length)
  else
    match ← slot? name with
    | some (.value value) => return value
    | _ => return .unset

def textOf (value : Value) : Run String := do
  match value with
  | .number x =>
      if isWhole x then return value.toText ""
      else
        match ← slot? "CONVFMT" with
        | some (.value format) => return value.toText (format.toText "%.6g")
        | _ => return value.toText "%.6g"
  | other => return other.toText ""

def textVariable (name : String) : Run String := do textOf (← valueOf name)

def format : Run String := textVariable "CONVFMT"

def printed (value : Value) : Run String := do
  match value with
  | .number x => if isWhole x then return value.toText "" else return value.toText (← textVariable "OFMT")
  | other => return other.toText ""

def fail {α : Type} (problem : String) : Run α := do
  let frame := (← get).frame
  working (frame.complain problem)
  modify fun state => { state with code := 2 }
  throw .fail

def failHere {α : Type} (problem : String) : Run α := do
  fail ("run time error: " ++ problem ++ "\n\tFILENAME=\"" ++ (← textVariable "FILENAME") ++ "\" FNR=" ++
    (← textVariable "FNR") ++ " NR=" ++ (← textVariable "NR"))

def separator : Run Separator := do
  match Separator.ofText (← textVariable "FS") with
  | .error problem => fail problem
  | .ok separator => return separator

def setRecord (text : String) : Run Unit := do
  let found := fieldsOf (← separator) text
  modify fun state => { state with record := text, fields := found.map Value.input }

def rebuild : Run Unit := do
  let between ← textVariable "OFS"
  let texts ← (← get).fields.mapM textOf
  modify fun state => { state with record := between.intercalate texts }

def setFieldCount (count : Nat) : Run Unit := do
  modify fun state =>
    { state with
      fields := state.fields.take count ++ List.replicate (count - state.fields.length) .unset }
  rebuild

def fieldNumber (x : Float) : Run Nat := do
  let n := truncated x
  if n < 0 then failHere ("negative field index $" ++ toString n) else return n.toNat

def field (n : Nat) : Run Value := do
  let state ← get
  if n = 0 then return .input state.record else return state.fields.getD (n - 1) .unset

def setField (n : Nat) (value : Value) : Run Unit := do
  if n = 0 then setRecord (← textOf value)
  else
    modify fun state =>
      let padded := state.fields ++ List.replicate (n - state.fields.length) .unset
      { state with fields := padded.set (n - 1) value }
    rebuild

def setVariable (name : String) (value : Value) : Run Unit := do
  if name == "NF" then setFieldCount (truncated value.toNumber).toNat
  else setSlot name (.value value)

def newTable : Run Nat := do
  let state ← get
  set { state with nextTable := state.nextTable + 1, tables := (state.nextTable, []) :: state.tables }
  return state.nextTable

def tableOf (name : String) : Run Nat := do
  match ← slot? name with
  | some (.table n) => return n
  | some (.either n) =>
      setSlot name (.table n)
      return n
  | _ =>
      let n ← newTable
      setSlot name (.table n)
      return n

def items (table : Nat) : Run Table := return ((← get).tables.find? table).getD []

def setItems (table : Nat) (content : Table) : Run Unit :=
  modify fun state => { state with tables := state.tables.change table fun _ => content }

/-- What an element is found by: a text, and whether it is a whole number in truth. -/
structure Key where
  text : String
  numbered : Bool

def keyOf (value : Value) : Run Key := do
  match value with
  | .number x =>
      if isWhole x then return ⟨value.toText "", true⟩ else return ⟨← textOf value, false⟩
  | other => return ⟨← textOf other, false⟩

def seen (key : Key) (content : Table) : Table :=
  if !key.numbered && content.any Item.numbered then Table.listed content else content

def putElement (table : Nat) (key : Key) (value : Value) : Run Unit := do
  let content := seen key (← items table)
  match Table.find? content key.text with
  | some item =>
      if key.numbered && !item.numbered then
        setItems table (content.map fun other =>
          if other.key == key.text then { other with value := value } else other)
      else setItems table (Table.insert content { item with value := value })
  | none => setItems table (⟨key.text, value, key.numbered⟩ :: content)

def element (table : Nat) (key : Key) : Run Value := do
  let content := seen key (← items table)
  match Table.find? content key.text with
  | some item =>
      if !(key.numbered && !item.numbered) then setItems table (Table.insert content item)
      return item.value
  | none =>
      setItems table (⟨key.text, .unset, key.numbered⟩ :: content)
      return .unset

def keys (table : Nat) : Run (List String) := do
  let content := Table.listed (← items table)
  setItems table content
  return Table.keys content

def fill (table : Nat) (texts : List String) : Run Unit :=
  setItems table (texts.zipIdx.reverse.map fun (text, i) => ⟨toString (i + 1), .input text, true⟩)

def flush : Run Unit := do
  let state ← get
  if !state.buffered.isEmpty then
    set { state with buffered := [] }
    match ← working (Work.write state.frame.pid 1 state.buffered) with
    | none => pure ()
    | some e => fail ("close failed on file \"/dev/stdout\" (" ++ describe e ++ ")")

def put (bytes : Bytes) : Run Unit := do
  modify fun state => { state with buffered := state.buffered ++ bytes }
  if bufferLimit ≤ (← get).buffered.length then flush

def writerOf (name : String) (access : Access) : Run Nat := do
  let state ← get
  match state.writers.find? fun entry => entry.1 == name with
  | some (_, descriptor) => return descriptor
  | none =>
      match ← working (Work.openRoute state.frame.pid state.frame.cwd ⟨name⟩ access) with
      | .ok descriptor =>
          modify fun state => { state with writers := (name, descriptor) :: state.writers }
          return descriptor
      | .error e => fail ("cannot open \"" ++ name ++ "\" for output (" ++ describe e ++ ")")

def putInto (target : Target) (name : String) (bytes : Bytes) : Run Unit := do
  if name == "-" || name == "/dev/stdout" then put bytes
  else
    let pid := (← get).frame.pid
    let descriptor ← if name == "/dev/stderr" then pure 2
      else writerOf name (if target = .append then .appending else .writing)
    match ← working (Work.write pid descriptor bytes) with
    | none => pure ()
    | some e => fail ("close failed on file \"" ++ name ++ "\" (" ++ describe e ++ ")")

def putCommand (command : String) (bytes : Bytes) : Run Unit := do
  let state ← get
  match state.pipes.find? fun entry => entry.1 == command with
  | some (_, before) =>
      set { state with
        pipes := (command, before ++ bytes) :: state.pipes.filter fun entry => entry.1 != command }
  | none =>
      flush
      modify fun state => { state with pipes := (command, bytes) :: state.pipes }

def statusOf : Ending → Nat
  | .exited code => code
  | .killed signal => 256 + signal

def setChannel (descriptor : Nat) (channel : Channel) (channels : Channels) : Channels :=
  (descriptor, channel) :: channels.filter fun entry => entry.1 != descriptor

/-- Only the descriptors that commands are meant to have. -/
def inherited (channels : Channels) : Channels := channels.filter fun entry => entry.1 < 3

def pipeShell : String := "/bin/sh"

def runPipe (command : String) (bytes : Bytes) : Run Nat := do
  let state ← get
  let pid := state.frame.pid
  let (pipe, held) ← working (Work.change fun world =>
    let (pipe, world) := world.makePipe bytes
    let held := world.freeDescriptor pid
    ((pipe, held), world.setChannels pid (setChannel held (.reader pipe) (world.channels pid))))
  let child ← working (state.start (fun channels => setChannel 0 (.reader pipe) (inherited channels))
    pipeShell command)
  working (Work.close pid held)
  return statusOf (← working (Work.wait child))

def runCommand (command : String) : Run Nat := do
  flush
  let state ← get
  let child ← working (state.start inherited "sh" command)
  return statusOf (← working (Work.wait child))

def commandStream (command : String) : Run Stream := do
  let state ← get
  match state.commands.find? fun entry => entry.1 == command with
  | some (_, stream, _) => return stream
  | none =>
      flush
      let pid := state.frame.pid
      let (pipe, held) ← working (Work.change fun world =>
        let (pipe, world) := world.makePipe []
        let held := world.freeDescriptor pid
        ((pipe, held), world.setChannels pid (setChannel held (.reader pipe) (world.channels pid))))
      let child ← working
        (state.start (fun channels => setChannel 1 (.writer pipe) (inherited channels)) pipeShell command)
      let stream : Stream := ⟨held, [], false⟩
      modify fun state => { state with commands := (command, stream, child) :: state.commands }
      return stream

def fileStream (name : String) : Run (Option Stream) := do
  let state ← get
  match state.readers.find? fun entry => entry.1 == name with
  | some (_, stream) => return some stream
  | none =>
      if name == "-" || name == "/dev/stdin" then
        let stream : Stream := ⟨0, [], false⟩
        modify fun state => { state with readers := (name, stream) :: state.readers }
        return some stream
      else
        match ← working (Work.openRoute state.frame.pid state.frame.cwd ⟨name⟩ .reading) with
        | .error _ => return none
        | .ok descriptor =>
            let stream : Stream := ⟨descriptor, [], false⟩
            modify fun state => { state with readers := (name, stream) :: state.readers }
            return some stream

def fetch (stream : Stream) : Run Stream := do
  match ← working (Work.readSome (← get).frame.pid stream.descriptor bufferLimit) with
  | .ok [] => return { stream with finished := true }
  | .ok bytes => return { stream with buffer := stream.buffer ++ bytes }
  | .error e => fail ("read error (" ++ describe e ++ ")")

def fetchAll : Nat → Stream → Run Stream
  | 0, _ => working Work.hang
  | fuel + 1, stream => do
      if stream.finished then return stream else fetchAll fuel (← fetch stream)

def splitAt? (ending : UInt8) (bytes : Bytes) : Option (Bytes × Bytes) :=
  let front := bytes.takeWhile (· != ending)
  match bytes.drop front.length with
  | [] => none
  | _ :: rest => some (front, rest)

def nextLine (ending : UInt8) : Nat → Stream → Run (Option String × Stream)
  | 0, _ => working Work.hang
  | fuel + 1, stream => do
      match splitAt? ending stream.buffer with
      | some (front, rest) => return (some (Text.ofOctets front), { stream with buffer := rest })
      | none =>
          if !stream.finished then nextLine ending fuel (← fetch stream)
          else if stream.buffer.isEmpty then return (none, stream)
          else return (some (Text.ofOctets stream.buffer), { stream with buffer := [] })

def nextParagraph (bytes : Bytes) : Option String × Bytes :=
  let start := bytes.dropWhile (· == 10)
  if start.isEmpty then (none, [])
  else
    let rec endOf : Bytes → Nat
      | 10 :: 10 :: _ => 0
      | [10] => 0
      | _ :: rest => endOf rest + 1
      | [] => 0
    let count := endOf start
    (some (Text.ofOctets (start.take count)), (start.drop count).dropWhile (· == 10))

def nextRecord (stream : Stream) : Run (Option String × Stream) := do
  let ending ← textVariable "RS"
  match ending.toList with
  | [c] => nextLine c.toNat.toUInt8 blockLimit stream
  | [] =>
      let stream ← fetchAll blockLimit stream
      let (record, rest) := nextParagraph stream.buffer
      return (record, { stream with buffer := rest })
  | _ =>
      let stream ← fetchAll blockLimit stream
      if stream.buffer.isEmpty then return (none, stream)
      else
        match readPattern ending with
        | .error problem => fail problem
        | .ok expression =>
            let chars := (Text.ofOctets stream.buffer).toList
            match findFilled expression (chars.length + 1) (.ofChars chars) with
            | none => return (some (String.ofList chars), { stream with buffer := [] })
            | some (start, stop) =>
                return (some (String.ofList (chars.take (chars.length - start.left))),
                  { stream with buffer := Text.octets (String.ofList stop.rest) })

/-- Gives up everything that goes by a name; answers how a command ended, and a negative number if there is
nothing of the name. -/
def close (name : String) : Run Int := do
  let state ← get
  let pid := state.frame.pid
  let pipe := state.pipes.find? fun entry => entry.1 == name
  let command := state.commands.find? fun entry => entry.1 == name
  let reader := state.readers.find? fun entry => entry.1 == name
  let writer := state.writers.find? fun entry => entry.1 == name
  set { state with
    pipes := state.pipes.filter fun entry => entry.1 != name
    commands := state.commands.filter fun entry => entry.1 != name
    readers := state.readers.filter fun entry => entry.1 != name
    writers := state.writers.filter fun entry => entry.1 != name }
  for descriptor in (command.map fun entry => entry.2.1.descriptor).toList ++
      (reader.map fun entry => entry.2.descriptor).toList ++ (writer.map Prod.snd).toList do
    if 2 < descriptor then working (Work.close pid descriptor)
  match pipe, command with
  | some (_, bytes), _ => return ((← runPipe name bytes : Nat) : Int)
  | none, some (_, _, child) => return ((statusOf (← working (Work.wait child)) : Nat) : Int)
  | none, none => return if reader.isSome || writer.isSome then 0 else -1

def closePipes : Run Unit := do
  for (command, bytes) in (← get).pipes do
    let _ ← runPipe command bytes
  modify fun state => { state with pipes := [] }

end Run

end LifecycleHooks.Tool.Records
