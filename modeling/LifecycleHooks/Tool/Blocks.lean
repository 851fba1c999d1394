import LifecycleHooks.Tool.Contents

/-!
A program that copies block by block, from one place to another, and counts the blocks.
-/

namespace LifecycleHooks.Tool.Blocks

open Process Text

structure Plan where
  source : Option String
  target : Option String
  readSize : Nat
  writeSize : Nat
  /-- Whether blocks are written as they were read. -/
  together : Bool
  count : Option Nat
  countsBytes : Bool
  skip : Nat
  skipsBytes : Bool
  seek : Nat
  seeksBytes : Bool
  fills : Bool
  conversions : List String
  appends : Bool
  status : String

def Plan.start : Plan :=
  ⟨none, none, 512, 512, false, none, false, 0, false, 0, false, false, [], false, ""⟩

def unit? : List Char → Option Nat
  | ['w'] => some 2
  | letters => Amount.multiple? letters

def factor? (text : String) : Option Nat := do
  let digits := text.toList.takeWhile Char.isDigit
  let n ← natural? (String.ofList digits)
  let unit ← unit? (text.toList.drop digits.length)
  return n * unit

def amount? (text : String) : Option Nat := do
  let factors ← (text.splitOn "x").mapM factor?
  return factors.foldl (· * ·) 1

abbrev Refusal : Type := String × Bool

def conversionNames : List String :=
  ["lcase", "ucase", "swab", "sync", "notrunc", "noerror", "nocreat", "excl", "fsync", "fdatasync",
    "sparse"]

def flagNames : List String :=
  ["append", "cio", "direct", "directory", "dsync", "sync", "fullblock", "nonblock", "noatime", "nocache",
    "noctty", "nofollow", "nolinks", "binary", "text", "count_bytes", "skip_bytes", "seek_bytes"]

def Plan.read (plan : Plan) (operand : String) : Except Refusal Plan := do
  let name := operand.toList.takeWhile (· != '=')
  if name.length = operand.length then throw ("unrecognized operand " ++ cited operand, true)
  let value := String.ofList (operand.toList.drop (name.length + 1))
  let number : Except Refusal Nat :=
    match amount? value with
    | some n => .ok n
    | none => .error ("invalid number: " ++ cited value, false)
  let size : Except Refusal Nat := do
    match ← number with
    | 0 => throw ("invalid number: " ++ cited value, false)
    | n => return n
  let ofBytes := value.toList.getLast? == some 'B' && (natural? (String.ofList value.toList.dropLast)).isSome
  let words := (value.splitOn ",").filter (!·.isEmpty)
  match String.ofList name with
  | "if" => return { plan with source := some value }
  | "of" => return { plan with target := some value }
  | "bs" =>
      let n ← size
      return { plan with readSize := n, writeSize := n, together := true }
  | "ibs" => return { plan with readSize := ← size }
  | "obs" => return { plan with writeSize := ← size }
  | "cbs" => let _ ← number; return plan
  | "count" =>
      if ofBytes then
        return { plan with count := natural? (String.ofList value.toList.dropLast), countsBytes := true }
      return { plan with count := some (← number) }
  | "skip" | "iseek" => return { plan with skip := ← number }
  | "seek" | "oseek" => return { plan with seek := ← number }
  | "status" =>
      if ["none", "noxfer", "progress"].contains value then return { plan with status := value }
      throw ("invalid status level: " ++ cited value, true)
  | "conv" =>
      match words.find? fun word => !conversionNames.contains word with
      | some word => throw ("invalid conversion: " ++ cited word, true)
      | none => return { plan with conversions := plan.conversions ++ words }
  | "iflag" =>
      match words.find? fun word => !flagNames.contains word with
      | some word => throw ("invalid input flag: " ++ cited word, true)
      | none =>
          return { plan with
            fills := plan.fills || words.contains "fullblock"
            countsBytes := plan.countsBytes || words.contains "count_bytes"
            skipsBytes := plan.skipsBytes || words.contains "skip_bytes" }
  | "oflag" =>
      match words.find? fun word => !flagNames.contains word with
      | some word => throw ("invalid output flag: " ++ cited word, true)
      | none =>
          return { plan with
            appends := plan.appends || words.contains "append"
            seeksBytes := plan.seeksBytes || words.contains "seek_bytes" }
  | _ => throw ("unrecognized operand " ++ cited operand, true)

def Plan.ofArgs (args : List String) : Except Refusal Plan := do
  let plan ← args.foldlM Plan.read Plan.start
  if plan.conversions.contains "lcase" && plan.conversions.contains "ucase" then
    throw ("cannot combine lcase and ucase", false)
  return plan

def swapped : Bytes → Bytes
  | a :: b :: rest => b :: a :: swapped rest
  | rest => rest

def Plan.convert (plan : Plan) (block : Bytes) : Bytes :=
  let has (name : String) : Bool := plan.conversions.contains name
  let block := if has "sync" then block ++ List.replicate (plan.readSize - block.length) 0 else block
  let block := if has "swab" then swapped block else block
  block.map fun byte =>
    if has "ucase" && 97 ≤ byte && byte ≤ 122 then byte - 32
    else if has "lcase" && 65 ≤ byte && byte ≤ 90 then byte + 32
    else byte

/-- The blocks that are read, in the opposite order, and why no more could be read. `fuel` bounds their
number, `left` the bytes. -/
def readBlocks (frame : Frame) (plan : Plan) (descriptor : Nat) :
    Nat → Option Nat → List Bytes → Work (List Bytes × Option SystemError)
  | 0, _, blocks => return (blocks, none)
  | fuel + 1, left, blocks => do
      let size := min plan.readSize (left.getD plan.readSize)
      if size = 0 then return (blocks, none)
      let reading := if plan.fills then Work.read frame.pid descriptor size
        else Work.readSome frame.pid descriptor size
      match ← reading with
      | .error e => return (blocks, some e)
      | .ok [] => return (blocks, none)
      | .ok block => readBlocks frame plan descriptor fuel (left.map (· - block.length)) (block :: blocks)

def tally (size : Nat) (lengths : List Nat) : String :=
  let whole := (lengths.filter (· == size)).length
  toString whole ++ "+" ++ toString (lengths.length - whole)

/-- The lengths of the blocks in which so many bytes are written. -/
def lengthsOf (size total : Nat) : List Nat :=
  List.replicate (total / size) size ++ (if total % size = 0 then [] else [total % size])

def Plan.summary (plan : Plan) (read written : List Nat) : String :=
  let total := written.foldl (· + ·) 0
  let blocks := tally plan.readSize read ++ " records in\n" ++ tally plan.writeSize written ++ " records out\n"
  if plan.status == "none" then ""
  else if plan.status == "noxfer" then blocks
  else blocks ++ toString total ++ (if total = 1 then " byte" else " bytes") ++ " copied, 0.0001 s, 0.0 kB/s\n"

/-- Where copied bytes go: a descriptor, its name, and what stands in front of them and behind them. -/
structure Outlet where
  descriptor : Nat
  name : String
  front : Bytes
  old : Bytes

/-- Opens the file that is written to. So many bytes of it are passed over, and what it holds behind what
is written stays only if that is asked for. -/
def openTarget (frame : Frame) (plan : Plan) (target : String) : Work (Except String Outlet) := do
  let keeps := plan.conversions.contains "notrunc"
  let offset := if plan.seeksBytes then plan.seek else plan.seek * plan.writeSize
  let tree ← frame.view
  let old := match tree.readBytes frame.cwd ⟨target⟩ with
    | .ok old => old
    | .error _ => []
  let access := if plan.appends && keeps then Access.appending else .writing
  match ← Work.openRoute frame.pid frame.cwd ⟨target⟩ access with
  | .error e => return .error ("failed to open " ++ quote target ++ ": " ++ describe e)
  | .ok descriptor =>
      let front := old.take offset ++ List.replicate (offset - old.length) 0
      if access = .appending then return .ok ⟨descriptor, quote target, [], []⟩
      else return .ok ⟨descriptor, quote target, front, if keeps then old else []⟩

def skipInput (frame : Frame) (plan : Plan) (descriptor : Nat) : Work Bool := do
  let wanted := if plan.skipsBytes then plan.skip else plan.skip * plan.readSize
  if wanted = 0 then return true
  match ← Work.read frame.pid descriptor wanted with
  | .ok bytes => return decide (wanted ≤ bytes.length)
  | .error _ => return true

def copy (frame : Frame) (plan : Plan) (descriptor : Nat) (outlet : Outlet) : Work Ending := do
  let source := plan.source.getD "standard input"
  if !(← skipInput frame plan descriptor) then
    frame.complain (shown source ++ ": cannot skip to specified offset")
  let (blocks, problem) ← readBlocks frame plan descriptor
    (if plan.countsBytes then blockLimit else plan.count.getD blockLimit)
    (if plan.countsBytes then plan.count else none) []
  let blocks := blocks.reverse
  let written := blocks.map plan.convert
  let bytes := written.flatten
  match ← Work.write frame.pid outlet.descriptor
      (outlet.front ++ bytes ++ outlet.old.drop (outlet.front.length + bytes.length)) with
  | some e =>
      frame.complain ("error writing " ++ outlet.name ++ ": " ++ describe e)
      return failed
  | none =>
      match problem with
      | some e => frame.complain ("error reading " ++ quote source ++ ": " ++ describe e)
      | none => pure ()
      let lengths := if plan.together then written.map List.length else lengthsOf plan.writeSize bytes.length
      Work.writeText frame.pid 2 (plan.summary (blocks.map List.length) lengths)
      return ofBool problem.isNone

def openSource (frame : Frame) (plan : Plan) : Work (Except String Nat) := do
  match plan.source with
  | none => return .ok 0
  | some source =>
      match ← Work.openRoute frame.pid frame.cwd ⟨source⟩ .reading with
      | .error e => return .error ("failed to open " ++ quote source ++ ": " ++ describe e)
      | .ok descriptor => return .ok descriptor

def dd (frame : Frame) : Work Ending := do
  let args := if frame.args.head? == some "--" then frame.args.drop 1 else frame.args
  let refuse (problem : String) : Work Ending := do
    frame.complain problem
    return failed
  match Plan.ofArgs args with
  | .error (problem, true) => frame.misused problem
  | .error (problem, false) => refuse problem
  | .ok plan =>
      match ← openSource frame plan with
      | .error problem => refuse problem
      | .ok descriptor =>
          match plan.target with
          | none => copy frame plan descriptor ⟨1, quote "standard output", [], []⟩
          | some target =>
              match ← openTarget frame plan target with
              | .error problem => refuse problem
              | .ok outlet => copy frame plan descriptor outlet

end LifecycleHooks.Tool.Blocks
