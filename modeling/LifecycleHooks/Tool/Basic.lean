import LifecycleHooks.Process.Work
import LifecycleHooks.Tool.Amount
import LifecycleHooks.Tool.Naming
import LifecycleHooks.Tool.Options

/-!
What the programs of the system have in common: their arguments, what they read and write, and how
they complain. All texts in them are texts of octets.
-/

namespace LifecycleHooks.Tool

open Process Text

structure Frame where
  pid : Pid
  cwd : Location
  environment : List (String × String)
  name : String
  args : List String

def ok : Ending := .exited 0

def failed : Ending := .exited 1

def ofBool (fine : Bool) : Ending := if fine then ok else failed

def describe : SystemError → String
  | .number n => SystemError.describe n
  | other => other.message

def about (operand : String) (e : SystemError) : String := shown operand ++ ": " ++ describe e

namespace Frame

def complain (frame : Frame) (text : String) : Work Unit :=
  Work.writeText frame.pid 2 (frame.name ++ ": " ++ text ++ "\n")

def program (frame : Frame) : String := (frame.name.splitOn "/").getLast?.getD ""

def misuseCode (frame : Frame) : Nat :=
  let program := frame.program
  if ["env", "nohup", "nice", "timeout", "chroot", "stdbuf"].contains program then 125
  else if program == "flock" then 64
  else if ["ls", "dir", "sort", "printenv", "grep", "egrep", "fgrep", "cmp", "diff", "expr", "tty"].contains
    program then 2
  else 1

def misused (frame : Frame) (text : String) : Work Ending := do
  if !text.isEmpty then frame.complain text
  Work.writeText frame.pid 2 ("Try '" ++ frame.name ++ " --help' for more information.\n")
  return .exited frame.misuseCode

def writeProblem (frame : Frame) (e : SystemError) : String :=
  match frame.program with
  | "sed" => "couldn't flush stdout: " ++ describe e
  | "yes" => "standard output: " ++ describe e
  | _ => "write error: " ++ describe e

def put (frame : Frame) (bytes : Bytes) : Work Unit := do
  match ← Work.write frame.pid 1 bytes with
  | none => pure ()
  | some e =>
      frame.complain (frame.writeProblem e)
      Work.stop (.exited (if frame.program == "sed" then 4 else frame.misuseCode))

def say (frame : Frame) (text : String) : Work Unit := frame.put (Text.octets text)

def view (frame : Frame) : Work FileTree := Work.view frame.pid

end Frame

def withSource {α : Type} (frame : Frame) (operand : String)
    (use : Nat → Work (Except SystemError α)) : Work (Except SystemError α) := do
  if operand == "-" then use 0
  else
    match ← Work.openRoute frame.pid frame.cwd ⟨operand⟩ .reading with
    | .error e => return .error e
    | .ok descriptor =>
        let result ← use descriptor
        Work.close frame.pid descriptor
        return result

def source (frame : Frame) (operand : String) : Work (Except SystemError Bytes) :=
  withSource frame operand (Work.readAll frame.pid)

def attempt (change : World → Except SystemError World) : Work (Option SystemError) :=
  Work.change fun world =>
    match change world with
    | .ok world => (none, world)
    | .error e => (some e, world)

def blockSize : Nat := 8192

def blockLimit : Nat := 1000000

/-- How long a full block takes, in microseconds. -/
def blockCost : Nat := 500

def throughBlocks {σ : Type} (frame : Frame) (descriptor : Nat) (step : σ → Bytes → Work σ) :
    Nat → σ → Work (Except SystemError σ)
  | 0, _ => Work.hang
  | fuel + 1, state => do
      match ← Work.readSome frame.pid descriptor blockSize with
      | .error e => return .error e
      | .ok [] => return .ok state
      | .ok bytes =>
          let state ← step state bytes
          if bytes.length == blockSize then Work.sleep blockCost
          throughBlocks frame descriptor step fuel state

def handOn {σ : Type} (frame : Frame) (descriptor : Nat) (change : σ → Bytes → Bytes × σ) (state : σ) :
    Work (Except SystemError σ) :=
  throughBlocks frame descriptor (fun state bytes => do
    let (changed, state) := change state bytes
    frame.put changed
    return state) blockLimit state

def operandsOr (operands : List String) : List String :=
  if operands.isEmpty then ["-"] else operands

def withOptions (frame : Frame) (short : String) (long : List (String × Char))
    (run : Options → Work Ending) : Work Ending :=
  match Grammar.read ⟨short, long⟩ true frame.args with
  | .ok options => run options
  | .error problem => frame.misused problem

def withLeadingOptions (frame : Frame) (short : String) (long : List (String × Char))
    (run : Options → Work Ending) : Work Ending :=
  match Grammar.read ⟨short, long⟩ false frame.args with
  | .ok options => run options
  | .error problem => frame.misused problem

def forEach (operands : List String) (run : String → Work Bool) : Work Ending := do
  let mut fine := true
  for operand in operands do
    if !(← run operand) then fine := false
  return ofBool fine

def partsOf (ending : UInt8) (bytes : Bytes) : List Bytes :=
  let (current, parts) := bytes.foldl (fun (current, parts) byte =>
    if byte == ending then (([] : Bytes), current.reverse :: parts)
    else (byte :: current, parts)) (([] : Bytes), ([] : List Bytes))
  (if current.isEmpty then parts else current.reverse :: parts).reverse

def linesOf (bytes : Bytes) : List Bytes := partsOf 10 bytes

def unlines (lines : List Bytes) : Bytes := lines.flatMap fun line => line ++ [10]

end LifecycleHooks.Tool
