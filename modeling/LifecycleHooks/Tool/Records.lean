import LifecycleHooks.Tool.Records.Run

/-!
The program that reads a program for records, and follows its rules for what other arguments name.
-/

namespace LifecycleHooks.Tool.Records

open Process Text

structure Request where
  separator : Option String
  assignments : List String
  files : List String
  operands : List String

def Request.read (request : Request) : Nat → List String → Except String Request
  | 0, args => .ok { request with operands := args }
  | _, [] => .ok request
  | fuel + 1, arg :: rest =>
      match arg.toList with
      | ['-', '-'] => .ok { request with operands := rest }
      | '-' :: letter :: value =>
          let add (value : String) : Option Request :=
            match letter with
            | 'F' => some { request with separator := some value }
            | 'v' => some { request with assignments := request.assignments ++ [value] }
            | 'f' => some { request with files := request.files ++ [value] }
            | _ => none
          match add (String.ofList value), value, rest with
          | none, _, _ => .error ("not an option: " ++ arg)
          | some request, _ :: _, rest => Request.read request fuel rest
          | some _, [], [] => .error ("option -" ++ String.singleton letter ++ " lacks argument")
          | some _, [], value :: rest => Request.read ((add value).getD request) fuel rest
      | _ => .ok { request with operands := arg :: rest }

abbrev Refusal : Type := String

def programOfFiles (frame : Frame) : List String → Work (Except Refusal Program)
  | [] => return .ok ⟨[], []⟩
  | file :: rest => do
      match ← Tool.source frame file with
      | .error e => return .error ("cannot open \"" ++ file ++ "\" (" ++ describe e ++ ")")
      | .ok bytes =>
          match readProgram (Text.ofOctets bytes) with
          | .error fault => return .error (file ++ ": line " ++ toString fault.line ++ ": " ++ fault.problem)
          | .ok program =>
              match ← programOfFiles frame rest with
              | .error refusal => return .error refusal
              | .ok others =>
                  return .ok ⟨program.rules ++ others.rules, program.definitions ++ others.definitions⟩

def newState (frame : Frame) (definitions : List Definition) (arguments : List String)
    (start : (Channels → Channels) → String → String → Work Pid) : State :=
  let table (entries : List (String × String)) : Table :=
    entries.reverse.map fun (key, value) => ⟨key, .input value, false⟩
  let listed : Table := (arguments.zipIdx.map fun (text, i) => ⟨toString i, .input text, true⟩).reverse
  let text (name value : String) : String × Slot := (name, .value (.text value))
  let number (name : String) (value : Float) : String × Slot := (name, .value (.number value))
  { frame := frame, definitions := definitions, start := start
    globals := Fields.ofList
      [text "FS" " ", text "OFS" " ", text "ORS" "\n", text "RS" "\n", text "SUBSEP" "\x1c",
        text "CONVFMT" "%.6g", text "OFMT" "%.6g", text "FILENAME" "", number "NR" 0, number "FNR" 0,
        number "RSTART" 0, number "RLENGTH" (-1), number "ARGC" (Float.ofNat arguments.length),
        ("ENVIRON", .table 0), ("ARGV", .table 1)]
    locals := [], tables := [(1, listed), (0, table frame.environment)], nextTable := 2
    record := "", fields := [], main := none, argument := 1, opened := false
    readers := [], commands := [], writers := [], pipes := [], buffered := [], begun := [], code := 0 }

def start (request : Request) (program : Program) : Run Unit := do
  match request.separator with
  | some text => Run.setVariable "FS" (.text (unescaped text))
  | none => pure ()
  for assignment in request.assignments do
    match Run.assignment? assignment with
    | some (name, value) => Run.setVariable name (.input (unescaped value))
    | none => pure ()
  Run.program program

def awk (frame : Frame) (starting : (Channels → Channels) → String → String → Work Pid) : Work Ending := do
  let refuse (problem : String) : Work Ending := do
    frame.complain problem
    return .exited 2
  match Request.read ⟨none, [], [], []⟩ (frame.args.length + 1) frame.args with
  | .error problem => refuse problem
  | .ok request =>
      match request.assignments.find? fun text => (Run.assignment? text).isNone with
      | some text => refuse ("improper assignment: -v " ++ text)
      | none =>
          let (found, operands) ← if request.files.isEmpty then
              pure (match readProgram (request.operands.headD "") with
                | .error fault => Except.error ("line " ++ toString fault.line ++ ": " ++ fault.problem)
                | .ok program => .ok program, request.operands.drop 1)
            else pure (← programOfFiles frame request.files, request.operands)
          match found with
          | .error problem => refuse problem
          | .ok program =>
              let state := newState frame program.definitions (frame.program :: operands) starting
              let (_, state) ← (start request program).run state
              return .exited state.code

end LifecycleHooks.Tool.Records
