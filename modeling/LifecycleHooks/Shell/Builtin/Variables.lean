import LifecycleHooks.Shell.Builtin.Basic
import LifecycleHooks.Shell.Fields
import LifecycleHooks.Shell.Pattern
import LifecycleHooks.Tool.Basic

/-!
The variables of a shell, its arguments and its settings.
-/

namespace LifecycleHooks.Shell.Builtin

open Process

def showVariables (start : String) (admits : Variable → Bool) : Run Unit := do
  let shown := (← get).bindings.filter admits
  for name in Pattern.sort (shown.map Variable.name) do
    match shown.find? fun v => v.name == name with
    | some v =>
        match v.value with
        | some value => say (start ++ name ++ "=" ++ quoted value ++ "\n")
        | none => if start.isEmpty then pure () else say (start ++ name ++ "\n")
    | none => pure ()

def declare (title : String) (has : Variable → Bool) (give : String → Option String → Run Unit)
    (args : List String) : Run Unit := do
  -- The first option says all there is to be said.
  let first := args.take 1 |>.map fun arg =>
    if "-p".toList.isPrefixOf arg.toList then "-p" else arg
  let (found, names) ← options "p" (first ++ args.drop 1)
  ok
  if names.isEmpty || !found.isEmpty then showVariables (title ++ " ") has
  else
    for arg in names do
      give (← nameIn arg) (splitAssignment arg).2

def protect (name : String) (value : Option String) : Run Unit := do
  match value with
  | some value => assign name value
  | none => pure ()
  modify fun state =>
    match state.find? name with
    | some v => state.put { v with readOnly := true }
    | none => state.put ⟨name, none, false, true⟩

def exportAll : List String → Run Unit := declare "export" Variable.exported exportVariable

def protectAll : List String → Run Unit := declare "readonly" Variable.readOnly protect

def unset (args : List String) : Run Unit := do
  let (found, names) ← options "vf" args
  ok
  if (found.getLast?.map Prod.fst) == some 'f' then
    modify fun state =>
      { state with functions := state.functions.filter fun f => !names.contains f.1 }
  else
    for given in names do
      let name ← nameIn given
      if (← get).isProtected name then abort (name ++ ": is read only")
      else modify fun state => state.remove name

def noTerminal : String := "can't access tty; job control turned off"

def set (args : List String) : Run Unit := do
  ok
  if args.isEmpty then showVariables "" (fun _ => true)
  else
    let reading := Options.read false args ⟨(← get).options, false, "", none, none⟩
    if !reading.shown.isEmpty then say reading.shown
    match reading.unknown with
    | some text => abort ("Illegal option " ++ text)
    | none => pure ()
    if reading.options.has .jobControl then complain noTerminal
    modify fun state =>
      { state with
        options := reading.options.put .jobControl false
        args := reading.rest.getD state.args }

def shift (args : List String) : Run Unit := do
  ok
  let count ← match args with
    | [] => pure 1
    | text :: _ => number text
  if (← get).args.length < count then abort "can't shift that many"
  else modify fun state => { state with args := state.args.drop count }

/-- The next line of the input without its end, and whether it has one. Bytes of zero are left out, and
a signal that the shell takes note of ends the reading. -/
def readText (pid : Pid) : Work (List Char × Bool) := do
  Work.await fun world => world.canReadLine pid 0 || !(world.pending pid).isEmpty
  let ready ← Work.look fun world => world.canReadLine pid 0
  if !ready then return ([], false)
  match ← Work.readLine pid 0 with
  | .error _ => return ([], false)
  | .ok bytes =>
      let ended := bytes.getLast? == some 10
      let text := (if ended then bytes.dropLast else bytes).filter (· != 0)
      return ((Text.ofOctets text).toList, ended)

/-- The characters of lines, with backslashes done; a backslash at the end joins the next line. -/
def readGlyphs (raw : Bool) (pid : Pid) : Nat → Work (Glyphs × Bool)
  | 0 => pure ([], false)
  | fuel + 1 => do
      let (chars, ended) ← readText pid
      if raw then return (chars.map fun c => ⟨c, false⟩, ended)
      else
        let (glyphs, joined) := unescape chars
        if joined && ended then
          let (rest, ended) ← readGlyphs raw pid fuel
          return (glyphs ++ rest, ended)
        else return (glyphs, ended)
where
  unescape : List Char → Glyphs × Bool
    | [] => ([], false)
    | ['\\'] => ([], true)
    | '\\' :: c :: rest =>
        let (glyphs, joined) := unescape rest
        (⟨c, true⟩ :: glyphs, joined)
    | c :: rest =>
        let (glyphs, joined) := unescape rest
        (⟨c, false⟩ :: glyphs, joined)

def read (args : List String) : Run Unit := do
  let (found, names) ← options "p:r" args
  let state ← get
  if names.isEmpty then abort "arg count"
  let raw := found.any fun entry => entry.1 == 'r'
  let (glyphs, ended) ← (readGlyphs raw state.pid 1000 : Work (Glyphs × Bool))
  let fields := Fields.distribute state.separators names.length glyphs
  for (given, i) in names.zipIdx do
    assign (← nameIn given) (textOf (fields.getD i []))
  setStatus (if ended then 0 else 1)

def hide (args : List String) : Run Unit := do
  ok
  if !(← get).inFunction then abort "not in a function"
  for arg in args do
    let (name, value) := splitAssignment arg
    if isName name then
      modify fun state => { state with hidden := (name, state.find? name) :: state.hidden }
      match value with
      | some value => assign name value
      | none => pure ()
    else if value.isNone then abort (name ++ ": bad variable name")
    else modify fun state => { state with hidden := (name, none) :: state.hidden }

/-- Brings the variables back that a function has hidden. A name that is none is not noticed before. -/
def unhide : Run Unit := do
  let hidden := (← get).hidden
  modify fun state => { state with hidden := [] }
  for (name, before) in hidden do
    if !isName name then
      modify fun state => { state with builtin := none }
      abort (name ++ ": bad variable name")
    modify fun state =>
      match before with
      | some v => state.put v
      | none => state.remove name

structure OptionFound where
  letter : Char
  value : Option String
  /-- The number of the argument to go on with, and the place in the one before. -/
  next : Nat
  place : Option Nat
  problem : Option String

def nextOption (letters : List Char) (args : List String) (index : Nat) (place : Option Nat) :
    Option OptionFound × Nat :=
  let silent := letters.head? == some ':'
  let current := (args.getD (index - 2) "").toList
  let pending := match place with
    | some n => if 1 < index && n ≤ current.length then current.drop n else []
    | none => []
  let start : Option (List Char × Nat) :=
    if !pending.isEmpty then some (pending, index)
    else
      match (args[index - 1]?).map String.toList with
      | some ('-' :: c :: rest) =>
          if c == '-' && rest.isEmpty then none else some (c :: rest, index + 1)
      | _ => none
  match start with
  | none => (none, if pending.isEmpty && args[index - 1]? == some "--" then index + 1 else index)
  | some ([], _) => (none, index)
  | some (c :: rest, next) =>
      let argument := (args.getD (next - 2) "").toList
      let placed := some (argument.length - rest.length)
      let found : OptionFound := match letters.dropWhile (· != c) with
        | [] =>
            if silent then ⟨'?', some (String.singleton c), next, placed, none⟩
            else ⟨'?', none, next, placed, some ("Illegal option -" ++ String.singleton c)⟩
        | _ :: ':' :: _ =>
            if !rest.isEmpty then ⟨c, some (String.ofList rest), next, none, none⟩
            else
              match args[next - 1]? with
              | some value => ⟨c, some value, next + 1, none, none⟩
              | none =>
                  if silent then ⟨':', some (String.singleton c), next, none, none⟩
                  else ⟨'?', none, next, none, some ("No arg for -" ++ String.singleton c ++ " option")⟩
        | _ => ⟨c, some "", next, placed, none⟩
      (some found, found.next)

def getopts (args : List String) : Run Unit := do
  match args with
  | letters :: name :: rest =>
      ok
      let state ← get
      let given := if rest.isEmpty then state.args else rest
      let index := max 1 (((state.value? "OPTIND").bind Tool.natural?).getD 1)
      let (found, next) := nextOption letters.toList given index state.optionPlace
      match found with
      | some found =>
          match found.problem with
          | some problem => (Work.writeText state.pid 2 (problem ++ "\n") : Work Unit)
          | none => pure ()
          match found.value with
          | some value => assign "OPTARG" value
          | none => modify fun state => state.remove "OPTARG"
          assign (← nameIn name) (String.singleton found.letter)
      | none =>
          assign (← nameIn name) "?"
          setStatus 1
      assign "OPTIND" (toString next)
      modify fun state => { state with optionPlace := found.bind OptionFound.place }
  | _ => abort "Usage: getopts optstring var [arg...]"

end LifecycleHooks.Shell.Builtin
