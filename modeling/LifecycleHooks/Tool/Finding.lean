import LifecycleHooks.Expression.Reader
import LifecycleHooks.Shell.Pattern
import LifecycleHooks.Tool.Listing

/-!
Looking for files: everything at some places and below them is tried by a condition, and what is to be
done is a part of the condition.
-/

namespace LifecycleHooks.Tool.Finding

open Process Text

inductive Amount
  | exactly (n : Int)
  | more (n : Int)
  | less (n : Int)

def Amount.admits (amount : Amount) (n : Int) : Bool :=
  match amount with
  | .exactly m => n == m
  | .more m => m < n
  | .less m => n < m

def amount? (text : String) : Option Amount :=
  match text.toList with
  | '+' :: digits => (natural? (String.ofList digits)).map fun n => .more n
  | '-' :: digits => (natural? (String.ofList digits)).map fun n => .less n
  | _ => (natural? text).map fun n => .exactly n

inductive Clause
  | always
  | never
  | name (pattern : String) (anyCase : Bool)
  | path (pattern : String) (anyCase : Bool)
  | matching (expression : Expression) (anyCase : Bool)
  | linkName (pattern : String)
  | kind (letters : List Char)
  | empty
  /-- A size in units of so many bytes. -/
  | size (unit : Nat) (amount : Amount)
  /-- Permissions: all of them exactly, all of some, or any of some. -/
  | permissions (operator : Char) (bits : Nat)
  | executable
  | newer (moment : Int)
  /-- How long ago there was a change, in units of so many microseconds. -/
  | age (unit : Nat) (amount : Amount)
  | links (amount : Amount)
  | number (n : Nat)
  | print (ending : String)
  | printFormat (format : String)
  | list
  | delete
  | prune
  | quit
  /-- Runs a command for every file, perhaps in its directory. -/
  | execute (command : List String) (inside : Bool)
  /-- Runs a command for many files at once. -/
  | executeAll (id : Nat) (command : List String)
  | not (clause : Clause)
  | both (first second : Clause)
  | either (first second : Clause)
  | inTurn (first second : Clause)

def Clause.acts : Clause → Bool
  | .print _ => true
  | .printFormat _ => true
  | .list => true
  | .delete => true
  | .quit => false
  | .execute _ _ => true
  | .executeAll _ _ => true
  | .not clause => clause.acts
  | .both first second => first.acts || second.acts
  | .either first second => first.acts || second.acts
  | .inTurn first second => first.acts || second.acts
  | _ => false

structure Setting where
  least : Nat
  most : Nat
  deep : Bool

structure Reading where
  setting : Setting
  rest : List String
  batches : Nat

abbrev Step := Except String (Clause × Reading)

structure Surroundings where
  tree : FileTree
  cwd : Location
  now : Int

def size? (text : String) : Option (Nat × Amount) :=
  let letters := text.toList.reverse.takeWhile Char.isAlpha
  let digits := String.ofList (text.toList.take (text.length - letters.length))
  let unit : Option Nat := match letters with
    | [] => some 512
    | ['b'] => some 512
    | ['c'] => some 1
    | ['w'] => some 2
    | ['k'] => some 1024
    | ['M'] => some 1048576
    | ['G'] => some 1073741824
    | _ => none
  match unit, amount? digits with
  | some unit, some amount => some (unit, amount)
  | _, _ => none

def commandOf : List String → List String → Option (List String × Bool × List String)
  | _, [] => none
  | seen, ";" :: rest => some (seen.reverse, false, rest)
  | "{}" :: seen, "+" :: rest => some (seen.reverse, true, rest)
  | seen, word :: rest => commandOf (word :: seen) rest

def minute : Nat := 60000000
def dayLength : Nat := 86400000000

def readTest (around : Surroundings) (reading : Reading) (word : String) (rest : List String) : Step :=
  let plain (clause : Clause) : Step := .ok (clause, { reading with rest := rest })
  let missing : Step := .error ("missing argument to \x60" ++ word ++ "'")
  let valued (make : String → Except String Clause) : Step :=
    match rest with
    | [] => missing
    | value :: rest => (make value).map fun clause => (clause, { reading with rest := rest })
  let pattern (make : String → Clause) : Step := valued fun value => .ok (make value)
  let counted (make : Amount → Clause) : Step :=
    valued fun value =>
      match amount? value with
      | some amount => .ok (make amount)
      | none => .error ("invalid argument \x60" ++ value ++ "' to \x60" ++ word ++ "'")
  let depth (set : Nat → Setting) : Step :=
    match rest with
    | [] => missing
    | value :: rest =>
        match natural? value with
        | some n => .ok (.always, { reading with setting := set n, rest := rest })
        | none =>
            .error ("Expected a positive decimal integer argument to " ++ word ++ ", but got " ++
              cited value)
  let command (inside : Bool) : Step :=
    match commandOf [] rest with
    | some (words, many, after) =>
        if words.isEmpty then missing
        else if many && !inside then
          .ok (.executeAll reading.batches words,
            { reading with rest := after, batches := reading.batches + 1 })
        else .ok (.execute words inside, { reading with rest := after })
    | none => missing
  let regex (anyCase : Bool) : Step :=
    valued fun value =>
      match Expression.read ⟨false, true⟩ value.toList with
      | .ok expression => .ok (.matching expression anyCase)
      | .error problem => .error (problem.message)
  let modified (path : String) : Except String Clause :=
    match around.tree.modified? around.cwd ⟨path⟩ with
    | some moment => .ok (.newer moment)
    | none => .error (quote path ++ ": " ++ describe .noSuchFile)
  match word with
  | "-true" => plain .always
  | "-false" => plain .never
  | "-name" => pattern fun value => .name value false
  | "-iname" => pattern fun value => .name value true
  | "-path" => pattern fun value => .path value false
  | "-wholename" => pattern fun value => .path value false
  | "-ipath" => pattern fun value => .path value true
  | "-iwholename" => pattern fun value => .path value true
  | "-lname" => pattern .linkName
  | "-regex" => regex false
  | "-iregex" => regex true
  | "-type" =>
      valued fun value =>
        let letters := value.toList.filter (· != ',')
        match letters.find? fun c => !(['f', 'd', 'l', 'p', 'c', 'b', 's', 'D'].contains c) with
        | some c => .error ("Unknown argument to -type: " ++ String.singleton c)
        | none => .ok (.kind letters)
  | "-xtype" => pattern fun value => .kind (value.toList.filter (· != ','))
  | "-empty" => plain .empty
  | "-size" =>
      valued fun value =>
        match size? value with
        | some (unit, amount) => .ok (.size unit amount)
        | none => .error ("invalid argument \x60" ++ value ++ "' to \x60-size'")
  | "-perm" =>
      valued fun value =>
        let (operator, text) : Char × String := match value.toList with
          | '-' :: rest => ('-', String.ofList rest)
          | '/' :: rest => ('/', String.ofList rest)
          | _ => ('=', value)
        match Mode.parse? text with
        | some mode => .ok (.permissions operator (mode.apply 0 false 0))
        | none => .error ("invalid mode " ++ quote value)
  | "-executable" => plain .executable
  | "-readable" => plain .always
  | "-writable" => plain .always
  | "-newer" => valued modified
  | "-anewer" => valued modified
  | "-cnewer" => valued modified
  | "-newermt" =>
      valued fun value =>
        match Dates.parse? around.now value with
        | some moment => .ok (.newer moment)
        | none => .error ("I cannot figure out how to interpret " ++ quote value ++
            " as a date or time")
  | "-mtime" => counted (.age dayLength)
  | "-atime" => counted (.age dayLength)
  | "-ctime" => counted (.age dayLength)
  | "-mmin" => counted (.age minute)
  | "-amin" => counted (.age minute)
  | "-cmin" => counted (.age minute)
  | "-links" => counted .links
  | "-inum" =>
      valued fun value => .ok (match natural? value with
        | some n => .number (n - 1000)
        | none => .never)
  | "-samefile" =>
      valued fun value =>
        match around.tree.locateSelf around.cwd ⟨value⟩ with
        | .ok place =>
            match around.tree.number? place with
            | some number => .ok (.number number)
            | none => .error (quote value ++ ": " ++ describe .noSuchFile)
        | .error e => .error (quote value ++ ": " ++ describe e)
  | "-user" =>
      valued fun value =>
        if value == "root" || value == "0" then .ok .always
        else .error (quote value ++ " is not the name of a known user")
  | "-group" =>
      valued fun value =>
        if value == "root" || value == "0" then .ok .always
        else .error (quote value ++ " is not the name of an existing group")
  | "-nouser" => plain .never
  | "-nogroup" => plain .never
  | "-print" => plain (.print "\n")
  | "-print0" => plain (.print "\x00")
  | "-printf" => pattern .printFormat
  | "-ls" => plain .list
  | "-delete" => .ok (.delete, { reading with
      rest := rest, setting := { reading.setting with deep := true } })
  | "-prune" => plain .prune
  | "-quit" => plain .quit
  | "-exec" => command false
  | "-execdir" => command true
  | "-depth" => .ok (.always, { reading with
      rest := rest, setting := { reading.setting with deep := true } })
  | "-d" => .ok (.always, { reading with
      rest := rest, setting := { reading.setting with deep := true } })
  | "-maxdepth" => depth fun n => { reading.setting with most := n }
  | "-mindepth" => depth fun n => { reading.setting with least := n }
  | "-xdev" => plain .always
  | "-mount" => plain .always
  | "-daystart" => plain .always
  | "-noleaf" => plain .always
  | "-follow" => plain .always
  | "-warn" => plain .always
  | "-nowarn" => plain .always
  | "-ignore_readdir_race" => plain .always
  | "-regextype" => valued fun _ => .ok .always
  | _ =>
      if word.toList.head? == some '-' then .error ("unknown predicate \x60" ++ word ++ "'")
      else .error ("paths must precede expression: \x60" ++ word ++ "'")

def orWords : List String := ["-o", "-or"]
def andWords : List String := ["-a", "-and"]

mutual

def readList (around : Surroundings) : Nat → Reading → Step
  | 0, _ => .error "invalid expression"
  | fuel + 1, reading => do
      let (first, reading) ← readEither around fuel reading
      match reading.rest with
      | "," :: rest =>
          let (second, reading) ← readList around fuel { reading with rest := rest }
          return (.inTurn first second, reading)
      | _ => return (first, reading)

def readEither (around : Surroundings) : Nat → Reading → Step
  | 0, _ => .error "invalid expression"
  | fuel + 1, reading => do
      let (first, reading) ← readBoth around fuel reading
      match reading.rest with
      | word :: rest =>
          if orWords.contains word then
            let (second, reading) ← readEither around fuel { reading with rest := rest }
            return (.either first second, reading)
          else return (first, reading)
      | [] => return (first, reading)

def readBoth (around : Surroundings) : Nat → Reading → Step
  | 0, _ => .error "invalid expression"
  | fuel + 1, reading => do
      let (first, reading) ← readNot around fuel reading
      match reading.rest with
      | [] => return (first, reading)
      | word :: rest =>
          if andWords.contains word then
            let (second, reading) ← readBoth around fuel { reading with rest := rest }
            return (.both first second, reading)
          else if orWords.contains word || word == "," || word == ")" then return (first, reading)
          else
            let (second, reading) ← readBoth around fuel reading
            return (.both first second, reading)

def readNot (around : Surroundings) : Nat → Reading → Step
  | 0, _ => .error "invalid expression"
  | fuel + 1, reading =>
      match reading.rest with
      | [] => .error "invalid expression; expected another condition"
      | word :: rest =>
          if word == "!" || word == "-not" then
            (readNot around fuel { reading with rest := rest }).map fun (clause, reading) =>
              (.not clause, reading)
          else if word == "(" then do
            let lacking : Step := .error ("invalid expression; expected to find a ')' but didn't see one." ++
              " Perhaps you need an extra predicate after '('")
            if rest.isEmpty then lacking
            else
              let (clause, reading) ← readList around fuel { reading with rest := rest }
              match reading.rest with
              | ")" :: rest => return (clause, { reading with rest := rest })
              | _ => lacking
          else if orWords.contains word || andWords.contains word || word == "," then
            .error ("invalid expression; you have used a binary operator '" ++ word ++
              "' with nothing before it.")
          else if word == ")" then .error "invalid expression; you have too many ')'"
          else readTest around reading word rest

end

structure Candidate where
  path : String
  start : String
  place : Location
  node : Node
  depth : Nat

/-- How far a search has come: whether what is below is left out, whether everything is over, whether
all went well, and the files that wait for commands. -/
structure State where
  pruned : Bool
  ended : Bool
  fine : Bool
  waiting : List (Nat × String)

def formatField (tree : FileTree) (candidate : Candidate) (c : Char) : Option String :=
  let number := (tree.number? candidate.place).getD 0
  let behind := candidate.path.length - candidate.start.length
  let inner := String.ofList ((candidate.path.toList.drop (candidate.path.length - behind)).dropWhile (· == '/'))
  match c with
  | 'p' => some candidate.path
  | 'f' => some (if lastName candidate.path == "" then candidate.path else lastName candidate.path)
  | 'h' =>
      let above := (upwards 1 candidate.path).getD 1 ""
      some (if above.isEmpty then (if candidate.path.toList.head? == some '/' then "" else ".") else above)
  | 'P' => some inner
  | 'H' => some candidate.start
  | 's' => some (toString candidate.node.size)
  | 'd' => some (toString candidate.depth)
  | 'y' => some (String.singleton (if kindLetter candidate.node == '-' then 'f' else kindLetter candidate.node))
  | 'm' => some (Mode.octalText candidate.node.mode)
  | 'M' => some (permissions candidate.node)
  | 'n' => some (toString (linkCount tree candidate.place number candidate.node))
  | 'i' => some (toString (number + 1000))
  | 'u' => some "root"
  | 'g' => some "root"
  | 'U' => some "0"
  | 'G' => some "0"
  | 'l' => some (match candidate.node.content with
      | .link target => target
      | _ => "")
  | 'k' => some (toString (blocks candidate.node))
  | 'b' => some (toString (blocks candidate.node * 2))
  | 't' => some (Dates.format "%a %b %e %H:%M:%S.%N %Y" candidate.node.modified)
  | '%' => some "%"
  | _ => none

def formatted (tree : FileTree) (candidate : Candidate) : Nat → List Char → String
  | 0, _ => ""
  | _, [] => ""
  | fuel + 1, '\\' :: c :: rest => formatEscape c ++ formatted tree candidate fuel rest
  | fuel + 1, '%' :: rest =>
      let digits := rest.takeWhile fun d => d.isDigit || d == '-'
      match rest.drop digits.length with
      | 'T' :: c :: after =>
          let text := if c == '@' then Dates.format "%s.%N" candidate.node.modified ++ "0"
            else Dates.format (String.ofList ['%', c]) candidate.node.modified
          text ++ formatted tree candidate fuel after
      | c :: after =>
          let text := (formatField tree candidate c).getD (String.ofList ('%' :: digits ++ [c]))
          let width := (natural? (String.ofList (digits.filter Char.isDigit))).getD 0
          (if digits.head? == some '-' then padRight width text else padLeft width text) ++
            formatted tree candidate fuel after
      | [] => "%"
  | fuel + 1, c :: rest => String.singleton c ++ formatted tree candidate fuel rest

def fits (pattern text : String) (anyCase : Bool) : Bool :=
  if anyCase then Shell.Pattern.hits (Shell.Pattern.ofText pattern.toLower.toList) text.toLower.toList
  else Shell.Pattern.hits (Shell.Pattern.ofText pattern.toList) text.toList

def holds (tree : FileTree) (now : Int) (candidate : Candidate) : Clause → Bool
  | .always => true
  | .name pattern anyCase =>
      let name := lastName candidate.path
      fits pattern (if name.isEmpty then "/" else name) anyCase
  | .path pattern anyCase => fits pattern candidate.path anyCase
  | .matching expression anyCase =>
      let whole : Expression := .sequence expression (.holds .finish)
      (whole.matchAt anyCase (Expression.Place.ofChars candidate.path.toList)).isSome
  | .linkName pattern =>
      match candidate.node.content with
      | .link target => fits pattern target false
      | _ => false
  | .kind letters =>
      let letter := kindLetter candidate.node
      letters.contains (if letter == '-' then 'f' else letter)
  | .empty =>
      match candidate.node.content with
      | .file bytes => bytes.isEmpty
      | .directory => (tree.children candidate.place).isEmpty
      | _ => false
  | .size unit amount => amount.admits ((candidate.node.size + unit - 1) / unit : Nat)
  | .permissions operator bits =>
      let mode := candidate.node.mode
      match operator with
      | '-' => mode &&& bits == bits
      | '/' => bits = 0 || mode &&& bits != 0
      | _ => mode == bits
  | .executable => candidate.node.isDirectory || candidate.node.isExecutable
  | .newer moment => moment < candidate.node.modified
  | .age unit amount => amount.admits ((now - candidate.node.modified).tdiv unit)
  | .links amount =>
      amount.admits (linkCount tree candidate.place ((tree.number? candidate.place).getD 0) candidate.node)
  | .number n => tree.number? candidate.place == some n
  | _ => false

def attemptClause (frame : Frame) (run : Location → List String → Work Ending) (candidate : Candidate) :
    Clause → State → Work (Bool × State)
  | .not clause, state => do
      let (value, state) ← attemptClause frame run candidate clause state
      return (!value, state)
  | .both first second, state => do
      let (value, state) ← attemptClause frame run candidate first state
      if value && !state.ended then attemptClause frame run candidate second state
      else return (false, state)
  | .either first second, state => do
      let (value, state) ← attemptClause frame run candidate first state
      if value || state.ended then return (value, state)
      else attemptClause frame run candidate second state
  | .inTurn first second, state => do
      let (_, state) ← attemptClause frame run candidate first state
      attemptClause frame run candidate second state
  | .print ending, state => do
      frame.say (candidate.path ++ ending)
      return (true, state)
  | .printFormat format, state => do
      let tree ← frame.view
      frame.say (formatted tree candidate (format.length + 1) format.toList)
      return (true, state)
  | .list, state => do
      let tree ← frame.view
      let now ← Work.look World.now
      let file := listed tree candidate.path candidate.place candidate.node
      frame.say (padLeft 9 (toString (file.number + 1000)) ++ " " ++ padLeft 6 (toString (blocks file.node)) ++
        " " ++ permissions file.node ++ " " ++ padLeft 3 (toString file.links) ++ " root     root     " ++
        padLeft 8 (toString file.node.size) ++ " " ++ shownTime "locale" now file.node.modified ++ " " ++
        file.name ++ (match file.node.content with
          | .link target => " -> " ++ target
          | _ => "") ++ "\n")
      return (true, state)
  | .delete, state => do
      if candidate.place == frame.cwd then return (true, state)
      else
        match ← attempt (fun world =>
            if candidate.node.isDirectory && !(world.tree.children candidate.place).isEmpty then
              .error SystemError.notEmpty
            else .ok { world with tree := world.tree.remove candidate.place }) with
        | none => return (true, state)
        | some e =>
            frame.complain ("cannot delete " ++ quote candidate.path ++ ": " ++ describe e)
            return (false, { state with fine := false })
  | .prune, state => return (true, { state with pruned := true })
  | .quit, state => return (true, { state with ended := true })
  | .execute command inside, state => do
      let name := if inside then "./" ++ lastName candidate.path else candidate.path
      let words := command.map fun word => name.intercalate (word.splitOn "{}")
      let ending ← run (if inside then candidate.place.dropLast else frame.cwd) words
      return (ending == .exited 0, state)
  | .executeAll id _, state =>
      return (true, { state with waiting := state.waiting ++ [(id, candidate.path)] })
  | clause, state => do
      let tree ← frame.view
      let now ← Work.look World.now
      return (holds tree now candidate clause, state)

/-- Tries everything at a place and below it. `fuel` bounds how deep directories lie. -/
def visit (frame : Frame) (run : Location → List String → Work Ending) (setting : Setting)
    (clause : Clause) (follows : Bool) (start : String) :
    Nat → Nat → String → Location → State → Work State
  | 0, _, _, _, state => pure state
  | fuel + 1, depth, path, place, state => do
      let tree ← frame.view
      let found := if follows || (depth = 0 && start.toList.getLast? == some '/') then
          (tree.stat [] (Route.ofLocation place)).toOption.or
            (tree.statSelf [] (Route.ofLocation place)).toOption
        else (tree.statSelf [] (Route.ofLocation place)).toOption
      match found with
      | none => return state
      | some (target, node) =>
          let candidate : Candidate := ⟨path, start, place, node, depth⟩
          let tried (state : State) : Work State := do
            if depth < setting.least || state.ended then return state
            else return (← attemptClause frame run candidate clause state).2
          let state ← if setting.deep then pure state else tried { state with pruned := false }
          let inner (state : State) : Work State := do
            if state.ended || (state.pruned && !setting.deep) || setting.most ≤ depth ||
                !node.isDirectory then
              return state
            else
              let mut state := state
              for child in sortNames ((← frame.view).children target) do
                if !state.ended then
                  state ← visit frame run setting clause follows start fuel (depth + 1)
                    (below path child) (target ++ [child]) state
              return state
          let state ← inner state
          if setting.deep then tried state else return { state with pruned := false }

def Clause.batches : Clause → List (Nat × List String)
  | .executeAll id command => [(id, command)]
  | .not clause => clause.batches
  | .both first second => first.batches ++ second.batches
  | .either first second => first.batches ++ second.batches
  | .inTurn first second => first.batches ++ second.batches
  | _ => []

/-- The leading options, the places to look at, and the condition. -/
def splitArgs (args : List String) : Bool × List String × List String :=
  let options := args.takeWhile fun arg =>
    ["-L", "-P", "-H"].contains arg || "-O".toList.isPrefixOf arg.toList
  let rest := args.drop options.length
  let isCondition (arg : String) : Bool :=
    arg == "(" || arg == "!" || (arg.toList.head? == some '-' && arg != "-")
  let places := rest.takeWhile fun arg => !isCondition arg
  (options.getLast? == some "-L", if places.isEmpty then ["."] else places, rest.drop places.length)

def find (frame : Frame) (run : Location → List String → Work Ending) : Work Ending := do
  let (follows, places, words) := splitArgs frame.args
  let tree ← frame.view
  let now ← Work.look World.now
  let start : Reading := ⟨⟨0, depthLimit, false⟩, words, 0⟩
  let read : Step := if words.isEmpty then .ok (.always, start)
    else readList ⟨tree, frame.cwd, now⟩ (8 * words.length + 16) start
  let refuse (problem : String) : Work Ending := do
    frame.complain problem
    return failed
  match read with
  | .error problem => refuse problem
  | .ok (clause, reading) =>
      match reading.rest with
      | ")" :: _ => refuse "invalid expression; you have too many ')'"
      | word :: _ => refuse ("paths must precede expression: \x60" ++ word ++ "'")
      | [] =>
          let clause := if clause.acts then clause else .both clause (.print "\n")
          let mut state : State := ⟨false, false, true, []⟩
          for place in places do
            if !state.ended then
              match tree.statSelf frame.cwd ⟨place⟩ with
              | .error e =>
                  frame.complain (quote place ++ ": " ++ describe e)
                  state := { state with fine := false }
              | .ok (location, _) =>
                  state ← visit frame run reading.setting clause follows place depthLimit 0 place location state
          let mut fine := state.fine
          for (id, command) in clause.batches do
            let files := (state.waiting.filter fun entry => entry.1 == id).map Prod.snd
            if !files.isEmpty then
              let words := command.dropLast ++ files
              if (← run frame.cwd words) != .exited 0 then fine := false
          return ofBool fine

end LifecycleHooks.Tool.Finding
