import LifecycleHooks.Process.Executable
import LifecycleHooks.Tool.Places

/-!
Programs that tell who is working here, on what, and with which programs. Everything is done by the one
account that may do everything.
-/

namespace LifecycleHooks.Tool.Account

open Process Text

abbrev Names : Type := List (String × Nat)

def users : Names :=
  [("root", 0), ("daemon", 1), ("bin", 2), ("sys", 3), ("sync", 4), ("games", 5), ("man", 6), ("lp", 7),
    ("mail", 8), ("news", 9), ("uucp", 10), ("proxy", 13), ("www-data", 33), ("backup", 34), ("list", 38),
    ("irc", 39), ("nobody", 65534)]

def groups : Names :=
  [("root", 0), ("daemon", 1), ("bin", 2), ("sys", 3), ("adm", 4), ("tty", 5), ("disk", 6), ("lp", 7),
    ("mail", 8), ("news", 9), ("uucp", 10), ("man", 12), ("proxy", 13), ("kmem", 15), ("sudo", 27),
    ("www-data", 33), ("backup", 34), ("operator", 37), ("list", 38), ("irc", 39), ("shadow", 42),
    ("utmp", 43), ("video", 44), ("staff", 50), ("games", 60), ("users", 100), ("nogroup", 65534)]

def numberOf? (names : Names) (text : String) : Option Nat :=
  ((names.find? fun entry => entry.1 == text).map Prod.snd).or (natural? text)

def nameOf (names : Names) (number : Nat) : String :=
  ((names.find? fun entry => entry.2 == number).map Prod.fst).getD (toString number)

def groupOf (user : Nat) : Nat :=
  match user with
  | 4 => 65534
  | 5 => 60
  | 6 => 12
  | other => other

def describeUser (options : Options) (user : Nat) : String :=
  let group := groupOf user
  let stop := if options.has 'z' then "\x00" else "\n"
  match options.last? ['u', 'g', 'G'] with
  | some 'u' => (if options.has 'n' then nameOf users user else toString user) ++ stop
  | some _ => (if options.has 'n' then nameOf groups group else toString group) ++ stop
  | none =>
      let shown := toString group ++ "(" ++ nameOf groups group ++ ")"
      "uid=" ++ toString user ++ "(" ++ nameOf users user ++ ") gid=" ++ shown ++ " groups=" ++ shown ++ stop

def id (frame : Frame) : Work Ending :=
  withOptions frame "agGnruzZ"
      [("context", 'Z'), ("group", 'g'), ("groups", 'G'), ("name", 'n'), ("real", 'r'), ("user", 'u'),
        ("zero", 'z')] fun options => do
    let refuse (problem : String) : Work Ending := do
      frame.complain problem
      return failed
    let chosen := (['u', 'g', 'G'].filter options.has).length
    if 1 < chosen then refuse "cannot print \"only\" of more than one choice"
    else if chosen = 0 && (options.has 'n' || options.has 'r') then
      refuse "cannot print only names or real IDs in default format"
    else if chosen = 0 && options.has 'z' then
      refuse "option --zero not permitted in default format"
    else if options.operands.isEmpty then
      frame.say (describeUser options 0)
      return ok
    else
      forEach options.operands fun operand => do
        match (numberOf? users operand).filter fun n => users.any fun entry => entry.2 == n with
        | some user =>
            frame.say (describeUser options user)
            return true
        | none =>
            frame.complain (quote operand ++ ": no such user")
            return false

def fact (text : String) (frame : Frame) : Work Ending :=
  withOptions frame "" [] fun options => do
    match options.operands with
    | extra :: _ => frame.misused ("extra operand " ++ cited extra)
    | [] =>
        frame.say (text ++ "\n")
        return ok

def whoami : Frame → Work Ending := fact "root"

def arch : Frame → Work Ending := fact "x86_64"

def groupsOf (frame : Frame) : Work Ending :=
  withOptions frame "" [] fun options => do
    if options.operands.isEmpty then
      frame.say "root\n"
      return ok
    else
      forEach options.operands fun operand => do
        match users.find? fun entry => entry.1 == operand with
        | some (name, user) =>
            frame.say (name ++ " : " ++ nameOf groups (groupOf user) ++ "\n")
            return true
        | none =>
            frame.complain (quote operand ++ ": no such user")
            return false

/-- Nobody has logged in, and nobody sits at a terminal. -/
def logname (frame : Frame) : Work Ending :=
  withOptions frame "" [] fun options => do
    match options.operands with
    | extra :: _ => frame.misused ("extra operand " ++ cited extra)
    | [] =>
        frame.complain "no login name"
        return failed

def tty (frame : Frame) : Work Ending :=
  withOptions frame "s" [("silent", 's'), ("quiet", 's')] fun options => do
    match options.operands with
    | extra :: _ => frame.misused ("extra operand " ++ cited extra)
    | [] =>
        if !options.has 's' then frame.say "not a tty\n"
        return failed

def systemFact : Char → String
  | 's' => "Linux"
  | 'n' => "localhost"
  | 'r' => "6.1.0"
  | 'v' => "#1 SMP PREEMPT_DYNAMIC"
  | 'o' => "GNU/Linux"
  | _ => "x86_64"

def uname (frame : Frame) : Work Ending :=
  withOptions frame "asnrvmpio"
      [("all", 'a'), ("kernel-name", 's'), ("nodename", 'n'), ("kernel-release", 'r'),
        ("kernel-version", 'v'), ("machine", 'm'), ("processor", 'p'), ("hardware-platform", 'i'),
        ("operating-system", 'o')] fun options => do
    match options.operands with
    | extra :: _ => frame.misused ("extra operand " ++ cited extra)
    | [] =>
        let letters := if options.has 'a' then ['s', 'n', 'r', 'v', 'm', 'o']
          else ['s', 'n', 'r', 'v', 'm', 'p', 'i', 'o'].filter options.has
        let letters := if letters.isEmpty then ['s'] else letters
        frame.say (" ".intercalate (letters.map systemFact) ++ "\n")
        return ok

def pathsOf (tree : FileTree) (cwd : Location) (search name : String) : List String :=
  let starts (path : String) : Bool :=
    match tree.stat cwd ⟨path⟩ with
    | .error _ => false
    | .ok (_, node) =>
        match node.content with
        | .program _ => true
        | .file _ => node.isExecutable
        | _ => false
  let paths := if name.toList.contains '/' then [name]
    else (search.splitOn ":").map fun directory =>
      (if directory.isEmpty then "." else directory) ++ "/" ++ name
  paths.filter starts

def which (frame : Frame) : Work Ending := do
  let search := ((frame.environment.find? fun entry => entry.1 == "PATH").map Prod.snd).getD
    "/usr/local/sbin:/usr/local/bin:/usr/sbin:/usr/bin:/sbin:/bin"
  match Grammar.read ⟨"as", []⟩ false frame.args with
  | .error _ =>
      let bad := ((frame.args.filter fun arg => arg.toList.head? == some '-').flatMap String.toList).find?
        fun c => !(['-', 'a', 's'].contains c)
      Work.writeText frame.pid 2 ("Illegal option -" ++ String.singleton (bad.getD '-') ++ "\n")
      frame.say "Usage: /usr/bin/which [-as] args\n"
      return .exited 2
  | .ok options =>
      if options.operands.isEmpty then return failed
      let tree ← frame.view
      forEach options.operands fun operand => do
        let paths := pathsOf tree frame.cwd search operand
        if !options.has 's' then
          frame.say (String.join ((if options.has 'a' then paths else paths.take 1).map (· ++ "\n")))
        return !paths.isEmpty

def ownerProblem? (onlyGroup : Bool) (text : String) : Option String :=
  let known (names : Names) (part : String) : Bool := part.isEmpty || (numberOf? names part).isSome
  if onlyGroup then if known groups text then none else some ("invalid group: " ++ cited text)
  else
    match text.splitOn ":" with
    | [user] => if known users user then none else some ("invalid user: " ++ cited text)
    | user :: rest =>
        if !known users user then some ("invalid user: " ++ cited text)
        else if !known groups (":".intercalate rest) then some ("invalid group: " ++ cited text)
        else none
    | [] => none

/-- Gives places to somebody. They belong to the one account already. -/
def changeOwner (onlyGroup : Bool) (frame : Frame) : Work Ending :=
  withOptions frame "cfhvRHLP"
      [("changes", 'c'), ("silent", 'f'), ("quiet", 'f'), ("no-dereference", 'h'), ("dereference", 'd'),
        ("verbose", 'v'), ("recursive", 'R'), ("reference=", 'r'), ("from=", 'F'), ("preserve-root", 'p'),
        ("no-preserve-root", 'N')] fun options => do
    let (owner, operands) := match options.value? 'r', options.operands with
      | none, owner :: operands => (some owner, operands)
      | none, [] => (none, [])
      | some _, operands => (some "", operands)
    match owner, operands with
    | none, _ => frame.misused "missing operand"
    | some owner, [] =>
        frame.misused (if owner.isEmpty then "missing operand" else "missing operand after " ++ quote owner)
    | some owner, operands =>
        match ownerProblem? onlyGroup owner with
        | some problem =>
            frame.complain problem
            return failed
        | none =>
            let tree ← frame.view
            forEach operands fun operand => do
              match tree.stat frame.cwd ⟨operand⟩ with
              | .ok (location, _) =>
                  let places := if options.has 'R' then placesBelow tree depthLimit operand location
                    else [(operand, location)]
                  if options.has 'v' then
                    for (name, _) in places do
                      frame.say ((if onlyGroup then "group of " else "ownership of ") ++ quote name ++
                        " retained as " ++ (if onlyGroup then "root" else if owner.toList.contains ':' then
                          "root:root" else "root") ++ "\n")
                  return true
              | .error e =>
                  if !options.has 'f' then
                    frame.complain ("cannot access " ++ quote operand ++ ": " ++ describe e)
                  return false

end LifecycleHooks.Tool.Account
