import LifecycleHooks.Shell.Pattern
import LifecycleHooks.Tool.Comparing
import LifecycleHooks.Tool.Dates
import LifecycleHooks.Tool.Difference.Format
import LifecycleHooks.Tool.Places

/-!
The program that shows how files differ, or all the files in directories.
-/

namespace LifecycleHooks.Tool.Difference

open Process Text

inductive Style
  | normal
  | unified (context : Nat)
  | contextual (context : Nat)
  | commands
  | revisions
  /-- Only whether there is a difference. -/
  | brief

structure Settings where
  style : Style
  tolerance : Tolerance
  /-- Whether blank lines make no difference. -/
  skipsEmpty : Bool
  tellsSame : Bool
  recursive : Bool
  /-- Whether a file that is not there counts as empty. -/
  countsMissing : Bool
  takesAnything : Bool
  labels : List String
  excluded : List String
  /-- The options as they were written. -/
  written : String

inductive Outcome
  | same
  | different
  | trouble

def Outcome.code : Outcome → Nat
  | same => 0
  | different => 1
  | trouble => 2

def Outcome.worse : Outcome → Outcome → Outcome
  | trouble, _ => trouble
  | _, trouble => trouble
  | different, _ => different
  | same, other => other

structure Side where
  path : String
  node : Option Node

def Side.isDirectory (side : Side) : Bool := side.node.any Node.isDirectory

def kindText (node : Node) : String :=
  match node.content with
  | .directory => "directory"
  | .file bytes => if bytes.isEmpty then "regular empty file" else "regular file"
  | .program _ => "regular file"
  | .link _ => "symbolic link"
  | _ => "character special file"

def heading (mark : String) (format : String) (label : Option String) (side : Side) : String :=
  match label with
  | some label => mark ++ " " ++ label ++ "\n"
  | none =>
      let time := (side.node.map Node.modified).getD 0
      mark ++ " " ++ side.path ++ "\t" ++ Dates.format format time ++ "\n"

def headings (settings : Settings) (left right : Side) : String :=
  let label (i : Nat) : Option String := settings.labels[i]?
  match settings.style with
  | .unified _ =>
      heading "---" "%Y-%m-%d %H:%M:%S.%N %z" (label 0) left ++
        heading "+++" "%Y-%m-%d %H:%M:%S.%N %z" (label 1) right
  | .contextual _ =>
      heading "***" "%a %b %e %H:%M:%S %Y" (label 0) left ++
        heading "---" "%a %b %e %H:%M:%S %Y" (label 1) right
  | _ => ""

def horizonOf : Style → Nat
  | .unified context => context
  | .contextual context => context
  | _ => 0

def isEmptyChange (comparison : Comparison) (change : Change) : Bool :=
  let empty (lines : Array Bytes) (first count : Nat) : Bool :=
    (List.range count).all fun i => (lines.getD (first + i) []).all (· == 10)
  empty comparison.left change.first change.removed && empty comparison.right change.second change.added

/-- Changes that are left when those about empty lines alone do not count. Where lines around are shown,
the changes that are shown together count together. -/
def withoutEmpty (settings : Settings) (comparison : Comparison) : Comparison :=
  let gap := match settings.style with
    | .unified context => 2 * context
    | .contextual context => 2 * context
    | _ => 0
  let groups := match settings.style with
    | .unified _ => grouped gap comparison.changes
    | .contextual _ => grouped gap comparison.changes
    | _ => comparison.changes.map fun change => [change]
  { comparison with changes := (groups.filter fun group => !group.all (isEmptyChange comparison)).flatten }

def withEnd (bytes : Bytes) : Bytes :=
  match bytes.getLast? with
  | none => bytes
  | some 10 => bytes
  | some _ => bytes ++ [10]

/-- Compares the contents of two files. Commands for an editor cannot say that a last line has no end. -/
def compareContents (frame : Frame) (settings : Settings) (nested : Bool) (left right : Side)
    (a b : Bytes) : Work Outcome := do
  let names := left.path ++ " and " ++ right.path
  let shownName (i : Nat) (side : Side) : String := settings.labels.getD i side.path
  let announce : Work Unit :=
    if nested then frame.say ("diff" ++ settings.written ++ " " ++ shownName 0 left ++ " " ++
      shownName 1 right ++ "\n")
    else pure ()
  let same : Work Outcome := do
    if settings.tellsSame then frame.say ("Files " ++ names ++ " are identical\n")
    return .same
  if a == b then same
  else if !settings.takesAnything && (a.contains 0 || b.contains 0) then
    frame.say (match settings.style with
      | .brief => "Files " ++ names ++ " differ\n"
      | _ => "Binary files " ++ names ++ " differ\n")
    return .different
  else
    let edits := match settings.style with
      | .commands => true
      | _ => false
    let ended (bytes : Bytes) : Bytes := if edits then withEnd bytes else bytes
    let comparison := compareLines settings.tolerance (horizonOf settings.style) (linesWithEnds (ended a))
      (linesWithEnds (ended b))
    let endless := if edits then [(a, left), (b, right)].filter fun (bytes, _) => withEnd bytes != bytes
      else []
    let complaints : Work Unit := for (_, side) in endless do
      frame.complain (side.path ++ ": No newline at end of file\n")
    let comparison := if settings.skipsEmpty then withoutEmpty settings comparison else comparison
    if comparison.changes.isEmpty then
      complaints
      if endless.isEmpty then same else return .trouble
    else
      match settings.style with
      | .brief => frame.say ("Files " ++ names ++ " differ\n")
      | style =>
          announce
          frame.say (headings settings left right)
          frame.put (match style with
            | .unified context => unified context comparison
            | .contextual context => contextual context comparison
            | .commands => commands comparison
            | .revisions => revisions comparison
            | _ => normal comparison)
          complaints
      return if endless.isEmpty then .different else .trouble

def sideOf (frame : Frame) (path : String) : Work (Except SystemError Side) := do
  if path == "-" then return .ok ⟨path, none⟩
  else
    match (← frame.view).stat frame.cwd ⟨path⟩ with
    | .ok (_, node) => return .ok ⟨path, some node⟩
    | .error e => return .error e

def contentOf (frame : Frame) (side : Side) : Work (Except SystemError Bytes) :=
  if side.node.isNone && side.path != "-" then return .ok [] else source frame side.path

def compareFiles (frame : Frame) (settings : Settings) (nested : Bool) (left right : Side) :
    Work Outcome := do
  match ← contentOf frame left, ← contentOf frame right with
  | .ok a, .ok b => compareContents frame settings nested left right a b
  | a, b =>
      for (found, side) in [(a, left), (b, right)] do
        match found with
        | .error e => frame.complain (about side.path e)
        | .ok _ => pure ()
      return .trouble

def namesIn (frame : Frame) (settings : Settings) (side : Side) : Work (List String) := do
  match side.node with
  | none => return []
  | some _ =>
      let tree ← frame.view
      match tree.stat frame.cwd ⟨side.path⟩ with
      | .error _ => return []
      | .ok (place, _) =>
          return (tree.children place).filter fun name =>
            !settings.excluded.any fun pattern =>
              Shell.Pattern.hits (Shell.Pattern.ofText pattern.toList) name.toList

def compareSides : Nat → Frame → Settings → Side → Side → Work Outcome
  | 0, _, _, _, _ => return .trouble
  | fuel + 1, frame, settings, left, right => do
      if left.isDirectory && right.isDirectory || left.isDirectory && right.node.isNone ||
          left.node.isNone && right.isDirectory then
        let lefts ← namesIn frame settings left
        let rights ← namesIn frame settings right
        let names := (lefts ++ rights.filter fun name => !lefts.contains name).mergeSort
          fun a b => decide (a ≤ b)
        let mut outcome := Outcome.same
        for name in names do
          let side (parent : Side) (names : List String) : Work Side := do
            let path := below parent.path name
            if names.contains name then
              match ← sideOf frame path with
              | .ok side => return side
              | .error _ => return ⟨path, none⟩
            else return ⟨path, none⟩
          let a ← side left lefts
          let b ← side right rights
          let next ← match a.node, b.node with
            | none, none => pure Outcome.trouble
            | some node, none =>
                if settings.countsMissing && (settings.recursive || !node.isDirectory) then
                  compareSides fuel frame settings a b
                else do
                  frame.say ("Only in " ++ left.path ++ ": " ++ name ++ "\n")
                  pure Outcome.different
            | none, some node =>
                if settings.countsMissing && (settings.recursive || !node.isDirectory) then
                  compareSides fuel frame settings a b
                else do
                  frame.say ("Only in " ++ right.path ++ ": " ++ name ++ "\n")
                  pure Outcome.different
            | some x, some y =>
                if x.isDirectory && y.isDirectory then
                  if settings.recursive then compareSides fuel frame settings a b
                  else do
                    frame.say ("Common subdirectories: " ++ a.path ++ " and " ++ b.path ++ "\n")
                    pure Outcome.same
                else if x.isDirectory || y.isDirectory then do
                  frame.say ("File " ++ a.path ++ " is a " ++ kindText x ++ " while file " ++ b.path ++
                    " is a " ++ kindText y ++ "\n")
                  pure Outcome.different
                else compareFiles frame settings true a b
          outcome := outcome.worse next
        return outcome
      else compareFiles frame settings true left right

/-- Compares what two operands name. A file and a directory are compared by the file of that name in the
directory. -/
def compareOperands (frame : Frame) (settings : Settings) (left right : String) : Work Outcome := do
  let missing (path : String) (found : Except SystemError Side) : Except SystemError Side :=
    match found with
    | .error e => if settings.countsMissing && e = .noSuchFile then .ok ⟨path, none⟩ else .error e
    | found => found
  let a ← sideOf frame left
  let b ← sideOf frame right
  let (left, right) := match a, b with
    | .ok x, .ok y =>
        if x.isDirectory && !y.isDirectory && right != "-" then (below left (lastName right), right)
        else if y.isDirectory && !x.isDirectory && left != "-" then (left, below right (lastName left))
        else (left, right)
    | _, _ => (left, right)
  let a ← sideOf frame left
  let b ← sideOf frame right
  let bothMissing := match a, b with
    | .error _, .error _ => true
    | _, _ => false
  let a := if bothMissing then a else missing left a
  let b := if bothMissing then b else missing right b
  match a, b with
  | .ok x, .ok y =>
      if x.isDirectory && left == right then return .same
      else if x.isDirectory || y.isDirectory then compareSides depthLimit frame settings x y
      else compareFiles frame settings false x y
  | a, b =>
      for (found, path) in [(a, left), (b, right)] do
        match found with
        | .error e => frame.complain (about path e)
        | .ok _ => pure ()
      return .trouble

def styleOf (options : Options) : Except String Style := do
  let length (letter : Char) : Except String (Option Nat) :=
    match options.value? letter with
    | none => .ok none
    | some "" => .ok (some 3)
    | some text =>
        match natural? text with
        | some n => .ok (some n)
        | none => .error ("invalid context length " ++ cited text)
  let wide := max (← length 'U') (← length 'V')
  let broad := max (← length 'C') (← length 'K')
  let unifies := options.has 'u' || wide.isSome
  let surrounds := options.has 'c' || broad.isSome
  let chosen := [unifies, surrounds, options.has 'e', options.has 'n'].filter id
  if 1 < chosen.length then throw "conflicting output style options"
  if options.has 'q' then return .brief
  else if unifies then return .unified (wide.getD 3)
  else if surrounds then return .contextual (broad.getD 3)
  else if options.has 'e' then return .commands
  else if options.has 'n' then return .revisions
  else return .normal

def withoutOperands : List String → List String → List String
  | [], _ => []
  | arg :: args, [] => arg :: args
  | arg :: args, operand :: operands =>
      if arg == operand then withoutOperands args operands
      else arg :: withoutOperands args (operand :: operands)

def diff (frame : Frame) : Work Ending := do
  let grammar : Grammar :=
    ⟨"0123456789abBcC:eiEL:nNqrsTuU:wx:yZW:d",
      [("text", 'a'), ("ignore-space-change", 'b'), ("ignore-blank-lines", 'B'), ("context=?", 'K'),
        ("ed", 'e'), ("ignore-case", 'i'), ("label=", 'L'), ("rcs", 'n'), ("new-file", 'N'), ("brief", 'q'),
        ("recursive", 'r'), ("report-identical-files", 's'), ("unified=?", 'V'), ("ignore-all-space", 'w'),
        ("exclude=", 'x'), ("ignore-trailing-space", 'Z'), ("ignore-tab-expansion", 'E'), ("normal", 'm'),
        ("minimal", 'd'), ("color=?", 'k'), ("strip-trailing-cr", 'R'), ("side-by-side", 'y'),
        ("no-dereference", 'D'), ("initial-tab", 'T'), ("width=", 'W')]⟩
  match grammar.read true frame.args with
  | .error problem => Comparing.misusedTwice frame problem
  | .ok options =>
      match styleOf options with
      | .error problem => Comparing.misusedTwice frame problem
      | .ok style =>
          let settings : Settings :=
            { style := style
              tolerance := ⟨options.has 'i', options.has 'w', options.has 'b', options.has 'Z' || options.has 'R'⟩
              skipsEmpty := options.has 'B', tellsSame := options.has 's', recursive := options.has 'r'
              countsMissing := options.has 'N', takesAnything := options.has 'a'
              labels := options.values 'L', excluded := options.values 'x'
              written := String.join ((withoutOperands frame.args options.operands).map
                fun arg => " " ++ shown arg) }
          match options.operands with
          | [left, right] => return .exited (← compareOperands frame settings left right).code
          | [] => Comparing.misusedTwice frame ("missing operand after " ++ cited frame.program)
          | [one] => Comparing.misusedTwice frame ("missing operand after " ++ cited one)
          | _ :: _ :: extra :: _ => Comparing.misusedTwice frame ("extra operand " ++ cited extra)

end LifecycleHooks.Tool.Difference
