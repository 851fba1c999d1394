import LifecycleHooks.Expression.Reader

/-!
Scripts for editing lines: commands with the addresses of the lines to which they apply.
-/

namespace LifecycleHooks.Tool.Editing

inductive Address
  | line (number : Nat)
  /-- Every so many lines from one on. -/
  | every (first step : Nat)
  | last
  /-- Lines that match an expression; the one that was used last, if none is given. -/
  | hit (expression : Option Expression) (anyCase : Bool)

inductive Finish
  | address (address : Address)
  /-- So many lines behind its first one. -/
  | after (count : Nat)
  /-- At a line whose number is a multiple. -/
  | multiple (count : Nat)

inductive CaseChange
  | upper
  | lower
  | upperOne
  | lowerOne
  | none
  deriving DecidableEq

inductive Part
  | plain (c : Char)
  /-- The match itself or one of its groups. -/
  | found (group : Nat)
  | turn (change : CaseChange)

structure Substitution where
  expression : Option Expression
  replacement : List Part
  anyCase : Bool
  /-- The first match that is replaced. -/
  nth : Option Nat
  /-- Whether those behind it are replaced too. -/
  every : Bool
  print : Bool
  /-- A file to which the outcome is written. -/
  target : Option String

inductive Edit
  | substitute (how : Substitution)
  | transliterate (source target : List Char)
  | print
  | printFirst
  | delete
  | deleteFirst
  | quit (code : Nat)
  | quitSilently (code : Nat)
  | showNumber
  | showName
  | spell (width : Option Nat)
  | append (text : List Char)
  | insert (text : List Char)
  | change (text : List Char)
  | read (path : String)
  | readLine (path : String)
  | write (path : String)
  | writeFirst (path : String)
  | next
  | join
  | hold
  | holdMore
  | fetch
  | fetchMore
  | exchange
  | empty
  | nothing
  | label (name : String)
  /-- Goes on at a label, or at the end if it has no name. -/
  | jump (name : String)
  | jumpIfReplaced (name : String)
  | jumpUnlessReplaced (name : String)
  /-- What follows up to the closing brace belongs together. -/
  | opening
  | closing

structure Command where
  first : Option Address
  second : Option Finish
  negated : Bool
  edit : Edit

/-- Where a mistake is found: so many characters before the end, at the start, or nowhere. -/
inductive Spot
  | left (count : Nat)
  | start
  | nowhere

structure Mistake where
  problem : String
  spot : Spot

namespace Script

def fail {α : Type} (problem : String) (rest : List Char) : Except Mistake α :=
  .error ⟨problem, .left rest.length⟩

def bracket? (chars : List Char) : Option (List Char × List Char) :=
  let front := match chars with
    | '^' :: ']' :: _ => chars.take 2
    | '^' :: _ => chars.take 1
    | ']' :: _ => chars.take 1
    | _ => []
  go chars.length front.reverse (chars.drop front.length)
where
  go : Nat → List Char → List Char → Option (List Char × List Char)
    | 0, _, _ => none
    | _, _, [] => none
    | fuel + 1, seen, '[' :: c :: rest =>
        if c == ':' || c == '.' || c == '=' then
          let name := rest.takeWhile (· != c)
          match rest.drop name.length with
          | d :: ']' :: after => go fuel (']' :: d :: name.reverse ++ c :: '[' :: seen) after
          | _ => go fuel ('[' :: seen) (c :: rest)
        else go fuel ('[' :: seen) (c :: rest)
    | fuel + 1, seen, c :: rest =>
        if c == ']' then some ((c :: seen).reverse, rest)
        else if c == '\n' then none
        else go fuel (c :: seen) rest

/-- The characters up to a delimiter that is not behind a backslash, and what follows. In an
expression, a delimiter in brackets does not count. \x60fuel\x60 bounds their number. -/
def delimited (isExpression : Bool) (delimiter : Char) : Nat → List Char → Option (List Char × List Char)
  | 0, _ => none
  | _, [] => none
  | fuel + 1, '\\' :: c :: rest =>
      (delimited isExpression delimiter fuel rest).map fun (part, after) =>
        (if c == delimiter && (c != '&' || isExpression) then c :: part
          else if c == '\n' && isExpression then '\n' :: part
          else '\\' :: c :: part, after)
  | fuel + 1, c :: rest =>
      if c == delimiter then some ([], rest)
      else if c == '\n' && isExpression then none
      else if c == '[' && isExpression then
        match bracket? rest with
        | some (set, after) =>
            (delimited isExpression delimiter fuel after).map fun (part, after) =>
              (c :: set ++ part, after)
        | none => none
      else (delimited isExpression delimiter fuel rest).map fun (part, after) => (c :: part, after)

def part? (isExpression : Bool) (delimiter : Char) (chars : List Char) : Option (List Char × List Char) :=
  delimited isExpression delimiter (chars.length + 1) chars

/-- An expression over lines, in whose texts the places between lines count as ends. -/
def overLines : Expression → Expression
  | .holds .start => .holds .lineStart
  | .holds .finish => .holds .lineFinish
  | .sequence first second => .sequence (overLines first) (overLines second)
  | .either first second => .either (overLines first) (overLines second)
  | .repeated least most body => .repeated least most (overLines body)
  | .group number body => .group number (overLines body)
  | other => other

def readExpression (extended : Bool) (chars after : List Char) : Except Mistake (Option Expression) :=
  if chars.isEmpty then .ok none
  else
    match Expression.read ⟨extended, true⟩ chars with
    | .ok expression => .ok (some expression)
    | .error problem => fail problem.message after

def readNumber (chars : List Char) : Nat × List Char :=
  let digits := chars.takeWhile Char.isDigit
  (Expression.valueOf digits, chars.drop digits.length)

def isBlank (c : Char) : Bool := c == ' ' || c == '\t'

def skipBlanks (chars : List Char) : List Char := chars.dropWhile isBlank

def readAddressFlags : List Char → Bool × Bool × List Char
  | 'I' :: rest =>
      let (_, lines, after) := readAddressFlags rest
      (true, lines, after)
  | 'M' :: rest =>
      let (anyCase, _, after) := readAddressFlags rest
      (anyCase, true, after)
  | rest => (false, false, rest)

def readAddress (extended : Bool) (chars : List Char) : Except Mistake (Option Address × List Char) :=
  let hit (delimiter : Char) (rest : List Char) : Except Mistake (Option Address × List Char) :=
    match part? true delimiter rest with
    | none => fail "unterminated address regex" []
    | some (pattern, after) => do
        let expression ← readExpression extended pattern after
        let (anyCase, lines, after) := readAddressFlags after
        return (some (.hit (if lines then expression.map overLines else expression) anyCase), after)
  match chars with
  | '$' :: rest => .ok (some .last, rest)
  | '/' :: rest => hit '/' rest
  | '\\' :: delimiter :: rest => hit delimiter rest
  | c :: _ =>
      if c.isDigit then
        let (number, rest) := readNumber chars
        match skipBlanks rest with
        | '~' :: after =>
            let (step, after) := readNumber (skipBlanks after)
            .ok (some (if step = 0 then .line number else .every number step), after)
        | _ => .ok (some (.line number), rest)
      else .ok (none, chars)
  | [] => .ok (none, [])

def readFinish (extended : Bool) (chars : List Char) : Except Mistake (Finish × List Char) := do
  match chars with
  | '+' :: c :: rest =>
      if c.isDigit then
        let (count, after) := readNumber (c :: rest)
        return (.after count, after)
      else fail "unexpected \x60,'" rest
  | '~' :: c :: rest =>
      if c.isDigit then
        let (count, after) := readNumber (c :: rest)
        return (.multiple count, after)
      else fail "unexpected \x60,'" rest
  | _ =>
      match ← readAddress extended chars with
      | (some address, rest) => return (.address address, rest)
      | (none, rest) => fail "unexpected \x60,'" (rest.drop 1)

def letter (c : Char) : Char :=
  match c with
  | 'n' => '\n'
  | 't' => '\t'
  | 'f' => '\x0c'
  | 'v' => '\x0b'
  | 'a' => '\x07'
  | 'r' => '\r'
  | c => c

def replacementOf : List Char → List Part
  | [] => []
  | '\\' :: c :: rest =>
      (if c.isDigit then .found (c.toNat - 48)
        else
          match c with
          | 'U' => .turn .upper
          | 'L' => .turn .lower
          | 'u' => .turn .upperOne
          | 'l' => .turn .lowerOne
          | 'E' => .turn .none
          | c => .plain (letter c)) :: replacementOf rest
  | '&' :: rest => .found 0 :: replacementOf rest
  | c :: rest => .plain c :: replacementOf rest

def greatestGroup (parts : List Part) : Nat :=
  parts.foldl (fun most part =>
    match part with
    | .found group => max most group
    | _ => most) 0

def readPath (chars : List Char) : Except Mistake (String × List Char) :=
  let chars := skipBlanks chars
  let line := chars.takeWhile (· != '\n')
  if line.isEmpty then fail "missing filename in r/R/w/W commands" chars
  else .ok (String.ofList line, chars.drop line.length)

def readFlags : Nat → Substitution → List Char → Except Mistake ((Substitution × Bool) × List Char)
  | 0, how, chars => .ok ((how, false), chars)
  | _, how, [] => .ok ((how, false), [])
  | fuel + 1, how, c :: rest =>
      match c with
      | 'g' =>
          if how.every then fail "multiple \x60g' options to \x60s' command" rest
          else readFlags fuel { how with every := true } rest
      | 'p' =>
          if how.print then fail "multiple \x60p' options to \x60s' command" rest
          else readFlags fuel { how with print := true } rest
      | 'i' => readFlags fuel { how with anyCase := true } rest
      | 'I' => readFlags fuel { how with anyCase := true } rest
      | 'm' => (readFlags fuel how rest).map fun ((how, _), after) => ((how, true), after)
      | 'M' => (readFlags fuel how rest).map fun ((how, _), after) => ((how, true), after)
      | 'w' => (readPath rest).map fun (path, after) => (({ how with target := some path }, false), after)
      | c =>
          if c.isDigit then
            let (number, after) := readNumber (c :: rest)
            if number = 0 then fail "number option to \x60s' command may not be zero" after
            else if how.nth.isSome then fail "multiple number options to \x60s' command" after
            else readFlags fuel { how with nth := some number } after
          else if c == ' ' || c == '\t' then readFlags fuel how rest
          else if c == ';' || c == '\n' || c == '\x7d' || c == '#' || c == '\r' then
            .ok ((how, false), c :: rest)
          else fail "unknown option to \x60s'" rest

def readSubstitution (extended : Bool) (chars : List Char) : Except Mistake (Edit × List Char) := do
  let split? : Option (List Char × List Char × List Char) := do
    let delimiter ← chars.head?
    if delimiter == '\n' || delimiter == '\\' then none
    else
      let (pattern, rest) ← part? true delimiter (chars.drop 1)
      let (replacement, rest) ← part? false delimiter rest
      return (pattern, replacement, rest)
  match split? with
  | none => fail "unterminated \x60s' command" []
  | some (pattern, replacement, rest) =>
      let parts := replacementOf replacement
      let how : Substitution := ⟨none, parts, false, none, false, false, none⟩
      let ((how, lines), after) ← readFlags (rest.length + 1) how rest
      let expression ← readExpression extended pattern after
      match expression with
      | some expression =>
          if expression.groupCount < greatestGroup parts then
            fail ("invalid reference \\" ++ toString (greatestGroup parts) ++ " on \x60s' command's RHS") after
      | none => pure ()
      let expression := if lines then expression.map overLines else expression
      return (.substitute { how with expression := expression }, after)

def plainText : List Char → List Char
  | [] => []
  | '\\' :: c :: rest =>
      (if c == '\\' then ['\\'] else if letter c != c then [letter c] else ['\\', c]) ++ plainText rest
  | c :: rest => c :: plainText rest

def readTransliteration (chars : List Char) : Except Mistake (Edit × List Char) := do
  let sets? : Option (List Char × List Char × List Char) := do
    let delimiter ← chars.head?
    let (source, rest) ← part? false delimiter (chars.drop 1)
    let (target, rest) ← part? false delimiter rest
    return (source, target, rest)
  match sets? with
  | none => fail "unterminated \x60y' command" []
  | some (source, target, rest) =>
      let source := plainText source
      let target := plainText target
      if source.length != target.length then fail "strings for \x60y' command are different lengths" rest
      else return (.transliterate source target, rest)

def textLines : List Char → List Char × List Char
  | [] => ([], [])
  | '\\' :: c :: rest =>
      let (text, after) := textLines rest
      (c :: text, after)
  | ['\\'] => ([], [])
  | '\n' :: rest => ([], '\n' :: rest)
  | c :: rest =>
      let (text, after) := textLines rest
      (c :: text, after)

def readText (make : List Char → Edit) (chars : List Char) : Except Mistake (Edit × List Char) :=
  match skipBlanks chars with
  | [] => fail "expected \\ after \x60a', \x60c' or \x60i'" []
  | '\n' :: rest => fail "expected \\ after \x60a', \x60c' or \x60i'" rest
  | '\\' :: rest =>
      let rest := match skipBlanks rest with
        | '\n' :: after => after
        | _ =>
            match rest with
            | c :: _ => if isBlank c then rest else rest
            | [] => rest
      let (text, after) := textLines rest
      .ok (make text, after)
  | rest =>
      let (text, after) := textLines rest
      .ok (make text, after)

def readLabel (chars : List Char) : String × List Char :=
  let chars := skipBlanks chars
  let name := chars.takeWhile fun c => !(isBlank c || c == ';' || c == '\n' || c == '\x7d')
  (String.ofList name, chars.drop name.length)

def readEdit (extended : Bool) (addresses : Nat) (chars : List Char) : Except Mistake (Edit × List Char) :=
  match chars with
  | [] => fail "missing command" []
  | c :: rest =>
      let single (edit : Edit) : Except Mistake (Edit × List Char) := .ok (edit, rest)
      let path (make : String → Edit) : Except Mistake (Edit × List Char) :=
        (readPath rest).map fun (path, after) => (make path, after)
      let code (make : Nat → Edit) : Except Mistake (Edit × List Char) :=
        if 1 < addresses then fail "command only uses one address" rest
        else
          let (code, after) := readNumber (skipBlanks rest)
          .ok (make code, after)
      let labelled (make : String → Edit) : Except Mistake (Edit × List Char) :=
        let (name, after) := readLabel rest
        .ok (make name, after)
      match c with
      | 's' => readSubstitution extended rest
      | 'y' => readTransliteration rest
      | 'p' => single .print
      | 'P' => single .printFirst
      | 'd' => single .delete
      | 'D' => single .deleteFirst
      | 'q' => code .quit
      | 'Q' => code .quitSilently
      | '=' => single .showNumber
      | 'F' => single .showName
      | 'l' =>
          let (width, after) := readNumber (skipBlanks rest)
          let given := (skipBlanks rest).head?.any Char.isDigit
          .ok (.spell (if given then some width else none), after)
      | 'a' => readText .append rest
      | 'i' => readText .insert rest
      | 'c' => readText .change rest
      | 'r' => path .read
      | 'R' => path .readLine
      | 'w' => path .write
      | 'W' => path .writeFirst
      | 'n' => single .next
      | 'N' => single .join
      | 'h' => single .hold
      | 'H' => single .holdMore
      | 'g' => single .fetch
      | 'G' => single .fetchMore
      | 'x' => single .exchange
      | 'z' => single .empty
      | 'v' =>
          let (_, after) := readLabel rest
          .ok (.nothing, after)
      | 'b' => labelled .jump
      | 't' => labelled .jumpIfReplaced
      | 'T' => labelled .jumpUnlessReplaced
      | '\x7b' => single .opening
      | '\x7d' =>
          if 0 < addresses then fail "\x7d doesn't want any addresses" rest else single .closing
      | ':' =>
          if 0 < addresses then fail ": doesn't want any addresses" rest
          else
            let name := (skipBlanks rest).takeWhile fun c => !(isBlank c || c == ';' || c == '\n')
            if name.isEmpty then fail "\":\" lacks a label" rest
            else .ok (.label (String.ofList name), (skipBlanks rest).drop name.length)
      | c => fail ("unknown command: \x60" ++ String.singleton c ++ "'") rest

def Edit.isOpen : Edit → Bool
  | .opening => true
  | .closing => false
  | _ => false

def readEnd (edit : Edit) (chars : List Char) : Except Mistake (List Char) :=
  if Edit.isOpen edit then .ok chars
  else
    match skipBlanks chars with
    | [] => .ok []
    | c :: rest =>
        if c == ';' || c == '\n' then .ok rest
        else if c == '\x7d' || c == '#' then .ok (c :: rest)
        else if c == '\r' && rest.head? == some '\n' then .ok (rest.drop 1)
        else fail "extra characters after command" rest

def readCommand (extended : Bool) (chars : List Char) : Except Mistake (Command × List Char) := do
  let (first, rest) ← readAddress extended chars
  let rest := if first.isSome then skipBlanks rest else rest
  let (second, rest) ← match first, rest with
    | some _, ',' :: rest => (readFinish extended (skipBlanks rest)).map fun (finish, rest) =>
        (some finish, rest)
    | _, _ => pure (none, rest)
  match first with
  | some (.line 0) =>
      match second with
      | some (.address (.hit _ _)) => pure ()
      | _ => fail "invalid usage of line address 0" (rest.drop 1)
  | _ => pure ()
  let rest := skipBlanks rest
  let (negated, rest) ← match rest with
    | '!' :: rest =>
        match skipBlanks rest with
        | '!' :: after => fail "multiple \x60!'s" after
        | after => pure (true, after)
    | _ => pure (false, rest)
  let addresses := (if first.isSome then 1 else 0) + (if second.isSome then 1 else 0)
  match rest with
  | '#' :: after =>
      if 0 < addresses then fail "comments don't accept any addresses" after else pure ()
  | _ => pure ()
  let (edit, rest) ← readEdit extended addresses rest
  let rest ← readEnd edit rest
  return (⟨first, second, negated, edit⟩, rest)

def isGap (c : Char) : Bool := c == ';' || c == '\n' || isBlank c

/-- The commands of a script; `depth` is the number of braces that are open. `fuel` bounds the number
of commands. -/
def readAll (extended : Bool) : Nat → Nat → List Char → Except Mistake (List Command)
  | 0, _, _ => .ok []
  | fuel + 1, depth, chars => do
      match chars.dropWhile isGap with
      | [] => if depth = 0 then return [] else .error ⟨"unmatched \x60\x7b'", .start⟩
      | '#' :: rest => readAll extended fuel depth (rest.dropWhile (· != '\n'))
      | c :: rest =>
          let (command, after) ← readCommand extended (c :: rest)
          match command.edit with
          | .opening => return command :: (← readAll extended fuel (depth + 1) after)
          | .closing =>
              if depth = 0 then fail "unexpected \x60\x7d'" rest
              else return command :: (← readAll extended fuel (depth - 1) after)
          | _ => return command :: (← readAll extended fuel depth after)

def isLabel (name : String) (command : Command) : Bool :=
  match command.edit with
  | .label other => other == name
  | _ => false

def Edit.destination? : Edit → Option String
  | .jump name => some name
  | .jumpIfReplaced name => some name
  | .jumpUnlessReplaced name => some name
  | _ => none

def read (extended : Bool) (chars : List Char) : Except Mistake (List Command) := do
  let commands ← readAll extended (chars.length + 1) 0 chars
  let missing := (commands.filterMap fun command => Edit.destination? command.edit).find? fun name =>
    !name.isEmpty && !commands.any (isLabel name)
  match missing with
  | some name => throw ⟨"can't find label for jump to \x60" ++ name ++ "'", .nowhere⟩
  | none => return commands

end Script

end LifecycleHooks.Tool.Editing
