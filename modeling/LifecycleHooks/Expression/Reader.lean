import LifecycleHooks.Expression.Basic

/-!
Reading regular expressions. There are two notations, which differ in whether operators stand alone
or behind a backslash; both are split into the same marks first.
-/

namespace LifecycleHooks.Expression

/-- How expressions are written: whether operators stand alone, and whether operators that have
nothing to work on are refused. -/
structure Dialect where
  extended : Bool
  strict : Bool

inductive Mark
  | plain (expression : Expression)
  | times (least : Nat) (most : Option Nat)
  | opening
  | closing
  | bar

inductive Problem
  | badPattern
  | openSet
  | openGroup
  | closedGroup
  | openCount
  | badCount
  | backslash
  | badClass
  | badRange
  | badReference
  | badRepetition

def Problem.message : Problem → String
  | .badPattern => "Invalid regular expression"
  | .openSet => "Unmatched [, [^, [:, [., or [="
  | .openGroup => "Unmatched ( or \\("
  | .closedGroup => "Unmatched ) or \\)"
  | .openCount => "Unmatched \\\x7b"
  | .badCount => "Invalid content of \\\x7b\\\x7d"
  | .backslash => "Trailing backslash"
  | .badClass => "Invalid character class name"
  | .badRange => "Invalid range end"
  | .badReference => "Invalid back reference"
  | .badRepetition => "Invalid preceding regular expression"

/-- A member of a set that may be the end of a range, and what follows. One between `[.` and `.]`, or
between `[=` and `=]`, may be any character. -/
def readMember : List Char → Option (Char × List Char)
  | '[' :: '.' :: c :: '.' :: ']' :: rest => some (c, rest)
  | '[' :: '=' :: c :: '=' :: ']' :: rest => some (c, rest)
  | c :: rest => some (c, rest)
  | [] => none

/-- The members of a set up to its closing bracket, and what follows; a bracket that comes first is a
member. `fuel` bounds their number. -/
def members : Nat → Bool → List Char → Except Problem (List (Nat × Nat) × List Char)
  | 0, _, _ => .error .openSet
  | _, _, [] => .error .openSet
  | fuel + 1, first, c :: rest =>
      if c == ']' && !first then .ok ([], rest)
      else if c == '[' && rest.head? == some ':' then
        match Text.readClass? (c :: rest) with
        | some (ranges, after) => do
            let (others, after) ← members fuel false after
            return (ranges ++ others, after)
        | none => .error (if rest.contains ']' then .badClass else .openSet)
      else
        match readMember (c :: rest) with
        | none => .error .openSet
        | some (low, rest) => do
            let (high, rest) := match rest with
              | '-' :: ']' :: _ => (low, rest)
              | '-' :: after => (readMember after).getD (low, rest)
              | _ => (low, rest)
            if high < low then throw .badRange
            let (others, after) ← members fuel false rest
            return ((low.toNat, high.toNat) :: others, after)

def readSet (chars : List Char) : Except Problem (Expression × List Char) :=
  let (negated, chars) := match chars with
    | '^' :: rest => (true, rest)
    | _ => (false, chars)
  if chars.isEmpty then .error .badPattern
  else (members (chars.length + 1) true chars).map fun (ranges, after) => (.one negated ranges, after)

def valueOf (digits : List Char) : Nat := digits.foldl (fun n c => n * 10 + (c.toNat - 48)) 0

def closing? (dialect : Dialect) : List Char → Option (List Char)
  | '\x7d' :: rest => if dialect.extended then some rest else none
  | '\\' :: '\x7d' :: rest => if dialect.extended then none else some rest
  | _ => none

def readBound (dialect : Dialect) : List Char → List Char → Option (List Char) × List Char
  | _, [] => (none, [])
  | digits, c :: rest =>
      if c == ',' || (closing? dialect (c :: rest)).isSome then
        (if digits.all Char.isDigit then some digits.reverse else none, c :: rest)
      else readBound dialect (c :: digits) rest

def readCount (dialect : Dialect) (chars : List Char) : Except Problem (Option (Mark × List Char)) :=
  let invalid (rest : List Char) : Except Problem (Option (Mark × List Char)) :=
    if dialect.extended && !dialect.strict then .ok none
    else .error (if rest.isEmpty then .openCount else .badCount)
  match readBound dialect [] chars with
  | (none, rest) => invalid rest
  | (some low, rest) =>
      match closing? dialect rest with
      | some after =>
          if low.isEmpty then .error .badCount
          else .ok (some (.times (valueOf low) (some (valueOf low)), after))
      | none =>
          match readBound dialect [] (rest.drop 1) with
          | (none, rest) => invalid rest
          | (some high, rest) =>
              match closing? dialect rest with
              | none => .error .badCount
              | some after =>
                  let most := if high.isEmpty then none else some (valueOf high)
                  if most.any (· < valueOf low) then .error .badCount
                  else .ok (some (.times (valueOf low) most, after))

def wordRanges : List (Nat × Nat) := [(48, 57), (65, 90), (95, 95), (97, 122)]

def blankRanges : List (Nat × Nat) := [(9, 13), (32, 32)]

def escaped (c : Char) : Expression :=
  match c with
  | 'w' => .one false wordRanges
  | 'W' => .one true wordRanges
  | 's' => .one false blankRanges
  | 'S' => .one true blankRanges
  | 'b' => .holds .wordEdge
  | 'B' => .holds .noWordEdge
  | '<' => .holds .wordStart
  | '>' => .holds .wordEnd
  | '\x60' => .holds .start
  | '\'' => .holds .finish
  | 'n' => literal '\n'
  | 't' => literal '\t'
  | c => literal c

def beginsAfter : List Mark → Bool
  | [] => true
  | .opening :: _ => true
  | .bar :: _ => true
  | _ => false

def isAlone (dialect : Dialect) : List Mark → Bool
  | .plain (.holds .start) :: before => !dialect.extended || beginsAfter before
  | before => beginsAfter before

/-- The groups that are closed when marks are read; the last mark comes first. -/
def closedGroups (before : List Mark) : List Nat :=
  (before.reverse.foldl (fun (state : List Nat × List Nat × Nat) mark =>
    let (closed, opened, count) := state
    match mark with
    | .opening => (closed, (count + 1) :: opened, count + 1)
    | .closing => (opened.head?.toList ++ closed, opened.drop 1, count)
    | _ => state) ([], [], 0)).1

def allClosed (before : List Mark) : Bool :=
  let count (isOne : Mark → Bool) : Nat := (before.filter isOne).length
  count (fun mark => match mark with | .opening => true | _ => false) ==
    count (fun mark => match mark with | .closing => true | _ => false)

/-- Splits an expression into marks; `before` holds the marks in front, the last one first. -/
def marks (dialect : Dialect) : Nat → List Mark → List Char → Except Problem (List Mark)
  | 0, before, _ => .ok before.reverse
  | _, before, [] => .ok before.reverse
  | fuel + 1, before, c :: rest =>
      let step (mark : Mark) (rest : List Char) : Except Problem (List Mark) :=
        marks dialect fuel (mark :: before) rest
      let plain (c : Char) (rest : List Char) : Except Problem (List Mark) :=
        step (.plain (literal c)) rest
      let times (least : Nat) (most : Option Nat) (rest : List Char) : Except Problem (List Mark) :=
        if !isAlone dialect before then step (.times least most) rest
        else if !dialect.extended then plain c rest
        else if dialect.strict then .error .badRepetition
        else marks dialect fuel before rest
      let operator (c : Char) (rest : List Char) : Except Problem (List Mark) :=
        match c with
        | '(' => step .opening rest
        | ')' =>
            if dialect.extended && !dialect.strict && allClosed before then plain c rest
            else step .closing rest
        | '|' => step .bar rest
        | '+' => if isAlone dialect before && !dialect.extended then plain c rest else times 1 none rest
        | '?' =>
            if isAlone dialect before && !dialect.extended then plain c rest
            else times 0 (some 1) rest
        | '\x7b' =>
            if isAlone dialect before then plain c rest
            else
              match readCount dialect rest with
              | .ok (some (mark, after)) => step mark after
              | .ok none => plain c rest
              | .error e => .error e
        | c => plain c rest
      match c with
      | '\\' =>
          match rest with
          | [] => .error .backslash
          | d :: rest =>
              if ['(', ')', '|', '+', '?', '\x7b'].contains d then
                if dialect.extended then plain d rest else operator d rest
              else if '1' ≤ d && d ≤ '9' then
                let number := d.toNat - 48
                if (closedGroups before).contains number then step (.plain (.reference number)) rest
                else .error .badReference
              else step (.plain (escaped d)) rest
      | '.' => step (.plain .any) rest
      | '[' => do
          let (set, after) ← readSet rest
          step (.plain set) after
      | '*' => times 0 none rest
      | '^' =>
          if dialect.extended || beginsAfter before then step (.plain (.holds .start)) rest
          else plain c rest
      | '$' =>
          let closes := match rest with
            | [] => true
            | '\\' :: d :: _ => d == ')' || d == '|'
            | _ => false
          if dialect.extended || closes then step (.plain (.holds .finish)) rest else plain c rest
      | c => if dialect.extended then operator c rest else plain c rest

structure Reading where
  expression : Expression
  rest : List Mark
  groups : Nat

def repetitions (expression : Expression) : List Mark → Expression × List Mark
  | .times least most :: rest => repetitions (.repeated least most expression) rest
  | rest => (expression, rest)

mutual

def alternatives : Nat → Nat → List Mark → Except Problem Reading
  | 0, groups, marks => .ok ⟨.empty, marks, groups⟩
  | fuel + 1, groups, marks => do
      let first ← pieces fuel groups marks
      match first.rest with
      | .bar :: rest =>
          let second ← alternatives fuel first.groups rest
          return { second with expression := .either first.expression second.expression }
      | _ => return first

def pieces : Nat → Nat → List Mark → Except Problem Reading
  | 0, groups, marks => .ok ⟨.empty, marks, groups⟩
  | fuel + 1, groups, marks => do
      let joined (expression : Expression) (rest : List Mark) (groups : Nat) :
          Except Problem Reading := do
        let (expression, rest) := repetitions expression rest
        let others ← pieces fuel groups rest
        return { others with expression := .sequence expression others.expression }
      match marks with
      | .plain expression :: rest => joined expression rest groups
      | .times _ _ :: rest => pieces fuel groups rest
      | .opening :: rest =>
          let inner ← alternatives fuel (groups + 1) rest
          match inner.rest with
          | .closing :: rest => joined (.group (groups + 1) inner.expression) rest inner.groups
          | _ => .error .openGroup
      | rest => return ⟨.empty, rest, groups⟩

end

def read (dialect : Dialect) (chars : List Char) : Except Problem Expression := do
  let marks ← marks dialect (chars.length + 1) [] chars
  let whole ← alternatives (2 * marks.length + 2) 0 marks
  match whole.rest with
  | [] => return whole.expression
  | _ => .error .closedGroup

end LifecycleHooks.Expression
