import LifecycleHooks.Tool.Records.Scanner

/-!
Reading programs for records. Operators bind in this order, the weakest first: the choice, `||`, `&&`,
`in`, matching, comparison, joining, sums, products, signs, powers, steps and `$`.
-/

namespace LifecycleHooks.Tool.Records

structure Source where
  tokens : List (Token × Nat)
  called : List String
  lines : Nat

abbrev Reading (α : Type) : Type := StateT Source (Except Fault) α

/-- What some marks mean in a part of a program: whether `>` compares, and whether `in` asks for a
member. -/
structure Scope where
  compares : Bool
  asksMember : Bool

namespace Scope

def full : Scope := ⟨true, true⟩

def printed : Scope := ⟨false, true⟩

def loopStart : Scope := ⟨true, false⟩

end Scope

namespace Reader

def peek : Reading (Option Token) := return (← get).tokens.head?.map Prod.fst

def peekSecond : Reading (Option Token) := return (← get).tokens[1]?.map Prod.fst

def advance : Reading Unit := modify fun source => { source with tokens := source.tokens.drop 1 }

def refuse {α : Type} : Reading α := do
  let source ← get
  match source.tokens with
  | (.lineEnd, line) :: _ => throw ⟨line, "syntax error at or near end of line"⟩
  | (token, line) :: _ => throw ⟨line, "syntax error at or near " ++ token.shown⟩
  | [] => throw ⟨source.lines + 1, "missing \x7d near end of file"⟩

def isMark (text : String) : Reading Bool := return (← peek) == some (.mark text)

def isKeyword (word : String) : Reading Bool := return (← peek) == some (.keyword word)

def accept (token : Token) : Reading Bool := do
  if (← peek) == some token then
    advance
    return true
  else return false

def acceptMark (text : String) : Reading Bool := accept (.mark text)

def expectMark (text : String) : Reading Unit := do
  if !(← acceptMark text) then refuse

def skipLineEnds : Reading Unit :=
  modify fun source =>
    { source with tokens := source.tokens.dropWhile fun entry => entry.1 == .lineEnd }

def skipEnds : Reading Unit :=
  modify fun source =>
    { source with
      tokens := source.tokens.dropWhile fun entry => entry.1 == .lineEnd || entry.1 == .mark ";" }

def name : Reading String := do
  match ← peek with
  | some (.name name) =>
      advance
      return name
  | _ => refuse

def beginsOperand : Token → Bool
  | .number _ => true
  | .text _ => true
  | .name _ => true
  | .called _ => true
  | .function _ => true
  | .mark text => ["$", "(", "++", "--"].contains text
  | _ => false

def comparisons : List (String × Comparison) :=
  [("<", .less), ("<=", .lessEqual), ("==", .equal), ("!=", .unequal), (">", .greater), (">=", .greaterEqual)]

def sums : List (String × Operator) := [("+", .add), ("-", .subtract)]

def products : List (String × Operator) := [("*", .multiply), ("/", .divide), ("%", .remainder)]

def assignments : List (String × Option Operator) :=
  [("=", none), ("+=", some .add), ("-=", some .subtract), ("*=", some .multiply), ("/=", some .divide),
    ("%=", some .remainder), ("^=", some .power), ("**=", some .power)]

def fromTable? {α : Type} (table : List (String × α)) : Reading (Option α) := do
  match ← peek with
  | some (.mark text) => return (table.find? fun entry => entry.1 == text).map Prod.snd
  | _ => return none

/-- How many arguments a function takes at least and at most. -/
def arity : Function → Nat × Nat
  | .length => (0, 1)
  | .substring => (2, 3)
  | .index => (2, 2)
  | .split => (2, 3)
  | .substituteFirst => (2, 3)
  | .substituteAll => (2, 3)
  | .matchPlace => (2, 2)
  | .format => (1, 1000)
  | .arcTangent => (2, 2)
  | .random => (0, 0)
  | .time => (0, 0)
  | .seed => (0, 1)
  | .flush => (0, 1)
  | _ => (1, 1)

def functionName (function : Function) : String :=
  ((functions.find? fun entry => entry.2 == function).map Prod.fst).getD ""

def compiled (source : String) : Reading Expression := do
  match readPattern source with
  | .ok expression => return expression
  | .error problem =>
      let line := ((← get).tokens.head?.map Prod.snd).getD (← get).lines
      throw ⟨line, problem⟩

mutual

def term : Nat → Scope → Reading Term
  | 0, _ => refuse
  | fuel + 1, scope => do
      let condition ← level fuel scope 0
      if ← acceptMark "?" then
        skipLineEnds
        let yes ← term fuel scope
        skipLineEnds
        expectMark ":"
        skipLineEnds
        return .choose condition yes (← term fuel scope)
      else return condition

def level : Nat → Scope → Nat → Reading Term
  | 0, _, _ => refuse
  | fuel + 1, scope, n => do
      if 8 ≤ n then signed fuel scope else levelRest fuel scope n (← level fuel scope (n + 1))

def levelRest : Nat → Scope → Nat → Term → Reading Term
  | 0, _, _, _ => refuse
  | fuel + 1, scope, n, left => do
      let onward (build : Term → Term) : Reading Term := do
        advance
        skipLineEnds
        let right ← level fuel scope (n + 1)
        levelRest fuel scope n (build right)
      match n with
      | 0 => if ← isMark "||" then onward (.either left) else return left
      | 1 => if ← isMark "&&" then onward (.both left) else return left
      | 2 =>
          if scope.asksMember && (← isKeyword "in") then
            advance
            levelRest fuel scope n (.member [left] (← name))
          else return left
      | 3 =>
          if ← isMark "~" then onward (.suits false left)
          else if ← isMark "!~" then onward (.suits true left)
          else return left
      | 4 =>
          match ← fromTable? comparisons with
          | some comparison =>
              if comparison = .greater && !scope.compares then return left
              else onward (.compare comparison left)
          | none =>
              if (← isMark "|") && (← peekSecond) == some (.keyword "getline") then
                advance
                advance
                levelRest fuel scope n (.readCommand left (← place? fuel))
              else return left
      | 5 =>
          if (← peek).any beginsOperand then
            let right ← level fuel scope (n + 1)
            levelRest fuel scope n (.join left right)
          else return left
      | 6 =>
          match ← fromTable? sums with
          | some operator => onward (.calculate operator left)
          | none => return left
      | _ =>
          match ← fromTable? products with
          | some operator => onward (.calculate operator left)
          | none => return left

def signed : Nat → Scope → Reading Term
  | 0, _ => refuse
  | fuel + 1, scope => do
      if ← acceptMark "!" then return .not (← signed fuel scope)
      else if ← acceptMark "-" then return .negate (← signed fuel scope)
      else if ← acceptMark "+" then return .plus (← signed fuel scope)
      else
        let base ← primary fuel scope true
        if (← acceptMark "^") || (← acceptMark "**") then
          return .calculate .power base (← signed fuel scope)
        else return base

def place? : Nat → Reading (Option Place)
  | 0 => refuse
  | fuel + 1 => do
      match ← peek with
      | some (.name found) =>
          advance
          if ← acceptMark "[" then
            let indices ← terms fuel "]"
            return some (.element found indices)
          else return some (.variable found)
      | some (.mark "$") =>
          advance
          if ← acceptMark "-" then return some (.field (.negate (← primary fuel .full false)))
          else if (← peek) == some (.name "NF") && (← peekSecond).any Token.isStep then
            -- A step behind the number of fields belongs to the number.
            return some (.field (← primary fuel .full true))
          else return some (.field (← primary fuel .full false))
      | _ => return none

def terms : Nat → String → Reading (List Term)
  | 0, _ => refuse
  | fuel + 1, closing => do
      skipLineEnds
      let first ← term fuel .full
      skipLineEnds
      if ← acceptMark "," then return first :: (← terms fuel closing)
      else
        expectMark closing
        return [first]

def arguments : Nat → Reading (List Term)
  | 0 => refuse
  | fuel + 1 => do
      skipLineEnds
      if ← acceptMark ")" then return [] else terms fuel ")"

def fromPlace : Nat → Scope → Bool → Place → Reading Term
  | 0, _, _, _ => refuse
  | fuel + 1, scope, assigns, place => do
      match ← if assigns then fromTable? assignments else pure none with
      | some operator =>
          advance
          skipLineEnds
          return .assign place operator (← term fuel scope)
      | none =>
          if !assigns then return .place place
          else if ← acceptMark "++" then return .step place 1 true
          else if ← acceptMark "--" then return .step place (-1) true
          else return .place place

/-- An operand. Where nothing may be assigned, a step behind it belongs to something else. -/
def primary : Nat → Scope → Bool → Reading Term
  | 0, _, _ => refuse
  | fuel + 1, scope, assigns => do
      match ← peek with
      | some (.number value) =>
          advance
          return .number value
      | some (.text value) =>
          advance
          return .text value
      | some (.pattern source) =>
          let expression ← compiled source
          advance
          return .pattern expression
      | some (.called called) =>
          advance
          advance
          modify fun source => { source with called := called :: source.called }
          return .call called (← arguments fuel)
      | some (.function function) =>
          advance
          let args ← if ← acceptMark "(" then arguments fuel
            else if function = .length then pure [] else refuse
          let (least, most) := arity function
          if args.length < least || most < args.length then
            let line := ((← get).tokens.head?.map Prod.snd).getD (← get).lines
            throw ⟨line, "wrong number of arguments in call to " ++ functionName function⟩
          return .apply function args
      | some (.keyword "getline") =>
          advance
          let into ← place? fuel
          if ← acceptMark "<" then return .readFile (← primary fuel scope false) into
          else return .readNext into
      | some (.mark "(") =>
          advance
          match ← terms fuel ")" with
          | [only] => return only
          | several =>
              if ← accept (.keyword "in") then return .member several (← name) else refuse
      | some (.mark "++") =>
          advance
          match ← place? fuel with
          | some place => return .step place 1 false
          | none => refuse
      | some (.mark "--") =>
          advance
          match ← place? fuel with
          | some place => return .step place (-1) false
          | none => refuse
      | some (.mark "-") =>
          advance
          return .negate (← primary fuel scope false)
      | _ =>
          match ← place? fuel with
          | some place => fromPlace fuel scope assigns place
          | none => refuse

end

def endsItems : Reading Bool := do
  match ← peek with
  | none => return true
  | some .lineEnd => return true
  | some (.mark text) => return [";", "\x7d", ">", ">>", "|"].contains text
  | _ => return false

def items : Nat → Reading (List Term)
  | 0 => refuse
  | fuel + 1 => do
      let first ← term fuel .printed
      if ← acceptMark "," then
        skipLineEnds
        return first :: (← items fuel)
      else return [first]

/-- What is printed. All of it may stand in parentheses. -/
def printedItems (fuel : Nat) : Reading (List Term) := do
  if ← endsItems then return []
  let source ← get
  if ← acceptMark "(" then
    let found ← terms fuel ")"
    if ← endsItems then return found
    else if found.length = 1 then
      set source
      items fuel
    else if ← isKeyword "in" then
      set source
      items fuel
    else refuse
  else items fuel

def target (fuel : Nat) : Reading (Option (Target × Term)) := do
  match ← fromTable? [(">", Target.file), (">>", .append), ("|", .command)] with
  | some kind =>
      advance
      return some (kind, ← term fuel .printed)
  | none => return none

def simple (fuel : Nat) (scope : Scope) : Reading Statement := do
  let optional : Reading (Option Term) := do
    if ← endsItems then return none else return some (← term fuel scope)
  match ← peek with
  | some (.keyword "print") =>
      advance
      let found ← printedItems fuel
      return .print found (← target fuel)
  | some (.keyword "printf") =>
      advance
      let found ← printedItems fuel
      if found.isEmpty then
        let line := ((← get).tokens.head?.map Prod.snd).getD (← get).lines
        throw ⟨line, "no arguments in call to printf"⟩
      return .printFormat found (← target fuel)
  | some (.keyword "break") =>
      advance
      return .leaveLoop
  | some (.keyword "continue") =>
      advance
      return .nextRound
  | some (.keyword "next") =>
      advance
      return .nextRecord
  | some (.keyword "nextfile") =>
      advance
      return .nextFile
  | some (.keyword "exit") =>
      advance
      return .finish (← optional)
  | some (.keyword "return") =>
      advance
      return .giveBack (← optional)
  | some (.keyword "delete") =>
      advance
      let array ← name
      if ← acceptMark "[" then return .delete array (some (← terms fuel "]"))
      else return .delete array none
  | _ => return .evaluate (← term fuel scope)

def endStatement : Reading Unit := do
  if (← accept .lineEnd) || (← acceptMark ";") then return
  else if (← isMark "\x7d") || (← peek).isNone then return
  else refuse

def membersLoop? : Reading (Option (String × String)) := do
  match (← get).tokens.take 4 with
  | [(.name element, _), (.keyword "in", _), (.name array, _), (.mark ")", _)] =>
      advance
      advance
      advance
      advance
      return some (element, array)
  | _ => return none

mutual

def statement : Nat → Reading Statement
  | 0 => refuse
  | fuel + 1 => do
      match ← peek with
      | some (.mark "\x7b") => return .block (← block fuel)
      | some (.mark ";") =>
          advance
          return .block []
      | some (.keyword "if") =>
          advance
          expectMark "("
          let condition ← term fuel .full
          expectMark ")"
          skipLineEnds
          let yes ← statement fuel
          let source ← get
          skipEnds
          if ← accept (.keyword "else") then
            skipLineEnds
            return .choose condition yes (← statement fuel)
          else
            set source
            return .choose condition yes (.block [])
      | some (.keyword "while") =>
          advance
          expectMark "("
          let condition ← term fuel .full
          expectMark ")"
          return .repeatWhile condition (← body fuel)
      | some (.keyword "do") =>
          advance
          skipLineEnds
          let inner ← statement fuel
          skipEnds
          if !(← accept (.keyword "while")) then refuse
          expectMark "("
          let condition ← term fuel .full
          expectMark ")"
          endStatement
          return .repeatUntil inner condition
      | some (.keyword "for") =>
          advance
          expectMark "("
          match ← membersLoop? with
          | some (element, array) => return .repeatIn element array (← body fuel)
          | none =>
              let start ← if ← isMark ";" then pure (.block []) else simple fuel .loopStart
              expectMark ";"
              skipLineEnds
              let condition ← if ← isMark ";" then pure none else pure (some (← term fuel .full))
              expectMark ";"
              skipLineEnds
              let step ← if ← isMark ")" then pure (.block []) else simple fuel .full
              expectMark ")"
              return .repeatFor start condition step (← body fuel)
      | _ =>
          let found ← simple fuel .full
          endStatement
          return found

def body : Nat → Reading Statement
  | 0 => refuse
  | fuel + 1 => do
      if ← acceptMark ";" then return .block []
      else
        skipLineEnds
        statement fuel

def block : Nat → Reading (List Statement)
  | 0 => refuse
  | fuel + 1 => do
      expectMark "\x7b"
      statements fuel

def statements : Nat → Reading (List Statement)
  | 0 => refuse
  | fuel + 1 => do
      skipEnds
      if ← acceptMark "\x7d" then return []
      else
        let first ← statement fuel
        return first :: (← statements fuel)

end

def parameters : Nat → Reading (List String)
  | 0 => refuse
  | fuel + 1 => do
      skipLineEnds
      if ← acceptMark ")" then return []
      else
        let first ← name
        skipLineEnds
        if ← acceptMark "," then return first :: (← parameters fuel)
        else
          expectMark ")"
          return [first]

def definition (fuel : Nat) : Reading Definition := do
  let found ← match ← peek with
    | some (.name found) => pure found
    | some (.called found) => pure found
    | _ => refuse
  advance
  expectMark "("
  let parameters ← parameters fuel
  skipLineEnds
  return ⟨found, parameters, ← block fuel⟩

def rule (fuel : Nat) : Reading Rule := do
  if ← accept (.keyword "BEGIN") then return ⟨.atStart, some (← block fuel)⟩
  else if ← accept (.keyword "END") then return ⟨.atEnd, some (← block fuel)⟩
  else if ← isMark "\x7b" then return ⟨.always, some (← block fuel)⟩
  else
    let first ← term fuel .full
    let condition ← if ← acceptMark "," then
        skipLineEnds
        pure (Condition.between first (← term fuel .full))
      else pure (.suits first)
    if ← isMark "\x7b" then return ⟨condition, some (← block fuel)⟩
    else return ⟨condition, none⟩

def program : Nat → Reading Program
  | 0 => refuse
  | fuel + 1 => do
      skipEnds
      match ← peek with
      | none => return ⟨[], []⟩
      | some token =>
          if token == .keyword "function" || token == .keyword "func" then
            advance
            let found ← definition fuel
            let others ← program fuel
            return { others with definitions := found :: others.definitions }
          else
            let found ← rule fuel
            let others ← program fuel
            return { others with rules := found :: others.rules }

end Reader

def readProgram (text : String) : Except Fault Program := do
  let tokens ← scan (text.length + 1) 1 none text.toList
  let lines := (text.toList.filter (· == '\n')).length + 1
  let (program, source) ← (Reader.program (20 * tokens.length + 100)).run ⟨tokens, [], lines⟩
  match source.called.reverse.find? fun name => !program.definitions.any fun found => found.name == name with
  | some name => throw ⟨lines + 1, "function " ++ name ++ " never defined"⟩
  | none => return program

end LifecycleHooks.Tool.Records
