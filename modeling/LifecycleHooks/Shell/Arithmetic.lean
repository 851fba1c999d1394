/-!
Arithmetic on whole numbers of 64 bits with a sign. Variables hold their numbers as texts; an
expression may assign them. A part whose value cannot matter is read but not evaluated.
-/

namespace LifecycleHooks.Shell.Arithmetic

inductive Token
  | number (value : Int)
  | name (text : String)
  | operator (text : String)
  | other (c : Char)
  deriving DecidableEq

/-- The number of 64 bits with a sign that is equal up to a multiple of `2 ^ 64`. -/
def wrap (n : Int) : Int := (n + 0x8000000000000000) % 0x10000000000000000 - 0x8000000000000000

def largest : Nat := 0x7fffffffffffffff

def operators : List String :=
  ["<<=", ">>=", "&&", "||", "<<", ">>", "<=", ">=", "==", "!=", "+=", "-=", "*=", "/=", "%=", "&=",
    "|=", "^=", "+", "-", "*", "/", "%", "(", ")", "<", ">", "=", "!", "~", "&", "|", "^", "?", ":"]

def hexDigit? (c : Char) : Option Nat :=
  if c.isDigit then some (c.toNat - 48)
  else if 'a' ≤ c && c ≤ 'f' then some (c.toNat - 87)
  else if 'A' ≤ c && c ≤ 'F' then some (c.toNat - 55)
  else none

def isDigitIn (base : Nat) (c : Char) : Bool :=
  match hexDigit? c with
  | some d => d < base
  | none => false

def valueIn (base : Nat) (digits : List Char) : Nat :=
  digits.foldl (fun n c => n * base + (hexDigit? c).getD 0) 0

/-- The number in front, in the notation that its first characters tell, and how long it is:
hexadecimal, octal or decimal. -/
def numberIn (chars : List Char) : Nat × Nat :=
  let inBase (base skipped : Nat) : Nat × Nat :=
    let digits := (chars.drop skipped).takeWhile (isDigitIn base)
    (valueIn base digits, skipped + digits.length)
  match chars with
  | '0' :: x :: c :: _ =>
      if (x == 'x' || x == 'X') && isDigitIn 16 c then inBase 16 2 else inBase 8 0
  | '0' :: _ => inBase 8 0
  | _ => inBase 10 0

def isNameChar (c : Char) : Bool := c.isAlphanum || c == '_'

def isBlank (c : Char) : Bool := c == ' ' || c == '\t' || c == '\n'

def tokens : Nat → List Char → List Token
  | 0, _ => []
  | _, [] => []
  | fuel + 1, c :: rest =>
      if isBlank c then tokens fuel rest
      else if c.isDigit then
        let (n, length) := numberIn (c :: rest)
        .number (min n largest) :: tokens fuel ((c :: rest).drop length)
      else if isNameChar c then
        let name := (c :: rest).takeWhile isNameChar
        .name (String.ofList name) :: tokens fuel ((c :: rest).drop name.length)
      else
        match operators.find? fun operator => operator.toList.isPrefixOf (c :: rest) with
        | some operator => .operator operator :: tokens fuel ((c :: rest).drop operator.length)
        | none => .other c :: tokens fuel rest

inductive Problem
  | primaryExpected
  | colonExpected
  | closingExpected
  | endExpected
  | divisionByZero
  | notANumber (text : String)
  deriving DecidableEq

def Problem.message (text : String) : Problem → String
  | primaryExpected => inExpression "expecting primary"
  | colonExpected => inExpression "expecting ':'"
  | closingExpected => inExpression "expecting ')'"
  | endExpected => inExpression "expecting EOF"
  | divisionByZero => inExpression "division by zero"
  | notANumber value => "Illegal number: " ++ value
where
  inExpression (problem : String) : String :=
    "arithmetic expression: " ++ problem ++ ": \"" ++ text ++ "\""

/-- Binary operators by how tightly they bind, loosest first. -/
def levels : List (List String) :=
  [["|"], ["^"], ["&"], ["==", "!="], ["<", "<=", ">", ">="], ["<<", ">>"], ["+", "-"],
    ["*", "/", "%"]]

def assigning : List String := ["*=", "/=", "%=", "+=", "-=", "<<=", ">>=", "&=", "^=", "|="]

def truth (b : Bool) : Int := if b then 1 else 0

def apply (operator : String) (a b : Int) : Except Problem Int :=
  match operator with
  | "+" => .ok (wrap (a + b))
  | "-" => .ok (wrap (a - b))
  | "*" => .ok (wrap (a * b))
  | "/" => if b = 0 then .error .divisionByZero else .ok (wrap (a.tdiv b))
  | "%" => if b = 0 then .error .divisionByZero else .ok (wrap (a.tmod b))
  | "<" => .ok (truth (a < b))
  | "<=" => .ok (truth (a ≤ b))
  | ">" => .ok (truth (b < a))
  | ">=" => .ok (truth (b ≤ a))
  | "==" => .ok (truth (a == b))
  | "!=" => .ok (truth (a != b))
  | "<<" => .ok (wrap (a * Nat.pow 2 (b % 64).toNat))
  | ">>" => .ok (wrap (a / Nat.pow 2 (b % 64).toNat))
  | "&" => .ok (Int64.ofInt a &&& Int64.ofInt b).toInt
  | "|" => .ok (Int64.ofInt a ||| Int64.ofInt b).toInt
  | "^" => .ok (Int64.ofInt a ^^^ Int64.ofInt b).toInt
  | _ => .ok b

abbrev Variables := List (String × String)

def valueOf (text : String) : Except Problem Int :=
  let chars := ((text.toList.dropWhile isBlank).reverse.dropWhile isBlank).reverse
  let (negative, digits) := match chars with
    | '-' :: digits => (true, digits)
    | '+' :: digits => (false, digits)
    | _ => (false, chars)
  let (n, length) := numberIn digits
  if chars.isEmpty then .ok 0
  else if digits.isEmpty || length != digits.length || largest < n then .error (.notANumber text)
  else .ok (if negative then -(n : Int) else n)

/-- A value, the tokens that are left, and the variables assigned so far, latest first. -/
abbrev Step := Except Problem (Int × List Token × Variables)

def look (outer : String → Option String) (assigned : Variables) (name : String) :
    Except Problem Int :=
  match (assigned.find? fun entry => entry.1 == name).map Prod.snd |>.or (outer name) with
  | some text => valueOf text
  | none => .ok 0

def applyIf (live : Bool) (operator : String) (a b : Int) : Except Problem Int :=
  if live then apply operator a b else .ok b

mutual

def assignment (outer : String → Option String) : Nat → Bool → List Token → Variables → Step
  | 0, _, _, _ => .error .primaryExpected
  | fuel + 1, live, tokens, assigned =>
      match tokens with
      | .name name :: .operator operator :: rest =>
          if operator == "=" || assigning.contains operator then do
            let (value, rest, assigned) ← assignment outer fuel live rest assigned
            if live then
              let old ← if operator == "=" then pure 0 else look outer assigned name
              let result ← if operator == "=" then pure value
                else apply (String.ofList operator.toList.dropLast) old value
              return (result, rest, (name, toString result) :: assigned)
            else return (value, rest, assigned)
          else conditional outer fuel live tokens assigned
      | _ => conditional outer fuel live tokens assigned

def conditional (outer : String → Option String) : Nat → Bool → List Token → Variables → Step
  | 0, _, _, _ => .error .primaryExpected
  | fuel + 1, live, tokens, assigned => do
      let (value, rest, assigned) ← disjunction outer fuel live tokens assigned
      match rest with
      | .operator "?" :: rest =>
          let (yes, rest, assigned) ← assignment outer fuel (live && value != 0) rest assigned
          match rest with
          | .operator ":" :: rest =>
              let (no, rest, assigned) ←
                conditional outer fuel (live && value == 0) rest assigned
              return (if value != 0 then yes else no, rest, assigned)
          | _ => .error .colonExpected
      | _ => return (value, rest, assigned)

def disjunction (outer : String → Option String) : Nat → Bool → List Token → Variables → Step
  | 0, _, _, _ => .error .primaryExpected
  | fuel + 1, live, tokens, assigned => do
      let (a, rest, assigned) ← conjunction outer fuel live tokens assigned
      match rest with
      | .operator "||" :: rest =>
          let (b, rest, assigned) ← disjunction outer fuel (live && a == 0) rest assigned
          return (truth (a != 0 || b != 0), rest, assigned)
      | _ => return (a, rest, assigned)

def conjunction (outer : String → Option String) : Nat → Bool → List Token → Variables → Step
  | 0, _, _, _ => .error .primaryExpected
  | fuel + 1, live, tokens, assigned => do
      let (a, rest, assigned) ← binary outer fuel live levels tokens assigned
      match rest with
      | .operator "&&" :: rest =>
          let (b, rest, assigned) ← conjunction outer fuel (live && a != 0) rest assigned
          return (truth (a != 0 && b != 0), rest, assigned)
      | _ => return (a, rest, assigned)

def binary (outer : String → Option String) :
    Nat → Bool → List (List String) → List Token → Variables → Step
  | 0, _, _, _, _ => .error .primaryExpected
  | fuel + 1, live, [], tokens, assigned => primary outer fuel live tokens assigned
  | fuel + 1, live, level :: tighter, tokens, assigned => do
      let (value, rest, assigned) ← binary outer fuel live tighter tokens assigned
      chain outer fuel live level tighter value rest assigned

def chain (outer : String → Option String) :
    Nat → Bool → List String → List (List String) → Int → List Token → Variables → Step
  | 0, _, _, _, _, _, _ => .error .primaryExpected
  | fuel + 1, live, level, tighter, value, tokens, assigned =>
      match tokens with
      | .operator operator :: rest =>
          if level.contains operator then do
            let (other, rest, assigned) ← binary outer fuel live tighter rest assigned
            let result ← applyIf live operator value other
            chain outer fuel live level tighter result rest assigned
          else .ok (value, tokens, assigned)
      | _ => .ok (value, tokens, assigned)

def primary (outer : String → Option String) : Nat → Bool → List Token → Variables → Step
  | 0, _, _, _ => .error .primaryExpected
  | fuel + 1, live, tokens, assigned =>
      match tokens with
      | .number n :: rest => .ok (n, rest, assigned)
      | .name name :: rest => do
          let value ← if live then look outer assigned name else pure 0
          return (value, rest, assigned)
      | .operator "(" :: rest => do
          let (value, rest, assigned) ← assignment outer fuel live rest assigned
          match rest with
          | .operator ")" :: rest => return (value, rest, assigned)
          | _ => .error .closingExpected
      | .operator "-" :: rest => do
          let (value, rest, assigned) ← primary outer fuel live rest assigned
          return (wrap (-value), rest, assigned)
      | .operator "+" :: rest => primary outer fuel live rest assigned
      | .operator "!" :: rest => do
          let (value, rest, assigned) ← primary outer fuel live rest assigned
          return (truth (value == 0), rest, assigned)
      | .operator "~" :: rest => do
          let (value, rest, assigned) ← primary outer fuel live rest assigned
          return (-value - 1, rest, assigned)
      | _ => .error .primaryExpected

end

def evaluate (outer : String → Option String) (text : String) :
    Except Problem (Int × Variables) := do
  let found := tokens (text.length + 1) text.toList
  let (value, rest, assigned) ← assignment outer (40 * (found.length + 1)) true found []
  if rest.isEmpty then return (value, assigned) else .error .endExpected

end LifecycleHooks.Shell.Arithmetic
