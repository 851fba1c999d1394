import LifecycleHooks.Tool.Basic

/-!
Conditions on texts, numbers and files.
-/

namespace LifecycleHooks.Tool.Condition

open Process Text

inductive Problem
  | missingBracket
  | unexpectedOperator (text : String)
  | argumentExpected (operator : String)
  | closingExpected
  | notANumber (text : String)
  deriving DecidableEq

def unaryOperators : List String :=
  ["-n", "-z", "-e", "-f", "-d", "-r", "-w", "-x", "-s", "-h", "-L", "-p", "-S", "-b", "-c", "-u",
    "-g", "-k", "-O", "-G", "-t"]

def binaryOperators : List String :=
  ["=", "!=", "<", ">", "-eq", "-ne", "-lt", "-le", "-gt", "-ge", "-nt", "-ot", "-ef"]

structure Sight where
  node? : String → Option Node
  number? : String → Option Nat
  /-- What is at the end of a path, be it a link. -/
  selfNode? : String → Option Node

def Sight.ofTree (tree : FileTree) (cwd : Location) : Sight :=
  { node? := fun path => (tree.stat cwd ⟨path⟩).toOption.map Prod.snd
    number? := fun path =>
      (tree.stat cwd ⟨path⟩).toOption.bind fun found => tree.number? found.1
    selfNode? := fun path => (tree.statSelf cwd ⟨path⟩).toOption.map Prod.snd }

def isKind (operator : String) (node : Node) : Bool :=
  match operator, node.content with
  | "-f", .file _ => true
  | "-f", .program _ => true
  | "-d", .directory => true
  | "-c", .device _ => true
  | "-p", .pipe _ _ => true
  | "-u", _ => node.mode / 2048 % 2 == 1
  | "-g", _ => node.mode / 1024 % 2 == 1
  | "-k", _ => node.mode / 512 % 2 == 1
  | "-x", .directory => true
  | "-x", _ => node.isExecutable
  | "-s", _ => node.size != 0
  | _, _ => ["-e", "-a", "-r", "-w", "-O", "-G", "-N"].contains operator

def trim (text : String) : String :=
  let blank (c : Char) : Bool := c == ' ' || c == '\t' || c == '\n'
  String.ofList ((text.toList.dropWhile blank).reverse.dropWhile blank).reverse

def number (text : String) : Except Problem Int :=
  match integer? (trim text) with
  | some n => .ok n
  | none => .error (.notANumber text)

def unary (sight : Sight) (operator operand : String) : Except Problem Bool :=
  match operator with
  | "-n" => .ok !operand.isEmpty
  | "-z" => .ok operand.isEmpty
  | "-t" => (number operand).map fun _ => false
  | "-h" => .ok ((sight.selfNode? operand).any fun node => (node.content matches .link _))
  | "-L" => .ok ((sight.selfNode? operand).any fun node => (node.content matches .link _))
  | _ => .ok ((sight.node? operand).any (isKind operator))

def binary (sight : Sight) (left operator right : String) : Except Problem Bool :=
  let modified? (path : String) : Option Int := (sight.node? path).map Node.modified
  match operator with
  | "=" => .ok (left == right)
  | "!=" => .ok (left != right)
  | "<" => .ok (left < right)
  | ">" => .ok (right < left)
  | "-nt" => .ok <|
      match modified? left, modified? right with
      | some a, some b => b < a
      | some _, none => true
      | _, _ => false
  | "-ot" => .ok <|
      match modified? left, modified? right with
      | some a, some b => a < b
      | none, some _ => true
      | _, _ => false
  | "-ef" => .ok ((sight.number? left).isSome && sight.number? left == sight.number? right)
  | _ => do
      let a ← number left
      let b ← number right
      return match operator with
        | "-eq" => a == b
        | "-ne" => a != b
        | "-lt" => a < b
        | "-le" => a ≤ b
        | "-gt" => b < a
        | _ => b ≤ a

inductive Token
  | finish
  | operand
  | unary (operator : String)
  | binary (operator : String)
  | not
  | both
  | either
  | opening
  | closing
  deriving DecidableEq

/-- What the first of some arguments is taken for. A unary operator is an operand if nothing follows, or
a binary operator with an operand of its own; a bracket is one if nothing follows. -/
def token : List String → Token
  | [] => .finish
  | word :: rest =>
      if word == "!" then .not
      else if word == "-a" then .both
      else if word == "-o" then .either
      else if word == "(" then if rest.isEmpty then .operand else .opening
      else if word == ")" then .closing
      else if binaryOperators.contains word then .binary word
      else if unaryOperators.contains word then
        match rest with
        | [] => .operand
        | [_] => .unary word
        | next :: _ => if binaryOperators.contains next then .operand else .unary word
      else .operand

/-- A value, and the arguments from the last one on that was used for it. -/
abbrev Step := Except Problem (Bool × List String)

mutual

def disjunction (sight : Sight) : Nat → Token → List String → Step
  | 0, _, _ => .error .closingExpected
  | fuel + 1, first, args => do
      let (value, args) ← conjunction sight fuel first args
      if token (args.drop 1) = .either then
        let (other, args) ← disjunction sight fuel (token (args.drop 2)) (args.drop 2)
        return (value || other, args)
      else return (value, args)

def conjunction (sight : Sight) : Nat → Token → List String → Step
  | 0, _, _ => .error .closingExpected
  | fuel + 1, first, args => do
      let (value, args) ← negation sight fuel first args
      if token (args.drop 1) = .both then
        let (other, args) ← conjunction sight fuel (token (args.drop 2)) (args.drop 2)
        return (value && other, args)
      else return (value, args)

def negation (sight : Sight) : Nat → Token → List String → Step
  | 0, _, _ => .error .closingExpected
  | fuel + 1, first, args => do
      if first = .not then
        let next := token (args.drop 1)
        let (value, args) ← negation sight fuel next (if next = .finish then args else args.drop 1)
        return (!value, args)
      else primary sight fuel first args

def primary (sight : Sight) : Nat → Token → List String → Step
  | 0, _, _ => .error .closingExpected
  | fuel + 1, first, args =>
      match first with
      | .finish => .ok (false, args)
      | .opening =>
          let inner := args.drop 1
          if token inner = .closing then .ok (false, inner)
          else do
            let (value, args) ← disjunction sight fuel (token inner) inner
            if token (args.drop 1) = .closing then return (value, args.drop 1)
            else throw .closingExpected
      | .unary operator =>
          match args.drop 1 with
          | [] => .error (.argumentExpected operator)
          | operand :: rest => (unary sight operator operand).map fun value => (value, operand :: rest)
      | _ =>
          match args with
          | [] => .ok (false, [])
          | left :: rest =>
              match token rest, rest.drop 1 with
              | .binary operator, right :: after =>
                  (binary sight left operator right).map fun value => (value, right :: after)
              | .binary operator, [] => .error (.argumentExpected operator)
              | _, _ => .ok (!left.isEmpty, args)

end

def whole (sight : Sight) (first : Token) (args : List String) : Except Problem Bool :=
  match disjunction sight (5 * args.length + 10) first args with
  | .error problem => .error problem
  | .ok (_, last :: _ :: _) => .error (.unexpectedOperator last)
  | .ok (value, _) => .ok value

/-- Whether a condition holds. Three or four arguments are read by their number first. -/
def holds (sight : Sight) : List String → Except Problem Bool
  | [] => .ok false
  | [left, operator, right] =>
      if binaryOperators.contains operator then whole sight .operand [left, operator, right]
      else if left == "(" && right == ")" then whole sight (token [operator]) [operator]
      else if left == "!" then (holds sight [operator, right]).map not
      else whole sight (token [left, operator, right]) [left, operator, right]
  | [first, second, third, fourth] =>
      if first == "(" && fourth == ")" then whole sight (token [second, third]) [second, third]
      else if first == "!" then (holds sight [second, third, fourth]).map not
      else whole sight (token [first, second, third, fourth]) [first, second, third, fourth]
  | args => whole sight (token args) args

def unbracket (name : String) (args : List String) : Except Problem (List String) :=
  if name == "[" then
    if args.getLast? == some "]" then .ok args.dropLast else .error .missingBracket
  else .ok args

def complaint : Problem → String
  | .missingBracket => "missing ']'"
  | .unexpectedOperator text => "extra argument " ++ cited text
  | .argumentExpected operator => "missing argument after " ++ cited operator
  | .closingExpected => "')' expected"
  | .notANumber text => "invalid integer " ++ cited text

def test (frame : Frame) : Work Ending := do
  let tree ← frame.view
  let base := (Text.splitOnChar '/' frame.name.toList).getLast?.getD []
  match (unbracket (String.ofList base) frame.args).bind (holds (Sight.ofTree tree frame.cwd)) with
  | .ok value => return ofBool value
  | .error problem =>
      frame.complain (complaint problem)
      return .exited 2

end LifecycleHooks.Tool.Condition
