import LifecycleHooks.Expression.Reader
import LifecycleHooks.Tool.Basic

/-!
Formulas over words: sums, comparisons, choices, and what a pattern finds in a text. Every value is a
text; some texts are numbers.
-/

namespace LifecycleHooks.Tool.Formula

open Process

inductive Problem
  | missingAfter (word : String)
  | unexpected (word : String)
  | unexpectedClosing
  | closingAfter (word : String)
  | closingInstead (word : String)
  | noInteger
  | divisionByZero
  | pattern (problem : Expression.Problem)

def Problem.message : Problem → String
  | .missingAfter word => "syntax error: missing argument after " ++ cited word
  | .unexpected word => "syntax error: unexpected argument " ++ cited word
  | .unexpectedClosing => "syntax error: unexpected ')'"
  | .closingAfter word => "syntax error: expecting ')' after " ++ cited word
  | .closingInstead word => "syntax error: expecting ')' instead of " ++ cited word
  | .noInteger => "non-integer argument"
  | .divisionByZero => "division by zero"
  | .pattern problem => problem.message

def number? (text : String) : Option Int :=
  if text.toList.head? == some '+' then none else integer? text

def isNull (text : String) : Bool := text.isEmpty || number? text == some 0

def number (text : String) : Except Problem Int :=
  match number? text with
  | some n => .ok n
  | none => .error .noInteger

def find (text pattern : String) : Except Problem String :=
  match Expression.read ⟨false, false⟩ pattern.toList with
  | .error problem => .error (.pattern problem)
  | .ok expression =>
      let place := Expression.Place.ofChars text.toList
      let hasGroup := 0 < expression.groupCount
      match expression.matchAt false place with
      | some last =>
          .ok (if hasGroup then String.ofList (last.found 1) else toString (place.left - last.left))
      | none => .ok (if hasGroup then "" else "0")

def indexOf (text chars : String) : Nat :=
  match text.toList.findIdx? chars.toList.contains with
  | some i => i + 1
  | none => 0

def substring (text start length : String) : String :=
  match number? start, number? length with
  | some start, some length =>
      if start ≤ 0 || length ≤ 0 then ""
      else String.ofList ((text.toList.drop (start.toNat - 1)).take length.toNat)
  | _, _ => ""

def compareBy (operator : String) (a b : String) : Bool :=
  let order := match number? a, number? b with
    | some m, some n => compare m n
    | _, _ => compare a b
  match operator with
  | "<" => order == .lt
  | "<=" => order != .gt
  | "=" => order == .eq
  | "==" => order == .eq
  | "!=" => order != .eq
  | ">=" => order != .lt
  | _ => order == .gt

def calculate (operator : String) (a b : String) : Except Problem String := do
  let m ← number a
  let n ← number b
  match operator with
  | "+" => return toString (m + n)
  | "-" => return toString (m - n)
  | "*" => return toString (m * n)
  | "/" => if n = 0 then throw .divisionByZero else return toString (m.tdiv n)
  | _ => if n = 0 then throw .divisionByZero else return toString (m.tmod n)

def levels : List (List String) :=
  [["|"], ["&"], ["<", "<=", "=", "==", "!=", ">=", ">"], ["+", "-"], ["*", "/", "%"], [":"]]

/-- The value of an operator; what is not `live` is not worked out. -/
def combine (live : Bool) (operator a b : String) : Except Problem String :=
  if operator == "|" then
    .ok (if !isNull a then a else if !isNull b then b else "0")
  else if operator == "&" then .ok (if isNull a || isNull b then "0" else a)
  else if !live then .ok ""
  else if operator == ":" then find a b
  else if ["<", "<=", "=", "==", "!=", ">=", ">"].contains operator then
    .ok (if compareBy operator a b then "1" else "0")
  else calculate operator a b

structure Reading where
  value : String
  rest : List String
  last : String

mutual

def readLevel (live : Bool) : Nat → Nat → String → List String → Except Problem Reading
  | 0, _, last, _ => .error (.missingAfter last)
  | fuel + 1, level, last, words =>
      if levels.length ≤ level then readPrimary live fuel last words
      else do
        let first ← readLevel live fuel (level + 1) last words
        readMore live fuel level first

def readMore (live : Bool) : Nat → Nat → Reading → Except Problem Reading
  | 0, _, reading => .ok reading
  | fuel + 1, level, reading =>
      match reading.rest with
      | operator :: rest =>
          if !(levels.getD level []).contains operator then .ok reading
          else do
            let live' := live && !(operator == "|" && !isNull reading.value) &&
              !(operator == "&" && isNull reading.value)
            let second ← readLevel live' fuel (level + 1) operator rest
            let value ← combine live operator reading.value second.value
            readMore live fuel level { second with value := value }
      | [] => .ok reading

def readPrimary (live : Bool) : Nat → String → List String → Except Problem Reading
  | 0, last, _ => .error (.missingAfter last)
  | fuel + 1, last, words =>
      let arguments (count : Nat) (name : String) (rest : List String) :
          Except Problem (List String × Reading) :=
        readArguments live fuel count name rest
      match words with
      | [] => .error (.missingAfter last)
      | "+" :: word :: rest => .ok ⟨word, rest, word⟩
      | "+" :: [] => .error (.missingAfter "+")
      | "match" :: rest => do
          let (given, reading) ← arguments 2 "match" rest
          let value ← if live then find (given.getD 0 "") (given.getD 1 "") else pure ""
          return { reading with value := value }
      | "length" :: rest => do
          let (given, reading) ← arguments 1 "length" rest
          return { reading with value := toString (given.getD 0 "").length }
      | "index" :: rest => do
          let (given, reading) ← arguments 2 "index" rest
          return { reading with value := toString (indexOf (given.getD 0 "") (given.getD 1 "")) }
      | "substr" :: rest => do
          let (given, reading) ← arguments 3 "substr" rest
          return { reading with
            value := substring (given.getD 0 "") (given.getD 1 "") (given.getD 2 "") }
      | "(" :: rest => do
          let inner ← readLevel live fuel 0 "(" rest
          match inner.rest with
          | ")" :: rest => return { inner with rest := rest, last := ")" }
          | word :: _ => throw (.closingInstead word)
          | [] => throw (.closingAfter inner.last)
      | ")" :: _ => .error .unexpectedClosing
      | word :: rest => .ok ⟨word, rest, word⟩

def readArguments (live : Bool) :
    Nat → Nat → String → List String → Except Problem (List String × Reading)
  | 0, _, last, _ => .error (.missingAfter last)
  | _, 0, last, words => .ok ([], ⟨"", words, last⟩)
  | fuel + 1, count + 1, last, words => do
      let first ← readLevel live fuel levels.length last words
      let (others, reading) ← readArguments live fuel count first.last first.rest
      return (first.value :: others, reading)

end

def value (words : List String) : Except Problem String := do
  let reading ← readLevel true (16 * words.length + 32) 0 "" words
  match reading.rest with
  | [] => return reading.value
  | word :: _ => throw (.unexpected word)

def expr (frame : Frame) : Work Ending := do
  let args := if frame.args.head? == some "--" then frame.args.drop 1 else frame.args
  if args.isEmpty then frame.misused "missing operand"
  else
    match value args with
    | .ok text =>
        frame.say (text ++ "\n")
        return ofBool (!isNull text)
    | .error problem =>
        frame.complain problem.message
        return .exited 2

end LifecycleHooks.Tool.Formula
