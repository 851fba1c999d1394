import LifecycleHooks.Expression.Basic

/-!
Programs for records. Such a program is a list of rules: what is done with the records that suit a
pattern. A record is a piece of the input, most often a line, and falls into fields.
-/

namespace LifecycleHooks.Tool.Records

inductive Operator
  | add
  | subtract
  | multiply
  | divide
  | remainder
  | power
  deriving DecidableEq

inductive Comparison
  | less
  | lessEqual
  | equal
  | unequal
  | greater
  | greaterEqual
  deriving DecidableEq

inductive Function
  | length
  | substring
  | index
  | split
  | substituteFirst
  | substituteAll
  | matchPlace
  | format
  | sine
  | cosine
  | arcTangent
  | exponential
  | logarithm
  | squareRoot
  | truncate
  | random
  | seed
  | lower
  | upper
  | system
  | close
  | flush
  | time
  deriving DecidableEq

mutual

inductive Term
  | number (value : Float)
  | text (value : String)
  /-- Whether the record matches; as an argument of some functions the expression itself. -/
  | pattern (expression : Expression)
  | place (place : Place)
  | assign (place : Place) (operator : Option Operator) (value : Term)
  /-- Adds to a place and gives its value from before or after. -/
  | step (place : Place) (amount : Float) (after : Bool)
  | negate (term : Term)
  | plus (term : Term)
  | not (term : Term)
  | calculate (operator : Operator) (left right : Term)
  | join (left right : Term)
  | compare (comparison : Comparison) (left right : Term)
  | suits (negated : Bool) (text pattern : Term)
  | member (indices : List Term) (array : String)
  | both (left right : Term)
  | either (left right : Term)
  | choose (condition yes no : Term)
  | apply (function : Function) (args : List Term)
  | call (name : String) (args : List Term)
  /-- Reads the next record. -/
  | readNext (into : Option Place)
  | readFile (file : Term) (into : Option Place)
  | readCommand (command : Term) (into : Option Place)

inductive Place
  | variable (name : String)
  | element (array : String) (indices : List Term)
  | field (number : Term)

end

inductive Target
  | file
  | append
  | command
  deriving DecidableEq

inductive Statement
  | evaluate (term : Term)
  | print (items : List Term) (target : Option (Target × Term))
  | printFormat (items : List Term) (target : Option (Target × Term))
  | block (statements : List Statement)
  | choose (condition : Term) (yes no : Statement)
  | repeatWhile (condition : Term) (body : Statement)
  | repeatUntil (body : Statement) (condition : Term)
  | repeatFor (start : Statement) (condition : Option Term) (step body : Statement)
  | repeatIn (name array : String) (body : Statement)
  | leaveLoop
  | nextRound
  | nextRecord
  | nextFile
  | finish (code : Option Term)
  | giveBack (value : Option Term)
  | delete (array : String) (indices : Option (List Term))

inductive Condition
  | atStart
  | atEnd
  | always
  | suits (term : Term)
  /-- From a record that suits the first term to one that suits the last. -/
  | between (first last : Term)

/-- Without an action, the record is printed. -/
structure Rule where
  condition : Condition
  action : Option (List Statement)

structure Definition where
  name : String
  parameters : List String
  body : List Statement

structure Program where
  rules : List Rule
  definitions : List Definition

end LifecycleHooks.Tool.Records
