/-!
The language of commands: words with their quotes and expansions, and commands made of them.
-/

namespace LifecycleHooks.Shell

inductive Treatment
  | useDefault
  | assignDefault
  | complain
  | useAlternative
  | cutShortestEnd
  | cutLongestEnd
  | cutShortestStart
  | cutLongestStart
  /-- A sign that means nothing, which is noticed when the parameter is needed. -/
  | unknown
  deriving DecidableEq

inductive Direction
  | input
  | output
  /-- Output that may take the place of a file that is there, whatever the options say. -/
  | overwrite
  | append
  | both
  /-- A copy of another descriptor, or closing when the word is a dash. -/
  | duplicate
  /-- The text that follows in the program. -/
  | document
  deriving DecidableEq

mutual

inductive Part
  | plain (text : List Char)
  | quoted (text : List Char)
  | parameter (name : String) (treatment : Option (Treatment × Bool)) (word : List Part)
      (quoted : Bool)
  | length (name : String) (quoted : Bool)
  | substitution (body : Command) (quoted : Bool)
  | arithmetic (parts : List Part) (quoted : Bool)

inductive Redirect
  | mk (descriptor : Nat) (direction : Direction) (word : List Part)

inductive Command
  | nothing
  | simple (line : Nat) (assignments : List (String × List Part)) (words : List (List Part))
      (redirects : List Redirect)
  /-- A compound command that begins in a line. -/
  | located (line : Nat) (command : Command)
  | pipeline (negated : Bool) (commands : List Command)
  | both (first second : Command)
  | either (first second : Command)
  | sequence (first second : Command)
  | background (command : Command)
  | subshell (body : Command) (redirects : List Redirect)
  | group (body : Command) (redirects : List Redirect)
  | branch (condition body otherwise : Command) (redirects : List Redirect)
  | loop (untilTrue : Bool) (condition body : Command) (redirects : List Redirect)
  | forEach (name : String) (words : Option (List (List Part))) (body : Command)
      (redirects : List Redirect)
  | select (word : List Part) (branches : List (List (List Part) × Command))
      (redirects : List Redirect)
  | define (name : String) (body : Command)

end

abbrev Word := List Part

instance : Inhabited Command := ⟨.nothing⟩

structure SyntaxError where
  line : Nat
  problem : String

def SyntaxError.message (e : SyntaxError) : String :=
  toString e.line ++ ": Syntax error: " ++ e.problem

end LifecycleHooks.Shell
