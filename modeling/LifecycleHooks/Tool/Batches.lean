import LifecycleHooks.Tool.Basic

/-!
Making commands out of what is read: its words become arguments, many or a few at a time.
-/

namespace LifecycleHooks.Tool.Batches

open Text

inductive Separation
  /-- At blanks and at the ends of lines, but for those in quotes. -/
  | blanks
  /-- At a certain byte only. -/
  | byte (ending : UInt8)

structure Plan where
  separation : Separation
  /-- How many words a command gets at most. -/
  most : Option Nat
  /-- How many lines of words a command gets at most. -/
  lines : Option Nat
  /-- The text in whose place a whole line is put. -/
  placeholder : Option String
  /-- Whether there is no command without words. -/
  skipsEmpty : Bool
  /-- Whether commands are shown before they are run. -/
  traces : Bool
  /-- A word after which nothing is read. -/
  final : Option String
  /-- What is read in the place of the input. -/
  source : Option String
  command : List String

def separator? (text : String) : Option UInt8 :=
  match text.toList with
  | [c] => some c.toNat.toUInt8
  | ['\\', c] =>
      match c with
      | 'n' => some 10
      | 't' => some 9
      | '0' => some 0
      | '\\' => some 92
      | 'r' => some 13
      | 'a' => some 7
      | 'b' => some 8
      | 'f' => some 12
      | 'v' => some 11
      | _ => none
  | _ => none

def readPlan (args : List String) : Except String Plan := do
  let options ← Grammar.read ⟨"0rtxpoe::i::l::n:I:L:P:s:d:a:E:",
    [("null", '0'), ("no-run-if-empty", 'r'), ("verbose", 't'), ("max-args=", 'n'), ("replace=?", 'i'),
      ("max-lines=?", 'l'), ("max-procs=", 'P'), ("max-chars=", 's'), ("delimiter=", 'd'),
      ("arg-file=", 'a'), ("eof=?", 'e'), ("exit", 'x'), ("interactive", 'p'), ("open-tty", 'o')]⟩ false args
  let count (letter : Char) (least : Nat) : Except String (Option Nat) :=
    match options.value? letter with
    | none => .ok none
    | some text =>
        match integer? text with
        | none => .error ("invalid number \"" ++ text ++ "\" for -" ++ String.singleton letter ++ " option")
        | some n =>
            if n < least then
              .error ("value " ++ text ++ " for -" ++ String.singleton letter ++ " option should be >= " ++
                toString least)
            else .ok (some n.toNat)
  let most ← count 'n' 1
  let lines ← count 'L' 1
  let _ ← count 'P' 0
  let _ ← count 's' 1
  let separation ← match options.last? ['0', 'd'] with
    | some '0' => pure (Separation.byte 0)
    | some _ =>
        let text := (options.value? 'd').getD ""
        match separator? text with
        | some byte => pure (Separation.byte byte)
        | none => throw ("Invalid input delimiter specification " ++ text ++
            ": the delimiter must be either a single character or an escape sequence starting with \\.")
    | none => pure Separation.blanks
  let mark (letter : Char) : Option String :=
    (options.value? letter).map fun text => if text.isEmpty then "\x7b\x7d" else text
  let placeholder := if options.last? ['I', 'i', 'n', 'L'] matches some 'n' | some 'L' then none
    else (mark 'I').or (mark 'i')
  return { separation := separation, most := if placeholder.isSome then none else most
           lines := lines.or ((options.value? 'l').map fun text => (natural? text).getD 1)
           placeholder := placeholder, skipsEmpty := options.has 'r' || placeholder.isSome
           traces := options.has 't', final := (options.value? 'E').or (options.value? 'e')
           source := options.value? 'a'
           command := if options.operands.isEmpty then ["echo"] else options.operands }

def isBlank (c : Char) : Bool := c == ' ' || c == '\t'

/-- What is being read: lines that are done, the words of the current one, and its last word. -/
structure Reading where
  lines : List (List String)
  words : List String
  word : Option (List Char)

def Reading.endWord (reading : Reading) : Reading :=
  match reading.word with
  | some word => { reading with words := reading.words ++ [String.ofList word.reverse], word := none }
  | none => reading

def Reading.endLine (reading : Reading) (goesOn : Bool) : Reading :=
  let reading := reading.endWord
  if reading.words.isEmpty || goesOn then reading
  else { reading with lines := reading.words :: reading.lines, words := [] }

def Reading.add (reading : Reading) (c : Char) : Reading :=
  { reading with word := some (c :: reading.word.getD []) }

/-- The words of a text, line by line. Quotes and backslashes make blanks a part of a word; where
`whole` is set, blanks that are not in front of it are so too. A quote that is left open is an error. -/
def words (whole : Bool) : Option Char → Bool → Reading → List Char → Except Char Reading
  | some quote, _, _, [] => .error quote
  | none, _, reading, [] => .ok (reading.endLine false)
  | some quote, blank, reading, c :: rest =>
      if c == quote then
        words whole none blank { reading with word := some (reading.word.getD []) } rest
      else if c == '\n' then .error quote
      else words whole (some quote) blank (reading.add c) rest
  | none, _, reading, '\\' :: c :: rest => words whole none false (reading.add c) rest
  | none, blank, reading, c :: rest =>
      if c == '"' || c == '\'' then
        words whole (some c) false { reading with word := some (reading.word.getD []) } rest
      else if c == '\n' then words whole none false (reading.endLine (blank && !whole)) rest
      else if isBlank c then
        if whole && reading.word.isSome then words whole none true (reading.add c) rest
        else words whole none true reading.endWord rest
      else words whole none false (reading.add c) rest

def pieces {α : Type} (size : Nat) : Nat → List α → List (List α)
  | 0, _ => []
  | _, [] => []
  | fuel + 1, items => items.take size :: pieces size fuel (items.drop size)

def Plan.wordLines (plan : Plan) (bytes : Bytes) : Except Char (List (List String)) :=
  match plan.separation with
  | .byte ending => .ok ((partsOf ending bytes).map fun part => [Text.ofOctets part])
  | .blanks =>
      (words plan.placeholder.isSome none false ⟨[], [], none⟩ (Text.ofOctets bytes).toList).map
        fun reading => reading.lines.reverse

def upTo (final : Option String) : List (List String) → List (List String)
  | [] => []
  | line :: rest =>
      match final with
      | none => line :: rest
      | some word =>
          if line.contains word then
            let kept := line.takeWhile (· != word)
            if kept.isEmpty then [] else [kept]
          else line :: upTo final rest

def Plan.commands (plan : Plan) (bytes : Bytes) : Except Char (List (List String)) :=
  (plan.wordLines bytes).map fun found =>
    let found := upTo plan.final found
    match plan.placeholder with
    | some mark =>
        found.map fun line =>
          plan.command.map fun word => (" ".intercalate line).intercalate (word.splitOn mark)
    | none =>
        let all := found.flatten
        if all.isEmpty then (if plan.skipsEmpty then [] else [plan.command])
        else
          match plan.most, plan.lines with
          | some size, _ => (pieces size all.length all).map (plan.command ++ ·)
          | none, some size => (pieces size found.length found).map fun group => plan.command ++ group.flatten
          | none, none => [plan.command ++ all]

def unread (source : String) (e : SystemError) : String :=
  "Cannot open input file " ++ quote source ++ ": " ++ describe e

def unmatched (quote : Char) : String :=
  "unmatched " ++ (if quote == '"' then "double" else "single") ++
    " quote; by default quotes are special to xargs unless you use the -0 option"

/-- What the end of a program means for those that follow: a complaint, if it is the last one, and the
code that tells of the failure. -/
def failure (name : String) : Process.Ending → Option (Option String × Nat)
  | .exited 0 => none
  | .exited 255 => some (some (name ++ ": exited with status 255; aborting"), 124)
  | .exited _ => some (none, 123)
  | .killed signal => some (some (name ++ ": terminated by signal " ++ toString signal), 125)

end LifecycleHooks.Tool.Batches
