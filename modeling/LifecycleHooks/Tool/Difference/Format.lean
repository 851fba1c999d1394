import LifecycleHooks.Text.Octets
import LifecycleHooks.Tool.Difference.Script

/-!
The ways in which changes between two files are shown.
-/

namespace LifecycleHooks.Tool.Difference

open Text (Bytes)

structure Tolerance where
  anyCase : Bool
  anyBlanks : Bool
  anyAmount : Bool
  anyTrailing : Bool

def isBlank (byte : UInt8) : Bool := byte == 32 || (9 ≤ byte && byte ≤ 13)

/-- A line with a single blank in the place of every run of them, and none at its end. -/
def squeezed : Bytes → Bytes
  | [] => []
  | byte :: rest =>
      if isBlank byte then
        match squeezed rest with
        | [] => []
        | 32 :: others => 32 :: others
        | others => 32 :: others
      else byte :: squeezed rest

def withoutTrailing (line : Bytes) : Bytes := (line.reverse.dropWhile isBlank).reverse

def Tolerance.key (tolerance : Tolerance) (line : Bytes) : Bytes :=
  let line := if tolerance.anyCase then
      line.map fun byte => if 65 ≤ byte && byte ≤ 90 then byte + 32 else byte
    else line
  if tolerance.anyBlanks then line.filter fun byte => !isBlank byte
  else if tolerance.anyAmount then squeezed line
  else if tolerance.anyTrailing then withoutTrailing line
  else line

def numberLines (keys : List Bytes) : List Nat :=
  (keys.foldl (fun (seen, numbers) key =>
    match List.lookup key seen with
    | some n => (seen, n :: numbers)
    | none => ((key, seen.length) :: seen, seen.length :: numbers))
    (([] : List (Bytes × Nat)), ([] : List Nat))).2.reverse

structure Comparison where
  left : Array Bytes
  right : Array Bytes
  changes : List Change

def compareLines (tolerance : Tolerance) (horizon : Nat) (left right : List Bytes) : Comparison :=
  let numbers := numberLines ((left ++ right).map tolerance.key)
  ⟨left.toArray, right.toArray,
    changesOf horizon (numbers.take left.length) (numbers.drop left.length)⟩

def marked (mark : String) (line : Bytes) : Bytes :=
  Text.octets mark ++ line ++
    (if line.getLast? == some 10 then [] else Text.octets "\n\\ No newline at end of file\n")

def linesMarked (mark : String) (lines : Array Bytes) (first count : Nat) : Bytes :=
  (List.range count).flatMap fun i => marked mark (lines.getD (first + i) [])

/-- The numbers of lines: the first and the last one, or the one in front where there are none. -/
def rangeText (first count : Nat) : String :=
  if count ≤ 1 then toString (first + count)
  else toString (first + 1) ++ "," ++ toString (first + count)

def Change.command (change : Change) : String :=
  if change.added = 0 then rangeText change.first change.removed ++ "d" ++ toString change.second
  else if change.removed = 0 then toString change.first ++ "a" ++ rangeText change.second change.added
  else rangeText change.first change.removed ++ "c" ++ rangeText change.second change.added

def normal (comparison : Comparison) : Bytes :=
  comparison.changes.flatMap fun change =>
    Text.octets (change.command ++ "\n") ++
      linesMarked "< " comparison.left change.first change.removed ++
      (if change.removed ≠ 0 ∧ change.added ≠ 0 then Text.octets "---\n" else []) ++
      linesMarked "> " comparison.right change.second change.added

def commands (comparison : Comparison) : Bytes :=
  comparison.changes.reverse.flatMap fun change =>
    let place := rangeText change.first change.removed
    if change.added = 0 then Text.octets (place ++ "d\n")
    else
      Text.octets ((if change.removed = 0 then toString change.first ++ "a" else place ++ "c") ++ "\n") ++
        linesMarked "" comparison.right change.second change.added ++ Text.octets ".\n"

/-- Changes in the order of the lines, with nothing but the new lines as they are. -/
def revisions (comparison : Comparison) : Bytes :=
  comparison.changes.flatMap fun change =>
    let last := change.first + change.removed
    (if change.removed = 0 then []
      else Text.octets ("d" ++ toString (change.first + 1) ++ " " ++ toString change.removed ++ "\n")) ++
    (if change.added = 0 then []
      else Text.octets ("a" ++ toString last ++ " " ++ toString change.added ++ "\n") ++
        (List.range change.added).flatMap fun i => comparison.right.getD (change.second + i) [])

def grouped (gap : Nat) : List Change → List (List Change)
  | [] => []
  | change :: rest =>
      match grouped gap rest with
      | (next :: others) :: groups =>
          if next.first - (change.first + change.removed) ≤ gap then (change :: next :: others) :: groups
          else [change] :: (next :: others) :: groups
      | groups => [change] :: groups

structure Hunk where
  first : Nat
  removed : Nat
  second : Nat
  added : Nat
  changes : List Change

def hunkOf (context : Nat) (comparison : Comparison) (changes : List Change) : Hunk :=
  match changes.head?, changes.getLast? with
  | some head, some last =>
      let before := min context head.first
      let behind := min context (comparison.left.size - (last.first + last.removed))
      let first := head.first - before
      let second := head.second - before
      ⟨first, last.first + last.removed + behind - first, second,
        last.second + last.added + behind - second, changes⟩
  | _, _ => ⟨0, 0, 0, 0, []⟩

def hunks (context : Nat) (comparison : Comparison) : List Hunk :=
  (grouped (2 * context) comparison.changes).map (hunkOf context comparison)

def hunkRange (first count : Nat) : String :=
  if count = 0 then toString first ++ ",0"
  else if count = 1 then toString (first + 1)
  else toString (first + 1) ++ "," ++ toString count

/-- The lines of a hunk from a place on, with what is taken out and put in among them. -/
def unifiedLines (comparison : Comparison) (stop : Nat) : Nat → List Change → Bytes
  | place, [] => linesMarked " " comparison.left place (stop - place)
  | place, change :: rest =>
      linesMarked " " comparison.left place (change.first - place) ++
        linesMarked "-" comparison.left change.first change.removed ++
        linesMarked "+" comparison.right change.second change.added ++
        unifiedLines comparison stop (change.first + change.removed) rest

def unified (context : Nat) (comparison : Comparison) : Bytes :=
  (hunks context comparison).flatMap fun hunk =>
    Text.octets ("@@ -" ++ hunkRange hunk.first hunk.removed ++ " +" ++ hunkRange hunk.second hunk.added ++
      " @@\n") ++
      unifiedLines comparison (hunk.first + hunk.removed) hunk.first hunk.changes

def sideLines (mark : String) (lines : Array Bytes) (first count : Nat) (start size : Change → Nat)
    (changes : List Change) : Bytes :=
  (List.range count).flatMap fun i =>
    let place := first + i
    match changes.find? fun change => start change ≤ place && place < start change + size change with
    | some change =>
        marked (if change.removed ≠ 0 ∧ change.added ≠ 0 then "! " else mark) (lines.getD place [])
    | none => marked "  " (lines.getD place [])

def contextual (context : Nat) (comparison : Comparison) : Bytes :=
  (hunks context comparison).flatMap fun hunk =>
    let left := if hunk.changes.all fun change => change.removed = 0 then []
      else sideLines "- " comparison.left hunk.first hunk.removed Change.first Change.removed hunk.changes
    let right := if hunk.changes.all fun change => change.added = 0 then []
      else sideLines "+ " comparison.right hunk.second hunk.added Change.second Change.added hunk.changes
    Text.octets ("***************\n*** " ++ rangeText hunk.first hunk.removed ++ " ****\n") ++ left ++
      Text.octets ("--- " ++ rangeText hunk.second hunk.added ++ " ----\n") ++ right

end LifecycleHooks.Tool.Difference
