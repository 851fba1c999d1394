import LifecycleHooks.Text.Lines

/-!
Modes: the permissions of files as octal numbers or as changes by letters.
-/

namespace LifecycleHooks.Tool

/-- A change by letters: whose permissions, how they change, and by which letters. Where nobody is
named, everybody is meant, but for what new files lack. -/
structure ModeChange where
  owners : List Char
  operator : Char
  letters : List Char

inductive Mode
  | absolute (bits : Nat)
  | changes (all : List ModeChange)

namespace Mode

def isOctal (c : Char) : Bool := '0' ≤ c && c ≤ '7'

def ofOctal (digits : List Char) : Nat := digits.foldl (fun n c => n * 8 + (c.toNat - 48)) 0

def actions (current : Option (Char × List Char)) : List Char → Option (List (Char × List Char))
  | [] => current.map fun action => [action]
  | c :: rest =>
      if ['+', '-', '='].contains c then (actions (some (c, [])) rest).map (current.toList ++ ·)
      else
        match current with
        | some (operator, letters) =>
            if "rwxXstugo".toList.contains c then actions (some (operator, letters ++ [c])) rest
            else none
        | none => none

def changesOf (text : List Char) : Option (List ModeChange) :=
  let owners := text.takeWhile ['u', 'g', 'o', 'a'].contains
  (actions none (text.drop owners.length)).map fun found =>
    found.map fun (operator, letters) => ⟨owners, operator, letters⟩

def parse? (text : String) : Option Mode :=
  let chars := text.toList
  if !chars.isEmpty && chars.all isOctal then
    if 4095 < ofOctal chars then none else some (absolute (ofOctal chars))
  else
    ((Text.splitOnChar ',' chars).mapM changesOf).map fun found => changes found.flatten

def ofChanges? (text : String) : Option Mode :=
  match parse? text with
  | some mode => some mode
  | none =>
      let pieces := (Text.splitOnChar ',' text.toList).filter fun piece =>
        !piece.all ['u', 'g', 'o', 'a'].contains
      (pieces.mapM changesOf).map fun found => changes found.flatten

def weight : Char → Nat
  | 'u' => 64
  | 'g' => 8
  | _ => 1

def digitOf (bits : Nat) (owner : Char) : Nat := bits / weight owner % 8

def granted (isDirectory : Bool) (bits : Nat) (letters : List Char) : Nat :=
  letters.foldl (fun digit c =>
    digit ||| match c with
      | 'r' => 4
      | 'w' => 2
      | 'x' => 1
      | 'X' => if isDirectory || ['u', 'g', 'o'].any fun owner => digitOf bits owner % 2 == 1 then 1 else 0
      | 'u' => digitOf bits 'u'
      | 'g' => digitOf bits 'g'
      | 'o' => digitOf bits 'o'
      | _ => 0) 0

def special (owners letters : List Char) : Nat :=
  let concerns (owner : Char) : Bool := owners.isEmpty || owners.contains 'a' || owners.contains owner
  (if letters.contains 's' && concerns 'u' then 2048 else 0) +
    (if letters.contains 's' && concerns 'g' then 1024 else 0) +
    (if letters.contains 't' then 512 else 0)

/-- What a change makes of permissions; `mask` is what new files lack. -/
def change (mask : Nat) (isDirectory : Bool) (bits : Nat) (given : ModeChange) : Nat :=
  let everybody := given.owners.isEmpty || given.owners.contains 'a'
  let digit := granted isDirectory bits given.letters
  let low := ['u', 'g', 'o'].foldl (fun n owner =>
    let before := digitOf bits owner
    let lacking := if given.owners.isEmpty then digitOf mask owner else 0
    let digit := digit - (digit &&& lacking)
    let after :=
      if !everybody && !given.owners.contains owner then before
      else
        match given.operator with
        | '+' => before ||| digit
        | '-' => before - (before &&& digit)
        | _ => digit
    n + weight owner * after) 0
  let extra := special given.owners given.letters
  let high := bits / 512 * 512
  let high := match given.operator with
    | '+' => high ||| extra
    | '-' => high - (high &&& extra)
    | _ => if isDirectory then high ||| extra else extra
  high + low

def apply (mask : Nat) (isDirectory : Bool) (bits : Nat) : Mode → Nat
  | absolute given => given
  | changes all => all.foldl (change mask isDirectory) bits

def letters (bits : Nat) : String :=
  let three (owner : Char) (set : Bool) (mark : Char) : List Char :=
    let digit := digitOf bits owner
    let last := match set, digit % 2 == 1 with
      | true, true => mark
      | true, false => mark.toUpper
      | false, true => 'x'
      | false, false => '-'
    [if 4 ≤ digit then 'r' else '-', if digit / 2 % 2 == 1 then 'w' else '-', last]
  String.ofList (three 'u' (bits / 2048 % 2 == 1) 's' ++ three 'g' (bits / 1024 % 2 == 1) 's' ++
    three 'o' (bits / 512 % 2 == 1) 't')

def octalText (bits : Nat) : String := String.ofList (Nat.toDigits 8 bits)

end Mode

end LifecycleHooks.Tool
