import LifecycleHooks.Text.Lines

/-!
Amounts in the arguments of programs: whole numbers, perhaps with a letter for a multiple.
-/

namespace LifecycleHooks.Tool

def natural? (text : String) : Option Nat :=
  let chars := text.toList
  if chars.isEmpty || !chars.all Char.isDigit then none
  else some (chars.foldl (fun n c => n * 10 + (c.toNat - 48)) 0)

def integer? (text : String) : Option Int :=
  match text.toList with
  | '-' :: digits => (natural? (String.ofList digits)).map fun n => -(n : Int)
  | '+' :: digits => (natural? (String.ofList digits)).map fun n => (n : Int)
  | _ => (natural? text).map fun n => (n : Int)

namespace Amount

def powers : List Char := ['K', 'M', 'G', 'T', 'P', 'E', 'Z', 'Y', 'R', 'Q']

def multiple? : List Char → Option Nat
  | [] => some 1
  | ['b'] => some 512
  | ['c'] => some 1
  | c :: rest =>
      let letter := if c == 'k' then 'K' else if c == 'm' then 'M' else if c == 'g' then 'G' else c
      let power := powers.length - (powers.dropWhile (· != letter)).length + 1
      if !powers.contains letter then none
      else
        match rest with
        | [] => some (Nat.pow 1024 power)
        | ['i', 'B'] => some (Nat.pow 1024 power)
        | ['B'] => some (Nat.pow 1000 power)
        | _ => none

def parse? (text : String) : Option Nat := do
  let digits := text.toList.takeWhile Char.isDigit
  let n ← natural? (String.ofList digits)
  let factor ← multiple? (text.toList.drop digits.length)
  return n * factor

end Amount

/-- A number of seconds with an optional fraction and unit, in microseconds. -/
def duration? (text : String) : Option Nat :=
  let (chars, unit) : List Char × Nat := match text.toList.getLast? with
    | some 's' => (text.toList.dropLast, 1)
    | some 'm' => (text.toList.dropLast, 60)
    | some 'h' => (text.toList.dropLast, 3600)
    | some 'd' => (text.toList.dropLast, 86400)
    | _ => (text.toList, 1)
  let whole := chars.takeWhile Char.isDigit
  let rest := chars.drop whole.length
  let value (digits : List Char) : Nat := digits.foldl (fun n c => n * 10 + (c.toNat - 48)) 0
  match rest with
  | [] => if whole.isEmpty then none else some (value whole * 1000000 * unit)
  | '.' :: fraction =>
      if fraction.all Char.isDigit && !(whole.isEmpty && fraction.isEmpty) then
        let digits := (fraction ++ List.replicate 6 '0').take 6
        some ((value whole * 1000000 + value digits) * unit)
      else none
  | _ => none

end LifecycleHooks.Tool
