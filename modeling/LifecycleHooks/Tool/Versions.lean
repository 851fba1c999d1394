import LifecycleHooks.Text.Bytes

/-!
The order of names with versions in them: runs of digits are compared as numbers, and a tilde comes
before everything else, even before the end.
-/

namespace LifecycleHooks.Tool.Versions

open Text (Bytes)

def isDigit (byte : UInt8) : Bool := 48 ≤ byte && byte ≤ 57

def isLetter (byte : UInt8) : Bool := (65 ≤ byte && byte ≤ 90) || (97 ≤ byte && byte ≤ 122)

def rank : Option UInt8 → Int
  | none => -1
  | some byte =>
      if byte == 126 then -2
      else if isDigit byte then 0
      else if isLetter byte then byte.toNat
      else byte.toNat + 256

def compareText : Nat → Bytes → Bytes → Ordering × Bytes × Bytes
  | 0, a, b => (.eq, a, b)
  | fuel + 1, a, b =>
      let goesOn (text : Bytes) : Bool := text.head?.any fun byte => !isDigit byte
      if goesOn a || goesOn b then
        match compare (rank a.head?) (rank b.head?) with
        | .eq => compareText fuel (a.drop 1) (b.drop 1)
        | other => (other, a, b)
      else (.eq, a, b)

def compareNumbers (a b : Bytes) : Ordering × Bytes × Bytes :=
  let a := a.dropWhile (· == 48)
  let b := b.dropWhile (· == 48)
  let front := a.takeWhile isDigit
  let other := b.takeWhile isDigit
  let value (digits : Bytes) : Nat := digits.foldl (fun n byte => n * 10 + (byte.toNat - 48)) 0
  (compare (value front) (value other), a.drop front.length, b.drop other.length)

def compareParts : Nat → Bytes → Bytes → Ordering
  | 0, _, _ => .eq
  | fuel + 1, a, b =>
      if a.isEmpty && b.isEmpty then .eq
      else
        match compareText (a.length + b.length + 1) a b with
        | (.eq, a, b) =>
            match compareNumbers a b with
            | (.eq, a, b) => compareParts fuel a b
            | (other, _, _) => other
        | (other, _, _) => other

/-- How long a name is without endings such as `.tar.gz`, for one that is given last byte first:
`ending` is the part behind the point that is looked for. -/
def stemLength (whole : Nat) : Bytes → Bytes → Nat
  | _, [] => whole
  | ending, byte :: rest =>
      if byte == 46 then
        match ending with
        | first :: _ =>
            if isLetter first || first == 126 then stemLength rest.length [] rest else whole
        | [] => whole
      else if isLetter byte || isDigit byte || byte == 126 then stemLength whole (byte :: ending) rest
      else whole

def stem (name : Bytes) : Bytes :=
  let length := stemLength name.length [] name.reverse
  name.take (if length = 0 then name.length else length)

def compare (a b : Bytes) : Ordering :=
  if a == b then .eq
  else if a.isEmpty then .lt
  else if b.isEmpty then .gt
  else
    let fuel := a.length + b.length + 1
    (compareParts fuel (stem a) (stem b)).then (compareParts fuel a b)

end LifecycleHooks.Tool.Versions
