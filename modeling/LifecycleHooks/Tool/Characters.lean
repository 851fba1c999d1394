import LifecycleHooks.Text.CharacterClass
import LifecycleHooks.Tool.Basic

/-!
Replacing, deleting and squeezing bytes by sets of them.
-/

namespace LifecycleHooks.Tool.Characters

open Process Text

def byteOf (c : Char) : UInt8 := c.toNat.toUInt8

def digitValue? (byte : UInt8) : Option Nat :=
  if 48 ≤ byte && byte ≤ 55 then some (byte.toNat - 48) else none

def escape : Bytes → UInt8 × Bytes
  | [] => (92, [])
  | byte :: rest =>
      match digitValue? byte with
      | some _ =>
          let value (digits : Bytes) : Nat := digits.foldl (fun n b => n * 8 + (b.toNat - 48)) 0
          let three := ((byte :: rest).take 3).takeWhile fun b => (digitValue? b).isSome
          let digits := if 255 < value three then three.take 2 else three
          ((value digits).toUInt8, (byte :: rest).drop digits.length)
      | none =>
          let value : UInt8 :=
            if byte == byteOf 'n' then 10
            else if byte == byteOf 't' then 9
            else if byte == byteOf 'r' then 13
            else if byte == byteOf 'a' then 7
            else if byte == byteOf 'b' then 8
            else if byte == byteOf 'f' then 12
            else if byte == byteOf 'v' then 11
            else byte
          (value, rest)

def interval (low high : Nat) : Bytes :=
  (List.range (high + 1 - low)).map fun n => (low + n).toUInt8

inductive Item
  | bytes (given : Bytes)
  | named (name : String) (members : Bytes)
  /-- A byte so many times; as often as is needed if no number is given. -/
  | times (byte : UInt8) (count : Option Nat)

def bracketed? (mark : UInt8) (bytes : Bytes) : Option (Bytes × Bytes) :=
  match bytes with
  | 91 :: first :: rest =>
      if first != mark then none
      else
        let name := rest.takeWhile (· != mark)
        match rest.drop name.length with
        | _ :: 93 :: after => some (name, after)
        | _ => none
  | _ => none

def single? : Bytes → Option (UInt8 × Bytes)
  | [] => none
  | 92 :: rest => some (escape rest)
  | byte :: rest => some (byte, rest)

/-- A byte in brackets with a star and the number of its repetitions, and what follows. A number that
begins with a zero is octal. -/
def repetition? (bytes : Bytes) : Option (Item × Bytes) :=
  match bytes with
  | 91 :: rest =>
      match single? rest with
      | some (byte, 42 :: rest) =>
          let digits := rest.takeWhile (· != 93)
          match rest.drop digits.length with
          | 93 :: after =>
              let text := Text.ofOctets digits
              if digits.isEmpty then some (.times byte none, after)
              else if digits.head? == some 48 && digits.all fun b => (digitValue? b).isSome then
                let n := digits.foldl (fun n b => n * 8 + (b.toNat - 48)) 0
                some (.times byte (if n = 0 then none else some n), after)
              else (natural? text).map fun n => (.times byte (some n), after)
          | _ => none
      | _ => none
  | _ => none

inductive Problem
  | reversedRange (text : String)
  | noClass (name : String)
  | longEqual (name : String)

def Problem.message : Problem → String
  | .reversedRange text => "range-endpoints of '" ++ text ++ "' are in reverse collating sequence order"
  | .noClass name => "invalid character class " ++ cited name
  | .longEqual name => name ++ ": equivalence class operand must be a single character"

def items : Nat → Bytes → Except Problem (List Item)
  | 0, _ => .ok []
  | fuel + 1, bytes =>
      match bracketed? 58 bytes with
      | some (name, after) =>
          let name := Text.ofOctets name
          match Text.classRanges? name with
          | some ranges =>
              let members := ranges.flatMap fun (low, high) => interval low high
              (items fuel after).map (.named name members :: ·)
          | none => .error (.noClass name)
      | none =>
          match bracketed? 61 bytes, repetition? bytes with
          | some ([byte], after), _ => (items fuel after).map (.bytes [byte] :: ·)
          | some (name, _), _ => .error (.longEqual (Text.ofOctets name))
          | none, some (item, after) => (items fuel after).map (item :: ·)
          | none, none =>
              match single? bytes with
              | none => .ok []
              | some (low, 45 :: rest) =>
                  match single? rest with
                  | none => .ok [.bytes [low, 45]]
                  | some (high, after) =>
                      if high < low then
                        .error (.reversedRange
                          (Text.ofOctets (bytes.take (bytes.length - after.length))))
                      else (items fuel after).map (.bytes (interval low.toNat high.toNat) :: ·)
              | some (byte, rest) => (items fuel rest).map (.bytes [byte] :: ·)

def itemsOf (text : String) : Except Problem (List Item) := items (text.length + 1) (Text.octets text)

/-- The bytes of a set; `fill` is how many a byte stands for that is repeated as often as is needed. -/
def expand (fill : Nat) (items : List Item) : Bytes :=
  items.flatMap fun item =>
    match item with
    | .bytes given => given
    | .named _ members => members
    | .times byte count => List.replicate (count.getD fill) byte

def expandTo (length : Nat) (items : List Item) : Bytes := expand (length - (expand 0 items).length) items

def complement (set : Bytes) : Bytes := (interval 0 255).filter fun byte => !set.contains byte

/-- The places at which classes of letters in one case begin. -/
def casePlaces (items : List Item) : List Nat :=
  (items.foldl (fun (state : List Nat × Nat) item =>
    let length := (expand 0 [item]).length
    match item with
    | .named name _ =>
        (if name == "upper" || name == "lower" then state.2 :: state.1 else state.1, state.2 + length)
    | _ => (state.1, state.2 + length)) ([], 0)).1

def Item.isFill : Item → Bool
  | .times _ none => true
  | _ => false

def Item.isClass : Item → Bool
  | .named _ _ => true
  | _ => false

def Item.isOtherClass : Item → Bool
  | .named name _ => name != "upper" && name != "lower"
  | _ => false

def pairProblem? (complemented truncates : Bool) (source target : List Item) : Option String :=
  let wanted := if complemented then 256 - (expand 0 source).eraseDups.length
    else (expand 0 source).length
  let found := expandTo wanted target
  if target.any Item.isOtherClass then
    some ("when translating, the only character classes that may appear in\n" ++
      "string2 are 'upper' and 'lower'")
  else if (casePlaces target).any fun place => !(casePlaces source).contains place then
    some "misaligned [:upper:] and/or [:lower:] construct"
  else if found.isEmpty && !truncates then
    some "when not truncating set1, string2 must be non-empty"
  else if complemented && source.any Item.isClass && 1 < found.eraseDups.length then
    some ("when translating with complemented character classes,\n" ++
      "string2 must map all characters in the domain to one")
  else none

def replaceBy (source target : Bytes) (byte : UInt8) : UInt8 :=
  match (source.zipIdx.filter fun entry => entry.1 == byte).getLast? with
  | some (_, i) => ((target[i]?).or target.getLast?).getD byte
  | none => byte

def squeeze (set : Bytes) : Option UInt8 → Bytes → Bytes
  | _, [] => []
  | last, byte :: rest =>
      if last == some byte && set.contains byte then squeeze set last rest
      else byte :: squeeze set (some byte) rest

structure Change where
  each : UInt8 → Option UInt8
  squeezed : Bytes

def Change.ofOptions (options : Options) (source : List Item) (target : Option (List Item)) : Change :=
  let complements := options.has 'c' || options.has 'C'
  let set := expand 0 source
  let set := if complements then complement set else set
  let deletes := options.has 'd'
  let other := target.map (expandTo (if deletes then 0 else set.length))
  let squeezed := if options.has 's' then other.getD set else []
  if deletes then
    ⟨fun byte => if set.contains byte then none else some byte, if target.isSome then squeezed else []⟩
  else
    match other with
    | some other =>
        let set := if options.has 't' then set.take other.length else set
        let table := ((interval 0 255).map (replaceBy set other)).toArray
        ⟨fun byte => table[byte.toNat]?, squeezed⟩
    | none => ⟨some, squeezed⟩

/-- Changes bytes after those that ended with `last`; the second part is the new last byte. -/
def Change.apply (change : Change) (last : Option UInt8) (bytes : Bytes) : Bytes × Option UInt8 :=
  let changed := bytes.filterMap change.each
  (squeeze change.squeezed last changed, changed.getLast?.or last)

def tr (frame : Frame) : Work Ending :=
  withOptions frame "cCdst"
      [("complement", 'c'), ("delete", 'd'), ("squeeze-repeats", 's'), ("truncate-set1", 't')]
      fun options => do
    let refuse (problem : String) : Work Ending := do
      frame.complain problem
      return failed
    let copy (source : List Item) (target : Option (List Item)) : Work Ending := do
      let change := Change.ofOptions options source target
      match ← handOn frame 0 change.apply none with
      | .ok _ => return ok
      | .error e => refuse ("read error: " ++ describe e)
    match options.operands with
    | [] => frame.misused "missing operand"
    | [given] =>
        if !options.has 'd' && !options.has 's' then
          frame.misused ("missing operand after " ++ cited given ++
            "\nTwo strings must be given when translating.")
        else if options.has 'd' && options.has 's' then
          frame.misused ("missing operand after " ++ cited given ++
            "\nTwo strings must be given when both deleting and squeezing repeats.")
        else
          match itemsOf given with
          | .ok source =>
              if source.any Item.isFill then
                refuse "the [c*] repeat construct may not appear in string1"
              else copy source none
          | .error problem => refuse problem.message
    | [given, other] =>
        if options.has 'd' && !options.has 's' then
          frame.misused ("extra operand " ++ cited other ++
            "\nOnly one string may be given when deleting without squeezing repeats.")
        else
          match itemsOf given, itemsOf other with
          | .ok source, .ok target =>
              let complements := options.has 'c' || options.has 'C'
              let problem? :=
                if source.any Item.isFill then
                  some "the [c*] repeat construct may not appear in string1"
                else if options.has 'd' then none
                else pairProblem? complements (options.has 't') source target
              match problem? with
              | some problem => refuse problem
              | none => copy source (some target)
          | .error problem, _ => refuse problem.message
          | _, .error problem => refuse problem.message
    | _ :: _ :: extra :: _ => frame.misused ("extra operand " ++ cited extra)

end LifecycleHooks.Tool.Characters
