import LifecycleHooks.Tool.Folding

/-!
A program that writes pieces of what it reads into files with names that follow each other.
-/

namespace LifecycleHooks.Tool.Splitting

open Process Text

inductive Cut
  /-- After so many lines. -/
  | lines (count : Nat)
  /-- After so many bytes. -/
  | bytes (count : Nat)
  /-- After as many whole lines as have at most so many bytes. -/
  | lineBytes (count : Nat)
  /-- Into so many pieces of the same length. -/
  | parts (count : Nat)
  /-- Into so many pieces of about the same length, at the ends of lines. -/
  | lineParts (count : Nat)
  /-- The lines go to so many pieces in turn. -/
  | turns (count : Nat)

def groups {α : Type} (count : Nat) : Nat → List α → List (List α)
  | 0, _ => []
  | _, [] => []
  | fuel + 1, items => items.take count :: groups count fuel (items.drop count)

/-- Pieces of whole lines as long as they fit; a line that is too long on its own is cut. `fuel` bounds
the number of pieces. -/
def fitted (count : Nat) : Nat → Bytes → List Bytes → List Bytes
  | 0, _, _ => []
  | _, current, [] => if current.isEmpty then [] else [current]
  | fuel + 1, current, line :: rest =>
      if current.length + line.length ≤ count then fitted count fuel (current ++ line) rest
      else if !current.isEmpty then current :: fitted count fuel [] (line :: rest)
      else line.take count :: fitted count fuel [] (line.drop count :: rest)

def ends (length count : Nat) : List Nat :=
  (List.range count).map fun i => (i + 1) * (length / count) + min (i + 1) (length % count)

def partsOfLength (bytes : Bytes) (count : Nat) : List Bytes :=
  let ends := ends bytes.length count
  (ends.zip (0 :: ends)).map fun (stop, start) => (bytes.drop start).take (stop - start)

def placed : Nat → List Bytes → List (Nat × Bytes)
  | _, [] => []
  | start, line :: rest => (start, line) :: placed (start + line.length) rest

def partsAtLines (lines : List Bytes) (count : Nat) : List Bytes :=
  let placed := placed 0 lines
  let ends := ends (lines.flatten).length count
  (ends.zip (0 :: ends)).map fun (stop, start) =>
    (placed.filter fun entry => start ≤ entry.1 && entry.1 < stop).flatMap Prod.snd

def linesEndedBy (ending : UInt8) (bytes : Bytes) : List Bytes :=
  let pieces := separated [ending] [] bytes
  let whole := pieces.dropLast.map fun piece => piece ++ [ending]
  match pieces.getLast? with
  | some (byte :: rest) => whole ++ [byte :: rest]
  | _ => whole

def Cut.pieces (ending : UInt8) (bytes : Bytes) : Cut → List Bytes
  | .lines count => (groups count (bytes.length + 1) (linesEndedBy ending bytes)).map List.flatten
  | .bytes count => groups count (bytes.length + 1) bytes
  | .lineBytes count => fitted count (2 * bytes.length + 2) [] (linesEndedBy ending bytes)
  | .parts count => partsOfLength bytes count
  | .lineParts count => partsAtLines (linesEndedBy ending bytes) count
  | .turns count =>
      let lines := (linesEndedBy ending bytes).zipIdx
      (List.range count).map fun i => (lines.filter fun entry => entry.2 % count == i).flatMap Prod.fst

structure Naming where
  alphabet : List Char
  width : Nat
  grows : Bool

def inLetters (alphabet : List Char) : Nat → Nat → List Char
  | 0, _ => []
  | width + 1, n => inLetters alphabet width (n / alphabet.length) ++ [alphabet.getD (n % alphabet.length) 'a']

/-- The end of the name with a certain number. Where ends may grow, the last letter of the alphabet in
front of an end means that it is longer. `fuel` bounds its growth. -/
def Naming.suffix? (naming : Naming) : Nat → Nat → Option (List Char)
  | 0, _ => none
  | fuel + 1, n =>
      let base := naming.alphabet.length
      let all := Nat.pow base naming.width
      if !naming.grows then (if n < all then some (inLetters naming.alphabet naming.width n) else none)
      else
        let here := all - all / base
        if n < here then some (inLetters naming.alphabet naming.width n)
        else
          (Naming.suffix? { naming with width := naming.width + 1 } fuel (n - here)).map fun rest =>
            naming.alphabet.getLastD 'z' :: rest

structure Plan where
  cut : Cut
  /-- The only piece that is wanted; it goes to the output. -/
  only : Option Nat
  ending : UInt8
  naming : Naming
  first : Nat
  additional : String
  skipsEmpty : Bool
  announces : Bool

def chunks (text : String) : Except (String × Bool) (Cut × Option Nat) := do
  let bad := ("invalid number of chunks: " ++ cited text, false)
  let count (text : String) : Except (String × Bool) Nat :=
    match Amount.parse? text with
    | some (n + 1) => .ok (n + 1)
    | _ => .error ("invalid number of chunks: " ++ cited text, false)
  let choose (make : Nat → Cut) (words : List String) : Except (String × Bool) (Cut × Option Nat) :=
    match words with
    | [n] => do return (make (← count n), none)
    | [k, n] => do
        let n ← count n
        match natural? k with
        | some k =>
            if 0 < k ∧ k ≤ n then return (make n, some (k - 1))
            else throw ("invalid chunk number: " ++ cited (toString k), false)
        | none => throw ("invalid chunk number: " ++ cited k, false)
    | _ => .error bad
  match text.splitOn "/" with
  | "l" :: words => choose .lineParts words
  | "r" :: words => choose .turns words
  | words => choose .parts words

def cutOf (options : Options) : Except (String × Bool) (Cut × Option Nat) := do
  let given := (options.given.map Prod.fst).filter ['l', 'b', 'C', 'n'].contains
  if 1 < given.length then throw ("cannot split in more than one way", true)
  let count (letter : Char) (what : String) : Except (String × Bool) Nat :=
    let text := (options.value? letter).getD ""
    match Amount.parse? text with
    | some (n + 1) => .ok (n + 1)
    | _ => .error ("invalid number of " ++ what ++ ": " ++ cited text, false)
  match given.head? with
  | some 'l' => return (.lines (← count 'l' "lines"), none)
  | some 'b' => return (.bytes (← count 'b' "bytes"), none)
  | some 'C' => return (.lineBytes (← count 'C' "lines"), none)
  | some _ => chunks ((options.value? 'n').getD "")
  | none => return (.lines 1000, none)

def lettersFor (base : Nat) : Nat → Nat → Nat
  | 0, _ => 0
  | fuel + 1, n => if n < base then 1 else 1 + lettersFor base fuel (n / base)

def Cut.count? : Cut → Option Nat
  | .parts count | .lineParts count | .turns count => some count
  | _ => none

def planOf (options : Options) : Except (String × Bool) Plan := do
  let (cut, only) ← cutOf options
  let width ← match options.value? 'a' with
    | none => pure none
    | some text =>
        match natural? text with
        | some n => pure (if n = 0 then none else some n)
        | none => throw ("invalid suffix length: " ++ cited text, false)
  let ending ← match options.value? 't' with
    | none => pure 10
    | some "\\0" => pure 0
    | some text =>
        match text.toList with
        | [c] => pure c.toNat.toUInt8
        | [] => throw ("empty record separator", false)
        | _ => throw ("multi-character separator " ++ quote text, false)
  let style := options.last? ['d', 'D', 'x', 'X']
  let alphabet := match style with
    | some 'd' | some 'D' => "0123456789".toList
    | some _ => "0123456789abcdef".toList
    | none => "abcdefghijklmnopqrstuvwxyz".toList
  let start := match style with
    | some 'D' => (options.value? 'D').getD ""
    | some 'X' => (options.value? 'X').getD ""
    | _ => ""
  let first ← if start.isEmpty then pure 0 else
    match natural? start with
    | some n => pure n
    | none => throw (cited start ++ ": invalid start value for numerical suffix", true)
  let needed := match cut.count? with
    | some count => max 2 (lettersFor alphabet.length count (first + count - 1))
    | none => 2
  let additional := (options.value? 'A').getD ""
  if additional.toList.contains '/' then
    throw ("invalid suffix " ++ quote additional ++ ", contains directory separator", true)
  return { cut := cut, only := only, ending := ending
           naming := ⟨alphabet, width.getD needed, width.isNone && start.isEmpty && cut.count?.isNone⟩
           first := first, additional := additional
           skipsEmpty := options.has 'e', announces := options.has 'v' }

def writePieces (frame : Frame) (plan : Plan) (stem : String) : Nat → List Bytes → Work Ending
  | _, [] => return ok
  | n, piece :: rest => do
      match plan.naming.suffix? 10 n with
      | none =>
          frame.complain "output file suffixes exhausted"
          return failed
      | some suffix =>
          let name := stem ++ String.ofList suffix ++ plan.additional
          if plan.announces then frame.say ("creating file " ++ quote name ++ "\n")
          match ← Work.openRoute frame.pid frame.cwd ⟨name⟩ .writing with
          | .error e =>
              frame.complain (about name e)
              return failed
          | .ok descriptor =>
              let problem ← Work.write frame.pid descriptor piece
              Work.close frame.pid descriptor
              match problem with
              | some e =>
                  frame.complain (about name e)
                  return failed
              | none => writePieces frame plan stem (n + 1) rest

def split (frame : Frame) : Work Ending :=
  let args := Folding.spellNumber "-l" frame.args
  withOptions { frame with args := args } "a:b:C:del:n:t:ux"
      [("suffix-length=", 'a'), ("bytes=", 'b'), ("line-bytes=", 'C'), ("numeric-suffixes=?", 'D'),
        ("elide-empty-files", 'e'), ("lines=", 'l'), ("number=", 'n'), ("separator=", 't'),
        ("unbuffered", 'u'), ("hex-suffixes=?", 'X'), ("additional-suffix=", 'A'), ("verbose", 'v')]
      fun options => do
    match planOf options, options.operands with
    | .error (problem, true), _ => frame.misused problem
    | .error (problem, false), _ =>
        frame.complain problem
        return failed
    | .ok _, _ :: _ :: extra :: _ => frame.misused ("extra operand " ++ cited extra)
    | .ok plan, operands =>
        let operand := operands.headD "-"
        match ← sourceOr frame operand fun e =>
            match e with
            | .isADirectory => about operand e
            | _ => "cannot open " ++ quote operand ++ " for reading: " ++ describe e with
        | none => return failed
        | some bytes =>
            let pieces := plan.cut.pieces plan.ending bytes
            match plan.only with
            | some i =>
                frame.put (pieces.getD i [])
                return ok
            | none =>
                let pieces := if plan.skipsEmpty then pieces.filter (!·.isEmpty) else pieces
                writePieces frame plan (operands.getD 1 "x") plan.first pieces

end LifecycleHooks.Tool.Splitting
