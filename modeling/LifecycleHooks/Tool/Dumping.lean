import LifecycleHooks.Number.Places
import LifecycleHooks.Tool.Contents

/-!
A program that shows bytes as numbers or characters, line by line, with the place of each line in
front.
-/

namespace LifecycleHooks.Tool.Dumping

open Process Text

inductive Kind
  | octal
  | decimal
  | unsigned
  | hexadecimal
  | character
  | named
  deriving DecidableEq

structure Layout where
  kind : Kind
  size : Nat
  trailer : Bool

namespace Layout

def width (layout : Layout) : Nat :=
  match layout.kind with
  | .character => 3
  | .named => 3
  | .hexadecimal => 2 * layout.size
  | .octal => (8 * layout.size + 2) / 3
  | .unsigned => (toString (Nat.pow 256 layout.size - 1)).length
  | .decimal => (toString (Nat.pow 256 layout.size / 2)).length + 1

def lineWidth (layout : Layout) (length : Nat) : Nat := (layout.width + 1) * (length / layout.size)

end Layout

def controlNames : List String :=
  ["nul", "soh", "stx", "etx", "eot", "enq", "ack", "bel", "bs", "ht", "nl", "vt", "ff", "cr", "so", "si",
    "dle", "dc1", "dc2", "dc3", "dc4", "nak", "syn", "etb", "can", "em", "sub", "esc", "fs", "gs", "rs",
    "us", "sp"]

def inDigits (base width n : Nat) : String :=
  let digits := Nat.toDigits base n
  String.ofList (List.replicate (width - digits.length) '0' ++ digits)

def isPrintable (byte : UInt8) : Bool := 32 ≤ byte && byte < 127

def characterText (byte : UInt8) : String :=
  match byte.toNat with
  | 0 => "\\0"
  | 7 => "\\a"
  | 8 => "\\b"
  | 9 => "\\t"
  | 10 => "\\n"
  | 11 => "\\v"
  | 12 => "\\f"
  | 13 => "\\r"
  | n => if isPrintable byte then String.singleton (Char.ofNat n) else inDigits 8 3 n

def fieldText (bigEndian : Bool) (layout : Layout) (bytes : Bytes) : String :=
  let full := bytes ++ List.replicate (layout.size - bytes.length) 0
  let ordered := if bigEndian then full else full.reverse
  let n := ordered.foldl (fun n byte => n * 256 + byte.toNat) 0
  match layout.kind with
  | .octal => inDigits 8 layout.width n
  | .hexadecimal => inDigits 16 layout.width n
  | .unsigned => toString n
  | .decimal =>
      let limit := Nat.pow 256 layout.size
      toString (if limit / 2 ≤ n then (n : Int) - limit else n)
  | .character => characterText (bytes.headD 0)
  | .named =>
      let low := n % 128
      if low = 127 then "del" else controlNames.getD low (String.singleton (Char.ofNat low))

def padStart (width : Nat) (text : String) : String :=
  String.ofList (List.replicate (width - text.length) ' ') ++ text

def fieldsText (bigEndian : Bool) (length pad : Nat) (layout : Layout) (bytes : Bytes) : String :=
  let count := length / layout.size
  let filled := (bytes.length + layout.size - 1) / layout.size
  let share (i : Nat) : Nat := pad * i / count
  String.join ((List.range filled).map fun i =>
    let field := (bytes.drop (i * layout.size)).take layout.size
    " " ++ padStart (layout.width + share (count - i) - share (count - i - 1))
      (fieldText bigEndian layout field))

def trailerText (length pad : Nat) (layout : Layout) (bytes : Bytes) : String :=
  if !layout.trailer then ""
  else
    let blanks := (length - bytes.length) / layout.size
    let count := length / layout.size
    String.ofList (List.replicate (blanks * (layout.width + 1) + pad * blanks / count) ' ') ++ "  >" ++
      String.ofList (bytes.map fun byte =>
        if isPrintable byte then Char.ofNat byte.toNat else '.') ++ "<"

structure Plan where
  layouts : List Layout
  /-- The base of the places, if they are shown. -/
  base : Option Nat
  length : Nat
  showsAll : Bool
  bigEndian : Bool

namespace Plan

def placeText (plan : Plan) (place : Nat) : String :=
  match plan.base with
  | none => ""
  | some 16 => inDigits 16 6 place
  | some base => inDigits base 7 place

def lineText (plan : Plan) (place : Nat) (bytes : Bytes) : String :=
  let widest := (plan.layouts.map fun layout => layout.lineWidth plan.length).foldl max 0
  let indent := String.ofList (List.replicate (plan.placeText place).length ' ')
  String.join (plan.layouts.zipIdx.map fun (layout, i) =>
    let pad := widest - layout.lineWidth plan.length
    (if i = 0 then plan.placeText place else indent) ++
      fieldsText plan.bigEndian plan.length pad layout bytes ++
      trailerText plan.length pad layout bytes ++ "\n")

/-- The lines of some bytes. Of full lines that repeat the one before, only a star is shown. -/
def lines (plan : Plan) : Nat → Nat → Option Bytes → Bool → Bytes → List String
  | 0, _, _, _, _ => []
  | fuel + 1, place, last, starred, bytes =>
      if bytes.isEmpty then
        if plan.base.isSome then [plan.placeText place ++ "\n"] else []
      else
        let line := bytes.take plan.length
        let next := place + line.length
        let rest := bytes.drop plan.length
        if !plan.showsAll && last == some line && line.length == plan.length then
          (if starred then [] else ["*\n"]) ++ plan.lines fuel next last true rest
        else plan.lineText place line :: plan.lines fuel next (some line) false rest

end Plan

def sizeOf? (text : List Char) : Option (Nat × List Char) :=
  match text with
  | 'C' :: rest => some (1, rest)
  | 'S' :: rest => some (2, rest)
  | 'I' :: rest => some (4, rest)
  | 'L' :: rest => some (8, rest)
  | _ =>
      let digits := text.takeWhile Char.isDigit
      if digits.isEmpty then some (4, text)
      else
        let n := digits.foldl (fun n c => n * 10 + (c.toNat - 48)) 0
        if [1, 2, 4, 8].contains n then some (n, text.drop digits.length) else none

def layoutsOf (whole : String) : Nat → List Char → Except String (List Layout)
  | 0, _ => .ok []
  | _, [] => .ok []
  | fuel + 1, c :: rest =>
      let kind? : Option Kind := match c with
        | 'o' => some .octal
        | 'd' => some .decimal
        | 'u' => some .unsigned
        | 'x' => some .hexadecimal
        | 'c' => some .character
        | 'a' => some .named
        | _ => none
      match kind? with
      | none =>
          .error ("invalid character '" ++ String.singleton c ++ "' in type string " ++ cited whole)
      | some kind =>
          let sized := if kind = .character ∨ kind = .named then some (1, rest) else sizeOf? rest
          match sized with
          | none =>
              let digits := String.ofList (rest.takeWhile Char.isDigit)
              .error ("invalid type string " ++ cited whole ++ ";\nthis system doesn't provide a " ++ digits ++
                "-byte integral type")
          | some (size, rest) =>
              let (trailer, rest) := match rest with
                | 'z' :: rest => (true, rest)
                | rest => (false, rest)
              (layoutsOf whole fuel rest).map (⟨kind, size, trailer⟩ :: ·)

def layoutOfLetter? : Char → Option Layout
  | 'a' => some ⟨.named, 1, false⟩
  | 'b' => some ⟨.octal, 1, false⟩
  | 'c' => some ⟨.character, 1, false⟩
  | 'd' => some ⟨.unsigned, 2, false⟩
  | 'i' => some ⟨.decimal, 4, false⟩
  | 'l' => some ⟨.decimal, 8, false⟩
  | 'o' => some ⟨.octal, 2, false⟩
  | 's' => some ⟨.decimal, 2, false⟩
  | 'x' => some ⟨.hexadecimal, 2, false⟩
  | _ => none

def layouts (options : Options) : Except String (List Layout) := do
  let found ← options.given.mapM fun (letter, value) =>
    if letter == 't' then layoutsOf value (value.length + 1) value.toList
    else .ok (layoutOfLetter? letter).toList
  return if found.flatten.isEmpty then [⟨.octal, 2, false⟩] else found.flatten

def count (options : Options) (letter : Char) : Except String (Option Nat) :=
  match options.value? letter with
  | none => .ok none
  | some text =>
      let hexadecimal : Bool := match text.toList with
        | '0' :: x :: _ :: _ => x == 'x' || x == 'X'
        | _ => false
      let found := if hexadecimal then
          let digits := (text.toList.drop 2).map Char.toLower
          if digits.all fun c => c.isDigit || ('a' ≤ c && c ≤ 'f') then
            some (digits.foldl (fun n c => n * 16 + (if c.isDigit then c.toNat - 48 else c.toNat - 87)) 0)
          else none
        else Amount.parse? text
      match found with
      | some n => .ok (some n)
      | none => .error ("invalid -" ++ String.singleton letter ++ " argument " ++ cited text)

def planOf (options : Options) : Except String Plan := do
  let layouts ← layouts options
  let base ← match options.value? 'A' with
    | none => pure (some 8)
    | some "o" => pure (some 8)
    | some "d" => pure (some 10)
    | some "x" => pure (some 16)
    | some "n" => pure none
    | some other =>
        throw ("invalid output address radix '" ++ String.singleton (other.toList.headD ' ') ++
          "'; it must be one character from [doxn]")
  let unit := (layouts.map Layout.size).foldl Nat.lcm 1
  let asked ← if options.value? 'w' == some "" then pure (some 32) else count options 'w'
  let length := match asked with
    | some n => if n % unit = 0 && 0 < n then n else unit
    | none => 16 / unit * unit
  return ⟨layouts, base, length, options.has 'v', options.value? 'E' == some "big"⟩

def joinedSources (frame : Frame) : List String → Work (Bytes × Bool)
  | [] => return ([], true)
  | operand :: operands => do
      let found ← sourceOr frame operand fun e => about operand e
      let (others, fine) ← joinedSources frame operands
      return (found.getD [] ++ others, found.isSome && fine)

def od (frame : Frame) : Work Ending :=
  withOptions frame "A:j:N:t:vw::abcdilosxS:"
      [("address-radix=", 'A'), ("skip-bytes=", 'j'), ("read-bytes=", 'N'), ("format=", 't'),
        ("output-duplicates", 'v'), ("width=?", 'w'), ("endian=", 'E')] fun options => do
    let refuse (problem : String) : Work Ending := do
      frame.complain problem
      return failed
    match planOf options, count options 'j', count options 'N' with
    | .error problem, _, _ => refuse problem
    | _, .error problem, _ => refuse problem
    | _, _, .error problem => refuse problem
    | .ok plan, .ok skip, .ok limit =>
        match (options.value? 'w').bind natural? with
        | some n =>
            if n != plan.length then
              frame.complain ("warning: invalid width " ++ toString n ++ "; using " ++ toString plan.length ++
                " instead")
        | none => pure ()
        let (bytes, fine) ← joinedSources frame (operandsOr options.operands)
        let skip := skip.getD 0
        if bytes.length < skip then refuse "cannot skip past end of combined input"
        else
          let rest := bytes.drop skip
          let shown := match limit with
            | some n => rest.take n
            | none => rest
          if fine || !shown.isEmpty then
            frame.say (String.join (plan.lines (shown.length + 2) skip none false shown))
          return ofBool fine

end LifecycleHooks.Tool.Dumping
