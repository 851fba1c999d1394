import LifecycleHooks.FileTree.Route
import LifecycleHooks.Text.CharacterClass

/-!
Patterns over texts: a star stands for any text, a question mark for any character, brackets for one
of a set. Quoted characters stand for themselves. Texts are texts of octets.
-/

namespace LifecycleHooks.Shell

structure Glyph where
  char : Char
  quoted : Bool
  deriving DecidableEq

abbrev Glyphs := List Glyph

def textOf (glyphs : Glyphs) : String := String.ofList (glyphs.map Glyph.char)

inductive Atom
  | any
  | one
  | literal (c : Char)
  | set (negated : Bool) (ranges : List (Char × Char))

namespace Pattern

def classAt? (glyphs : Glyphs) : Option (List (Char × Char) × Nat) :=
  if glyphs.head?.any Glyph.quoted then none
  else
    (Text.readClass? (glyphs.map Glyph.char)).map fun (ranges, after) =>
      (ranges.map fun (low, high) => (Char.ofNat low, Char.ofNat high), glyphs.length - after.length)

/-- The members of a set up to its closing bracket, and what follows; a bracket that comes first is a
member. `fuel` bounds their number. -/
def members : Nat → Bool → Glyphs → Option (List (Char × Char) × Glyphs)
  | 0, _, _ => none
  | _, _, [] => none
  | fuel + 1, first, ⟨c, quoted⟩ :: rest =>
      if c == ']' && !quoted && !first then some ([], rest)
      else
      match classAt? (⟨c, quoted⟩ :: rest) with
      | some (ranges, length) =>
          (members fuel false (rest.drop (length - 1))).map fun (others, after) =>
            (ranges ++ others, after)
      | none =>
        let (range, rest) := match rest with
          | ⟨'-', false⟩ :: ⟨d, q⟩ :: after =>
              if d == ']' && !q then ((c, c), rest) else ((c, d), after)
          | _ => ((c, c), rest)
        (members fuel false rest).map fun (others, after) => (range :: others, after)

def setOf (negated : Bool) (glyphs : Glyphs) : Option (Atom × Glyphs) :=
  (members (glyphs.length + 1) true glyphs).map fun (ranges, after) => (.set negated ranges, after)

def set? (glyphs : Glyphs) : Option (Atom × Glyphs) :=
  match glyphs with
  | ⟨'!', false⟩ :: rest => setOf true rest
  | ⟨'^', false⟩ :: rest => setOf true rest
  | _ => setOf false glyphs

def atoms : Nat → Glyphs → List Atom
  | 0, _ => []
  | _, [] => []
  | fuel + 1, ⟨c, quoted⟩ :: rest =>
      if quoted then .literal c :: atoms fuel rest
      else if c == '*' then .any :: atoms fuel rest
      else if c == '?' then .one :: atoms fuel rest
      else if c == '[' then
        match set? rest with
        | some (atom, after) => atom :: atoms fuel after
        | none => .literal c :: atoms fuel rest
      else .literal c :: atoms fuel rest

def ofGlyphs (glyphs : Glyphs) : List Atom := atoms glyphs.length glyphs

def suffixes : List Char → List (List Char)
  | [] => [[]]
  | c :: rest => (c :: rest) :: suffixes rest

def matchesAtoms : List Atom → List Char → Bool
  | [], chars => chars.isEmpty
  | .any :: rest, chars => (suffixes chars).any (matchesAtoms rest)
  | _ :: _, [] => false
  | .one :: rest, _ :: chars => matchesAtoms rest chars
  | .literal l :: rest, c :: chars => c == l && matchesAtoms rest chars
  | .set negated ranges :: rest, c :: chars =>
      (ranges.any (fun range => range.1 ≤ c && c ≤ range.2) != negated) && matchesAtoms rest chars

def hits (pattern : Glyphs) (text : List Char) : Bool := matchesAtoms (ofGlyphs pattern) text

def isMagic (glyphs : Glyphs) : Bool :=
  glyphs.any fun g => !g.quoted && (g.char == '*' || g.char == '?' || g.char == '[')

def cutStart (longest : Bool) (pattern : Glyphs) (text : List Char) : List Char :=
  let lengths := List.range (text.length + 1)
  let lengths := if longest then lengths.reverse else lengths
  match lengths.find? fun n => hits pattern (text.take n) with
  | some n => text.drop n
  | none => text

def cutEnd (longest : Bool) (pattern : Glyphs) (text : List Char) : List Char :=
  let lengths := List.range (text.length + 1)
  let lengths := if longest then lengths else lengths.reverse
  match lengths.find? fun n => hits pattern (text.drop n) with
  | some n => text.take n
  | none => text

def splitSlashes : Glyphs → List Glyphs
  | [] => [[]]
  | g :: rest =>
      if g.char == '/' then [] :: splitSlashes rest
      else
        match splitSlashes rest with
        | [] => [[g]]
        | piece :: pieces => (g :: piece) :: pieces

def insertSorted (text : String) : List String → List String
  | [] => [text]
  | other :: rest => if text ≤ other then text :: other :: rest else other :: insertSorted text rest

def sort (texts : List String) : List String := texts.foldr insertSorted []

/-- A pattern by itself, in which a backslash quotes the character behind it. -/
def ofText : List Char → Glyphs
  | [] => []
  | '\\' :: c :: rest => ⟨c, true⟩ :: ofText rest
  | c :: rest => ⟨c, false⟩ :: ofText rest

def directoryAt? (tree : FileTree) (cwd : Location) (text : String) : Option Location :=
  match tree.stat cwd ⟨if text.isEmpty then "." else text⟩ with
  | .ok (place, node) => if node.isDirectory then some place else none
  | .error _ => none

/-- The names in a directory that a piece hits; names with a dot in front only if the piece has it. -/
def namesIn (tree : FileTree) (cwd : Location) (text : String) (piece : Glyphs) : List String :=
  let dotted := match piece with
    | ⟨'.', _⟩ :: _ => true
    | _ => false
  match directoryAt? tree cwd text with
  | none => []
  | some directory =>
      sort <| ([".", ".."] ++ tree.children directory).filter fun name =>
        (dotted || name.toList.head? != some '.') && hits piece name.toList

def isThere (tree : FileTree) (cwd : Location) (text : String) : Bool :=
  match tree.statSelf cwd ⟨text⟩ with
  | .ok _ => true
  | .error _ => false

/-- The paths that a pattern of pieces hits, continued from those reached so far. -/
def expandPieces (tree : FileTree) (cwd : Location) : List Glyphs → List String → List String
  | [], texts => texts
  | [piece], texts =>
      texts.flatMap fun text =>
        if isMagic piece then (namesIn tree cwd text piece).map (text ++ ·)
        else
          let path := text ++ textOf piece
          if isThere tree cwd path then [path] else []
  | piece :: rest, texts =>
      expandPieces tree cwd rest <| texts.flatMap fun text =>
        if isMagic piece then
          (namesIn tree cwd text piece).filterMap fun name =>
            if (directoryAt? tree cwd (text ++ name)).isSome then some (text ++ name ++ "/") else none
        else [text ++ textOf piece ++ "/"]

/-- The paths that a field hits in order, or the field itself if there are none. -/
def paths (tree : FileTree) (cwd : Location) (field : Glyphs) : List String :=
  if isMagic field then
    match expandPieces tree cwd (splitSlashes field) [""] with
    | [] => [textOf field]
    | found => found
  else [textOf field]

end Pattern

end LifecycleHooks.Shell
