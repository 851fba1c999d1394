import LifecycleHooks.Shell.Pattern

/-!
Fields from expanded words. What comes from an unquoted expansion is split at separators; what is
quoted or written out is not.
-/

namespace LifecycleHooks.Shell

inductive Item
  /-- A character that is never split. -/
  | glyph (glyph : Glyph)
  /-- A character from an unquoted expansion. -/
  | loose (c : Char)
  /-- Something quoted begins here, so there is a field even if it is empty. -/
  | present
  /-- The boundary between two parameters. -/
  | boundary
  deriving DecidableEq

namespace Item

def ofText (quoted : Bool) (text : List Char) : List Item :=
  text.map fun c => .glyph ⟨c, quoted⟩

def ofLoose (text : List Char) : List Item := text.map .loose

def glyphs : Item → Glyphs
  | glyph g => [g]
  | loose c => [⟨c, false⟩]
  | present => []
  | boundary => [⟨' ', false⟩]

end Item

namespace Fields

/-- What splitting knows: the field being made, last character first, whether there is one, and
whether the last one was ended by blanks alone. -/
structure Progress where
  current : List Glyph
  started : Bool
  endedByBlank : Bool
  done : List Glyphs

def Progress.empty : Progress := ⟨[], false, false, []⟩

def Progress.close (progress : Progress) : Progress :=
  if progress.started then ⟨[], false, false, progress.done ++ [progress.current.reverse]⟩
  else progress

def isBlank (c : Char) : Bool := c == ' ' || c == '\t' || c == '\n'

def Progress.add (progress : Progress) (g : Glyph) : Progress :=
  { progress with current := g :: progress.current, started := true, endedByBlank := false }

def step (separators : List Char) (progress : Progress) : Item → Progress
  | .glyph g => progress.add g
  | .present => { progress with started := true, endedByBlank := false }
  | .boundary => progress.close
  | .loose c =>
      if separators.contains c then
        if isBlank c then
          if progress.started then { progress.close with endedByBlank := true } else progress
        else if progress.started then progress.close
        else if progress.endedByBlank then { progress with endedByBlank := false }
        else { progress with done := progress.done ++ [[]] }
      else progress.add ⟨c, false⟩

def split (separators : List Char) (items : List Item) : List Glyphs :=
  (items.foldl (step separators) .empty).close.done

def join (items : List Item) : Glyphs := items.flatMap Item.glyphs

/-- Fields of a text for a number of variables; the last one takes all that is left. -/
def distribute (separators : List Char) : Nat → Glyphs → List Glyphs
  | 0, _ => []
  | 1, glyphs =>
      let blank (g : Glyph) : Bool := !g.quoted && isBlank g.char && separators.contains g.char
      let trimmed := ((glyphs.dropWhile blank).reverse.dropWhile blank).reverse
      let separates (g : Glyph) : Bool := !g.quoted && separators.contains g.char
      match trimmed.reverse with
      | last :: rest =>
          if separates last && !(rest.any separates) && !isBlank last.char then [rest.reverse]
          else [trimmed]
      | [] => [trimmed]
  | n + 1, glyphs =>
      let separates (g : Glyph) : Bool := !g.quoted && separators.contains g.char
      let blank (g : Glyph) : Bool := separates g && isBlank g.char
      let rest := glyphs.dropWhile blank
      let field := rest.takeWhile fun g => !separates g
      let after := (rest.drop field.length).dropWhile blank
      let after := match after with
        | g :: others => if separates g then others else after
        | [] => []
      field :: distribute separators n after

end Fields

end LifecycleHooks.Shell
