import LifecycleHooks.Text.CharacterClass

/-!
Regular expressions and where they match. Matching from a place gives all places where a match can
end; of these the one that lies farthest is the match, and the parts in groups are remembered on the
way.
-/

namespace LifecycleHooks

inductive Boundary
  | start
  | finish
  | wordStart
  | wordEnd
  | wordEdge
  | noWordEdge
  | noWordBefore
  | noWordAfter
  | lineStart
  | lineFinish
  deriving DecidableEq

inductive Expression
  | empty
  | any
  | one (negated : Bool) (ranges : List (Nat × Nat))
  | holds (boundary : Boundary)
  | sequence (first second : Expression)
  | either (first second : Expression)
  | repeated (least : Nat) (most : Option Nat) (body : Expression)
  | group (number : Nat) (body : Expression)
  /-- What a group in front has found. -/
  | reference (number : Nat)

namespace Expression

def refers : Expression → Bool
  | .reference _ => true
  | .sequence first second => first.refers || second.refers
  | .either first second => first.refers || second.refers
  | .repeated _ _ body => body.refers
  | .group _ body => body.refers
  | _ => false

def groupCount : Expression → Nat
  | .sequence first second => first.groupCount + second.groupCount
  | .either first second => first.groupCount + second.groupCount
  | .repeated _ _ body => body.groupCount
  | .group _ body => body.groupCount + 1
  | _ => 0

def literal (c : Char) : Expression := .one false [(c.toNat, c.toNat)]

def ofText (chars : List Char) : Expression :=
  chars.foldr (fun c rest => .sequence (literal c) rest) .empty

/-- A place in a text: the character in front, what follows and how much that is, and what was found
for groups so far. -/
structure Place where
  before : Option Char
  rest : List Char
  left : Nat
  groups : List (Nat × List Char)

namespace Place

def ofChars (chars : List Char) : Place := ⟨none, chars, chars.length, []⟩

def isWord (c : Char) : Bool := c.isAlphanum || c == '_'

def next? (place : Place) : Option (Char × Place) :=
  match place.rest with
  | [] => none
  | c :: rest => some (c, { place with before := some c, rest := rest, left := place.left - 1 })

def satisfies (place : Place) (boundary : Boundary) : Bool :=
  let before := place.before.any isWord
  let after := place.rest.head?.any isWord
  match boundary with
  | .start => place.before.isNone
  | .finish => place.rest.isEmpty
  | .wordStart => !before && after
  | .wordEnd => before && !after
  | .wordEdge => before != after
  | .noWordEdge => before == after
  | .noWordBefore => !before
  | .noWordAfter => !after
  | .lineStart => place.before.all (· == '\n')
  | .lineFinish => place.rest.head?.all (· == '\n')

/-- Whether it makes no difference which of two places is reached. What groups have found counts if
the expression refers to it. -/
def isLike (exact : Bool) (a b : Place) : Bool := a.left == b.left && (!exact || a.groups == b.groups)

def distinct (exact : Bool) (places : List Place) : List Place :=
  (places.foldl (fun (kept : List Place) place =>
    if kept.any (isLike exact place) then kept else place :: kept) []).reverse

def found? (place : Place) (number : Nat) : Option (List Char) :=
  (place.groups.find? fun entry => entry.1 == number).map Prod.snd

def found (place : Place) (number : Nat) : List Char :=
  (place.found? number).getD []

def behind? (anyCase : Bool) : List Char → Place → Option Place
  | [], place => some place
  | c :: rest, place =>
      match place.next? with
      | some (d, next) =>
          if c == d || (anyCase && c.toLower == d.toLower) then behind? anyCase rest next else none
      | none => none

end Place

def again (exact : Bool) (step : Place → List Place) : Nat → List Place → List Place
  | 0, places => places
  | n + 1, places => again exact step n (Place.distinct exact (places.flatMap step))

/-- All places that up to so many steps reach, those of more steps first. -/
def upTo (exact : Bool) (step : Place → List Place) : Nat → List Place → List Place → List Place
  | 0, seen, _ => seen
  | n + 1, seen, latest =>
      let reached := (Place.distinct exact (latest.flatMap step)).filter fun place =>
        !seen.any (Place.isLike exact place)
      if reached.isEmpty then seen else upTo exact step n (reached ++ seen) reached

def admits (anyCase : Bool) (ranges : List (Nat × Nat)) (c : Char) : Bool :=
  let has (c : Char) : Bool := ranges.any fun range => range.1 ≤ c.toNat && c.toNat ≤ range.2
  has c || (anyCase && (has c.toLower || has c.toUpper))

/-- How matching goes on: whether case does not count, and whether it matters what groups find. -/
structure Manner where
  anyCase : Bool
  exact : Bool

def ends (manner : Manner) : Expression → Place → List Place
  | .empty, place => [place]
  | .any, place => (place.next?.map Prod.snd).toList
  | .one negated ranges, place =>
      match place.next? with
      | some (c, next) => if admits manner.anyCase ranges c != negated then [next] else []
      | none => []
  | .holds boundary, place => if place.satisfies boundary then [place] else []
  | .sequence first second, place =>
      Place.distinct manner.exact ((ends manner first place).flatMap (ends manner second))
  | .either first second, place =>
      Place.distinct manner.exact (ends manner first place ++ ends manner second place)
  | .repeated least most body, place =>
      let reached := again manner.exact (ends manner body) least [place]
      upTo manner.exact (ends manner body) ((most.map (· - least)).getD (place.left + 1)) reached
        reached
  | .group number body, place =>
      (ends manner body place).map fun last =>
        { last with
          groups := (number, place.rest.take (place.left - last.left)) ::
            last.groups.filter fun entry => entry.1 != number }
  | .reference number, place =>
      ((place.found? number).bind fun found => place.behind? manner.anyCase found).toList

def farthest : List Place → Option Place
  | [] => none
  | place :: places =>
      match farthest places with
      | some other => if other.left < place.left then some other else some place
      | none => some place

def matchAt (anyCase : Bool) (expression : Expression) (place : Place) : Option Place :=
  farthest (expression.ends ⟨anyCase, expression.refers⟩ place)

/-- The first place from which there is a match, with its end. `fuel` is more than what is left. -/
def search (anyCase : Bool) (expression : Expression) : Nat → Place → Option (Place × Place)
  | 0, _ => none
  | fuel + 1, place =>
      match expression.matchAt anyCase place with
      | some last => some (place, last)
      | none => place.next?.bind fun (_, next) => expression.search anyCase fuel next

def find? (anyCase : Bool) (expression : Expression) (place : Place) : Option (Place × Place) :=
  expression.search anyCase (place.left + 1) place

end Expression

end LifecycleHooks
