/-!
What has to be taken out of one sequence and put in to get another one. Items are known by numbers: two
items are the same if their numbers are. The middle of a shortest way is searched from both ends at once,
and both halves are searched again; then runs of changes are moved to where they meet other ones.
-/

namespace LifecycleHooks.Tool.Difference

structure Changes where
  removed : List Nat
  added : List Nat

namespace Changes

def none : Changes := ⟨[], []⟩

def append (a b : Changes) : Changes := ⟨a.removed ++ b.removed, a.added ++ b.added⟩

end Changes

structure Region where
  xs : Array Nat
  ys : Array Nat
  xLow : Nat
  xHigh : Nat
  yLow : Nat
  yHigh : Nat

/-- A table of the farthest places on diagonals, which may have negative numbers. -/
structure Front where
  offset : Nat
  places : Array Int

namespace Front

def create (region : Region) : Front :=
  ⟨region.ys.size + 2, Array.replicate (region.xs.size + region.ys.size + 5) 0⟩

def get (front : Front) (diagonal : Int) : Int := front.places.getD (diagonal + front.offset).toNat 0

def set (front : Front) (diagonal place : Int) : Front :=
  { front with places := front.places.setIfInBounds (diagonal + front.offset).toNat place }

end Front

namespace Region

def same (region : Region) (x y : Int) : Bool :=
  region.xs.getD x.toNat 0 == region.ys.getD y.toNat 0

def slideUp (region : Region) : Nat → Int → Int → Int
  | 0, x, _ => x
  | fuel + 1, x, y =>
      if x < region.xHigh ∧ y < region.yHigh ∧ region.same x y then slideUp region fuel (x + 1) (y + 1)
      else x

def slideDown (region : Region) : Nat → Int → Int → Int
  | 0, x, _ => x
  | fuel + 1, x, y =>
      if region.xLow < x ∧ region.yLow < y ∧ region.same (x - 1) (y - 1) then
        slideDown region fuel (x - 1) (y - 1)
      else x

def trimmed (region : Region) : Region :=
  let fuel := region.xs.size + 1
  let x := (region.slideUp fuel region.xLow region.yLow).toNat
  let region := { region with yLow := region.yLow + (x - region.xLow), xLow := x }
  let x := (region.slideDown fuel region.xHigh region.yHigh).toNat
  { region with yHigh := region.yHigh - (region.xHigh - x), xHigh := x }

structure Reach where
  front : Front
  low : Int
  high : Int

abbrev Found : Type := Int × Int

/-- Goes one step farther on every other diagonal from the start, from `diagonal` down. -/
def stepUp (region : Region) (other : Option Reach) :
    Nat → Int → Reach → Except Found Reach
  | 0, _, reach => .ok reach
  | fuel + 1, diagonal, reach =>
      if diagonal < reach.low then .ok reach
      else
        let low := reach.front.get (diagonal - 1)
        let high := reach.front.get (diagonal + 1)
        let start := if low < high then high else low + 1
        let x := region.slideUp (region.xs.size + 1) start (start - diagonal)
        let next := { reach with front := reach.front.set diagonal x }
        match other with
        | some back =>
            if back.low ≤ diagonal ∧ diagonal ≤ back.high ∧ back.front.get diagonal ≤ x then
              .error (x, x - diagonal)
            else stepUp region other fuel (diagonal - 2) next
        | none => stepUp region other fuel (diagonal - 2) next

def stepDown (region : Region) (other : Option Reach) :
    Nat → Int → Reach → Except Found Reach
  | 0, _, reach => .ok reach
  | fuel + 1, diagonal, reach =>
      if diagonal < reach.low then .ok reach
      else
        let low := reach.front.get (diagonal - 1)
        let high := reach.front.get (diagonal + 1)
        let start := if low < high then low else high - 1
        let x := region.slideDown (region.xs.size + 1) start (start - diagonal)
        let next := { reach with front := reach.front.set diagonal x }
        match other with
        | some ahead =>
            if ahead.low ≤ diagonal ∧ diagonal ≤ ahead.high ∧ x ≤ ahead.front.get diagonal then
              .error (x, x - diagonal)
            else stepDown region other fuel (diagonal - 2) next
        | none => stepDown region other fuel (diagonal - 2) next

def widened (region : Region) (mark : Int) (reach : Reach) : Reach :=
  let least : Int := (region.xLow : Int) - region.yHigh
  let most : Int := (region.xHigh : Int) - region.yLow
  let reach := if least < reach.low then
      { reach with front := reach.front.set (reach.low - 2) mark, low := reach.low - 1 }
    else { reach with low := reach.low + 1 }
  if reach.high < most then
    { reach with front := reach.front.set (reach.high + 2) mark, high := reach.high + 1 }
  else { reach with high := reach.high - 1 }

/-- Searches from both ends until the ways meet. `fuel` bounds the number of steps. -/
def search (region : Region) (odd : Bool) : Nat → Reach → Reach → Found
  | 0, _, _ => (region.xLow, region.yLow)
  | fuel + 1, ahead, back =>
      let count := region.xs.size + region.ys.size + 2
      let ahead := region.widened (-1) ahead
      match region.stepUp (if odd then some back else none) count ahead.high ahead with
      | .error found => found
      | .ok ahead =>
          let back := region.widened 4611686018427387904 back
          match region.stepDown (if odd then none else some ahead) count back.high back with
          | .error found => found
          | .ok back => search region odd fuel ahead back

def middle (region : Region) : Nat × Nat :=
  let start : Int := (region.xLow : Int) - region.yLow
  let stop : Int := (region.xHigh : Int) - region.yHigh
  let front := Front.create region
  let ahead : Reach := ⟨front.set start region.xLow, start, start⟩
  let back : Reach := ⟨front.set stop region.xHigh, stop, stop⟩
  let (x, y) := region.search ((start - stop) % 2 != 0) (region.xs.size + region.ys.size + 2) ahead back
  (x.toNat, y.toNat)

/-- The changes in a region. `fuel` bounds how often it is halved. -/
def changes : Nat → Region → Changes
  | 0, _ => .none
  | fuel + 1, region =>
      let region := region.trimmed
      let between (low high : Nat) : List Nat := (List.range (high - low)).map (low + ·)
      if region.xLow = region.xHigh then ⟨[], between region.yLow region.yHigh⟩
      else if region.yLow = region.yHigh then ⟨between region.xLow region.xHigh, []⟩
      else
        let (x, y) := region.middle
        (changes fuel { region with xHigh := x, yHigh := y }).append
          (changes fuel { region with xLow := x, yLow := y })

end Region

abbrev Flags : Type := Array Bool

def Flags.at (flags : Flags) (i : Int) : Bool := decide (0 ≤ i) && flags.getD i.toNat false

/-- The place of a run of changes while it is moved, and the matching place in the other sequence. -/
structure Shift where
  flags : Flags
  start : Int
  stop : Int
  other : Int

namespace Shift

def skipUp (flags : Flags) : Nat → Int → Int
  | 0, i => i
  | fuel + 1, i => if Flags.at flags i then skipUp flags fuel (i + 1) else i

def skipDown (flags : Flags) : Nat → Int → Int
  | 0, i => i
  | fuel + 1, i => if Flags.at flags i then skipDown flags fuel (i - 1) else i

def put (flags : Flags) (i : Int) (value : Bool) : Flags := flags.setIfInBounds i.toNat value

def limit (flags others : Flags) : Nat := flags.size + others.size + 2

/-- Moves a run back as long as the item in front of it is the same as its last one. -/
def back (items : Array Nat) (others : Flags) : Nat → Shift → Shift
  | 0, shift => shift
  | fuel + 1, shift =>
      let item (i : Int) : Nat := items.getD i.toNat 0
      if 0 < shift.start ∧ item (shift.start - 1) = item (shift.stop - 1) then
        let start := shift.start - 1
        let stop := shift.stop - 1
        let flags := put (put shift.flags start true) stop false
        let start := skipDown flags flags.size (start - 1) + 1
        back items others fuel ⟨flags, start, stop, skipDown others others.size (shift.other - 1)⟩
      else shift

/-- Moves a run on as long as the item behind it is the same as its first one. Gives the last end at which
there was a run in the other sequence too. -/
def forth (items : Array Nat) (others : Flags) : Nat → Int → Shift → Int × Shift
  | 0, corresponding, shift => (corresponding, shift)
  | fuel + 1, corresponding, shift =>
      let item (i : Int) : Nat := items.getD i.toNat 0
      if shift.stop ≠ items.size ∧ item shift.start = item shift.stop then
        let flags := put (put shift.flags shift.start false) shift.stop true
        let stop := skipUp flags flags.size (shift.stop + 1)
        let other := shift.other + 1
        let behind := skipUp others others.size other
        forth items others fuel (if behind ≠ other then stop else corresponding)
          ⟨flags, shift.start + 1, stop, behind⟩
      else (corresponding, shift)

def settle (items : Array Nat) (others : Flags) : Nat → Shift → Int × Shift
  | 0, shift => (shift.stop, shift)
  | fuel + 1, shift =>
      let length := shift.stop - shift.start
      let moved := back items others (limit shift.flags others) shift
      let corresponding := if Flags.at others (moved.other - 1) then moved.stop else items.size
      let (corresponding, moved) := forth items others (limit moved.flags others) corresponding moved
      if moved.stop - moved.start = length then (corresponding, moved)
      else settle items others fuel moved

def goBack (others : Flags) (corresponding : Int) : Nat → Shift → Shift
  | 0, shift => shift
  | fuel + 1, shift =>
      if corresponding < shift.stop then
        let start := shift.start - 1
        let stop := shift.stop - 1
        goBack others corresponding fuel
          ⟨put (put shift.flags start true) stop false, start, stop,
            skipDown others others.size (shift.other - 1)⟩
      else shift

end Shift

def nextRun (flags others : Flags) (size : Nat) : Nat → Int → Int → Int × Int
  | 0, i, j => (i, j)
  | fuel + 1, i, j =>
      if i < size ∧ !Flags.at flags i then
        nextRun flags others size fuel (i + 1) (Shift.skipUp others others.size j + 1)
      else (i, j)

def settled (items : Array Nat) (others : Flags) : Nat → Flags → Int → Int → Flags
  | 0, flags, _, _ => flags
  | fuel + 1, flags, i, j =>
      let (start, other) := nextRun flags others items.size (items.size + 1) i j
      if items.size ≤ start then flags
      else
        let stop := Shift.skipUp flags flags.size start
        let other := Shift.skipUp others others.size other
        let (corresponding, shift) := Shift.settle items others (items.size + 2) ⟨flags, start, stop, other⟩
        let shift := Shift.goBack others corresponding (items.size + 2) shift
        settled items others fuel shift.flags shift.stop shift.other

def flagsOf (size : Nat) (places : List Nat) : Flags :=
  places.foldl (fun flags place => flags.setIfInBounds place true) (Array.replicate size false)

def shared (items others : Array Nat) : Array Nat :=
  ((List.range items.size).filter fun i => others.contains (items.getD i 0)).toArray

/-- Which items are changed in two sequences. Items that only one of them has are changed in any case and do
not take part in the search. -/
def changedFlags (xs ys : Array Nat) : Flags × Flags :=
  let xPlaces := shared xs ys
  let yPlaces := shared ys xs
  let inner (items places : Array Nat) : Array Nat := places.map fun i => items.getD i 0
  let region : Region := ⟨inner xs xPlaces, inner ys yPlaces, 0, xPlaces.size, 0, yPlaces.size⟩
  let changes := region.changes (xPlaces.size + yPlaces.size + 2)
  let all (items places : Array Nat) (found : List Nat) : Flags :=
    let kept := flagsOf items.size ((places.toList.zipIdx.filter fun entry =>
      !found.contains entry.2).map Prod.fst)
    kept.map fun flag => !flag
  let removed := all xs xPlaces changes.removed
  let added := all ys yPlaces changes.added
  let removed := settled xs added (xs.size + 1) removed 0 0
  (removed, settled ys removed (ys.size + 1) added 0 0)

structure Change where
  first : Nat
  removed : Nat
  second : Nat
  added : Nat
  deriving DecidableEq

def listChanges (removed added : Flags) (xSize ySize : Nat) : Nat → Nat → Nat → List Change
  | 0, _, _ => []
  | fuel + 1, x, y =>
      if xSize ≤ x && ySize ≤ y then []
      else
        let xStop := (Shift.skipUp removed removed.size x).toNat
        let yStop := (Shift.skipUp added added.size y).toNat
        if xStop = x && yStop = y then listChanges removed added xSize ySize fuel (x + 1) (y + 1)
        else
          ⟨x, xStop - x, y, yStop - y⟩ :: listChanges removed added xSize ySize fuel (xStop + 1) (yStop + 1)

def commonStart : List Nat → List Nat → Nat
  | x :: xs, y :: ys => if x = y then commonStart xs ys + 1 else 0
  | _, _ => 0

/-- The changes that make one list out of another one. Of the items that both have at their beginnings and
at their ends, only so many count as lie within a horizon. -/
def changesOf (horizon : Nat) (xs ys : List Nat) : List Change :=
  let start := commonStart xs ys - horizon
  let xRest := xs.drop (commonStart xs ys)
  let yRest := ys.drop (commonStart xs ys)
  let stop := commonStart xRest.reverse yRest.reverse - horizon
  let inner (items : List Nat) : Array Nat :=
    ((items.drop start).take (items.length - start - stop)).toArray
  let x := inner xs
  let y := inner ys
  let (removed, added) := changedFlags x y
  (listChanges removed added x.size y.size (x.size + y.size + 1) 0 0).map fun change =>
    { change with first := change.first + start, second := change.second + start }

end LifecycleHooks.Tool.Difference
