import LifecycleHooks.Tool.Contents

/-!
Lines of several files side by side.
-/

namespace LifecycleHooks.Tool

open Process Text

def separators : List Char → List (Option UInt8)
  | [] => []
  | '\\' :: c :: rest =>
      (match c with
        | 'n' => some 10
        | 't' => some 9
        | '0' => none
        | 'b' => some 8
        | 'f' => some 12
        | 'r' => some 13
        | 'v' => some 11
        | c => some c.toNat.toUInt8) :: separators rest
  | c :: rest => some c.toNat.toUInt8 :: separators rest

/-- Pieces with separators between them, which are used again and again. -/
def joinWith (separators : List (Option UInt8)) (pieces : List Bytes) : Bytes :=
  (pieces.zipIdx.flatMap fun (piece, i) =>
    (if i = 0 then []
      else ((separators[(i - 1) % max 1 separators.length]?).getD none).toList) ++ piece)

/-- The lines of columns side by side, as many as the longest column has. -/
def besides (columns : List (List Bytes)) : List (List Bytes) :=
  let most := columns.foldl (fun most column => max most column.length) 0
  let columns := columns.map List.toArray
  (List.range most).map fun i => columns.map fun column => (column[i]?).getD []

def deal (operands : List String) (input : List Bytes) (columns : List (String × List Bytes)) :
    List (List Bytes) :=
  let count := (operands.filter (· == "-")).length
  let share (i : Nat) : List Bytes :=
    (input.zipIdx.filter fun entry => entry.2 % count == i).map Prod.fst
  (columns.foldl (fun (found, seen) (operand, lines) =>
    if operand == "-" then (found ++ [share seen], seen + 1) else (found ++ [lines], seen))
    (([] : List (List Bytes)), 0)).1

def paste (frame : Frame) : Work Ending :=
  withOptions frame "d:sz" [("delimiters=", 'd'), ("serial", 's'), ("zero-terminated", 'z')]
      fun options => do
    let ending : UInt8 := if options.has 'z' then 0 else 10
    let separators := separators ((options.value? 'd').getD "\t").toList
    let mut columns : List (String × List Bytes) := []
    let mut input : List Bytes := []
    let mut read := false
    let mut fine := true
    for operand in operandsOr options.operands do
      if operand == "-" && read then columns := columns ++ [(operand, [])]
      else
        match ← sourceOr frame operand (about operand) with
        | some bytes =>
            let lines := partsOf ending bytes
            if operand == "-" then
              read := true
              input := lines
            columns := columns ++ [(operand, lines)]
        | none =>
            fine := false
            if !options.has 's' then Work.stop failed
    if options.has 's' then
      for (_, lines) in columns do frame.put (joinWith separators lines ++ [ending])
    else
      for row in besides (deal (operandsOr options.operands) input columns) do
        frame.put (joinWith separators row ++ [ending])
    return ofBool fine

end LifecycleHooks.Tool
