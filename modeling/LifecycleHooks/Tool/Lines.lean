import LifecycleHooks.Tool.Sorting

/-!
Programs that work line by line: without repetitions, or by fields.
-/

namespace LifecycleHooks.Tool

open Process Text

def comparedPart (fields characters : Nat) (width : Option Nat) (line : Bytes) : Bytes :=
  let rest := (dropFields none fields line).drop characters
  match width with
  | some width => rest.take width
  | none => rest

def lineGroups (same : Bytes → Bytes → Bool) : List Bytes → List (List Bytes)
  | [] => []
  | line :: rest =>
      match lineGroups same rest with
      | (other :: others) :: groups =>
          if same line other then (line :: other :: others) :: groups
          else [line] :: (other :: others) :: groups
      | groups => [line] :: groups

def uniq (frame : Frame) : Work Ending :=
  withOptions frame "cdDuif:s:w:z"
      [("count", 'c'), ("repeated", 'd'), ("all-repeated=?", 'D'), ("unique", 'u'),
        ("ignore-case", 'i'), ("skip-fields=", 'f'), ("skip-chars=", 's'), ("check-chars=", 'w'),
        ("zero-terminated", 'z')] fun options => do
    let complaint (operand : String) : SystemError → String
      | .isADirectory => "error reading " ++ quote operand ++ ": " ++ describe (.isADirectory)
      | e => about operand e
    let count (letter : Char) : Option Nat := (options.value? letter).bind natural?
    let kept := comparedPart ((count 'f').getD 0) ((count 's').getD 0) (count 'w')
    let same (a b : Bytes) : Bool :=
      if options.has 'i' then (kept a).map upperByte == (kept b).map upperByte else kept a == kept b
    let bad (letter : Char) (what : String) : Option String :=
      match options.value? letter with
      | some text => if (natural? text).isNone then some (text ++ ": invalid number of " ++ what) else none
      | none => none
    match ((bad 'f' "fields to skip").or (bad 's' "bytes to skip")).or (bad 'w' "bytes to compare") with
    | some problem =>
        frame.complain problem
        return failed
    | none =>
    match options.operands with
    | _ :: _ :: extra :: _ => frame.misused ("extra operand " ++ cited extra)
    | operands =>
        match ← allSources frame (operands.take 1) complaint with
        | none => return failed
        | some bytes =>
            let ending : UInt8 := if options.has 'z' then 0 else 10
            let shown := (lineGroups same (partsOf ending bytes)).flatMap fun group =>
              let n := group.length
              if (options.has 'd' && n < 2) || (options.has 'u' && 1 < n) || (options.has 'D' && n < 2) then
                []
              else
                let lines := if options.has 'D' then group else group.take 1
                lines.flatMap fun line =>
                  (if options.has 'c' then Text.octets (column 7 n ++ " ") else []) ++ line ++ [ending]
            match operands[1]? with
            | none =>
                frame.put shown
                return ok
            | some target =>
                match ← replaceFile frame target shown with
                | none => return ok
                | some e =>
                    frame.complain (about target e)
                    return failed

abbrev Positions := List (Nat × Option Nat)

def readPositions (fields : Bool) (text : String) : Except String Positions :=
  let what := if fields then "fields" else "byte/character positions"
  let invalid (piece : String) : Except String (Nat × Option Nat) :=
    if piece.toList.all fun c => c.isDigit || c == '-' then
      .error (if fields then "invalid field range" else "invalid byte or character range")
    else .error ("invalid " ++ (if fields then "field" else "byte/character position") ++ " value " ++
      cited (String.ofList (piece.toList.dropWhile fun c => c.isDigit || c == '-')))
  (text.splitOn ",").mapM fun piece =>
    let range (low high : Nat) (closed : Bool) : Except String (Nat × Option Nat) :=
      if low = 0 then .error (what ++ " are numbered from 1")
      else if closed && high < low then .error "invalid decreasing range"
      else .ok (low, if closed then some high else none)
    match piece.splitOn "-" with
    | [one] =>
        match natural? one with
        | some n => range n n true
        | none => if one.isEmpty then .error (what ++ " are numbered from 1") else invalid piece
    | [low, high] =>
        match natural? low, natural? high with
        | some a, some b => range a b true
        | some a, none => if high.isEmpty then range a 0 false else invalid piece
        | none, some b => if low.isEmpty then range 1 b true else invalid piece
        | none, none =>
            if low.isEmpty && high.isEmpty then .error "invalid range with no endpoint: -"
            else invalid piece
    | _ => invalid piece

def Positions.admits (positions : Positions) (n : Nat) : Bool :=
  positions.any fun (low, high) => low ≤ n && (high.map fun h => decide (n ≤ h)).getD true

def splitBytes (separator : UInt8) : Bytes → List Bytes
  | [] => [[]]
  | byte :: rest =>
      if byte == separator then [] :: splitBytes separator rest
      else
        match splitBytes separator rest with
        | [] => [[byte]]
        | piece :: pieces => (byte :: piece) :: pieces

/-- The chosen fields of a line; nothing if it has no separator and such lines are left out. -/
def cutFields (separator : UInt8) (joint : Bytes) (admits : Nat → Bool) (strict : Bool) (line : Bytes) :
    Option Bytes :=
  if line.contains separator then
    let fields := (splitBytes separator line).zipIdx.filter fun entry => admits (entry.2 + 1)
    some (joint.intercalate (fields.map Prod.fst))
  else if strict then none
  else some line

/-- Whether a range begins at a position that lies in no range which begins before. -/
def Positions.begins (positions : Positions) (n : Nat) : Bool :=
  positions.any (fun range => range.1 == n) &&
    !positions.any fun (low, high) => low < n && (high.map fun h => decide (n ≤ h)).getD true

def cutBytes (joint : Bytes) (admits begins : Nat → Bool) (line : Bytes) : Bytes :=
  (line.zipIdx.foldl (fun (kept : Bytes) entry =>
    if !admits (entry.2 + 1) then kept
    else entry.1 :: (if !kept.isEmpty && begins (entry.2 + 1) then joint.reverse else []) ++ kept)
    []).reverse

def cut (frame : Frame) : Work Ending :=
  withOptions frame "snzb:c:f:d:"
      [("only-delimited", 's'), ("bytes=", 'b'), ("characters=", 'c'), ("fields=", 'f'),
        ("delimiter=", 'd'), ("complement", 'x'), ("output-delimiter=", 'o'), ("zero-terminated", 'z')]
      fun options => do
    let lists := options.given.filter fun entry => ['b', 'c', 'f'].contains entry.1
    let byFields := (options.value? 'f').isSome
    match lists with
    | [] => frame.misused "you must specify a list of bytes, characters, or fields"
    | _ :: _ :: _ => frame.misused "only one list may be specified"
    | [(_, text)] =>
        if ((options.value? 'd').map String.length).any (1 < ·) then
          frame.misused "the delimiter must be a single character"
        else if !byFields && (options.value? 'd').isSome then
          frame.misused "an input delimiter may be specified only when operating on fields"
        else if !byFields && options.has 's' then
          frame.misused
            "suppressing non-delimited lines makes sense\n\tonly when operating on fields"
        else
          match readPositions byFields text with
          | .error problem => frame.misused problem
          | .ok positions =>
              let separator := ((options.value? 'd').bind fun d => (Text.octets d).head?).getD
                (if (options.value? 'd').isSome then 0 else 9)
              let joint := (options.value? 'o').map Text.octets
              let admits (n : Nat) : Bool := positions.admits n != options.has 'x'
              let begins (n : Nat) : Bool :=
                if options.has 'x' then !admits (n - 1) else positions.begins n
              let ending : UInt8 := if options.has 'z' then 0 else 10
              let mut fine := true
              for operand in operandsOr options.operands do
                match ← sourceOr frame operand (about operand) with
                | none => fine := false
                | some bytes =>
                    let lines := partsOf ending bytes
                    let shown :=
                      if byFields then
                        lines.filterMap
                          (cutFields separator (joint.getD [separator]) admits (options.has 's'))
                      else lines.map (cutBytes (joint.getD []) admits begins)
                    frame.put (shown.flatMap fun line => line ++ [ending])
              return ofBool fine

end LifecycleHooks.Tool
