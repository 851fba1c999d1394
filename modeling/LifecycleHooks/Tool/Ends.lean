import LifecycleHooks.Tool.Contents

/-!
Programs that show the beginning or the end of what they read.
-/

namespace LifecycleHooks.Tool

open Process Text

def cannotOpen (operand : String) (e : SystemError) : String :=
  match e with
  | .isADirectory => "error reading " ++ quote operand ++ ": " ++ describe e
  | _ => "cannot open " ++ quote operand ++ " for reading: " ++ describe e

def firstParts (ending : UInt8) : Nat → Bytes → Bytes
  | _, [] => []
  | 0, _ => []
  | n + 1, byte :: rest => byte :: firstParts ending (if byte == ending then n else n + 1) rest

def copyBytes (frame : Frame) (descriptor : Nat) : Nat → Nat → Work (Except SystemError Unit)
  | 0, _ => return .ok ()
  | fuel + 1, count =>
      if count == 0 then return .ok ()
      else do
        match ← Work.readSome frame.pid descriptor (min count blockSize) with
        | .error e => return .error e
        | .ok [] => return .ok ()
        | .ok bytes =>
            frame.put bytes
            copyBytes frame descriptor fuel (count - bytes.length)

/-- Copies parts until there are enough. Blocks are read as a whole, and what was read too much is
given back if that is possible. `fuel` bounds the number of blocks. -/
def copyParts (frame : Frame) (ending : UInt8) (descriptor : Nat) :
    Nat → Nat → Work (Except SystemError Unit)
  | 0, _ => return .ok ()
  | fuel + 1, count =>
      if count == 0 then return .ok ()
      else do
        match ← Work.readSome frame.pid descriptor blockSize with
        | .error e => return .error e
        | .ok [] => return .ok ()
        | .ok bytes =>
            let wanted := firstParts ending count bytes
            frame.put wanted
            let left := count - (wanted.filter (· == ending)).length
            if left = 0 then
              Work.modify fun world =>
                world.giveBack frame.pid descriptor (bytes.length - wanted.length)
            copyParts frame ending descriptor fuel left

/-- A count such as `5`, `5q` or `2kc` behind a dash as usual options. -/
def spelledCount (text : List Char) : List String :=
  let digits := text.takeWhile Char.isDigit
  let letters := text.drop digits.length
  let unit := (letters.filter ['b', 'k', 'm'].contains).getLast?
  let named := letters.filter ['q', 'v'].contains
  let ofBytes := letters.contains 'c' || unit.isSome
  let count := String.ofList (digits ++ (unit.map fun c => if c == 'm' then 'M' else c).toList)
  (if named.isEmpty then [] else [String.ofList ('-' :: named)]) ++ [if ofBytes then "-c" else "-n", count]

def spellCount : List String → List String
  | "-n" :: value :: rest => "-n" :: value :: spellCount rest
  | "-c" :: value :: rest => "-c" :: value :: spellCount rest
  | arg :: rest =>
      match arg.toList with
      | '-' :: c :: digits =>
          if c.isDigit then spelledCount (c :: digits) ++ spellCount rest
          else arg :: spellCount rest
      | _ => arg :: spellCount rest
  | [] => []

def heading (shows : Bool) (operand : String) (first : Bool) : String :=
  if !shows then ""
  else
    (if first then "" else "\n") ++ "==> " ++
      (if operand == "-" then "standard input" else operand) ++ " <==\n"

def allBut (ofBytes : Bool) (ending : UInt8) (count : Nat) (bytes : Bytes) : Bytes :=
  if ofBytes then bytes.take (bytes.length - count)
  else firstParts ending ((partsOf ending bytes).length - count) bytes

/-- The end of some bytes: the last so many parts or bytes, or all from a certain one on. -/
def theEnd (ofBytes fromStart : Bool) (ending : UInt8) (count : Nat) (bytes : Bytes) : Bytes :=
  if ofBytes then bytes.drop (if fromStart then count - 1 else bytes.length - count)
  else
    let parts := (partsOf ending bytes).length
    bytes.drop (firstParts ending (if fromStart then count - 1 else parts - count) bytes).length

structure EndRequest where
  ofBytes : Bool
  sign : Option Char
  count : Nat
  ending : UInt8
  shows : Bool
  operands : List String

def endRequest (options : Options) : Except String EndRequest :=
  let ofBytes := options.last? ['c', 'n'] == some 'c'
  let given := (options.value? (if ofBytes then 'c' else 'n')).getD "10"
  let (sign, digits) : Option Char × String := match given.toList with
    | '-' :: rest => (some '-', String.ofList rest)
    | '+' :: rest => (some '+', String.ofList rest)
    | _ => (none, given)
  match Amount.parse? digits with
  | none =>
      .error ("invalid number of " ++ (if ofBytes then "bytes" else "lines") ++ ": " ++ cited given)
  | some count =>
      let operands := operandsOr options.operands
      let shows := options.last? ['q', 'v'] == some 'v' ||
        (1 < operands.length && options.last? ['q', 'v'] != some 'q')
      .ok ⟨ofBytes, sign, count, if options.has 'z' then 0 else 10, shows, operands⟩

def showEnds (frame : Frame) (request : EndRequest)
    (showOne : Nat → Work (Except SystemError Unit)) : List String → Bool → Bool → Work Ending
  | [], _, fine => return ofBool fine
  | operand :: rest, first, fine => do
      let outcome ← withSource frame operand fun descriptor => do
        frame.say (heading request.shows operand first)
        return .ok (← showOne descriptor)
      match outcome with
      | .ok (.ok ()) => showEnds frame request showOne rest false fine
      | .ok (.error e) =>
          frame.complain ("error reading " ++
            quote (if operand == "-" then "standard input" else operand) ++ ": " ++ describe e)
          showEnds frame request showOne rest false false
      | .error e =>
          frame.complain (cannotOpen operand e)
          showEnds frame request showOne rest first false

def longEnds : List (String × Char) :=
  [("bytes=", 'c'), ("lines=", 'n'), ("quiet", 'q'), ("silent", 'q'), ("verbose", 'v'),
    ("zero-terminated", 'z')]

def head (frame : Frame) : Work Ending :=
  withOptions { frame with args := spellCount frame.args } "c:n:qvz" longEnds fun options => do
    match endRequest options with
    | .error problem =>
        frame.complain problem
        return failed
    | .ok request =>
        let showOne (descriptor : Nat) : Work (Except SystemError Unit) := do
          if request.sign == some '-' then
            match ← Work.readAll frame.pid descriptor with
            | .error e => return .error e
            | .ok bytes =>
                frame.put (allBut request.ofBytes request.ending request.count bytes)
                return .ok ()
          else if request.ofBytes then copyBytes frame descriptor blockLimit request.count
          else copyParts frame request.ending descriptor blockLimit request.count
        showEnds frame request showOne request.operands true true

def follow (frame : Frame) (descriptor : Nat) : Nat → Work (Except SystemError Unit)
  | 0 => Work.hang
  | fuel + 1 => do
      Work.sleep 1000000
      match ← Work.readAll frame.pid descriptor with
      | .error e => return .error e
      | .ok bytes =>
          frame.put bytes
          follow frame descriptor fuel

def tail (frame : Frame) : Work Ending :=
  withOptions { frame with args := spellCount frame.args } "c:n:qvzfFs:"
      (longEnds ++ [("follow=?", 'f'), ("sleep-interval=", 's'), ("retry", 'r')]) fun options => do
    match endRequest options with
    | .error problem =>
        frame.complain problem
        return failed
    | .ok request =>
        let showOne (descriptor : Nat) : Work (Except SystemError Unit) := do
          match ← Work.readAll frame.pid descriptor with
          | .error e => return .error e
          | .ok bytes =>
              frame.put (theEnd request.ofBytes (request.sign == some '+') request.ending request.count
                bytes)
              let isFile ← Work.look fun world => (world.number? frame.pid descriptor).isSome
              if (options.has 'f' || options.has 'F') && isFile then
                follow frame descriptor blockLimit
              else return .ok ()
        showEnds frame request showOne request.operands true true

end LifecycleHooks.Tool
