import LifecycleHooks.Digest.Early
import LifecycleHooks.Digest.Secure
import LifecycleHooks.Tool.Contents

/-!
Programs that compute digests of files, and compare them with digests that are written down.
-/

namespace LifecycleHooks.Tool.Sums

open Process Text

structure Algorithm where
  title : String
  /-- How many bytes it has. -/
  size : Nat
  digest : Bytes → Bytes

def md5 : Algorithm := ⟨"MD5", 16, Digest.md5⟩
def sha1 : Algorithm := ⟨"SHA1", 20, Digest.sha1⟩
def sha224 : Algorithm := ⟨"SHA224", 28, Digest.sha224⟩
def sha256 : Algorithm := ⟨"SHA256", 32, Digest.sha256⟩
def sha384 : Algorithm := ⟨"SHA384", 48, Digest.sha384⟩
def sha512 : Algorithm := ⟨"SHA512", 64, Digest.sha512⟩

def all : List Algorithm := [md5, sha1, sha224, sha256, sha384, sha512]

/-- A name on one line, and whether it had to be changed for that. -/
def onOneLine (name : String) : String × Bool :=
  let chars := name.toList.flatMap fun c =>
    match c with
    | '\\' => ['\\', '\\']
    | '\n' => ['\\', 'n']
    | '\r' => ['\\', 'r']
    | c => [c]
  (String.ofList chars, chars.length != name.length)

def offOneLine : List Char → List Char
  | '\\' :: 'n' :: rest => '\n' :: offOneLine rest
  | '\\' :: 'r' :: rest => '\r' :: offOneLine rest
  | '\\' :: '\\' :: rest => '\\' :: offOneLine rest
  | c :: rest => c :: offOneLine rest
  | [] => []

structure Style where
  tagged : Bool
  binary : Bool
  lineEnd : String

def Style.line (style : Style) (algorithm : Algorithm) (name digest : String) : String :=
  let (shown, changed) := if style.lineEnd == "\n" then onOneLine name else (name, false)
  let start := if changed then "\\" else ""
  (if style.tagged then start ++ algorithm.title ++ " (" ++ shown ++ ") = " ++ digest
    else start ++ digest ++ (if style.binary then " *" else "  ") ++ shown) ++ style.lineEnd

def compute (frame : Frame) (algorithm : Algorithm) (style : Style) (operands : List String) :
    Work Ending :=
  forEach (operandsOr operands) fun operand => do
    match ← sourceOr frame operand fun e => about operand e with
    | some bytes =>
        frame.say (style.line algorithm operand (Digest.hex (algorithm.digest bytes)))
        return true
    | none => return false

def isHexOf (size : Nat) (chars : List Char) : Bool :=
  chars.length == 2 * size && chars.all fun c => c.isDigit || ('a' ≤ c.toLower && c.toLower ≤ 'f')

def readLine? (algorithm : Algorithm) (line : List Char) : Option (String × String) :=
  let (changed, line) : Bool × List Char := match line.dropWhile fun c => c == ' ' || c == '\t' with
    | '\\' :: rest => (true, rest)
    | rest => (false, rest)
  let named (digest name : List Char) : Option (String × String) :=
    some ((String.ofList digest).toLower,
      String.ofList (if changed then offOneLine name else name))
  let title := algorithm.title.toList ++ [' ', '(']
  if title.isPrefixOf line then
    let rest := line.drop title.length
    let digest := (rest.reverse.takeWhile (· != ' ')).reverse
    let front := rest.take (rest.length - digest.length)
    let name := front.take (front.length - 4)
    if isHexOf algorithm.size digest && front.drop name.length == [')', ' ', '=', ' '] then named digest name
    else none
  else
    let digest := line.take (2 * algorithm.size)
    if !isHexOf algorithm.size digest then none
    else
      match line.drop digest.length with
      | ' ' :: ' ' :: name => if name.isEmpty then none else named digest name
      | ' ' :: '*' :: name => if name.isEmpty then none else named digest name
      | ' ' :: name => if name.isEmpty then none else named digest name
      | _ => none

structure Care where
  quiet : Bool
  silent : Bool
  strict : Bool
  warns : Bool
  skipsMissing : Bool

structure Tally where
  known : Nat
  bad : Nat
  unread : Nat
  different : Nat
  matched : Nat

def checkLine (frame : Frame) (algorithm : Algorithm) (care : Care) (list : String) (tally : Tally)
    (number : Nat) (line : Bytes) : Work Tally := do
  let chars := (Text.ofOctets line).toList
  if chars.head? == some '#' then return tally
  match readLine? algorithm chars with
  | none =>
      if care.warns then
        frame.complain (shown list ++ ": " ++ toString number ++ ": improperly formatted " ++
          algorithm.title ++ " checksum line")
      return { tally with bad := tally.bad + 1 }
  | some (digest, name) =>
      let (label, changed) := onOneLine name
      let label := (if changed then "\\" else "") ++ label
      let tally := { tally with known := tally.known + 1 }
      match ← source frame name with
      | .error e =>
          if care.skipsMissing && e = .noSuchFile then return tally
          frame.complain (about name e)
          if !care.silent then frame.say (label ++ ": FAILED open or read\n")
          return { tally with unread := tally.unread + 1 }
      | .ok bytes =>
          let same := Digest.hex (algorithm.digest bytes) == digest
          if !care.silent then
            if !same then frame.say (label ++ ": FAILED\n")
            else if !care.quiet then frame.say (label ++ ": OK\n")
          return if same then { tally with matched := tally.matched + 1 }
            else { tally with different := tally.different + 1 }

def checkLines (frame : Frame) (algorithm : Algorithm) (care : Care) (list : String) :
    Tally → Nat → List Bytes → Work Tally
  | tally, _, [] => return tally
  | tally, number, line :: lines => do
      let tally ← checkLine frame algorithm care list tally number line
      checkLines frame algorithm care list tally (number + 1) lines

def counted (n : Nat) (one many : String) : String := toString n ++ (if n = 1 then one else many)

def checkFile (frame : Frame) (algorithm : Algorithm) (care : Care) (operand : String) : Work Bool := do
  match ← sourceOr frame operand fun e => about operand e with
  | none => return false
  | some bytes =>
      let list := if operand == "-" then "standard input" else operand
      let tally ← checkLines frame algorithm care list ⟨0, 0, 0, 0, 0⟩ 1 (linesOf bytes)
      if tally.known = 0 then
        frame.complain (shown list ++ ": no properly formatted checksum lines found")
        return false
      if !care.silent then
        let warn (n : Nat) (one many : String) : Work Unit :=
          if n = 0 then pure () else frame.complain ("WARNING: " ++ counted n one many)
        warn tally.bad " line is improperly formatted" " lines are improperly formatted"
        warn tally.unread " listed file could not be read" " listed files could not be read"
        warn tally.different " computed checksum did NOT match" " computed checksums did NOT match"
        if care.skipsMissing && tally.matched = 0 then
          frame.complain (shown list ++ ": no file was verified")
      return tally.different = 0 && tally.unread = 0 && (!care.strict || tally.bad = 0) &&
        (!care.skipsMissing || 0 < tally.matched)

def digestProgram (algorithm : Algorithm) (frame : Frame) : Work Ending :=
  withOptions frame "bctwz"
      [("binary", 'b'), ("check", 'c'), ("tag", 'G'), ("text", 't'), ("warn", 'w'), ("zero", 'z'),
        ("quiet", 'Q'), ("status", 'S'), ("ignore-missing", 'I'), ("strict", 'R')] fun options => do
    let checking := [("ignore-missing", 'I'), ("status", 'S'), ("warn", 'w'), ("quiet", 'Q'), ("strict", 'R')]
    if options.has 'c' then
      let last := options.last? ['Q', 'S', 'w']
      forEach (operandsOr options.operands)
        (checkFile frame algorithm
          ⟨last == some 'Q', last == some 'S', options.has 'R', last == some 'w', options.has 'I'⟩)
    else
      match checking.find? fun entry => options.has entry.2 with
      | some (name, _) =>
          frame.misused ("the --" ++ name ++ " option is meaningful only when verifying checksums")
      | none =>
          let lineEnd := if options.has 'z' then "\x00" else "\n"
          compute frame algorithm
            ⟨options.has 'G', options.last? ['b', 't'] == some 'b', lineEnd⟩ options.operands

def blocksOf (size count : Nat) : Nat := (count + size - 1) / size

def padLeft (c : Char) (width : Nat) (text : String) : String :=
  String.ofList (List.replicate (width - text.length) c) ++ text

/-- Writes a sum with the length for each file; the name is left out where there are no operands. -/
def sums (frame : Frame) (line : Bytes → String) (operands : List String) : Work Ending :=
  forEach (operandsOr operands) fun operand => do
    match ← sourceOr frame operand fun e => about operand e with
    | some bytes =>
        frame.say (line bytes ++ (if operands.isEmpty then "" else " " ++ operand) ++ "\n")
        return true
    | none => return false

def turningLine (bytes : Bytes) : String :=
  padLeft '0' 5 (toString (Digest.turning bytes)) ++ " " ++
    padLeft ' ' 5 (toString (blocksOf 1024 bytes.length))

def foldedLine (bytes : Bytes) : String :=
  toString (Digest.folded bytes) ++ " " ++ toString (blocksOf 512 bytes.length)

def cyclicLine (bytes : Bytes) : String :=
  toString (Digest.cyclic bytes) ++ " " ++ toString bytes.length

def sum (frame : Frame) : Work Ending :=
  withOptions frame "rs" [("sysv", 's')] fun options =>
    let line := if options.last? ['r', 's'] == some 's' then foldedLine else turningLine
    sums frame line options.operands

def algorithmNames : List String :=
  ["bsd", "sysv", "crc", "md5", "sha1", "sha224", "sha256", "sha384", "sha512", "blake2b", "sm3"]

def cksum (frame : Frame) : Work Ending :=
  withOptions frame "a:z"
      [("algorithm=", 'a'), ("untagged", 'U'), ("tag", 'G'), ("zero", 'z')] fun options => do
    let name := (options.value? 'a').getD "crc"
    match name with
    | "crc" => sums frame cyclicLine options.operands
    | "bsd" => sums frame turningLine options.operands
    | "sysv" => sums frame foldedLine options.operands
    | _ =>
        match all.find? fun algorithm => algorithm.title.toLower == name with
        | some algorithm =>
            let lineEnd := if options.has 'z' then "\x00" else "\n"
            compute frame algorithm ⟨!options.has 'U', false, lineEnd⟩ options.operands
        | none =>
            frame.misused ("invalid argument " ++ cited name ++ " for '--algorithm'\nValid arguments are:" ++
              String.join (algorithmNames.map fun name => "\n  - '" ++ name ++ "'"))

end LifecycleHooks.Tool.Sums
