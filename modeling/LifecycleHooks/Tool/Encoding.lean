import LifecycleHooks.Tool.Contents

/-!
Programs that write bytes as letters and digits, and read them back: six bits or five bits to a
character.
-/

namespace LifecycleHooks.Tool.Encoding

open Process Text

/-- Groups of so many bytes become so many characters of so many bits each. -/
structure Code where
  alphabet : List Char
  bits : Nat
  bytes : Nat
  chars : Nat

def sixty : Code :=
  ⟨"ABCDEFGHIJKLMNOPQRSTUVWXYZabcdefghijklmnopqrstuvwxyz0123456789+/".toList, 6, 3, 4⟩

def thirty : Code := ⟨"ABCDEFGHIJKLMNOPQRSTUVWXYZ234567".toList, 5, 5, 8⟩

namespace Code

def encodeGroup (code : Code) (group : Bytes) : List Char :=
  let n := group.foldl (fun n byte => n * 256 + byte.toNat) 0 * Nat.pow 256 (code.bytes - group.length)
  let used := (8 * group.length + code.bits - 1) / code.bits
  (List.range code.chars).map fun i =>
    if i < used then
      code.alphabet.getD (n / Nat.pow 2 (code.bits * (code.chars - 1 - i)) % Nat.pow 2 code.bits) '='
    else '='

def encode (code : Code) : Nat → Bytes → List Char
  | 0, _ => []
  | _, [] => []
  | fuel + 1, bytes => code.encodeGroup (bytes.take code.bytes) ++ code.encode fuel (bytes.drop code.bytes)

/-- The bytes that the characters of one group stand for, and whether they are all right. A group may
be short if its bytes are whole. -/
def decodeGroup (code : Code) (group : List Char) : Bytes × Bool :=
  let digits := group.takeWhile (· != '=')
  let values := digits.map fun c => code.alphabet.idxOf c
  let n := values.foldl (fun n value => n * Nat.pow 2 code.bits + value) 0
  let count := digits.length * code.bits / 8
  let spare := digits.length * code.bits - 8 * count
  let whole := n / Nat.pow 2 spare
  let bytes := (List.range count).map fun i => (whole / Nat.pow 256 (count - 1 - i)).toUInt8
  let used := (8 * count + code.bits - 1) / code.bits
  (bytes, group.length == code.chars && digits.length == used && 0 < count &&
    (group.drop digits.length).all (· == '='))

/-- The bytes that characters stand for, and whether they are all right. Line ends make no difference.
`fuel` bounds the number of groups. -/
def decode (code : Code) : Nat → List Char → Bytes × Bool
  | 0, _ => ([], true)
  | _, [] => ([], true)
  | fuel + 1, chars =>
      let group := chars.take code.chars
      let valid := group.takeWhile fun c => code.alphabet.contains c || c == '='
      let (bytes, fine) := code.decodeGroup valid
      if fine && valid.length == group.length then
        let (others, fine) := code.decode fuel (chars.drop code.chars)
        (bytes ++ others, fine)
      else (bytes, false)

end Code

def wrapped (width : Nat) (chars : List Char) : List Char :=
  if width = 0 then chars
  else
    chars.zipIdx.flatMap fun (c, i) =>
      if (i + 1) % width = 0 || i + 1 == chars.length then [c, '\n'] else [c]

def program (code : Code) (frame : Frame) : Work Ending :=
  withOptions frame "diw:" [("decode", 'd'), ("ignore-garbage", 'i'), ("wrap=", 'w')] fun options => do
    let width := (options.value? 'w').map natural?
    match options.operands, width with
    | _, some none =>
        frame.complain ("invalid wrap size: " ++ cited ((options.value? 'w').getD ""))
        return failed
    | _ :: extra :: _, _ => frame.misused ("extra operand " ++ cited extra)
    | operands, width =>
        match ← sourceOr frame (operands.headD "-") fun e =>
            match e with
            | .isADirectory => "read error: " ++ describe e
            | _ => about (operands.headD "-") e with
        | none => return failed
        | some bytes =>
            if options.has 'd' then
              let chars := (Text.ofOctets bytes).toList.filter (· != '\n')
              let chars := if options.has 'i' then
                chars.filter fun c => code.alphabet.contains c || c == '=' else chars
              let (decoded, fine) := code.decode (chars.length + 1) chars
              frame.put decoded
              if !fine then frame.complain "invalid input"
              return ofBool fine
            else
              let chars := code.encode (bytes.length + 1) bytes
              frame.say (String.ofList (wrapped ((width.bind id).getD 76) chars))
              return ok

def base64 : Frame → Work Ending := program sixty

def base32 : Frame → Work Ending := program thirty

end LifecycleHooks.Tool.Encoding
