import LifecycleHooks.Digest.Basic

/-!
The older digests of 128 and 160 bits, and check sums of 16 and 32 bits.
-/

namespace LifecycleHooks.Digest

open Text (Bytes)

def turnLeft (w : UInt32) (n : Nat) : UInt32 := (w <<< n.toUInt32) ||| (w >>> (32 - n).toUInt32)

def expandOne : Nat → List UInt32 → List UInt32
  | 0, schedule => schedule
  | more + 1, schedule =>
      let next := schedule.getD 2 0 ^^^ schedule.getD 7 0 ^^^ schedule.getD 13 0 ^^^ schedule.getD 15 0
      expandOne more (turnLeft next 1 :: schedule)

def mixOne (state : List UInt32) (index : Nat) (message : UInt32) : List UInt32 :=
  match state with
  | [a, b, c, d, e] =>
      let (f, constant) : UInt32 × UInt32 :=
        if index < 20 then ((b &&& c) ||| (~~~b &&& d), 0x5A827999)
        else if index < 40 then (b ^^^ c ^^^ d, 0x6ED9EBA1)
        else if index < 60 then ((b &&& c) ||| (b &&& d) ||| (c &&& d), 0x8F1BBCDC)
        else (b ^^^ c ^^^ d, 0xCA62C1D6)
      [turnLeft a 5 + f + e + constant + message, a, turnLeft b 30, c, d]
  | other => other

def addAll (state mixed : List UInt32) : List UInt32 := (state.zip mixed).map fun (a, b) => a + b

def absorbOne (state : List UInt32) (block : Bytes) : List UInt32 :=
  let message := (blocks 4 block).map fun piece => (ofBytes piece).toUInt32
  let schedule := (expandOne 64 message.reverse).reverse
  addAll state (schedule.zipIdx.foldl (fun state (word, index) => mixOne state index word) state)

def sha1 (message : Bytes) : Bytes :=
  let start : List UInt32 := [0x67452301, 0xEFCDAB89, 0x98BADCFE, 0x10325476, 0xC3D2E1F0]
  ((blocks 64 (padded 64 8 toBytes message)).foldl absorbOne start).flatMap fun word =>
    toBytes 4 word.toNat

def toBytesReversed (count n : Nat) : Bytes := (toBytes count n).reverse

def sineConstants : List UInt32 :=
  [0xd76aa478, 0xe8c7b756, 0x242070db, 0xc1bdceee, 0xf57c0faf, 0x4787c62a, 0xa8304613, 0xfd469501,
    0x698098d8, 0x8b44f7af, 0xffff5bb1, 0x895cd7be, 0x6b901122, 0xfd987193, 0xa679438e, 0x49b40821,
    0xf61e2562, 0xc040b340, 0x265e5a51, 0xe9b6c7aa, 0xd62f105d, 0x02441453, 0xd8a1e681, 0xe7d3fbc8,
    0x21e1cde6, 0xc33707d6, 0xf4d50d87, 0x455a14ed, 0xa9e3e905, 0xfcefa3f8, 0x676f02d9, 0x8d2a4c8a,
    0xfffa3942, 0x8771f681, 0x6d9d6122, 0xfde5380c, 0xa4beea44, 0x4bdecfa9, 0xf6bb4b60, 0xbebfbc70,
    0x289b7ec6, 0xeaa127fa, 0xd4ef3085, 0x04881d05, 0xd9d4d039, 0xe6db99e5, 0x1fa27cf8, 0xc4ac5665,
    0xf4292244, 0x432aff97, 0xab9423a7, 0xfc93a039, 0x655b59c3, 0x8f0ccc92, 0xffeff47d, 0x85845dd1,
    0x6fa87e4f, 0xfe2ce6e0, 0xa3014314, 0x4e0811a1, 0xf7537e82, 0xbd3af235, 0x2ad7d2bb, 0xeb86d391]

def turns (index : Nat) : Nat :=
  let group := match index / 16 with
    | 0 => [7, 12, 17, 22]
    | 1 => [5, 9, 14, 20]
    | 2 => [4, 11, 16, 23]
    | _ => [6, 10, 15, 21]
  group.getD (index % 4) 0

def mixFour (message : List UInt32) (state : List UInt32) (index : Nat) (constant : UInt32) :
    List UInt32 :=
  match state with
  | [a, b, c, d] =>
      let (f, place) : UInt32 × Nat := match index / 16 with
        | 0 => ((b &&& c) ||| (~~~b &&& d), index)
        | 1 => ((d &&& b) ||| (~~~d &&& c), (5 * index + 1) % 16)
        | 2 => (b ^^^ c ^^^ d, (3 * index + 5) % 16)
        | _ => (c ^^^ (b ||| ~~~d), (7 * index) % 16)
      [d, b + turnLeft (a + f + constant + message.getD place 0) (turns index), b, c]
  | other => other

def absorbFour (state : List UInt32) (block : Bytes) : List UInt32 :=
  let message := (blocks 4 block).map fun piece => (ofBytes piece.reverse).toUInt32
  addAll state
    (sineConstants.zipIdx.foldl (fun state (constant, index) => mixFour message state index constant) state)

def md5 (message : Bytes) : Bytes :=
  let start : List UInt32 := [0x67452301, 0xEFCDAB89, 0x98BADCFE, 0x10325476]
  ((blocks 64 (padded 64 8 toBytesReversed message)).foldl absorbFour start).flatMap fun word =>
    toBytesReversed 4 word.toNat

def cyclicStep (sum : UInt32) (byte : UInt8) : UInt32 :=
  (List.range 8).foldl (fun sum _ =>
    if sum &&& 0x80000000 != 0 then (sum <<< 1) ^^^ 0x04C11DB7 else sum <<< 1)
    (sum ^^^ (byte.toUInt32 <<< 24))

def lengthBytes : Nat → Nat → Bytes
  | 0, _ => []
  | fuel + 1, n => if n = 0 then [] else n.toUInt8 :: lengthBytes fuel (n / 256)

def cyclic (bytes : Bytes) : Nat :=
  (~~~(bytes ++ lengthBytes 8 bytes.length).foldl cyclicStep 0).toNat

def turning (bytes : Bytes) : Nat :=
  bytes.foldl (fun sum byte => (sum / 2 + sum % 2 * 32768 + byte.toNat) % 65536) 0

def folded (bytes : Bytes) : Nat :=
  let total := bytes.foldl (fun sum byte => sum + byte.toNat) 0 % Nat.pow 2 32
  let sum := total % 65536 + total / 65536
  sum % 65536 + sum / 65536

end LifecycleHooks.Digest
