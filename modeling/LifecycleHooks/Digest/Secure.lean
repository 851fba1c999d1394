import LifecycleHooks.Digest.Basic

/-!
The secure hash algorithms with words of 32 and of 64 bits.
-/

namespace LifecycleHooks.Digest

open Text (Bytes)

structure Words (ω : Type) where
  /-- How many bytes a word has. -/
  size : Nat
  ofNat : Nat → ω
  toNat : ω → Nat
  add : ω → ω → ω
  xor : ω → ω → ω
  and : ω → ω → ω
  not : ω → ω
  right : ω → Nat → ω
  left : ω → Nat → ω

namespace Words

def narrow : Words UInt32 :=
  ⟨4, Nat.toUInt32, UInt32.toNat, (· + ·), (· ^^^ ·), (· &&& ·), fun w => ~~~w,
    fun w n => w >>> n.toUInt32, fun w n => w <<< n.toUInt32⟩

def wide : Words UInt64 :=
  ⟨8, Nat.toUInt64, UInt64.toNat, (· + ·), (· ^^^ ·), (· &&& ·), fun w => ~~~w,
    fun w n => w >>> n.toUInt64, fun w n => w <<< n.toUInt64⟩

variable {ω : Type}

def rotate (words : Words ω) (w : ω) (n : Nat) : ω :=
  words.xor (words.right w n) (words.left w (8 * words.size - n))

def turned (words : Words ω) (a b c : Nat) (w : ω) : ω :=
  words.xor (words.rotate w a) (words.xor (words.rotate w b) (words.rotate w c))

def shifted (words : Words ω) (a b c : Nat) (w : ω) : ω :=
  words.xor (words.rotate w a) (words.xor (words.rotate w b) (words.right w c))

def sum (words : Words ω) (all : List ω) : ω := all.foldl words.add (words.ofNat 0)

end Words

/-- How far words are turned and shifted, and how many rounds there are. -/
structure Rounds where
  count : Nat
  message : (Nat × Nat × Nat) × (Nat × Nat × Nat)
  state : (Nat × Nat × Nat) × (Nat × Nat × Nat)

def narrowRounds : Rounds := ⟨64, ((7, 18, 3), (17, 19, 10)), ((2, 13, 22), (6, 11, 25))⟩

def wideRounds : Rounds := ⟨80, ((1, 8, 7), (19, 61, 6)), ((28, 34, 39), (14, 18, 41))⟩

section

variable {ω : Type}

def expand (words : Words ω) (rounds : Rounds) : Nat → List ω → List ω
  | 0, schedule => schedule
  | more + 1, schedule =>
      let zero := words.ofNat 0
      let ((a, b, c), (d, e, f)) := rounds.message
      let next := words.sum
        [words.shifted d e f (schedule.getD 1 zero), schedule.getD 6 zero,
          words.shifted a b c (schedule.getD 14 zero), schedule.getD 15 zero]
      expand words rounds more (next :: schedule)

def mix (words : Words ω) (rounds : Rounds) (state : List ω) (constant message : ω) : List ω :=
  match state with
  | [a, b, c, d, e, f, g, h] =>
      let ((p, q, r), (s, t, u)) := rounds.state
      let choice := words.xor (words.and e f) (words.and (words.not e) g)
      let majority := words.xor (words.and a b) (words.xor (words.and a c) (words.and b c))
      let first := words.sum [h, words.turned s t u e, choice, constant, message]
      let second := words.add (words.turned p q r a) majority
      [words.add first second, a, b, c, words.add d first, e, f, g]
  | other => other

def absorb (words : Words ω) (rounds : Rounds) (constants : List ω) (state : List ω) (block : Bytes) :
    List ω :=
  let message := (blocks words.size block).map fun piece => words.ofNat (ofBytes piece)
  let schedule := (expand words rounds (rounds.count - 16) message.reverse).reverse
  let mixed := (constants.zip schedule).foldl (fun state (constant, word) =>
    mix words rounds state constant word) state
  (state.zip mixed).map fun (a, b) => words.add a b

def secure (words : Words ω) (rounds : Rounds) (constants start : List ω) (message : Bytes) : Bytes :=
  let state := (blocks (16 * words.size) (padded (16 * words.size) (2 * words.size) toBytes message)).foldl
    (absorb words rounds constants) start
  state.flatMap fun word => toBytes words.size (words.toNat word)

end

def narrowConstants : List UInt32 := (primes.take 64).map fun p => (rootFraction 3 32 p).toUInt32

def wideConstants : List UInt64 := (primes.take 80).map fun p => (rootFraction 3 64 p).toUInt64

def squareRoots (skipped : Nat) : List UInt64 :=
  ((primes.drop skipped).take 8).map fun p => (rootFraction 2 64 p).toUInt64

def sha256 (message : Bytes) : Bytes :=
  secure Words.narrow narrowRounds narrowConstants
    ((squareRoots 0).map fun w => (w.toNat / Nat.pow 2 32).toUInt32) message

def sha224 (message : Bytes) : Bytes :=
  (secure Words.narrow narrowRounds narrowConstants
    ((squareRoots 8).map fun w => w.toNat.toUInt32) message).take 28

def sha512 (message : Bytes) : Bytes :=
  secure Words.wide wideRounds wideConstants (squareRoots 0) message

def sha384 (message : Bytes) : Bytes :=
  (secure Words.wide wideRounds wideConstants (squareRoots 8) message).take 48

end LifecycleHooks.Digest
