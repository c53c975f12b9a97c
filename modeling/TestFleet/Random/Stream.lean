/-!
# Random numbers from a seed

A seed of 64 bits is stretched to the eight words of a key by a linear congruential generator whose
states are permuted before they are used. The key drives the ChaCha block function with twelve
rounds and a 64-bit block counter that starts at zero; the words of its blocks, in order, are the
random numbers.
-/
namespace TestFleet.Random

/-- A word turned to the left. -/
def rotateLeft (x : UInt32) (n : UInt32) : UInt32 := (x <<< n) ||| (x >>> (32 - n))

/-- A word turned to the right. -/
def rotateRight (x : UInt32) (n : UInt32) : UInt32 :=
  if n == 0 then x else (x >>> n) ||| (x <<< (32 - n))

/-- The next state of the generator that stretches seeds. -/
def nextState (s : UInt64) : UInt64 := s * 6364136223846793005 + 11634580027462260723

/-- The word that a state stands for. -/
def stateWord (s : UInt64) : UInt32 :=
  rotateRight (((s >>> 18) ^^^ s) >>> 27).toUInt32 (s >>> 59).toUInt32

/-- So many words from the states after `s`. -/
def stretch : Nat → UInt64 → List UInt32
  | 0, _ => []
  | n + 1, s => stateWord (nextState s) :: stretch n (nextState s)

/-- The key of a seed. -/
def keyOfSeed (seed : UInt64) : List UInt32 := stretch 8 seed

/-- Sixteen words. -/
abbrev Block := Vector UInt32 16

/-- Mixes four words of a block. -/
def quarterRound (b : Block) (i j k l : Fin 16) : Block :=
  let a := b[i]
  let c := b[k]
  let a := a + b[j]
  let d := rotateLeft (b[l] ^^^ a) 16
  let c := c + d
  let e := rotateLeft (b[j] ^^^ c) 12
  let a := a + e
  let d := rotateLeft (d ^^^ a) 8
  let c := c + d
  let e := rotateLeft (e ^^^ c) 7
  (((b.set i a).set j e).set k c).set l d

/-- Mixes the columns and then the diagonals. -/
def doubleRound (b : Block) : Block :=
  let b := quarterRound b 0 4 8 12
  let b := quarterRound b 1 5 9 13
  let b := quarterRound b 2 6 10 14
  let b := quarterRound b 3 7 11 15
  let b := quarterRound b 0 5 10 15
  let b := quarterRound b 1 6 11 12
  let b := quarterRound b 2 7 8 13
  quarterRound b 3 4 9 14

/-- So many double rounds. -/
def doubleRounds : Nat → Block → Block
  | 0, b => b
  | n + 1, b => doubleRounds n (doubleRound b)

/-- The block with a number under a key. -/
def block (key : List UInt32) (number : Nat) : List UInt32 :=
  let constants : List UInt32 := [0x61707865, 0x3320646e, 0x79622d32, 0x6b206574]
  let counter : List UInt32 :=
    [(UInt64.ofNat number).toUInt32, (UInt64.ofNat number >>> 32).toUInt32, 0, 0]
  let words := constants ++ key ++ counter
  let start : Block := Vector.ofFn fun i => (words[i.val]?).getD 0
  (Vector.zipWith (· + ·) start (doubleRounds 6 start)).toList

/-- A source of random words: what is left of a block, and the next block's number. -/
structure Stream where
  key : List UInt32
  next : Nat
  rest : List UInt32
  deriving Repr, Inhabited

/-- The source of a seed. -/
def Stream.ofSeed (seed : UInt64) : Stream := ⟨keyOfSeed seed, 0, []⟩

/-- The next word. -/
def Stream.draw (s : Stream) : UInt32 × Stream :=
  match s.rest with
  | w :: rest => (w, { s with rest := rest })
  | [] =>
    match block s.key s.next with
    | w :: rest => (w, { s with next := s.next + 1, rest := rest })
    | [] => (0, s)

end TestFleet.Random
