/-!
A stream of 32-bit words from a 256-bit key: the ChaCha permutation with twelve rounds, applied to
the key and a counter of blocks. A seed of 64 bits is stretched to a key by a linear generator whose
output is permuted.
-/
namespace PatternForge

/-- A key and a place in its stream. -/
structure Keystream where
  /-- The eight words of the key. -/
  key : List UInt32
  /-- The number of the next block. -/
  block : UInt64
  /-- The words of the current block that are still to come. -/
  pending : List UInt32
  deriving DecidableEq, Repr

namespace Keystream

/-- Rotation to the left. -/
def rotate (x : UInt32) (n : UInt32) : UInt32 := (x <<< n) ||| (x >>> (32 - n))

/-- One quarter round on four places of the state. -/
def quarter (s : Array UInt32) (a b c d : Nat) : Array UInt32 :=
  let word (s : Array UInt32) (i : Nat) : UInt32 := s.getD i 0
  let s := s.setIfInBounds a (word s a + word s b)
  let s := s.setIfInBounds d (rotate (word s d ^^^ word s a) 16)
  let s := s.setIfInBounds c (word s c + word s d)
  let s := s.setIfInBounds b (rotate (word s b ^^^ word s c) 12)
  let s := s.setIfInBounds a (word s a + word s b)
  let s := s.setIfInBounds d (rotate (word s d ^^^ word s a) 8)
  let s := s.setIfInBounds c (word s c + word s d)
  s.setIfInBounds b (rotate (word s b ^^^ word s c) 7)

/-- Two rounds: the columns, then the diagonals. -/
def doubleRound (s : Array UInt32) : Array UInt32 :=
  let s := quarter s 0 4 8 12
  let s := quarter s 1 5 9 13
  let s := quarter s 2 6 10 14
  let s := quarter s 3 7 11 15
  let s := quarter s 0 5 10 15
  let s := quarter s 1 6 11 12
  let s := quarter s 2 7 8 13
  quarter s 3 4 9 14

/-- The first four words of every block. -/
def constants : List UInt32 := [0x61707865, 0x3320646e, 0x79622d32, 0x6b206574]

/-- The sixteen words of a block. -/
def blockWords (key : List UInt32) (block : UInt64) : List UInt32 :=
  let start := (constants ++ key ++ [block.toUInt32, (block >>> 32).toUInt32, 0, 0]).toArray
  let mixed := (List.range 6).foldl (fun s _ => doubleRound s) start
  List.zipWith (· + ·) mixed.toList start.toList

/-- The next word. -/
def next (k : Keystream) : UInt32 × Keystream :=
  match k.pending with
  | word :: rest => (word, { k with pending := rest })
  | [] =>
    let words := blockWords k.key k.block
    (words.headD 0, { k with block := k.block + 1, pending := words.drop 1 })

/-- One step of the linear generator that stretches a seed. -/
def seedStep (s : UInt64) : UInt64 := s * 6364136223846793005 + 11634580027462260723

/-- The word that a state of the linear generator stands for. -/
def seedWord (s : UInt64) : UInt32 :=
  let x := (((s >>> 18) ^^^ s) >>> 27).toUInt32
  let n := (s >>> 59).toUInt32
  if n = 0 then x else (x >>> n) ||| (x <<< (32 - n))

/-- The stream of a seed. -/
def ofSeed (seed : UInt64) : Keystream where
  key := ((List.range 8).foldl
    (fun (acc : UInt64 × List UInt32) _ =>
      let s := seedStep acc.1
      (s, seedWord s :: acc.2))
    (seed, [])).2.reverse
  block := 0
  pending := []

end Keystream

end PatternForge
