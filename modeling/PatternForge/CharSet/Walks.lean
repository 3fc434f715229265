import PatternForge.CharSet

/-!
The walks over the words of a set, with the operations on words that they are made of: the bit that is
looked at is found by the zeros behind or before it, and a bit that is done with is cleared by taking
one from the word. Two of these operations are partial, and a walk stops with a `Slip` where one of
them has no value.
-/
namespace PatternForge

/-- An operation of a walk had no value. -/
inductive Slip where
  /-- One was to be taken from zero. -/
  | belowZero
  /-- A number was to be a character and is the code of none. -/
  | noCharacter (code : Nat)
  deriving DecidableEq, Repr

/-- How many of the lowest bits are zeros, before the first that is set. -/
def trailingZeros (word : UInt64) : Nat := word.toBitVec.ctz.toNat

/-- How many of the highest bits are zeros, before the first that is set. -/
def leadingZeros (word : UInt64) : Nat := word.toBitVec.clz.toNat

/-- How many bits are ones. -/
def countOnes (word : UInt64) : Nat := word.toBitVec.cpop.toNat

/-- Clears the lowest bit that is set. -/
def clearLowest (word : UInt64) : Except Slip UInt64 :=
  if word = 0 then .error .belowZero else .ok (word &&& (word - 1))

/-- Clears the `n` lowest bits that are set. -/
def clearLowestTimes : (n : Nat) → (word : UInt64) → Except Slip UInt64
  | 0, word => .ok word
  | n + 1, word => do clearLowestTimes n (← clearLowest word)

/-- The character at a place, where the code has to be that of a character. -/
def Universe.checkedCharAt (u : Universe) (place : Nat) : Except Slip Char :=
  if valid : (u.first.toNat + place).isValidChar then .ok (Char.ofNatAux _ valid)
  else .error (.noCharacter (u.first.toNat + place))

namespace CharSet

/-- A walk over the members that can be resumed. -/
structure Iter where
  /-- The set that is walked over. -/
  set : CharSet
  /-- The word that is looked at. -/
  word : Nat
  /-- What is left of it. -/
  left : UInt64

namespace Iter

/-- The walk before the first member. -/
def start (s : CharSet) : Iter := { set := s, word := 0, left := s.words.headD 0 }

/-- The next word, from word `i` on, of which something is left. -/
def seek (words : List UInt64) (i : Nat) (left : UInt64) : Nat × UInt64 :=
  if left ≠ 0 then (i, left)
  else
    match within : words[i + 1]? with
    | none => (i + 1, 0)
    | some word => seek words (i + 1) word
  termination_by words.length - i
  decreasing_by
    have := (List.getElem?_eq_some_iff.mp within).1
    omega

/-- The next member, if there is one, and the walk from there on. -/
def next (walk : Iter) : Except Slip (Option Char × Iter) :=
  let found := seek walk.set.words walk.word walk.left
  if found.2 = 0 then .ok (none, { walk with word := found.1, left := 0 })
  else do
    let left ← clearLowest found.2
    let c ← walk.set.domain.checkedCharAt (64 * found.1 + trailingZeros found.2)
    return (some c, { walk with word := found.1, left })

/-- The answers of the next `n` calls. -/
def answers : (n : Nat) → (walk : Iter) → Except Slip (List (Option Char))
  | 0, _ => .ok []
  | n + 1, walk => do
    let (answer, walk) ← walk.next
    return answer :: (← answers n walk)

end Iter

/-- The number of members, by the ones in each word. -/
def walkedSize (s : CharSet) : Nat := s.words.foldr (fun word n => countOnes word + n) 0

/-- The member with `n` smaller ones, where word `i` is the next to look at: whole words are passed over
by their ones, and within a word the smaller members are cleared away. -/
def walkedNthFrom (u : Universe) (i n : Nat) : List UInt64 → Except Slip (Option Char)
  | [] => .ok none
  | word :: rest =>
    if countOnes word ≤ n then walkedNthFrom u (i + 1) (n - countOnes word) rest
    else do
      let word ← clearLowestTimes n word
      return some (← u.checkedCharAt (64 * i + trailingZeros word))

/-- The member with `n` smaller ones. -/
def walkedNth (s : CharSet) (n : Nat) : Except Slip (Option Char) := walkedNthFrom s.domain 0 n s.words

/-- The smallest member: what the walk over all of them comes to first. -/
def walkedFirst (s : CharSet) : Except Slip (Option Char) := do return (← (Iter.start s).next).1

/-- The largest member: the highest bit of the last word that has one. -/
def walkedLast (s : CharSet) : Except Slip (Option Char) :=
  match s.words.zipIdx.reverse.find? fun indexed => indexed.1 ≠ 0 with
  | none => .ok none
  | some (word, i) => do return some (← s.domain.checkedCharAt (64 * i + 63 - leadingZeros word))

end CharSet

end PatternForge
