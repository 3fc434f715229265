import PatternForge.CharSet

/-!
Changes of a set in place. A store is a set as it lies in memory: nothing but the edits keeps its words in
order, and what an edit has written by the time it fails stays written. An edit makes its checks one after
another and then writes the words, bit by bit or word by word. It has no outcome where it writes to a word that
is not there.
-/
namespace PatternForge.CharSet

/-- A set in memory. -/
structure Store where
  /-- The characters that may be members. -/
  domain : Universe
  /-- The words with the bits of the members. -/
  words : List UInt64
  /-- Whether changing the set in place is over. -/
  frozen : Bool
  deriving DecidableEq

/-- A set as it lies in memory. -/
def store (s : CharSet) : Store := { domain := s.domain, words := s.words, frozen := s.frozen }

/-- What is done to a store, up to the end or to the first failure. -/
abbrev Change := ExceptT Failure (StateT Store Option)

namespace Change

/-- Fails for a frozen set. -/
def checkOpen : Change Unit := do
  if (← get).frozen then throw (.illegalState .setFrozen)

/-- Fails for a set over another universe. -/
def checkUniverse (other : Store) : Change Unit := do
  let own ← get
  if own.domain ≠ other.domain then throw (.differentUniverses own.domain other.domain)

/-- The place of a character that has to be in the universe. -/
def placeOf (c : Char) : Change Nat := do
  let own ← get
  match own.domain.offset? c with
  | some place => return place
  | none => throw (.outOfUniverse own.domain c)

/-- Sets bits of one word, which has to be there. -/
def setBits (i : Nat) (bits : UInt64) : Change Unit := do
  let word ← (← get).words[i]?
  modify fun own => { own with words := own.words.set i (word ||| bits) }

/-- Sets the bits of `n` places from one place on, one after another. -/
def setPlaces (place : Nat) : (n : Nat) → Change Unit
  | 0 => pure ()
  | n + 1 => do
    setBits (place / 64) ((1 : UInt64) <<< (place % 64).toUInt64)
    setPlaces (place + 1) n

/-- Sets the bits of some words in the words from word `i` on, one after another, as long as there are any. -/
def setWords (i : Nat) : List UInt64 → Change Unit
  | [] => pure ()
  | bits :: rest => do
    if i < (← get).words.length then
      setBits i bits
      setWords (i + 1) rest

end Change

/-- A change of a set in place. -/
inductive Edit where
  /-- Adds a character. -/
  | add (c : Char)
  /-- Adds the characters between two, which may come in either order. -/
  | addRange (a b : Char)
  /-- Adds every member of another set. -/
  | addSet (other : CharSet)

namespace Edit

/-- Adds the characters between two. -/
def addingRange (a b : Char) : Change Unit := do
  Change.checkOpen
  let (lo, hi) := if a ≤ b then (a, b) else (b, a)
  let lo ← Change.placeOf lo
  let hi ← Change.placeOf hi
  Change.setPlaces lo (hi + 1 - lo)

/-- What an edit does. -/
def change : Edit → Change Unit
  | add c => addingRange c c
  | addRange a b => addingRange a b
  | addSet other => do
    Change.checkOpen
    Change.checkUniverse other.store
    Change.setWords 0 other.words

/-- What an edit comes to: how it ends, and the store after it. -/
def run (edit : Edit) (own : Store) : Option (Except Failure Unit × Store) := (edit.change).run.run own

/-- The store after a series of edits, of which some may fail. -/
def runAll : List Edit → Store → Option Store
  | [], own => some own
  | edit :: rest, own => do runAll rest (← edit.run own).2

end Edit

end PatternForge.CharSet
