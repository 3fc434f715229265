/-!
The texts of numbered groups while a match is under way: for every group the places where it started
and ended last. A group whose start is kept has been entered; only one whose end is kept too has a
text.
-/
namespace PatternForge

/-- Where groups started and ended last. -/
structure Captures where
  /-- The starts, by the numbers of the groups. -/
  starts : List (Nat × Nat) := []
  /-- The ends, by the numbers of the groups. -/
  ends : List (Nat × Nat) := []
  deriving DecidableEq, Repr

/-- Keeps a place under a number, instead of the one that was kept there before. -/
def keepPlace (kept : List (Nat × Nat)) (number place : Nat) : List (Nat × Nat) :=
  (number, place) :: kept.filter (·.1 ≠ number)

namespace Captures

/-- A group starts. -/
def enter (captures : Captures) (index place : Nat) : Captures :=
  { captures with starts := keepPlace captures.starts index place }

/-- A group ends. -/
def leave (captures : Captures) (index place : Nat) : Captures :=
  { captures with ends := keepPlace captures.ends index place }

/-- Nothing is known any more about some groups. -/
def forget (captures : Captures) (indexes : List Nat) : Captures where
  starts := captures.starts.filter fun kept => !indexes.contains kept.1
  ends := captures.ends.filter fun kept => !indexes.contains kept.1

/-- Whether a group has been entered. -/
def hasEntered (captures : Captures) (index : Nat) : Bool :=
  (captures.starts.lookup index).isSome

/-- The text of a group, if it has started and ended. -/
def text? (captures : Captures) (text : Array Char) (index : Nat) : Option (Array Char) :=
  match captures.starts.lookup index, captures.ends.lookup index with
  | some start, some stop => some (text.extract start stop)
  | _, _ => none

end Captures

end PatternForge
