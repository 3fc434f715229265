import PatternForge.CharSet.Word
import PatternForge.Failure

/-!
Sets of characters over a universe, one bit per character in words of 64 bits. A set is either being
built or frozen; only a set being built can be changed in place, and every set that algebra returns
is frozen. `CharSet.contains` is the view through which all other operations are understood;
`CharSet.members` lists the same characters in ascending order.
-/
namespace PatternForge

/-- A set of characters of a universe. -/
structure CharSet where
  /-- The characters that may be members. -/
  domain : Universe
  /-- The bit of the character at place `n` is bit `n % 64` of word `n / 64`. -/
  words : List UInt64
  /-- Whether changing the set in place is over. -/
  frozen : Bool
  /-- There is a bit for each character. -/
  width : words.length = domain.wordCount
  /-- No bit is set past the end of the universe. -/
  bounded : ∀ place, domain.size ≤ place → bitAt words place = false

namespace CharSet

/-- Two sets are equal when they have the same universe and members; being frozen is a stage of
their life and not part of their value. -/
instance : BEq CharSet where
  beq a b := a.domain = b.domain && a.words == b.words

/-- The frozen set of the characters that satisfy a condition. -/
def ofPredicate (u : Universe) (holds : Char → Bool) : CharSet where
  domain := u
  words := (List.range u.wordCount).map fun i =>
    wordOf fun j => 64 * i + j < u.size && holds (u.charAt (64 * i + j))
  frozen := true
  width := by simp
  bounded place past := by
    rw [bitAt_map_wordOf u.wordCount fun place => place < u.size && holds (u.charAt place),
      decide_eq_false (Nat.not_lt.mpr past), Bool.false_and, Bool.and_false]

/-- The frozen set without members. -/
def empty (u : Universe) : CharSet where
  domain := u
  words := List.replicate u.wordCount 0
  frozen := true
  width := by simp
  bounded place _ := bitAt_replicate_zero _ place

/-- The empty set, to be filled. -/
def builder (u : Universe) : CharSet := { empty u with frozen := false }

/-- The set, closed to further changes. -/
def freeze (s : CharSet) : CharSet := { s with frozen := true }

/-- Whether a character is a member. Characters outside the universe never are. -/
def contains (s : CharSet) (c : Char) : Bool :=
  match s.domain.offset? c with
  | some place => bitAt s.words place
  | none => false

/-- Every character of the universe that is not a member. -/
def complement (s : CharSet) : CharSet where
  domain := s.domain
  words := trimmed s.domain (s.words.map (~~~ ·))
  frozen := true
  width := by simp [s.width]
  bounded place past := by
    rw [bitAt_trimmed (by simp [s.width]), decide_eq_false (Nat.not_lt.mpr past), Bool.false_and]

/-- The frozen set of every character. -/
def full (u : Universe) : CharSet := (empty u).complement

/-- Fails for a frozen set. -/
def checkOpen (s : CharSet) : Except Failure Unit :=
  if s.frozen then .error (.illegalState .setFrozen) else .ok ()

/-- Fails for sets over different universes. -/
def checkUniverse (s t : CharSet) : Except Failure Unit :=
  if s.domain = t.domain then .ok () else .error (.differentUniverses s.domain t.domain)

/-- The place of a character that has to be in the universe. -/
def placeOf (s : CharSet) (c : Char) : Except Failure (Fin s.domain.size) :=
  match s.domain.offset? c with
  | some place => .ok place
  | none => .error (.outOfUniverse s.domain c)

/-- Sets the bits from place `lo` to place `hi`. -/
def withPlaces (s : CharSet) (lo hi : Fin s.domain.size) : CharSet :=
  { s with
    words := filled lo hi s.words
    width := by simp [s.width]
    bounded := fun place past => by
      have later : ¬place ≤ hi.val := Nat.not_le.mpr (Nat.lt_of_lt_of_le hi.isLt past)
      rw [bitAt_filled, s.bounded place past, decide_eq_false later]
      simp }

/-- Adds every character between two, which may come in either order. -/
def insertRange (s : CharSet) (a b : Char) : Except Failure CharSet := do
  s.checkOpen
  let lo ← s.placeOf (if a ≤ b then a else b)
  let hi ← s.placeOf (if a ≤ b then b else a)
  return s.withPlaces lo hi

/-- Adds one character. -/
def insert (s : CharSet) (c : Char) : Except Failure CharSet := s.insertRange c c

/-- Combines two sets over one universe word by word, by an operation that sets no bit by itself. -/
def combine (op : UInt64 → UInt64 → UInt64)
    (clean : ∀ v w j, j < 64 → bitOf v j = false → bitOf w j = false → bitOf (op v w) j = false)
    (s t : CharSet) : Except Failure CharSet :=
  if same : s.domain = t.domain then
    .ok
      { domain := s.domain
        words := List.zipWith op s.words t.words
        frozen := true
        width := by simp [s.width, t.width, same]
        bounded := fun place past =>
          bitAt_zipWith_eq_false clean (s.bounded place past) (t.bounded place (same ▸ past)) }
  else .error (.differentUniverses s.domain t.domain)

/-- The characters in either set. -/
def union (s t : CharSet) : Except Failure CharSet :=
  combine (· ||| ·) (fun v w j low left right => by simp [bitOf_or v w low, left, right]) s t

/-- The characters in both sets. -/
def intersection (s t : CharSet) : Except Failure CharSet :=
  combine (· &&& ·) (fun v w j low left right => by simp [bitOf_and v w low, left, right]) s t

/-- The characters in the first set but not in the second. -/
def difference (s t : CharSet) : Except Failure CharSet :=
  combine (fun v w => v &&& ~~~ w)
    (fun v w j low left right => by simp [bitOf_and v _ low, left]) s t

/-- Adds every member of another set. -/
def insertAll (s t : CharSet) : Except Failure CharSet := do
  s.checkOpen
  return { (← s.union t) with frozen := false }

/-- Whether two sets have a member in common. -/
def intersects (s t : CharSet) : Except Failure Bool := do
  s.checkUniverse t
  return (List.zipWith (· &&& ·) s.words t.words).any (· ≠ 0)

/-- The frozen set of the characters of a text. -/
def ofChars (u : Universe) (text : List Char) : Except Failure CharSet :=
  freeze <$> text.foldlM insert (builder u)

/-- The frozen set of the characters between two, which may come in either order. -/
def ofRange (u : Universe) (a b : Char) : Except Failure CharSet :=
  freeze <$> (builder u).insertRange a b

/-- The number of members. -/
def size (s : CharSet) : Nat := s.words.foldr (fun word n => bitCount word + n) 0

/-- Whether there are no members. -/
def isEmpty (s : CharSet) : Bool := s.words.all (· = 0)

/-- The members of one word that starts at a place. -/
def membersOfWord (u : Universe) (i : Nat) (word : UInt64) : List Char :=
  (bitsOf word).map fun j => u.charAt (64 * i + j)

/-- The members in ascending order. -/
def members (s : CharSet) : List Char :=
  (s.words.mapIdx (membersOfWord s.domain)).flatten

/-- The place of the member with `n` smaller ones, where word `i` is the next to look at. -/
def nthFrom (i n : Nat) : List UInt64 → Option Nat
  | [] => none
  | word :: rest =>
    let count := bitCount word
    if n < count then ((bitsOf word)[n]?).map (64 * i + ·) else nthFrom (i + 1) (n - count) rest

/-- The member with `n` smaller ones. -/
def nth (s : CharSet) (n : Nat) : Option Char := (nthFrom 0 n s.words).map s.domain.charAt

/-- The smallest member. -/
def first? (s : CharSet) : Option Char := s.nth 0

/-- The largest member. -/
def last? (s : CharSet) : Option Char :=
  match s.size with
  | 0 => none
  | n + 1 => s.nth n

/-- Extends the latest run by a character that follows it, else starts a run. Latest first. -/
def pushRun (runs : List (Char × Char)) (c : Char) : List (Char × Char) :=
  match runs with
  | (lo, hi) :: rest => if hi.toNat + 1 = c.toNat then (lo, c) :: rest else (c, c) :: runs
  | [] => [(c, c)]

/-- The maximal unbroken runs of some ascending characters. -/
def runsOf (chars : List Char) : List (Char × Char) := (chars.foldl pushRun []).reverse

/-- The maximal unbroken runs of members, ascending. -/
def runs (s : CharSet) : List (Char × Char) := runsOf s.members

/-- The members one after another, invisible ones by their codes. -/
def display (s : CharSet) : String := String.ofList (s.members.flatMap Text.Shown.chars)

end CharSet

end PatternForge
