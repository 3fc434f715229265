import PatternForge.Text.Shown

/-!
The characters a pattern may talk about: an unbroken range of code points that does not reach over
the surrogates, so that every number in it is a character. `Universe.charAt` and `Universe.offset?`
number its characters from zero and are inverse to each other.
-/
namespace PatternForge

/-- An unbroken range of characters. -/
structure Universe where
  /-- The smallest character. -/
  first : Char
  /-- The largest character. -/
  last : Char
  /-- The range is not empty. -/
  ordered : first.toNat ≤ last.toNat := by decide
  /-- The range lies on one side of the surrogates. -/
  unbroken : 0xD800 ≤ first.toNat ∨ last.toNat ≤ 0xDFFF := by decide
  deriving DecidableEq

namespace Universe

/-- The seven-bit characters. -/
def ascii : Universe := { first := '\x00', last := '\x7f' }

/-- The eight-bit characters. -/
def latin1 : Universe := { first := '\x00', last := '\u00ff' }

/-- Every character before the surrogates. -/
def bmp : Universe := { first := '\x00', last := '\ud7ff' }

instance : Inhabited Universe := ⟨ascii⟩

/-- The number of characters. -/
def size (u : Universe) : Nat := u.last.toNat - u.first.toNat + 1

/-- Whether a character lies in the range. -/
def contains (u : Universe) (c : Char) : Bool :=
  u.first.toNat ≤ c.toNat && c.toNat ≤ u.last.toNat

theorem contains_iff {u : Universe} {c : Char} :
    u.contains c = true ↔ u.first.toNat ≤ c.toNat ∧ c.toNat ≤ u.last.toNat := by
  simp [contains]

theorem sub_lt_size {u : Universe} {c : Char} (inside : u.contains c = true) :
    c.toNat - u.first.toNat < u.size := by
  have bounds := contains_iff.mp inside
  unfold size
  omega

/-- The place of a character, counted from the first. -/
def offset? (u : Universe) (c : Char) : Option (Fin u.size) :=
  if inside : u.contains c = true then some ⟨c.toNat - u.first.toNat, sub_lt_size inside⟩ else none

/-- The character at a place. -/
def charAt (u : Universe) (place : Nat) : Char := Char.ofNat (u.first.toNat + place)

/-- Both ends by their codes, four digits at least. -/
def display (u : Universe) : String :=
  String.ofList (['U', '+'] ++ Text.hexCapital u.first.toNat 4 ++ ['.', '.', '=', 'U', '+'] ++
    Text.hexCapital u.last.toNat 4)

end Universe

end PatternForge
