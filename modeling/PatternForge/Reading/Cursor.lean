/-!
A place in a pattern: the bytes before it and the characters from there on. Reading only ever moves
a cursor forward; `Cursor.Reaches` says so, and `Reaches.length_le` turns it into the measure by
which every loop of the reader ends.
-/
namespace PatternForge

/-- A place in a pattern. -/
structure Cursor where
  /-- The number of bytes before the place. -/
  offset : Nat
  /-- The characters after the place. -/
  rest : List Char
  deriving DecidableEq, Repr

namespace Cursor

/-- The start of a text. -/
def ofText (text : List Char) : Cursor := ⟨0, text⟩

/-- Whether nothing is left. -/
def atEnd (c : Cursor) : Bool := c.rest.isEmpty

/-- The place after the next character, if there is one. -/
def skip (c : Cursor) : Cursor :=
  match c.rest with
  | [] => c
  | x :: rest => ⟨c.offset + x.utf8Size, rest⟩

/-- The place after the next `n` characters. -/
def skipMany (c : Cursor) : Nat → Cursor
  | 0 => c
  | n + 1 => c.skip.skipMany n

/-- The place after the characters from here on that satisfy a condition. -/
def skipWhile (holds : Char → Bool) (c : Cursor) : Cursor :=
  c.skipMany (c.rest.takeWhile holds).length

/-- The characters between two places. -/
def charsTo (a b : Cursor) : List Char := a.rest.take (a.rest.length - b.rest.length)

/-- The text between two places. -/
def textTo (a b : Cursor) : String := String.ofList (a.charsTo b)

/-- The place after a text that comes next. -/
def afterText? (c : Cursor) (text : List Char) : Option Cursor :=
  if text.isPrefixOf c.rest then some (c.skipMany text.length) else none

/-- One place is at or after another, in the same text. -/
def Reaches (a b : Cursor) : Prop := ∃ n, b = a.skipMany n

theorem Reaches.refl (a : Cursor) : a.Reaches a := ⟨0, rfl⟩

theorem skipMany_add (a : Cursor) (m n : Nat) : a.skipMany (m + n) = (a.skipMany m).skipMany n := by
  induction m generalizing a with
  | zero => simp [skipMany]
  | succ m ih => rw [Nat.succ_add]; exact ih a.skip

theorem Reaches.trans {a b c : Cursor} (first : a.Reaches b) (second : b.Reaches c) :
    a.Reaches c := by
  obtain ⟨m, rfl⟩ := first
  obtain ⟨n, rfl⟩ := second
  exact ⟨m + n, (skipMany_add a m n).symm⟩

theorem reaches_skip (a : Cursor) : a.Reaches a.skip := ⟨1, rfl⟩

theorem reaches_skipMany (a : Cursor) (n : Nat) : a.Reaches (a.skipMany n) := ⟨n, rfl⟩

theorem reaches_skipWhile (holds : Char → Bool) (a : Cursor) : a.Reaches (a.skipWhile holds) :=
  ⟨_, rfl⟩

theorem reaches_afterText {a b : Cursor} {text : List Char} (found : a.afterText? text = some b) :
    a.Reaches b := by
  unfold afterText? at found
  split at found
  · cases found; exact ⟨_, rfl⟩
  · cases found

theorem length_skip_le (a : Cursor) : a.skip.rest.length ≤ a.rest.length := by
  unfold skip
  split <;> simp_all

theorem length_skip_lt {a : Cursor} {x : Char} {rest : List Char} (next : a.rest = x :: rest) :
    a.skip.rest.length < a.rest.length := by
  simp [skip, next]

theorem Reaches.length_le {a b : Cursor} (reaches : a.Reaches b) :
    b.rest.length ≤ a.rest.length := by
  obtain ⟨n, rfl⟩ := reaches
  induction n generalizing a with
  | zero => exact Nat.le_refl _
  | succ n ih => exact Nat.le_trans (ih (a := a.skip)) (length_skip_le a)

/-- A step past the next character and on is a step forward. -/
theorem Reaches.length_lt {a b : Cursor} {x : Char} {rest : List Char} (next : a.rest = x :: rest)
    (reaches : a.skip.Reaches b) : b.rest.length < a.rest.length :=
  Nat.lt_of_le_of_lt reaches.length_le (length_skip_lt next)

end Cursor

end PatternForge
