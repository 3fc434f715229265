import PatternForge.Matching.Expression
import PatternForge.Unicode.CharacterData

/-!
What the leaves of an expression mean under the flags in force: characters, dots, classes of Perl,
line and word conditions. The notations of both engines share these meanings.
-/
namespace PatternForge

/-- The flags under which the notation of an engine is read. -/
structure Mode where
  /-- Letters stand for all their cases. -/
  ignoreCase : Bool := false
  /-- The line anchors hold at every line. -/
  multiLine : Bool := false
  /-- The dot stands for line terminators too. -/
  dotNewLine : Bool := false
  /-- Plain repetitions are lazy and marked ones greedy. -/
  swapGreed : Bool := false
  /-- Lines end in a carriage return, a line feed or both. -/
  returnEndsLine : Bool := false
  /-- Classes and case are those of all characters, not of ASCII alone. -/
  allCharacters : Bool := true
  /-- Blanks and comments stand for nothing. -/
  spaced : Bool := false
  deriving DecidableEq, Repr

namespace Mode

/-- Whether a character is an ASCII letter. -/
def isAsciiLetter (c : Char) : Bool := ('a' ≤ c && c ≤ 'z') || ('A' ≤ c && c ≤ 'Z')

/-- The characters that differ from a given one in case only. -/
def cases (mode : Mode) (data : CharacterData) (c : Char) : List Char :=
  if mode.allCharacters then data.variants c
  else if isAsciiLetter c then [c.toLower, c.toUpper]
  else [c]

/-- A set of characters, widened by their cases where case is ignored. -/
def widened (mode : Mode) (data : CharacterData) (allowed : Char → Bool) : Char → Bool :=
  if mode.ignoreCase then fun c => (mode.cases data c).any allowed else allowed

/-- A character that stands for itself. -/
def char (mode : Mode) (data : CharacterData) (c : Char) : CharTest where
  allows := mode.widened data (· == c)
  listed := some (if mode.ignoreCase then mode.cases data c else [c])

/-- The characters that the dot stands for. -/
def dot (mode : Mode) : Char → Bool :=
  if mode.dotNewLine then fun _ => true
  else if mode.returnEndsLine then fun c => c ≠ '\n' && c ≠ '\r'
  else fun c => c ≠ '\n'

/-- Decimal digits. -/
def digit (mode : Mode) (data : CharacterData) : Char → Bool :=
  if mode.allCharacters then data.digit else Char.isDigit

/-- White space. -/
def space (mode : Mode) (data : CharacterData) : Char → Bool :=
  if mode.allCharacters then data.space else fun c => c = ' ' || ('\t' ≤ c && c ≤ '\r')

/-- Characters that make up words. -/
def word (mode : Mode) (data : CharacterData) : Char → Bool :=
  if mode.allCharacters then data.word else fun c => c.isAlphanum || c = '_'

/-- The condition of a line start, or of the text start. -/
def lineStart (mode : Mode) (place : Place) : Bool :=
  match place.before with
  | none => true
  | some c =>
    mode.multiLine &&
      if mode.returnEndsLine then c = '\n' || (c = '\r' && place.after ≠ some '\n') else c = '\n'

/-- The condition of a line end, or of the text end. -/
def lineEnd (mode : Mode) (place : Place) : Bool :=
  match place.after with
  | none => true
  | some c =>
    mode.multiLine &&
      if mode.returnEndsLine then c = '\r' || (c = '\n' && place.before ≠ some '\r') else c = '\n'

end Mode

namespace Place

/-- Whether the text starts here. -/
def startsText (place : Place) : Bool := place.before.isNone

/-- Whether the text ends here. -/
def endsText (place : Place) : Bool := place.after.isNone

/-- Whether exactly one side of the place is inside a word. -/
def isWordEdge (word : Char → Bool) (place : Place) : Bool :=
  place.before.any word != place.after.any word

/-- Whether a word starts here. -/
def startsWord (word : Char → Bool) (place : Place) : Bool :=
  !place.before.any word && place.after.any word

/-- Whether a word ends here. -/
def endsWord (word : Char → Bool) (place : Place) : Bool :=
  place.before.any word && !place.after.any word

end Place

end PatternForge
