import PatternForge.Pattern
import PatternForge.Reading.Cursor
import PatternForge.Unicode.CharacterData

/-!
What a pattern is read under: the universe of its classes, the limit on nesting, the flags and the
facts about characters. `Settings.charPattern` and `Settings.classPattern` build the leaves.
-/
namespace PatternForge

/-- Flags that change how the rest of a pattern is read. -/
structure Flags where
  /-- Letters stand for all their cases. -/
  ignoreCase : Bool := false
  /-- Anchors hold at line ends too; kept only because the flag is accepted. -/
  multiLine : Bool := false
  /-- The dot stands for a line feed too. -/
  dotNewLine : Bool := false
  /-- Plain repetitions are lazy and marked ones greedy. -/
  swapGreed : Bool := false
  deriving DecidableEq, Repr, Inhabited

/-- How a pattern is read. -/
structure Settings where
  /-- The characters that classes range over. -/
  domain : Universe := .ascii
  /-- How deep a pattern may nest. -/
  nestLimit : Nat := 50
  /-- The flags at the start of the pattern. -/
  flags : Flags := {}
  /-- Facts about characters. -/
  data : CharacterData := .standard

/-- A set with a character added, unless it is outside the universe. -/
def CharSet.withKnown (set : CharSet) (c : Char) : CharSet :=
  match set.domain.offset? c with
  | some place => set.withPlaces place place
  | none => set

namespace Settings

/-- The given characters, as far as they are in the universe. -/
def setOf (s : Settings) (chars : List Char) : CharSet :=
  chars.foldl CharSet.withKnown (CharSet.empty s.domain)

/-- A set widened by the case variants of its members. -/
def foldCase (s : Settings) (set : CharSet) : CharSet :=
  .ofPredicate s.domain fun c => (s.data.variants c).any set.contains

/-- A single character. Where case is ignored and the character has another case in the universe, it
becomes the class of its cases. -/
def charPattern (s : Settings) (flags : Flags) (c : Char) : Pattern :=
  if flags.ignoreCase then
    let cases := s.setOf (s.data.variants c)
    if 1 < cases.size then .oneOf (.of cases false) else .literal c.toString
  else .literal c.toString

/-- The class for the dot, written as the negation of what it excludes. -/
def dotPattern (s : Settings) (flags : Flags) : Pattern :=
  .oneOf (.of (if flags.dotNewLine then .empty s.domain else s.setOf ['\n']) true)

/-- A class, unless it allows nothing; then the text of the construct is not supported. -/
def classPattern (start after : Cursor) (set : CharSet) (negated : Bool) :
    Except Failure Pattern :=
  let cls := CharClass.of set negated
  if cls.effective.isEmpty then .error (.unsupported start.offset (start.textTo after))
  else .ok (.oneOf cls)

end Settings

end PatternForge
