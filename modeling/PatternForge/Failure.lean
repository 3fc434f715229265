import PatternForge.Universe

/-!
Everything that can go wrong, as causes. A parse failure carries the byte offset into the pattern
where the offending construct begins. `Failure.message` is the only place where causes are worded.
-/
namespace PatternForge

/-- The ways in which a pattern can be ill formed. -/
inductive Malformation where
  | tooMuchNesting
  | duplicateGroupName
  | unclosedGroup
  | unclosedGroupQuestion
  | unopenedGroup
  | emptyFlags
  | missingGroupName
  | invalidGroupName
  | unclosedGroupName
  | emptyGroupName
  | repeatedFlagNegation
  | duplicateFlag
  | unfinishedFlags
  | danglingFlagNegation
  | noDecimalDigits
  | invalidDecimal
  | invalidHexBraceDigit
  | unfinishedHexBrace
  | emptyHexBrace
  | invalidHexBrace
  | unfinishedFixedHex
  | invalidFixedHexDigit
  | invalidFixedHex
  | unfinishedHex
  | unfinishedEscape
  | unknownEscape
  | unfinishedProperty
  | unclosedProperty
  | nothingToRepeat
  | nothingToRepeatCounted
  | unclosedCount
  | unclosedCountMinimum
  | unclosedCountComma
  | unclosedCountMaximum
  | invalidCount
  | reversedCount
  | classUnclosedAfterItem
  | classRangeNotCharacter
  | classInvalidItem
  | classUnclosedAfterDash
  | classUnclosedAfterNegation
  | classUnclosedAfterBracket
  | classReversedRange
  | classUnclosed
  deriving DecidableEq, Repr

/-- What is wrong with the pattern, in words. -/
def Malformation.message : Malformation → String
  | tooMuchNesting => "pattern has too much nesting"
  | duplicateGroupName => "duplicate capture group name"
  | unclosedGroup => "found open group without closing ')'"
  | unclosedGroupQuestion => "expected closing ')', but got end of pattern"
  | unopenedGroup => "found closing ')' without matching '('"
  | emptyFlags => "empty flag directive '(?)' is not allowed"
  | missingGroupName => "expected capture group name, but got end of pattern"
  | invalidGroupName => "invalid group name"
  | unclosedGroupName => "expected end of capture group name, but got end of pattern"
  | emptyGroupName => "empty capture group names are not allowed"
  | repeatedFlagNegation => "inline flag negation cannot be repeated"
  | duplicateFlag => "duplicate inline flag is not allowed"
  | unfinishedFlags => "expected ':' or ')' to end inline flags, but got end of pattern"
  | danglingFlagNegation => "inline flags cannot end with negation directive"
  | noDecimalDigits => "expected decimal number, but found no digits"
  | invalidDecimal => "got invalid decimal number"
  | invalidHexBraceDigit => "expected hexadecimal number in braces, but got non-hex digit"
  | unfinishedHexBrace =>
    "expected hexadecimal number, but saw end of pattern before closing brace"
  | emptyHexBrace => "expected hexadecimal number in braces, but got no digits"
  | invalidHexBrace => "got invalid hexadecimal number in braces"
  | unfinishedFixedHex =>
    "expected fixed length hexadecimal number, but saw end of pattern first"
  | invalidFixedHexDigit => "expected fixed length hexadecimal number, but got non-hex digit"
  | invalidFixedHex => "got invalid fixed length hexadecimal number"
  | unfinishedHex => "expected hexadecimal number, but saw end of pattern first"
  | unfinishedEscape =>
    "saw start of escape sequence, but saw end of pattern before it finished"
  | unknownEscape => "unrecognized escape sequence"
  | unfinishedProperty => "expected property name after \\p or \\P, but got end of pattern"
  | unclosedProperty => "expected '\x7d' to end property name, but got end of pattern"
  | nothingToRepeat => "uncounted repetition operator must be applied to a sub-expression"
  | nothingToRepeatCounted => "counted repetition operator must be applied to a sub-expression"
  | unclosedCount => "found unclosed counted repetition operator"
  | unclosedCountMinimum => "found incomplete and unclosed counted repetition operator"
  | unclosedCountComma => "found counted repetition operator with a comma that is unclosed"
  | unclosedCountMaximum => "found counted repetition with min and max that is unclosed"
  | invalidCount => "expected closing brace for counted repetition, but got something else"
  | reversedCount => "found counted repetition with a min bigger than its max"
  | classUnclosedAfterItem => "non-empty character class has no closing bracket"
  | classRangeNotCharacter =>
    "character class ranges must start and end with a single character"
  | classInvalidItem => "invalid escape sequence in character class"
  | classUnclosedAfterDash => "non-empty character class has no closing bracket after dash"
  | classUnclosedAfterNegation => "negated character class has no closing bracket"
  | classUnclosedAfterBracket =>
    "character class begins with literal ']' but has no closing bracket"
  | classReversedRange => "invalid range in character class"
  | classUnclosed => "found unclosed character class"

/-- Operations that the state of their operand forbids. -/
inductive Misuse where
  | universeReversed
  | universeBroken
  | setFrozen
  | emptyClass
  | emptyAlternation
  | memberOutOfRange
  | confoundedSampling
  deriving DecidableEq, Repr

/-- What was attempted, in words. -/
def Misuse.message : Misuse → String
  | universeReversed => "universe start must not exceed its end"
  | universeBroken => "universe must not span the surrogate range"
  | setFrozen => "character set is frozen"
  | emptyClass => "cannot draw from an empty character class"
  | emptyAlternation => "cannot choose from an empty alternation"
  | memberOutOfRange => "class member out of range"
  | confoundedSampling => "sampling policy must be checked against an unconfounded pattern"

/-- Why the matcher has no answer. -/
inductive MatcherFault where
  /-- Neither engine accepts the pattern. -/
  | rejected
  /-- The search took more steps back than it is allowed. -/
  | gaveUp
  deriving DecidableEq, Repr

/-- The fault, in words. -/
def MatcherFault.message : MatcherFault → String
  | rejected => "pattern is not accepted"
  | gaveUp => "search takes too many steps"

/-- The failures of parsing, generating, matching and set algebra. -/
inductive Failure where
  /-- The pattern is ill formed at a byte offset. -/
  | malformed (position : Nat) (reason : Malformation)
  /-- The pattern uses a construct for which no strings are generated. -/
  | unsupported (position : Nat) (token : String)
  /-- A reference to a group that is not closed by then. -/
  | danglingReference (position index : Nat)
  /-- Two sets over different universes met. -/
  | differentUniverses (expected found : Universe)
  /-- A character was put into a set that cannot hold it. -/
  | outOfUniverse (domain : Universe) (char : Char)
  /-- An operation that the state of its operand forbids. -/
  | illegalState (misuse : Misuse)
  /-- A reference was reached before its group had produced any text. -/
  | unboundReference (index : Nat)
  /-- The matcher has no answer. -/
  | matcher (fault : MatcherFault)
  deriving DecidableEq

namespace Failure

/-- The wording of a failure. -/
def message : Failure → String
  | malformed position reason => s!"malformed pattern at offset {position}: {reason.message}"
  | unsupported position token => s!"unsupported construct '{token}' at offset {position}"
  | danglingReference position index =>
    s!"backreference \\{index} at offset {position} does not refer to a preceding closed " ++
      "capture group"
  | differentUniverses expected found =>
    s!"character set universe mismatch: expected {expected.display}, found {found.display}"
  | outOfUniverse domain char =>
    s!"character {Text.Shown.quoted char} is outside of {domain.display}"
  | illegalState misuse => s!"illegal state: {misuse.message}"
  | unboundReference index => s!"backreference \\{index} evaluated before its group was bound"
  | matcher fault => s!"host regex engine error: {fault.message}"

/-- The byte offset into the pattern, for the failures that only parsing gives. -/
def position? : Failure → Option Nat
  | malformed position _ | unsupported position _ | danglingReference position _ => some position
  | _ => none

/-- Whether the failure comes from parsing a pattern. -/
def isParseFailure (failure : Failure) : Bool := failure.position?.isSome

/-- Whether a reference was left unbound, which generation counts as a miss. -/
def isUnbound : Failure → Bool
  | unboundReference _ => true
  | _ => false

end Failure

/-- The universe between two characters. -/
def Universe.between (first last : Char) : Except Failure Universe :=
  if ordered : first.toNat ≤ last.toNat then
    if unbroken : 0xD800 ≤ first.toNat ∨ last.toNat ≤ 0xDFFF then
      .ok { first, last, ordered, unbroken }
    else .error (.illegalState .universeBroken)
  else .error (.illegalState .universeReversed)

end PatternForge
