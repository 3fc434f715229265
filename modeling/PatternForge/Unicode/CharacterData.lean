import PatternForge.Unicode.CaseOrbit
import PatternForge.Unicode.Property

/-!
What reading a pattern has to know about characters, gathered in one value so that the reader itself
depends on no table. `CharacterData.standard` is the character database.
-/
namespace PatternForge

/-- Facts about characters on which the meaning of a pattern depends. -/
structure CharacterData where
  /-- The characters that differ in case only, the character itself included. -/
  variants : Char → List Char
  /-- Decimal digits. -/
  digit : Char → Bool
  /-- White space. -/
  space : Char → Bool
  /-- Characters that make up words. -/
  word : Char → Bool
  /-- Letters, and characters used like letters. -/
  alphabetic : Char → Bool
  /-- Numbers of every kind. -/
  numeric : Char → Bool
  /-- The characters of a named property, widened by case variants if the flag is set. -/
  property : Bool → String → Option (Char → Bool)
  /-- Whether a named property excludes every character, for which it has no answer above. -/
  excludesAll : String → Bool

namespace CharacterData

open Unicode in
/-- Whether a character makes up words: letters, marks, digits, connectors and joiners. -/
def isWord (c : Char) : Bool :=
  BinaryProperty.alphabetic c || (GeneralCategory.ofChar c).isMark ||
    GeneralCategory.ofChar c = .Nd || GeneralCategory.ofChar c = .Pc ||
    BinaryProperty.joinControl.holds c

open Unicode in
/-- Whether a character is white space. The seven-bit characters are told without a table. -/
def isSpace (c : Char) : Bool :=
  c = ' ' || ('\t' ≤ c && c ≤ '\r') || (0x7F < c.toNat && BinaryProperty.whiteSpace.holds c)

open Unicode in
/-- Whether a character is a letter or used like one. The seven-bit characters are told without a
table. -/
def isAlphabetic (c : Char) : Bool :=
  ('A' ≤ c && c ≤ 'Z') || ('a' ≤ c && c ≤ 'z') ||
    (0x7F < c.toNat && BinaryProperty.alphabetic c)

open Unicode in
/-- Whether a character is a number of some kind. The seven-bit characters are told without a table. -/
def isNumeric (c : Char) : Bool :=
  ('0' ≤ c && c ≤ '9') || (0x7F < c.toNat && (GeneralCategory.ofChar c).isNumber)

open Unicode in
/-- The character database. -/
def standard : CharacterData where
  variants := CaseOrbit.variants
  digit c := GeneralCategory.ofChar c = .Nd
  space := isSpace
  word := isWord
  alphabetic := isAlphabetic
  numeric := isNumeric
  property ignoringCase := Property.resolve ignoringCase CaseOrbit.variants
  excludesAll := Property.excludesAll

end CharacterData

end PatternForge
