import PatternForge.Text.Utf8
import PatternForge.Unicode.BinaryProperty

/-!
How characters are shown. `Shown.chars` is the form used inside printed patterns and sets, where
only invisible characters are escaped. `Shown.quoted` and `Shown.quotedBytes` are the forms used in
messages, with quotes around them. Numbers in hexadecimal come from `hexCapital` and `hexSmall`.
-/
namespace PatternForge.Text

/-- The hexadecimal digits of a number, capital letters, at least `width` of them. -/
def hexCapital (n width : Nat) : List Char :=
  let digits := (Nat.toDigits 16 n).map Char.toUpper
  List.replicate (width - digits.length) '0' ++ digits

/-- The hexadecimal digits of a number, small letters. -/
def hexSmall (n : Nat) : List Char := Nat.toDigits 16 n

/-- The decimal digits of a number. -/
def decimal (n : Nat) : List Char := Nat.toDigits 10 n

/-- Control characters: below the space, and from DEL to the end of the second control block. -/
def isControl (c : Char) : Bool := c.toNat < 0x20 || (0x7F ≤ c.toNat && c.toNat ≤ 0x9F)

namespace Shown

/-- A character as it stands in a printed set or pattern: itself unless it is a control character,
which is written by its code. -/
def chars (c : Char) : List Char :=
  if !isControl c then [c]
  else ['\\', 'x'] ++ hexCapital c.toNat 2

/-- Whether a character is visible by itself in a message. The space is, other separators are not.
-/
def printable (c : Char) : Bool :=
  c = ' ' || !(Unicode.GeneralCategory.ofChar c ∈ [.Cc, .Cf, .Co, .Cn, .Zl, .Zp, .Zs])

/-- A character as it stands between quotes. Marks that would join the character before them are
written by their code, like everything invisible. -/
def escaped (c : Char) : String :=
  match c with
  | '\x00' => "\\0"
  | '\t' => "\\t"
  | '\r' => "\\r"
  | '\n' => "\\n"
  | '\'' => "\\'"
  | '\\' => "\\\\"
  | _ =>
    if Unicode.BinaryProperty.graphemeExtend c || !printable c then
      "\\u\x7b" ++ String.ofList (hexSmall c.toNat) ++ "\x7d"
    else c.toString

/-- A character between single quotes. -/
def quoted (c : Char) : String := "'" ++ escaped c ++ "'"

/-- A piece of text as it stands between double quotes. Bytes that are no text are written by their
codes. -/
def quotedPiece : Utf8.Piece → String
  | .char '"' => "\\\""
  | .char c => escaped c
  | .broken bytes =>
    String.join (bytes.map fun b => "\\x" ++ String.ofList (hexCapital b.toNat 2))

/-- Bytes between double quotes. -/
def quotedBytes (bytes : List UInt8) : String :=
  "\"" ++ String.join ((Utf8.pieces bytes).map quotedPiece) ++ "\""

end Shown

end PatternForge.Text
