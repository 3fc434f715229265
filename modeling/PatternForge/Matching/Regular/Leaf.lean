import PatternForge.Matching.Mode
import PatternForge.Reading.Escape
import PatternForge.Reading.ClassSet

/-!
The leaves of the finite engine's notation that start with a backslash: characters, classes of Perl,
property classes and conditions. Reading answers with nothing where the engine refuses the text.
-/
namespace PatternForge.Regular

/-- A leaf. -/
inductive Leaf where
  /-- A character; `asByte` tells whether it was written as two hexadecimal digits. -/
  | char (c : Char) (asByte : Bool)
  /-- One character of a class. -/
  | oneOf (allowed : Char → Bool)
  /-- A condition on the place. -/
  | look (holds : Place → Bool)

/-- The places after blanks and comments: how many characters they take from the start of a text. -/
def blankLength (space : Char → Bool) : (inComment : Bool) → List Char → Nat
  | _, [] => 0
  | true, c :: rest => 1 + blankLength space (c ≠ '\n') rest
  | false, c :: rest =>
    if space c then 1 + blankLength space false rest
    else if c = '#' then 1 + blankLength space true rest
    else 0

/-- The place after blanks and comments, in a mode in which they stand for nothing. -/
def skipBlanks (data : CharacterData) (mode : Mode) (here : Cursor) : Cursor :=
  if mode.spaced then here.skipMany (blankLength data.space false here.rest) else here

/-- The place behind the next character and the blanks and comments after it. -/
def next (data : CharacterData) (mode : Mode) (here : Cursor) : Cursor :=
  skipBlanks data mode here.skip

/-- The characters from here on that satisfy a condition, with blanks and comments between them, and
the place after them. -/
def spelled (data : CharacterData) (mode : Mode) (holds : Char → Bool) (here : Cursor) :
    List Char × Cursor :=
  match here.rest with
  | [] => ([], here)
  | c :: _ =>
    let after := next data mode here
    if holds c then
      if after.rest.length < here.rest.length then
        let (more, stop) := spelled data mode holds after
        (c :: more, stop)
      else ([c], after)
    else ([], here)
termination_by here.rest.length

/-- What stands between braces, and the place after them. The cursor is at the opening brace. -/
def braced? (data : CharacterData) (mode : Mode) (here : Cursor) : Option (List Char × Cursor) :=
  let (text, stop) := spelled data mode (· ≠ '\x7d') (next data mode here)
  if stop.atEnd then none else some (text, stop.skip)

/-- A class or its negation. Where classes are those of ASCII, a negation is refused, since it would
allow parts of characters. -/
def negatable (mode : Mode) (negated : Bool) (allowed : Char → Bool) : Option (Char → Bool) :=
  if !negated then some allowed
  else if mode.allCharacters then some fun c => !allowed c
  else none

/-- A class of Perl by its letter. -/
def perlClass? (data : CharacterData) (mode : Mode) (c : Char) : Option (Option (Char → Bool)) :=
  match c with
  | 'd' => some (some (mode.digit data))
  | 's' => some (some (mode.space data))
  | 'w' => some (some (mode.word data))
  | 'D' => some (negatable mode true (mode.digit data))
  | 'S' => some (negatable mode true (mode.space data))
  | 'W' => some (negatable mode true (mode.word data))
  | _ => none

/-- The name of a property and the place after it. The cursor is at the `p` or `P`. -/
def propertyName? (data : CharacterData) (mode : Mode) (here : Cursor) :
    Option (List Char × Cursor) :=
  let start := next data mode here
  match start.rest with
  | [] => none
  | '\x7b' :: _ => braced? data mode start
  | c :: _ => some ([c], start.skip)

/-- A property class. The cursor is at the `p` or `P`. -/
def property (data : CharacterData) (mode : Mode) (negated : Bool) (here : Cursor) :
    Option (Leaf × Cursor) := do
  let (text, after) ← propertyName? data mode here
  if !mode.allCharacters then none
  let name := String.ofList text
  let allowed ←
    if data.excludesAll name then some fun _ => false else data.property mode.ignoreCase name
  return (.oneOf fun c => negated != allowed c, after)

/-- So many hexadecimal digits, with blanks and comments between them, and the place after them. -/
def hexDigits? (data : CharacterData) (mode : Mode) : Nat → Cursor → Option (List Char × Cursor)
  | 0, here => some ([], here)
  | count + 1, here =>
    match here.rest with
    | c :: _ =>
      if Escape.isHexDigit c then
        (hexDigits? data mode count (next data mode here)).map fun found =>
          (c :: found.1, found.2)
      else none
    | [] => none

/-- A character by its number. The cursor is at the letter that announces it. -/
def hex (data : CharacterData) (mode : Mode) (here : Cursor) (count : Nat) :
    Option (Leaf × Cursor) := do
  let start := next data mode here
  if start.rest.head? = some '\x7b' then
    let (digits, after) ← braced? data mode start
    if digits.isEmpty || !digits.all Escape.isHexDigit then none
    let c ← Escape.charOfHex? digits
    return (.char c false, after)
  else
    let (digits, after) ← hexDigits? data mode count start
    let c ← Escape.charOfHex? digits
    return (.char c (count = 2), after)

/-- The word conditions with a name in braces. -/
def namedEdge? (word : Char → Bool) (name : String) : Option (Place → Bool) :=
  match name with
  | "start" => some (Place.startsWord word)
  | "end" => some (Place.endsWord word)
  | "start-half" => some fun place => !place.before.any word
  | "end-half" => some fun place => !place.after.any word
  | _ => none

/-- Whether a character may stand in the name of a word condition. -/
def isEdgeNameChar (c : Char) : Bool := Mode.isAsciiLetter c || c = '-'

/-- A word condition after its letter `b`: the name in braces if one begins here, and otherwise the
plain condition, which leaves the braces to a count. -/
def wordEdge (data : CharacterData) (mode : Mode) (here : Cursor) : Option (Leaf × Cursor) :=
  let word := mode.word data
  if here.rest.head? ≠ some '\x7b' then some (.look (Place.isWordEdge word), here)
  else
    let inside := next data mode here
    let (name, stop) := spelled data mode isEdgeNameChar inside
    if inside.atEnd then none
    else if name.isEmpty then some (.look (Place.isWordEdge word), here)
    else if stop.rest.head? ≠ some '\x7d' then none
    else (namedEdge? word (String.ofList name)).map fun holds => (.look holds, stop.skip)

/-- An escape sequence of one letter that is no class. The cursor is behind the letter. -/
def single (data : CharacterData) (mode : Mode) (c : Char) (after : Cursor) :
    Option (Leaf × Cursor) :=
  let word := mode.word data
  if Escape.isEscapable c then some (.char c false, after)
  else
    match Escape.controlChar? c with
    | some control => some (.char control false, after)
    | none =>
      match c with
      | 'A' => some (.look Place.startsText, after)
      | 'z' => some (.look Place.endsText, after)
      | 'b' => wordEdge data mode after
      | 'B' => some (.look fun place => !place.isWordEdge word, after)
      | '<' => some (.look (Place.startsWord word), after)
      | '>' => some (.look (Place.endsWord word), after)
      | _ => none

/-- Reads an escape sequence. The cursor is behind the backslash. -/
def escape (data : CharacterData) (mode : Mode) (here : Cursor) : Option (Leaf × Cursor) :=
  match here.rest with
  | [] => none
  | c :: _ =>
    match c, perlClass? data mode c with
    | _, some allowed => allowed.map fun allowed => (.oneOf allowed, here.skip)
    | 'p', _ => property data mode false here
    | 'P', _ => property data mode true here
    | 'x', _ => hex data mode here 2
    | 'u', _ => hex data mode here 4
    | 'U', _ => hex data mode here 8
    | _, _ => single data mode c here.skip

/-- The character of a leaf outside a class. Where classes are those of ASCII, a byte beyond ASCII
is refused, since it is only a part of a character. -/
def charOutside? (mode : Mode) (c : Char) (asByte : Bool) : Option Char :=
  if asByte && !mode.allCharacters && 0x7F < c.toNat then none else some c

/-- A leaf as an expression. -/
def Leaf.expression? (data : CharacterData) (mode : Mode) (leaf : Leaf) : Option Expression :=
  match leaf with
  | .char c asByte => (charOutside? mode c asByte).map fun c => .one (mode.char data c)
  | .oneOf allowed => some (.one { allows := allowed })
  | .look holds => some (.look holds)

end PatternForge.Regular
