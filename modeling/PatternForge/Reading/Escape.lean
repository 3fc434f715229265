import PatternForge.Pattern.Print
import PatternForge.Reading.Settings

/-!
Escape sequences: references, property classes, characters by number, Perl classes, and the letters
and punctuation marks that follow a backslash. `Escape.read` starts behind the backslash and either
fails or answers with a leaf and the place after it.
-/
namespace PatternForge.Escape

/-- What an escape sequence depends on besides its text. -/
structure Context where
  /-- The settings of the whole pattern. -/
  settings : Settings
  /-- The flags at this place. -/
  flags : Flags
  /-- The groups closed before this place. -/
  closed : List Nat

/-- Whether a backslash before a character makes it stand for itself. -/
def isEscapable (c : Char) : Bool :=
  Pattern.isMeta c || (c.toNat ≤ 0x7F && !c.isAlphanum && c ≠ '<' && c ≠ '>')

/-- Hexadecimal digits of either case. -/
def isHexDigit (c : Char) : Bool :=
  ('0' ≤ c && c ≤ '9') || ('a' ≤ c && c ≤ 'f') || ('A' ≤ c && c ≤ 'F')

/-- The character with the code written by some hexadecimal digits. -/
def charOfHex? (digits : List Char) : Option Char :=
  let code := digits.foldl (fun n c => 16 * n + Unicode.hexDigitValue c) 0
  if code < 0xD800 ∨ (0xDFFF < code ∧ code ≤ 0x10FFFF) then some (Char.ofNat code) else none

/-- A reference by one digit to a group that is closed already. The cursor is at the digit. -/
def backreference (ctx : Context) (start here : Cursor) (digit : Char) :
    Except Failure (Pattern × Cursor) :=
  let index := digit.toNat - '0'.toNat
  if ctx.closed.contains index then .ok (.backreference index, here.skip)
  else .error (.danglingReference start.offset index)

/-- The property class with a name that ends at `after`. -/
def namedProperty (ctx : Context) (start after : Cursor) (name : List Char) (negated : Bool) :
    Except Failure (Pattern × Cursor) :=
  match ctx.settings.data.property ctx.flags.ignoreCase (String.ofList name) with
  | none => .error (.unsupported start.offset (start.textTo after))
  | some holds =>
    match Settings.classPattern start after (.ofPredicate ctx.settings.domain holds) negated with
    | .error failure => .error failure
    | .ok leaf => .ok (leaf, after)

/-- A property class, by one letter or by a name in braces. The cursor is at the `p` or `P`. -/
def propertyClass (ctx : Context) (start here : Cursor) (negated : Bool) :
    Except Failure (Pattern × Cursor) :=
  match here.skip.rest with
  | [] => .error (.malformed start.offset .unfinishedProperty)
  | '\x7b' :: _ =>
    let nameStart := here.skip.skip
    let nameEnd := nameStart.skipWhile (· ≠ '\x7d')
    if nameEnd.atEnd then .error (.malformed start.offset .unclosedProperty)
    else namedProperty ctx start nameEnd.skip (nameStart.charsTo nameEnd) negated
  | c :: _ => namedProperty ctx start here.skip.skip [c] negated

/-- A character by a number in braces. The cursor is after the opening brace. -/
def bracedHex (start here : Cursor) : Except Failure (Char × Cursor) :=
  let stop := here.skipWhile isHexDigit
  match stop.rest with
  | [] => .error (.malformed start.offset .unfinishedHexBrace)
  | '\x7d' :: _ =>
    let digits := here.charsTo stop
    if digits.isEmpty then .error (.malformed start.offset .emptyHexBrace)
    else
      match charOfHex? digits with
      | some c => .ok (c, stop.skip)
      | none => .error (.malformed start.offset .invalidHexBrace)
  | _ => .error (.malformed stop.offset .invalidHexBraceDigit)

/-- A character by a number of fixed length. The cursor is at the first digit. -/
def fixedHex (start here : Cursor) (count : Nat) : Except Failure (Char × Cursor) :=
  let digits := (here.rest.take count).takeWhile isHexDigit
  let stop := here.skipMany digits.length
  if digits.length < count then
    if stop.atEnd then .error (.malformed start.offset .unfinishedFixedHex)
    else .error (.malformed stop.offset .invalidFixedHexDigit)
  else
    match charOfHex? digits with
    | some c => .ok (c, stop)
    | none => .error (.malformed start.offset .invalidFixedHex)

/-- A character by its number. The cursor is at the letter that announces it. -/
def hex (start here : Cursor) (count : Nat) : Except Failure (Char × Cursor) :=
  match here.skip.rest with
  | [] => .error (.malformed start.offset .unfinishedHex)
  | '\x7b' :: _ => bracedHex start here.skip.skip
  | _ => fixedHex start here.skip count

/-- The leaf of a character by its number. -/
def hexLeaf (ctx : Context) (start here : Cursor) (count : Nat) :
    Except Failure (Pattern × Cursor) :=
  match hex start here count with
  | .error failure => .error failure
  | .ok (c, after) => .ok (ctx.settings.charPattern ctx.flags c, after)

/-- A Perl class. The cursor is at its letter. -/
def perlClass (ctx : Context) (start here : Cursor) (holds : Char → Bool) (negated : Bool) :
    Except Failure (Pattern × Cursor) :=
  match
    Settings.classPattern start here.skip (.ofPredicate ctx.settings.domain holds) negated with
  | .error failure => .error failure
  | .ok leaf => .ok (leaf, here.skip)

/-- The control character that a letter stands for. -/
def controlChar? (c : Char) : Option Char :=
  match c with
  | 'a' => some '\x07'
  | 'f' => some '\x0c'
  | 't' => some '\t'
  | 'n' => some '\n'
  | 'r' => some '\r'
  | 'v' => some '\x0b'
  | _ => none

/-- The anchor that a letter stands for. -/
def anchor? (c : Char) : Option Anchor :=
  match c with
  | 'A' => some .start
  | 'z' => some .finish
  | 'b' => some .wordBoundary
  | 'B' => some .notWordBoundary
  | _ => none

/-- A sequence of one character after the backslash. -/
def single (ctx : Context) (start here : Cursor) (c : Char) : Except Failure (Pattern × Cursor) :=
  if isEscapable c then .ok (ctx.settings.charPattern ctx.flags c, here.skip)
  else
    match controlChar? c, anchor? c with
    | some control, _ => .ok (ctx.settings.charPattern ctx.flags control, here.skip)
    | none, some kind => .ok (.anchor kind, here.skip)
    | none, none => .error (.malformed start.offset .unknownEscape)

/-- Reads an escape sequence. `start` is the place of the backslash, the cursor the place after. -/
def read (ctx : Context) (start here : Cursor) : Except Failure (Pattern × Cursor) :=
  match here.rest with
  | [] => .error (.malformed start.offset .unfinishedEscape)
  | c :: _ =>
    let data := ctx.settings.data
    match c with
    | 'p' => propertyClass ctx start here false
    | 'P' => propertyClass ctx start here true
    | 'x' => hexLeaf ctx start here 2
    | 'u' => hexLeaf ctx start here 4
    | 'U' => hexLeaf ctx start here 8
    | 'd' => perlClass ctx start here data.digit false
    | 'D' => perlClass ctx start here data.digit true
    | 's' => perlClass ctx start here data.space false
    | 'S' => perlClass ctx start here data.space true
    | 'w' => perlClass ctx start here data.word false
    | 'W' => perlClass ctx start here data.word true
    | '0' => .error (.unsupported start.offset (start.textTo here.skip))
    | 'c' | 'k' => .error (.unsupported start.offset (start.textTo here.skip.skip))
    | _ =>
      if '1' ≤ c ∧ c ≤ '9' then backreference ctx start here c else single ctx start here c

theorem reaches_namedProperty {ctx : Context} {start after stop : Cursor} {name : List Char}
    {negated : Bool} {leaf : Pattern}
    (read : namedProperty ctx start after name negated = .ok (leaf, stop)) : stop = after := by
  unfold namedProperty at read
  split at read
  · cases read
  · split at read <;> cases read
    rfl

theorem reaches_propertyClass {ctx : Context} {start here after : Cursor} {negated : Bool}
    {leaf : Pattern} (read : propertyClass ctx start here negated = .ok (leaf, after)) :
    here.Reaches after := by
  unfold propertyClass at read
  split at read
  · cases read
  · dsimp only at read
    split at read
    · cases read
    · rw [reaches_namedProperty read]
      exact (Cursor.reaches_skipMany here 2).trans
        ((Cursor.reaches_skipWhile _ _).trans (Cursor.reaches_skip _))
  · rw [reaches_namedProperty read]
    exact Cursor.reaches_skipMany here 2

theorem reaches_bracedHex {start here after : Cursor} {c : Char}
    (read : bracedHex start here = .ok (c, after)) : here.Reaches after := by
  unfold bracedHex at read
  dsimp only at read
  split at read
  · cases read
  · split at read
    · cases read
    · split at read <;> cases read
      exact (Cursor.reaches_skipWhile _ _).trans (Cursor.reaches_skip _)
  · cases read

theorem reaches_fixedHex {start here after : Cursor} {count : Nat} {c : Char}
    (read : fixedHex start here count = .ok (c, after)) : here.Reaches after := by
  unfold fixedHex at read
  dsimp only at read
  split at read
  · split at read <;> cases read
  · split at read <;> cases read
    exact Cursor.reaches_skipMany _ _

theorem reaches_hex {start here after : Cursor} {count : Nat} {c : Char}
    (read : hex start here count = .ok (c, after)) : here.Reaches after := by
  unfold hex at read
  split at read
  · cases read
  · exact (Cursor.reaches_skipMany here 2).trans (reaches_bracedHex read)
  · exact (Cursor.reaches_skip here).trans (reaches_fixedHex read)

theorem reaches_hexLeaf {ctx : Context} {start here after : Cursor} {count : Nat} {leaf : Pattern}
    (read : hexLeaf ctx start here count = .ok (leaf, after)) : here.Reaches after := by
  unfold hexLeaf at read
  split at read
  · cases read
  · rename_i isHex
    cases read
    exact reaches_hex isHex

theorem reaches_perlClass {ctx : Context} {start here after : Cursor} {holds : Char → Bool}
    {negated : Bool} {leaf : Pattern}
    (read : perlClass ctx start here holds negated = .ok (leaf, after)) : here.Reaches after := by
  unfold perlClass at read
  split at read <;> cases read
  exact Cursor.reaches_skip here

theorem reaches_backreference {ctx : Context} {start here after : Cursor} {digit : Char}
    {leaf : Pattern} (read : backreference ctx start here digit = .ok (leaf, after)) :
    here.Reaches after := by
  unfold backreference at read
  dsimp only at read
  split at read <;> cases read
  exact Cursor.reaches_skip here

theorem reaches_single {ctx : Context} {start here after : Cursor} {c : Char} {leaf : Pattern}
    (read : single ctx start here c = .ok (leaf, after)) : here.Reaches after := by
  unfold single at read
  split at read
  · cases read; exact Cursor.reaches_skip here
  · split at read <;> cases read <;> exact Cursor.reaches_skip here

theorem reaches_read {ctx : Context} {start here after : Cursor} {leaf : Pattern}
    (read' : read ctx start here = .ok (leaf, after)) : here.Reaches after := by
  unfold read at read'
  split at read'
  · cases read'
  · dsimp only at read'
    split at read' <;>
      first
        | exact reaches_propertyClass read'
        | exact reaches_hexLeaf read'
        | exact reaches_perlClass read'
        | cases read'
        | skip
    split at read'
    · exact reaches_backreference read'
    · exact reaches_single read'

end PatternForge.Escape
