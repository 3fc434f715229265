import PatternForge.Matching.Regular.Reader
import PatternForge.Matching.Search.Node

/-!
The leaves of the backtracking engine's notation: blanks and comments, numbers, counts, escape
sequences and bracketed classes. A class is spelled out anew for the finite engine, which says what
it means.
-/
namespace PatternForge.Search

/-- Where the reader is with respect to comments. -/
inductive BlankState where
  | outside
  | inLine
  | inParentheses

/-- How many characters blanks and comments take from the start of a text; nothing if a comment in
parentheses is not closed. -/
def blankLength (spaced : Bool) : BlankState → List Char → Option Nat
  | .outside, '(' :: '?' :: '#' :: rest => (blankLength spaced .inParentheses rest).map (· + 3)
  | .outside, c :: rest =>
    if spaced && c = '#' then (blankLength spaced .inLine rest).map (· + 1)
    else if spaced && (c = ' ' || c = '\r' || c = '\n' || c = '\t') then
      (blankLength spaced .outside rest).map (· + 1)
    else some 0
  | .inLine, c :: rest =>
    (blankLength spaced (if c = '\n' then .outside else .inLine) rest).map (· + 1)
  | .inParentheses, ')' :: rest => (blankLength spaced .outside rest).map (· + 1)
  | .inParentheses, '\\' :: _ :: rest => (blankLength spaced .inParentheses rest).map (· + 2)
  | .inParentheses, _ :: rest => (blankLength spaced .inParentheses rest).map (· + 1)
  | .inParentheses, [] => none
  | _, [] => some 0

/-- The place after blanks and comments. -/
def skipBlanks (mode : Mode) (here : Cursor) : Option Cursor :=
  (blankLength mode.spaced .outside here.rest).map here.skipMany

/-- A decimal number and the place after it. -/
def decimal? (here : Cursor) : Option (Nat × Cursor) :=
  let stop := here.skipWhile Char.isDigit
  let digits := here.charsTo stop
  let value := digits.foldl (fun n c => 10 * n + (c.toNat - '0'.toNat)) 0
  if digits.isEmpty || UInt64.size ≤ value then none else some (value, stop)

/-- The upper bound of a count, behind its comma. -/
def mostCount? (mode : Mode) (here : Cursor) : Option (Option Nat × Cursor) := do
  let start ← skipBlanks mode here
  match decimal? start with
  | some (most, after) => return (some most, after)
  | none => return (none, start)

/-- A count in braces, if one stands here. The cursor is at the opening brace. The greatest count is
no limit. -/
def count? (mode : Mode) (here : Cursor) : Option (Nat × Option Nat × Cursor) := do
  let start ← skipBlanks mode here.skip
  let (least, after) ← if start.rest.head? = some ',' then some (0, start) else decimal? start
  let after ← skipBlanks mode after
  let (most, after) ←
    match after.rest with
    | ',' :: _ => mostCount? mode after.skip
    | _ => some (some least, after)
  let close ← skipBlanks mode after
  if close.rest.head? ≠ some '\x7d' then none
  else some (least, most.filter (· ≠ Node.greatestCount), close.skip)

/-- Whether a character may stand in a group name. -/
def isNameChar (data : CharacterData) (c : Char) : Bool :=
  c = '_' || data.alphabetic c || data.numeric c

/-- The hexadecimal digits of a character by its number, and the place after them: as many as
wanted, or up to eight in braces. -/
def hexDigits? (here : Cursor) (count : Nat) : Option (List Char × Cursor) :=
  let fixed := here.rest.take count
  if fixed.length = count && fixed.all Escape.isHexDigit then some (fixed, here.skipMany count)
  else
    match here.rest with
    | '\x7b' :: rest =>
      let digits := rest.takeWhile Escape.isHexDigit
      let close := here.skip.skipMany digits.length
      if digits.isEmpty || 8 < digits.length || close.rest.head? ≠ some '\x7d' then none
      else some (digits, close.skip)
    | _ => none

/-- The place after the name of a property: a character, or whatever stands in braces. -/
def afterProperty? (here : Cursor) : Option Cursor :=
  if here.rest.head? = some '\x7b' then
    let close := here.skipWhile (· ≠ '\x7d')
    if close.atEnd then none else some close.skip
  else some here.skip

/-- What an escape sequence stands for, as far as it is the same inside and outside of classes. -/
inductive Escaped where
  /-- A character; `folded` tells whether its case may be ignored. -/
  | char (c : Char) (folded : Bool)
  /-- A class, spelled for the finite engine; `folded` as before. -/
  | spelled (text : List Char) (folded : Bool)

/-- The character that a letter stands for after a backslash. -/
def controlChar? (c : Char) : Option Char :=
  if c = 'e' then some '\x1b' else Escape.controlChar? c

/-- Reads an escape sequence that is the same inside and outside of classes. The cursor is behind
the backslash. -/
def escaped? (here : Cursor) : Option (Escaped × Cursor) :=
  match here.rest with
  | [] => none
  | c :: rest =>
    if ['d', 's', 'w', 'D', 'S', 'W'].contains c then
      some (.spelled ['\\', c] true, here.skip)
    else if c = 'h' then some (.spelled "[0-9A-Fa-f]".toList false, here.skip)
    else if c = 'H' then some (.spelled "[^0-9A-Fa-f]".toList false, here.skip)
    else if c = 'x' || c = 'u' || c = 'U' then do
      let (digits, after) ← hexDigits? here.skip (if c = 'x' then 2 else if c = 'u' then 4 else 8)
      let c ← Escape.charOfHex? digits
      return (.char c true, after)
    else if (c = 'p' || c = 'P') && !rest.isEmpty then do
      let after ← afterProperty? here.skip
      return (.spelled ('\\' :: here.charsTo after) true, after)
    else
      match controlChar? c with
      | some control => some (.char control false, here.skip)
      | none => if Mode.isAsciiLetter c then none else some (.char c false, here.skip)

/-- Whether a character is quoted where a class is spelled out anew. -/
def isQuoted (c : Char) : Bool := "\\.+*?()|[]\x7b\x7d^$#&-~".toList.contains c

/-- The letters that stand for themselves after a backslash in a class. -/
def plainLetters : List Char := ['A', 'B', 'G', 'K', 'k', 'z']

/-- Spells an escape sequence inside a class. The cursor is behind the backslash. -/
def classEscape? (here : Cursor) : Option (List Char × Cursor) :=
  match here.rest with
  | 'b' :: _ => some (['\x08'], here.skip)
  | c :: _ =>
    if c.isDigit then none
    else if plainLetters.contains c then some ([c], here.skip)
    else
      match escaped? here with
      | some (.char c _, after) => some (if isQuoted c then ['\\', c] else [c], after)
      | some (.spelled text _, after) => some (text, after)
      | none => none
  | [] => none

/-- Spells a class up to the bracket that closes it, after `open'` brackets that are still open. The
text so far is given latest first. -/
def classText? (open' : Nat) (spelled : List Char) (here : Cursor) : Option (List Char × Cursor) :=
  match here.rest with
  | [] => none
  | '\\' :: _ =>
    match classEscape? here.skip with
    | none => none
    | some (text, after) =>
      if after.rest.length < here.rest.length then classText? open' (text.reverse ++ spelled) after
      else none
  | c :: _ =>
    if c = ']' && open' = 1 then some ((c :: spelled).reverse, here.skip)
    else if here.skip.rest.length < here.rest.length then
      classText?
        (if c = '[' then open' + 1 else if c = ']' then open' - 1 else open')
        (c :: spelled) here.skip
    else none
termination_by here.rest.length

/-- The spelling of a bracketed class and the place after it. A closing bracket in front does not
close the class. The cursor is at the opening bracket. -/
def bracketed? (start : Cursor) : Option (List Char × Cursor) :=
  let inside := start.skip
  let negated := inside.rest.head? = some '^'
  let first := if negated then inside.skip else inside
  let opening := if negated then ['^', '['] else ['[']
  if first.rest.head? = some ']' then classText? 1 (']' :: opening) first.skip
  else classText? 1 opening first

end PatternForge.Search
