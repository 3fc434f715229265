/-!
Paragraphs set in lines. Words are put on a line as long as they fit, with one space between them.
-/
namespace PatternForge.Text

/-- Puts words on lines of at most `width` characters; `line` is the line so far, if it has a word.
A word that is longer gets a line of its own. -/
def fill (width : Nat) : Option String → List String → List String
  | line, [] => line.toList
  | none, word :: rest => fill width (some word) rest
  | some line, word :: rest =>
    if line.length + 1 + word.length ≤ width then fill width (some (line ++ " " ++ word)) rest
    else line :: fill width (some word) rest

/-- The words of a text: what lies between spaces and line feeds. -/
def words (text : String) : List String :=
  let (rest, word) := text.toList.foldr
    (fun c (acc : List String × List Char) =>
      if c = ' ' || c = '\n' then (String.ofList acc.2 :: acc.1, []) else (acc.1, c :: acc.2))
    ([], [])
  (String.ofList word :: rest).filter (· ≠ "")

/-- A paragraph in lines of at most `width` characters, each behind an indent of `indent` spaces. -/
def wrapped (width indent : Nat) (paragraph : String) : List String :=
  (fill (width - indent) none (words paragraph)).map fun line =>
    String.ofList (List.replicate indent ' ') ++ line

end PatternForge.Text
