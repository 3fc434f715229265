/-!
Expressions of the finite engine: regular expressions over characters, with conditions on places.
`Expression.accepts` decides whether a text matches, for which it does not matter which of several
ways to match is preferred. It follows all ways at once: it keeps the set of places that have been
reached, as one mark per place of the text, and every expression moves the marks on.
-/
namespace PatternForge

/-- A place in a text, by the characters on either side of it. -/
structure Place where
  /-- The character before the place, unless the text starts there. -/
  before : Option Char
  /-- The character after the place, unless the text ends there. -/
  after : Option Char
  deriving DecidableEq, Repr

/-- The places of a text from left to right, where `before` comes before the text. -/
def Place.ofText (before : Option Char) : List Char → List Place
  | [] => [⟨before, none⟩]
  | c :: rest => ⟨before, some c⟩ :: ofText (some c) rest

/-- The place in a text behind so many characters. -/
def Place.at (text : Array Char) (place : Nat) : Place where
  before := if place = 0 then none else text[place - 1]?
  after := text[place]?

/-- A test of one character. -/
structure CharTest where
  /-- Whether a character passes. -/
  allows : Char → Bool
  /-- Where the test was written as one character: that character and those that differ from it in
  case, if case is ignored. -/
  listed : Option (List Char) := none
  /-- How deep brackets and parentheses nest in the test. -/
  nesting : Nat := 0

/-- A regular expression. -/
inductive Expression where
  /-- A character that passes a test. -/
  | one (test : CharTest)
  /-- The empty text, at a place where a condition holds. -/
  | look (holds : Place → Bool)
  /-- One after another. -/
  | sequence (items : List Expression)
  /-- One of several. -/
  | choice (branches : List Expression)
  /-- A body at least so often, and at most so often if there is a limit. A greedy repetition
  prefers to go on. -/
  | repeated (least : Nat) (most : Option Nat) (greedy : Bool) (body : Expression)
  /-- An expression in parentheses, which have a number if their text is kept. -/
  | group (index : Option Nat) (body : Expression)

namespace Expression

/-- A list of items as one expression; one item is that item. -/
def ofItems (items : List Expression) : Expression :=
  match items with
  | [item] => item
  | _ => sequence items

/-- A list of branches as one expression; one branch is that branch. -/
def ofBranches (branches : List Expression) : Expression :=
  match branches with
  | [branch] => branch
  | _ => choice branches

mutual

/-- How deep sequences, choices, repetitions and parentheses lie in one another. -/
def nesting : Expression → Nat
  | one test => test.nesting
  | look _ => 0
  | sequence items => if items.isEmpty then 0 else nestingOfAll items + 1
  | choice branches => nestingOfAll branches + 1
  | repeated _ _ _ body => nesting body + 1
  | group _ body => nesting body + 1

/-- The deepest nesting among several expressions. -/
def nestingOfAll : List Expression → Nat
  | [] => 0
  | e :: rest => max (nesting e) (nestingOfAll rest)

end

mutual

/-- Whether every count is below `2^32`, and its lower bound not above its upper bound. -/
def countsValid : Expression → Bool
  | one _ | look _ => true
  | sequence items => countsValidInAll items
  | choice branches => countsValidInAll branches
  | repeated least most _ body =>
    least < UInt32.size && most.all (fun most => least ≤ most && most < UInt32.size) &&
      countsValid body
  | group _ body => countsValid body

/-- Whether the counts of several expressions are valid. -/
def countsValidInAll : List Expression → Bool
  | [] => true
  | e :: rest => countsValid e && countsValidInAll rest

end

mutual

/-- Whether an expression is made of conditions only, so that it takes no text. -/
def takesNothing : Expression → Bool
  | one _ => false
  | look _ => true
  | sequence items => takeNothing items
  | choice branches => takeNothing branches
  | repeated _ most _ body => most = some 0 || takesNothing body
  | group _ body => takesNothing body

/-- Whether none of several expressions takes any text. -/
def takeNothing : List Expression → Bool
  | [] => true
  | e :: rest => takesNothing e && takeNothing rest

end

mutual

/-- Whether every match of an expression takes some text. -/
def takesText : Expression → Bool
  | one _ => true
  | look _ => false
  | sequence items => someTakesText items
  | choice branches => allTakeText branches
  | repeated least _ _ body => least ≠ 0 && takesText body
  | group _ body => takesText body

/-- Whether one of several expressions always takes some text. -/
def someTakesText : List Expression → Bool
  | [] => false
  | e :: rest => takesText e || someTakesText rest

/-- Whether each of several expressions always takes some text. -/
def allTakeText : List Expression → Bool
  | [] => true
  | e :: rest => takesText e && allTakeText rest

end

/-- A set of places: one mark for every place of a text. -/
abbrev Marks := List Bool

/-- The places in either of two sets. -/
def Marks.union (a b : Marks) : Marks := a.zipWith (· || ·) b

/-- The places behind a character that is allowed, from the marked ones. -/
def overOne (allowed : Char → Bool) (places : List Place) (marks : Marks) : Marks :=
  false :: (marks.zipWith (fun marked place => marked && place.after.any allowed) places).dropLast

/-- The marked places where a condition holds. -/
def whereHolds (holds : Place → Bool) (places : List Place) (marks : Marks) : Marks :=
  marks.zipWith (fun marked place => marked && holds place) places

/-- Applies a function a number of times, or until nothing changes any more. -/
def settle (f : Marks → Marks) : Nat → Marks → Marks
  | 0, marks => marks
  | n + 1, marks =>
    let next := f marks
    if next = marks then marks else settle f n next

mutual

/-- The places where a match of an expression can end that starts at a marked place. -/
def advance (places : List Place) (e : Expression) (marks : Marks) : Marks :=
  match e with
  | one test => overOne test.allows places marks
  | look holds => whereHolds holds places marks
  | sequence items => advanceThrough places items marks
  | choice branches => advanceAny places branches marks
  | repeated least most _ body =>
    let further := (most.map (· - least)).getD places.length
    settle (fun reached => reached.union (advance places body reached)) further
      (settle (advance places body) least marks)
  | group _ body => advance places body marks

/-- The ends of matches of several expressions, one after another. -/
def advanceThrough (places : List Place) (items : List Expression) (marks : Marks) : Marks :=
  match items with
  | [] => marks
  | e :: rest => advanceThrough places rest (advance places e marks)

/-- The ends of matches of any of several expressions. -/
def advanceAny (places : List Place) (branches : List Expression) (marks : Marks) : Marks :=
  match branches with
  | [] => marks.map fun _ => false
  | e :: rest => (advance places e marks).union (advanceAny places rest marks)

end

/-- Whether an expression matches some part of a text. -/
def accepts (e : Expression) (text : List Char) : Bool :=
  let places := Place.ofText none text
  (advance places e (places.map fun _ => true)).any id

end Expression

end PatternForge
