import PatternForge.Matching.Regular.Leaf

/-!
Bracketed classes of the finite engine. A class holds characters, ranges, named classes and further
bracketed classes, and its parts can be combined by intersection, difference and symmetric
difference, from left to right. The classes that are still open are kept on a stack.
-/
namespace PatternForge.Regular

/-- An operation on the sets to its left and right. -/
inductive SetOperator where
  | intersection
  | difference
  | symmetricDifference
  deriving DecidableEq, Repr

/-- What an operation makes of two sets. -/
def SetOperator.combine (operator : SetOperator) (a b : Char → Bool) : Char → Bool :=
  match operator with
  | intersection => fun c => a c && b c
  | difference => fun c => a c && !b c
  | symmetricDifference => fun c => a c != b c

/-- The operation that a character stands for if it is written twice. -/
def operator? (c : Char) : Option SetOperator :=
  match c with
  | '&' => some .intersection
  | '-' => some .difference
  | '~' => some .symmetricDifference
  | _ => none

/-- A class whose closing bracket has not come yet. -/
structure OpenClass where
  /-- Whether it is negated. -/
  negated : Bool
  /-- The last operation with what stands on its left. -/
  pending : Option (SetOperator × CharTest) := none
  /-- The characters found since. -/
  found : Char → Bool := fun _ => false
  /-- In how many items they were found. -/
  items : Nat := 0
  /-- How deep brackets nest in these items. -/
  deepest : Nat := 0

namespace OpenClass

/-- Adds characters. -/
def add (cls : OpenClass) (test : CharTest) : OpenClass :=
  { cls with
    found := fun c => cls.found c || test.allows c
    items := cls.items + 1
    deepest := max cls.deepest test.nesting }

/-- The characters found so far, with the last operation carried out. Several items nest one level
deeper than one, and so do the sides of an operation. -/
def operand (data : CharacterData) (mode : Mode) (cls : OpenClass) : CharTest :=
  let nesting := if cls.items ≤ 1 then cls.deepest else cls.deepest + 1
  match cls.pending with
  | none => { allows := cls.found, nesting }
  | some (operator, left) =>
    { allows := operator.combine (mode.widened data left.allows) (mode.widened data cls.found)
      nesting := max left.nesting nesting + 1 }

/-- Takes what was found as the left side of a further operation. -/
def operate (data : CharacterData) (mode : Mode) (cls : OpenClass) (operator : SetOperator) :
    OpenClass :=
  { negated := cls.negated, pending := some (operator, cls.operand data mode) }

/-- The characters of the class as a whole. -/
def close (data : CharacterData) (mode : Mode) (cls : OpenClass) : Option CharTest :=
  let operand := cls.operand data mode
  (negatable mode cls.negated (mode.widened data operand.allows)).map fun allows =>
    { allows, nesting := operand.nesting + 1 }

end OpenClass

/-- Adds the hyphens in front of a class, which stand for themselves. -/
def addHyphens (data : CharacterData) (mode : Mode) (cls : OpenClass) (here : Cursor) :
    OpenClass × Cursor :=
  let (hyphens, after) := spelled data mode (· = '-') here
  (hyphens.foldl (fun cls hyphen => cls.add { allows := (· = hyphen) }) cls, after)

/-- Opens a class: the sign of negation, and the hyphens or the closing bracket that stand for
themselves in front. The cursor is at the opening bracket. -/
def openClass (data : CharacterData) (mode : Mode) (start : Cursor) : OpenClass × Cursor :=
  let inside := next data mode start
  let negated := inside.rest.head? = some '^'
  let first := if negated then next data mode inside else inside
  if first.rest.head? = some ']' then
    (OpenClass.add { negated } { allows := (· = ']') }, next data mode first)
  else addHyphens data mode { negated } first

/-- A POSIX class such as `[:alpha:]` or `[:^alpha:]`, if one stands here. The cursor is at its
opening bracket. -/
def posixClass? (here : Cursor) : Option (Bool × (Char → Bool) × Cursor) := do
  let opened ← here.afterText? ['[', ':']
  let negated := opened.rest.head? = some '^'
  let nameStart := if negated then opened.skip else opened
  let nameEnd := nameStart.skipWhile (· ≠ ':')
  let after ← nameEnd.afterText? [':', ']']
  let ranges ← ClassSet.posixRanges? (nameStart.textTo nameEnd)
  return (negated, fun c => ranges.any fun range => range.1 ≤ c && c ≤ range.2, after)

/-- A character or an escape sequence inside a class. -/
def classLeaf (data : CharacterData) (mode : Mode) (here : Cursor) : Option (Leaf × Cursor) :=
  match here.rest with
  | [] => none
  | '\\' :: _ => escape data mode here.skip
  | c :: _ => some (.char c false, here.skip)

/-- The character of a leaf inside a class. Where classes are those of ASCII, others are refused. -/
def Leaf.classChar? (mode : Mode) (leaf : Leaf) : Option Char :=
  match leaf with
  | .char c _ => if mode.allCharacters || c.toNat ≤ 0x7F then some c else none
  | _ => none

/-- The characters of a leaf inside a class. -/
def Leaf.classSet? (mode : Mode) (leaf : Leaf) : Option (Char → Bool) :=
  match leaf with
  | .oneOf allowed => some allowed
  | .char _ _ => (leaf.classChar? mode).map fun c x => x = c
  | .look _ => none

/-- What decides whether a hyphen stands for itself: the next character that is no blank. A comment
sign is passed over like a blank, and what follows it is looked at. The text is that behind the
hyphen. -/
def behindHyphen? (data : CharacterData) (mode : Mode) (text : List Char) : Option Char :=
  if !mode.spaced then text.head?
  else
    let further :=
      match text.dropWhile data.space with
      | '#' :: rest => rest.dropWhile data.space
      | rest => rest
    further.head?.or text.head?

/-- An item of a class: a leaf, or a range between two. -/
def classItem (data : CharacterData) (mode : Mode) (here : Cursor) :
    Option ((Char → Bool) × Cursor) := do
  let (first, afterFirst) ← classLeaf data mode here
  let after := skipBlanks data mode afterFirst
  let behind := behindHyphen? data mode (after.rest.drop 1)
  if after.rest.head? = some '-' && behind ≠ some ']' && behind ≠ some '-' then
    let (last, stop) ← classLeaf data mode (next data mode after)
    let lo ← first.classChar? mode
    let hi ← last.classChar? mode
    if hi < lo then none
    return (fun c => lo ≤ c && c ≤ hi, stop)
  else
    let set ← first.classSet? mode
    return (set, after)

/-- The classes that are open, innermost first, or the class that has been closed last. -/
inductive ClassState where
  | reading (cls : OpenClass) (outer : List OpenClass) (here : Cursor)
  | closed (test : CharTest) (after : Cursor)

/-- Reads one construct inside a class. -/
def classStep (data : CharacterData) (mode : Mode) (cls : OpenClass) (outer : List OpenClass)
    (here : Cursor) : Option ClassState :=
  match here.rest with
  | [] => none
  | '[' :: _ =>
    match posixClass? here with
    | some (negated, allowed, after) =>
      (negatable mode negated (mode.widened data allowed)).map fun allows =>
        .reading (cls.add { allows }) outer after
    | none =>
      let (inner, after) := openClass data mode here
      some (.reading inner (cls :: outer) after)
  | ']' :: _ =>
    (cls.close data mode).map fun test =>
      match outer with
      | [] => .closed test here.skip
      | around :: further => .reading (around.add test) further here.skip
  | c :: rest =>
    match (operator? c).filter fun _ => rest.head? = some c with
    | some operator => some (.reading (cls.operate data mode operator) outer here.skip.skip)
    | none =>
      (classItem data mode here).map fun item =>
        .reading (cls.add { allows := item.1 }) outer item.2

/-- Reads constructs until the outermost class is closed. A step that does not move on is
refused. -/
def classRun (data : CharacterData) (mode : Mode) (cls : OpenClass) (outer : List OpenClass)
    (here : Cursor) : Option (CharTest × Cursor) :=
  let start := skipBlanks data mode here
  match classStep data mode cls outer start with
  | none => none
  | some (.closed test after) => some (test, after)
  | some (.reading cls' outer' after) =>
    if after.rest.length < here.rest.length then classRun data mode cls' outer' after else none
termination_by here.rest.length

/-- Reads a bracketed class. The cursor is at its opening bracket. -/
def charGroup (data : CharacterData) (mode : Mode) (start : Cursor) :
    Option (CharTest × Cursor) :=
  let (cls, here) := openClass data mode start
  classRun data mode cls [] here

end PatternForge.Regular
