import PatternForge.Matching.Regular.CharGroup
import PatternForge.Matching.Regular.Room
import PatternForge.Reading.GroupPrefix

/-!
The notation of the finite engine. The reader looks at one construct at a time, and the groups that
are still open are kept on a stack. Group names are written as in patterns; lists of flags know two
letters more, and where blanks are allowed, they may stand in counts and in numbers of characters.
`Expression.read?` gives the expression of a text, or nothing where the engine refuses it.
-/
namespace PatternForge.Regular

/-- What stands in a branch: expressions, and flags, which cannot be repeated. -/
inductive Item where
  | expression (e : Expression)
  | directive

/-- The expressions of items that are listed latest first. Flags match the empty text. -/
def Item.expressions (items : List Item) : List Expression :=
  (items.map fun
    | .expression e => e
    | .directive => .sequence []).reverse

/-- A group that is still open, with what was read around it. -/
structure OpenGroup where
  /-- Its number, if its text is kept. -/
  index : Option Nat
  /-- The mode that holds again behind it. -/
  outer : Mode
  /-- The finished branches around it, latest first. -/
  branches : List Expression
  /-- The items before it in its branch, latest first. -/
  items : List Item

/-- Where the reader stands. -/
structure State where
  /-- The place in the text. -/
  here : Cursor
  /-- The flags that hold here. -/
  mode : Mode := {}
  /-- How many groups with numbers have been opened so far. -/
  count : Nat := 0
  /-- The group names used so far. -/
  names : List String := []
  /-- The open groups, innermost first. -/
  enclosing : List OpenGroup := []
  /-- The finished branches of the innermost level, latest first. -/
  branches : List Expression := []
  /-- The items of its current branch, latest first. -/
  items : List Item := []

namespace State

/-- Puts an expression behind the others and goes on at another place. -/
def push (st : State) (e : Expression) (after : Cursor) : State :=
  { st with here := after, items := .expression e :: st.items }

/-- The expression of the innermost level. -/
def level (st : State) : Expression :=
  .ofBranches ((.ofItems (Item.expressions st.items) :: st.branches).reverse)

/-- Opens a group whose body starts at a place. -/
def enter (st : State) (index : Option Nat) (mode : Mode) (after : Cursor) : State :=
  { st with
    here := after
    mode
    enclosing :=
      { index, outer := st.mode, branches := st.branches, items := st.items } :: st.enclosing
    branches := []
    items := [] }

/-- Opens the next group with a number. -/
def enterNumbered (st : State) (after : Cursor) : State :=
  { st with count := st.count + 1 }.enter (some (st.count + 1)) st.mode after

end State

/-- The mode with a flag set or cleared; `none` for a letter that is no flag. -/
def applyFlag (mode : Mode) (on : Bool) (c : Char) : Option Mode :=
  match c with
  | 'i' => some { mode with ignoreCase := on }
  | 'm' => some { mode with multiLine := on }
  | 's' => some { mode with dotNewLine := on }
  | 'U' => some { mode with swapGreed := on }
  | 'u' => some { mode with allCharacters := on }
  | 'R' => some { mode with returnEndsLine := on }
  | 'x' => some { mode with spaced := on }
  | _ => none

/-- Reads flags: none twice, at most one sign of clearing, and that not last. The answer is the mode
and what is left, which starts with the character that ends the flags. -/
def flags (mode : Mode) (seen : List Char) (negated afterSign : Bool) :
    List Char → Option (Mode × List Char)
  | [] => none
  | c :: rest =>
    if c = ':' ∨ c = ')' then if afterSign then none else some (mode, c :: rest)
    else if c = '-' then if negated then none else flags mode seen true true rest
    else if seen.contains c then none
    else
      match applyFlag mode (!negated) c with
      | none => none
      | some mode' => flags mode' (c :: seen) negated false rest

/-- Reads flags and the character that ends them. The cursor is behind the question mark. -/
def openFlags (st : State) (here : Cursor) : Option State := do
  let (mode, rest) ← flags st.mode [] false false here.rest
  let stop := here.skipMany (here.rest.length - rest.length)
  if rest.head? = some ')' then
    if stop.offset = here.offset then none
    return { st with here := stop.skip, mode, items := .directive :: st.items }
  else return st.enter none mode stop.skip

/-- Reads an opening parenthesis with what belongs to it. -/
def openGroup (data : CharacterData) (st : State) : Option State := do
  let here := skipBlanks data st.mode st.here.skip
  if ([['?', '='], ['?', '!'], ['?', '<', '='], ['?', '<', '!']].findSome? here.afterText?).isSome
  then none
  match GroupPrefix.nameOpening? here with
  | some nameStart =>
    let (name, after) ← (GroupPrefix.name data st.names nameStart).toOption
    return { st with names := name :: st.names }.enterNumbered after
  | none =>
    if here.rest.head? = some '?' then openFlags st here.skip else return st.enterNumbered here

/-- Reads a closing parenthesis. -/
def closeGroup (st : State) : Option State :=
  match st.enclosing with
  | [] => none
  | opened :: outer =>
    some { st with
      here := st.here.skip
      mode := opened.outer
      enclosing := outer
      branches := opened.branches
      items := .expression (.group opened.index st.level) :: opened.items }

/-- Reads a bar. -/
def nextBranch (st : State) : State :=
  { st with
    here := st.here.skip
    branches := .ofItems (Item.expressions st.items) :: st.branches
    items := [] }

/-- Repeats the last item. A mark of laziness may follow. -/
def repeatLast (st : State) (least : Nat) (most : Option Nat) (after : Cursor) : Option State :=
  let isLazy := after.rest.head? = some '?'
  match st.items with
  | .expression e :: earlier =>
    some { st with
      here := if isLazy then after.skip else after
      items := .expression (.repeated least most (isLazy = st.mode.swapGreed) e) :: earlier }
  | _ => none

/-- A number below `2^32` in a count, with white space around it. -/
def number? (data : CharacterData) (mode : Mode) (here : Cursor) : Option (Nat × Cursor) :=
  let (digits, stop) := spelled data mode Char.isDigit (here.skipWhile data.space)
  let value := digits.foldl (fun n c => 10 * n + (c.toNat - '0'.toNat)) 0
  if digits.isEmpty || UInt32.size ≤ value then none
  else some (value, (spelled data mode data.space stop).2)

/-- The bounds between braces, and the place of the closing brace. The cursor is at the opening
brace. -/
def count? (data : CharacterData) (mode : Mode) (start : Cursor) :
    Option (Nat × Option Nat × Cursor) := do
  let (least, after) ← number? data mode (next data mode start)
  if after.rest.head? = some ',' then
    let start := next data mode after
    if start.rest.head? = some '\x7d' then return (least, none, start)
    let (most, after) ← number? data mode start
    return (least, some most, after)
  else return (least, some least, after)

/-- Reads a count in braces. -/
def countedRepeat (data : CharacterData) (st : State) : Option State := do
  let (least, most, close) ← count? data st.mode st.here
  if close.rest.head? ≠ some '\x7d' || most.any (· < least) then none
  repeatLast st least most (next data st.mode close)

/-- Reads the construct that starts with the character `c`. -/
def step (data : CharacterData) (st : State) (c : Char) : Option State :=
  match c with
  | '(' => openGroup data st
  | ')' => closeGroup st
  | '|' => some (nextBranch st)
  | '[' => (charGroup data st.mode st.here).map fun group => st.push (.one group.1) group.2
  | '?' => repeatLast st 0 (some 1) st.here.skip
  | '*' => repeatLast st 0 none st.here.skip
  | '+' => repeatLast st 1 none st.here.skip
  | '\x7b' => countedRepeat data st
  | '\\' =>
    match escape data st.mode st.here.skip with
    | none => none
    | some (leaf, after) => (leaf.expression? data st.mode).map fun e => st.push e after
  | '.' =>
    if st.mode.allCharacters then some (st.push (.one { allows := st.mode.dot }) st.here.skip)
    else none
  | '^' => some (st.push (.look st.mode.lineStart) st.here.skip)
  | '$' => some (st.push (.look st.mode.lineEnd) st.here.skip)
  | _ => some (st.push (.one (st.mode.char data c)) st.here.skip)

/-- Reads constructs until the text ends. A step that does not move on is refused. -/
def run (data : CharacterData) (st : State) : Option State :=
  let start := skipBlanks data st.mode st.here
  match start.rest with
  | [] => some st
  | c :: _ =>
    match step data { st with here := start } c with
    | none => none
    | some st' => if st'.here.rest.length < st.here.rest.length then run data st' else none
termination_by st.here.rest.length

/-- How deep an expression of the finite engine may nest. -/
def nestLimit : Nat := 250

/-- An expression, unless it nests too deep, a count is not valid or there is no room for it. -/
def withinLimits (e : Expression) : Option Expression :=
  if e.nesting ≤ nestLimit && e.countsValid && fits e then some e else none

/-- The class that some text stands for in the notation of the finite engine, if it is one class and
nothing else. -/
def classOf? (data : CharacterData) (ignoreCase : Bool) (text : List Char) : Option CharTest :=
  let mode : Mode := { ignoreCase }
  match text with
  | '[' :: _ =>
    match charGroup data mode (.ofText text) with
    | some (test, after) => if after.atEnd then some test else none
    | none => none
  | '\\' :: rest =>
    match escape data mode (.ofText rest) with
    | some (.oneOf allows, after) => if after.atEnd then some { allows } else none
    | _ => none
  | _ => none

end Regular

/-- The expression of a text in the notation of the finite engine. -/
def Expression.read? (data : CharacterData) (text : String) : Option Expression :=
  match Regular.run data { here := .ofText text.toList } with
  | none => none
  | some st => if st.enclosing.isEmpty then Regular.withinLimits st.level else none

end PatternForge
