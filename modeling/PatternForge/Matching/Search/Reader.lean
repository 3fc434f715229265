import PatternForge.Matching.Search.Leaf

/-!
The notation of the backtracking engine. It differs from that of the finite engine in more than its
references and look-around: an atom takes one repetition operator only, a brace that opens no count
stands for itself, and flags last beyond the group with a number in which they are set.
`Node.read?` gives the node of a text, or nothing where the engine refuses it.
-/
namespace PatternForge.Search

/-- What a group that is still open will become. -/
inductive GroupKind where
  /-- A group whose text is kept. -/
  | capturing (index : Nat)
  /-- A group behind which the given flags hold again. -/
  | plain (outer : Mode)
  | around (ahead wanted : Bool)
  | atomic
  /-- The condition of a conditional group. -/
  | condition
  /-- The branches of a conditional group, which start at an offset. -/
  | conditional (condition : Node) (start : Nat)

/-- A group that is still open, with what was read around it. -/
structure OpenGroup where
  kind : GroupKind
  /-- The finished branches around it, latest first. -/
  branches : List Node
  /-- The items before it in its branch, latest first. -/
  items : List Node

/-- Where the reader stands. -/
structure ReadState where
  /-- The place in the text. -/
  here : Cursor
  /-- The flags that hold here. -/
  mode : Mode := {}
  /-- The number of groups opened so far. -/
  count : Nat := 0
  /-- The number of repetitions so far. -/
  repetitions : Nat := 0
  /-- The names of groups with their numbers, latest first. -/
  names : List (String × Nat) := []
  /-- Whether a group was referred to by a number. -/
  numbered : Bool := false
  /-- The open groups, innermost first. -/
  enclosing : List OpenGroup := []
  /-- The finished branches of the innermost level, latest first. -/
  branches : List Node := []
  /-- The items of its current branch, latest first. -/
  items : List Node := []
  /-- The atom just read, to which a repetition operator would apply. -/
  atom : Option Node := none

namespace ReadState

/-- Puts the atom behind the other items. -/
def settle (st : ReadState) : ReadState :=
  match st.atom with
  | some atom =>
    { st with atom := none, items := if atom.isEmpty then st.items else atom :: st.items }
  | none => st

/-- Goes on behind an atom. -/
def push (st : ReadState) (atom : Node) (after : Cursor) : ReadState :=
  { st.settle with here := after, atom := some atom }

/-- Opens a group whose body starts at a place. -/
def enter (st : ReadState) (kind : GroupKind) (after : Cursor) : ReadState :=
  let st := st.settle
  { st with
    here := after
    enclosing := { kind, branches := st.branches, items := st.items } :: st.enclosing
    branches := []
    items := [] }

/-- The node of the innermost level. Where it has one branch only, numbers as references are refused
as soon as there are names. -/
def level? (st : ReadState) : Option Node :=
  let st := st.settle
  let last := Node.ofItems st.items.reverse
  match st.branches with
  | [] => if st.numbered && !st.names.isEmpty then none else some last
  | branches => some (.choice (last :: branches).reverse)

end ReadState

/-- How deep groups may nest. -/
def nestLimit : Nat := 64

/-- A character that stands for itself. Where its case is ignored, that is said in parentheses. -/
def charNode (data : CharacterData) (mode : Mode) (c : Char) : Node :=
  .one { mode.char data c with nesting := mode.ignoreCase.toNat }

/-- The class that a spelling stands for. -/
def classNode? (data : CharacterData) (mode : Mode) (text : List Char) (folded : Bool) :
    Option Node :=
  let ignoreCase := folded && mode.ignoreCase
  (Regular.classOf? data ignoreCase text).map fun test =>
    .one { test with nesting := test.nesting + ignoreCase.toNat }

/-- What the line anchors are about. -/
def anchorSubject (mode : Mode) : LookSubject := if mode.multiLine then .line else .text

/-- The characters that the dot stands for. -/
def dotNode (mode : Mode) : Node :=
  .one {
    allows := ({ dotNewLine := mode.dotNewLine : Mode }).dot
    nesting := mode.dotNewLine.toNat }

/-- A reference to a group, which must have been opened before. -/
def reference? (st : ReadState) (index : Nat) : Option Node :=
  if index ≤ st.count then some (.reference index) else none

/-- The place after a name, which may start with a minus sign. -/
def afterName (data : CharacterData) (start : Cursor) : Cursor :=
  (if start.rest.head? = some '-' then start.skip else start).skipWhile (isNameChar data)

/-- A name as a number, if all of it is one. -/
def numberOfName? (name : List Char) : Option Nat :=
  (decimal? (.ofText name)).bind fun found => if found.2.atEnd then some found.1 else none

/-- The group that a name refers to. A name that no group has may be a number, and a number with a
minus sign counts back from the next group. -/
def namedGroup? (st : ReadState) (name : List Char) : Option Nat :=
  match st.names.lookup (String.ofList name) with
  | some index => some index
  | none =>
    match name with
    | '-' :: digits =>
      (numberOfName? digits).bind fun n =>
        if n = 0 then some 0 else if n ≤ st.count + 1 then some (st.count + 1 - n) else none
    | _ => numberOfName? name

/-- A reference by a name between two marks. The cursor is at the opening mark. -/
def namedReference? (data : CharacterData) (st : ReadState) (opening close : List Char)
    (here : Cursor) : Option (Node × Cursor) := do
  let start ← here.afterText? opening
  let stop := afterName data start
  let after ← stop.afterText? close
  let index ← namedGroup? st (start.charsTo stop)
  let node ← reference? st index
  return (node, after)

/-- A reference by a number. The number is bounded by half the length of the whole text. -/
def numberedReference? (length : Nat) (st : ReadState) (here : Cursor) :
    Option (Node × Cursor) := do
  let (index, after) ← decimal? here
  if length / 2 ≤ index then none
  let node ← reference? st index
  return (node, after)

/-- A condition on words. It may not stand in front of a brace. The cursor is behind its letter. -/
def wordLook (st : ReadState) (holds : Place → Bool) (after : Cursor) : Option ReadState :=
  match skipBlanks st.mode after with
  | none => none
  | some further =>
    if further.rest.head? = some '\x7b' then none else some (st.push (.look .word holds) after)

/-- Reads an escape sequence outside of classes. The cursor is at the backslash. -/
def escape? (data : CharacterData) (length : Nat) (st : ReadState) : Option ReadState :=
  let here := st.here.skip
  let word := data.word
  match here.rest with
  | [] => none
  | c :: _ =>
    if c.isDigit then
      (numberedReference? length st here).map fun found =>
        { st.push found.1 found.2 with numbered := true }
    else
      match c with
      | 'k' =>
        let mark := if here.skip.rest.head? = some '\'' then (['\''], ['\'']) else (['<'], ['>'])
        (namedReference? data st mark.1 mark.2 here.skip).map fun found => st.push found.1 found.2
      | 'A' => some (st.push (.look .text Place.startsText) here.skip)
      | 'z' => some (st.push (.look .text Place.endsText) here.skip)
      | 'b' => wordLook st (Place.isWordEdge word) here.skip
      | 'B' => wordLook st (fun place => !place.isWordEdge word) here.skip
      | '<' => some (st.push (.look .word (Place.startsWord word)) here.skip)
      | '>' => some (st.push (.look .word (Place.endsWord word)) here.skip)
      | 'K' => some (st.push (.atomic .empty) here.skip)
      | 'G' => some (st.push (.atomic (.look .text Place.startsText)) here.skip)
      | _ =>
        match escaped? here with
        | none => none
        | some (.char c folded, after) =>
          let mode := { st.mode with ignoreCase := folded && st.mode.ignoreCase }
          some (st.push (charNode data mode c) after)
        | some (.spelled text folded, after) =>
          (classNode? data st.mode text folded).map fun node => st.push node after

/-- The flags behind another character, and whether they are being cleared. -/
def flagStep? (mode : Mode) (negated : Bool) (c : Char) : Option (Mode × Bool) :=
  match c with
  | '-' => if negated then none else some (mode, true)
  | 'u' => if negated then none else some (mode, false)
  | _ =>
    if ['i', 'm', 's', 'U', 'x'].contains c then
      (Regular.applyFlag mode (!negated) c).map fun mode => (mode, negated)
    else none

/-- Reads flags, with blanks and comments between them where the flags so far allow them. The answer
is the mode and the place of the character that ends the flags. They start at an offset. -/
def flags (start : Nat) (mode : Mode) (negated : Bool) (here : Cursor) : Option (Mode × Cursor) :=
  match skipBlanks mode here with
  | none => none
  | some stop =>
    let isBareSign := negated && stop.offset = start + 1
    match stop.rest with
    | [] => none
    | ')' :: _ => if stop.offset = start || isBareSign then none else some (mode, stop)
    | ':' :: _ => if isBareSign then none else some (mode, stop)
    | c :: _ =>
      match flagStep? mode negated c with
      | none => none
      | some (mode', negated') =>
        if stop.skip.rest.length < here.rest.length then flags start mode' negated' stop.skip
        else none
termination_by here.rest.length
decreasing_by assumption

/-- Reads flags and the character that ends them. The cursor is behind the question mark. -/
def openFlags (st : ReadState) (here : Cursor) : Option ReadState := do
  let (mode, stop) ← flags here.offset st.mode false here
  if stop.rest.head? = some ')' then return { st with mode }.push .empty stop.skip
  else return { st.enter (.plain st.mode) stop.skip with mode }

/-- Reads the name of a group, which opens it. The cursor is at the opening angle. -/
def openNamed (data : CharacterData) (st : ReadState) (here : Cursor) : Option ReadState := do
  let start ← here.afterText? ['<']
  let stop := afterName data start
  let after ← stop.afterText? ['>']
  let name := start.textTo stop
  if name.isEmpty then none
  let st := { st with count := st.count + 1, names := (name, st.count + 1) :: st.names }
  return st.enter (.capturing st.count) after

/-- Reads the condition of a conditional group, or its opening. The cursor is behind the second
parenthesis. -/
def openConditional (data : CharacterData) (length : Nat) (st : ReadState) (here : Cursor) :
    Option ReadState :=
  let withReference (found : Option (Node × Cursor)) : Option ReadState := do
    let (node, after) ← found
    let close ← skipBlanks st.mode after
    let body ← close.afterText? [')']
    match node with
    | .reference index => return st.enter (.conditional (.entered index) body.offset) body
    | _ => none
  match here.rest with
  | [] => none
  | c :: _ =>
    if c.isDigit then
      (withReference (numberedReference? length st here)).map ({ · with numbered := true })
    else if c = '\'' then withReference (namedReference? data st ['\''] ['\''] here)
    else if c = '<' then withReference (namedReference? data st ['<'] ['>'] here)
    else some (st.enter .condition here)

/-- The prefixes of groups that are neither flags nor names, with what they announce. -/
def groupPrefixes : List (List Char × GroupKind) :=
  [(['?', '='], .around true true), (['?', '!'], .around true false),
   (['?', '<', '='], .around false true), (['?', '<', '!'], .around false false),
   (['?', '>'], .atomic)]

/-- Reads an opening parenthesis with what belongs to it. -/
def openGroup (data : CharacterData) (length : Nat) (st : ReadState) : Option ReadState := do
  if nestLimit ≤ st.enclosing.length + 1 then none
  let here ← skipBlanks st.mode st.here.skip
  let announced := groupPrefixes.findSome? fun entry =>
    (here.afterText? entry.1).map fun after => st.enter entry.2 after
  match announced with
  | some st' => return st'
  | none =>
    match here.rest with
    | '?' :: '<' :: _ => openNamed data st here.skip
    | '?' :: 'P' :: '<' :: _ => openNamed data st here.skip.skip
    | '?' :: 'P' :: '=' :: _ =>
      let (node, after) ← namedReference? data st [] [')'] here.skip.skip.skip
      return st.push node after
    | '?' :: '(' :: _ =>
      openConditional data length st here.skip.skip
    | '?' :: _ => openFlags st here.skip
    | _ =>
      let st := { st with count := st.count + 1 }
      return st.enter (.capturing st.count) here

/-- The node of a conditional group. An empty body leaves the condition alone, which must then be
about a group. -/
def conditional? (condition body : Node) (isBare : Bool) : Option Node :=
  let (yes, no) :=
    match body with
    | .choice [yes, no] => (yes, no)
    | .choice (yes :: others) => (yes, .choice others)
    | yes => (yes, .empty)
  if isBare then
    match condition with
    | .entered index => some (.entered index)
    | _ => none
  else if yes.isEmpty && no.isEmpty then some condition
  else some (.conditional condition yes no)

/-- Reads a closing parenthesis. -/
def closeGroup (st : ReadState) : Option ReadState := do
  let body ← st.level?
  let opened ← st.enclosing.head?
  let after := st.here.skip
  let outer : ReadState :=
    { st with
      here := after
      enclosing := st.enclosing.tail
      branches := opened.branches
      items := opened.items
      atom := none }
  match opened.kind with
  | .capturing index => return outer.push (.group index body) after
  | .plain mode => return { outer with mode }.push body after
  | .atomic => return outer.push (.atomic body) after
  | .around ahead wanted => return outer.push (.around ahead wanted body) after
  | .condition =>
    let condition : Node :=
      match body with
      | .reference index => .entered index
      | _ => body
    return outer.enter (.conditional condition after.offset) after
  | .conditional condition start =>
    let node ← conditional? condition body (st.here.offset = start)
    return outer.push node after

/-- Reads a bar. -/
def nextBranch (st : ReadState) : ReadState :=
  let st := st.settle
  { st with
    here := st.here.skip
    branches := Node.ofItems st.items.reverse :: st.branches
    items := [] }

/-- Repeats an atom: the operator may be marked lazy, and then possessive. -/
def repeatAtom (st : ReadState) (atom : Node) (least : Nat) (most : Option Nat) (after : Cursor) :
    Option ReadState := do
  if !atom.isRepeatable then none
  let here ← skipBlanks st.mode after
  let isLazy := here.rest.head? = some '?'
  let here := if isLazy then here.skip else here
  let node : Node := .repeated st.repetitions least most (isLazy = st.mode.swapGreed) atom
  let possessive := here.rest.head? = some '+'
  return { st with
    here := if possessive then here.skip else here
    repetitions := st.repetitions + 1
    atom := none
    items := (if possessive then .atomic node else node) :: st.items }

/-- Reads a character that stands for itself. -/
def literal (data : CharacterData) (st : ReadState) (c : Char) : ReadState :=
  st.push (charNode data st.mode c) st.here.skip

/-- Reads the construct that starts with the character `c`. -/
def readStep (data : CharacterData) (length : Nat) (st : ReadState) (c : Char) :
    Option ReadState :=
  match c, st.atom with
  | '?', some atom => repeatAtom st atom 0 (some 1) st.here.skip
  | '*', some atom => repeatAtom st atom 0 none st.here.skip
  | '+', some atom => repeatAtom st atom 1 none st.here.skip
  | '?', none | '*', none | '+', none => none
  | '\x7b', some atom =>
    match count? st.mode st.here with
    | some (least, most, after) => repeatAtom st atom least most after
    | none => some (literal data st c)
  | '(', _ => openGroup data length st
  | ')', _ => closeGroup st
  | '|', _ => some (nextBranch st)
  | '[', _ => do
    let (text, after) ← bracketed? st.here
    let node ← classNode? data st.mode text true
    return st.push node after
  | '\\', _ => escape? data length st
  | '.', _ => some (st.push (dotNode st.mode) st.here.skip)
  | '^', _ => some (st.push (.look (anchorSubject st.mode) st.mode.lineStart) st.here.skip)
  | '$', _ => some (st.push (.look (anchorSubject st.mode) st.mode.lineEnd) st.here.skip)
  | _, _ => some (literal data st c)

/-- Reads constructs until the text ends. A step that does not move on is refused. -/
def readAll (data : CharacterData) (length : Nat) (st : ReadState) : Option ReadState :=
  match skipBlanks st.mode st.here with
  | none => none
  | some start =>
    match start.rest with
    | [] => some { st with here := start }
    | c :: _ =>
      match readStep data length { st with here := start } c with
      | none => none
      | some st' =>
        if st'.here.rest.length < st.here.rest.length then readAll data length st' else none
termination_by st.here.rest.length

end Search

/-- The node of a text in the notation of the backtracking engine. -/
def Node.read? (data : CharacterData) (text : String) : Option Node :=
  match Search.readAll data text.utf8ByteSize { here := .ofText text.toList } with
  | none => none
  | some st => if st.enclosing.isEmpty then st.level? else none

end PatternForge
