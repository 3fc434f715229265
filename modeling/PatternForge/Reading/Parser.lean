import PatternForge.Reading.ClassSet
import PatternForge.Reading.GroupPrefix
import PatternForge.Reading.Repeat

/-!
Reading a pattern. The reader is a machine that looks at one construct at a time and keeps the
groups that are still open on a stack. `Parser.step` reads one construct, `Parser.run` all of them,
and `Settings.parse` gives the finished tree. Each step moves the cursor forward
(`step_shorter`), so the machine always ends.
-/
namespace PatternForge

/-- A group that is still open, with what was read around it so far. -/
structure OpenGroup where
  /-- The offset of its parenthesis. -/
  start : Nat
  /-- Its number and name, if it has a number. -/
  capture : Option (Nat × Option String)
  /-- The flags that hold again behind it. -/
  outer : Flags
  /-- The finished branches around it, latest first. -/
  branches : List Pattern
  /-- The items before it in its branch, latest first. -/
  items : List Pattern

/-- The pattern of a closed group around its body. -/
def OpenGroup.close (opened : OpenGroup) (body : Pattern) : Pattern :=
  match opened.capture with
  | none => body
  | some (index, name) => .group index name body

/-- The body of some branches, the last of which is still a list of items; both latest first. -/
def Pattern.ofLevel (branches items : List Pattern) : Pattern :=
  .choice ((.concat items.reverse :: branches).reverse)

namespace Parser

/-- Where the reader stands. -/
structure State where
  /-- The place in the pattern. -/
  here : Cursor
  /-- The flags that hold here. -/
  flags : Flags
  /-- The number of numbered groups opened so far. -/
  count : Nat := 0
  /-- The numbers of the groups closed so far. -/
  closed : List Nat := []
  /-- The group names used so far. -/
  names : List String := []
  /-- The open groups, innermost first. -/
  enclosing : List OpenGroup := []
  /-- The finished branches of the innermost level, latest first. -/
  branches : List Pattern := []
  /-- The items of its current branch, latest first. -/
  items : List Pattern := []

/-- The state at the start of a pattern. -/
def State.initial (s : Settings) (text : List Char) : State :=
  { here := .ofText text, flags := s.flags }

/-- What an escape sequence or class depends on here. -/
def State.context (s : Settings) (st : State) : Escape.Context :=
  { settings := s, flags := st.flags, closed := st.closed }

/-- Puts an item behind the others and goes on at another place. -/
def State.push (st : State) (item : Pattern) (after : Cursor) : State :=
  { st with here := after, items := item :: st.items }

/-- Opens a group whose body starts at a place, unless groups nest too deep already. -/
def State.enter (s : Settings) (st : State) (capture : Option (Nat × Option String))
    (flags : Flags) (after : Cursor) : Except Failure State :=
  if s.nestLimit < st.enclosing.length + 1 then .error (.malformed after.offset .tooMuchNesting)
  else
    .ok { st with
      here := after
      flags
      enclosing :=
        { start := st.here.offset, capture, outer := st.flags, branches := st.branches,
          items := st.items } :: st.enclosing
      branches := []
      items := [] }

/-- Reads an opening parenthesis with its prefix. -/
def State.openGroup (s : Settings) (st : State) : Except Failure State :=
  match GroupPrefix.read s.data st.flags st.names st.here with
  | .error failure => .error failure
  | .ok (.directive flags, close) => .ok { st with here := close.skip, flags }
  | .ok (.flagged flags, after) => st.enter s none flags after
  | .ok (.capturing name, after) =>
    { st with count := st.count + 1, names := name.toList ++ st.names }.enter s
      (some (st.count + 1, name)) st.flags after

/-- Reads a closing parenthesis. -/
def State.closeGroup (st : State) : Except Failure State :=
  match st.enclosing with
  | [] => .error (.malformed st.here.offset .unopenedGroup)
  | opened :: outer =>
    .ok { st with
      here := st.here.skip
      flags := opened.outer
      closed := (opened.capture.map (·.1)).toList ++ st.closed
      enclosing := outer
      branches := opened.branches
      items := opened.close (.ofLevel st.branches st.items) :: opened.items }

/-- Reads a bar. -/
def State.nextBranch (st : State) : State :=
  { st with here := st.here.skip, branches := .concat st.items.reverse :: st.branches, items := [] }

/-- Reads a repetition operator, which takes the last item. -/
def State.repeatLast (s : Settings) (st : State) (c : Char) : Except Failure State :=
  match st.items with
  | [] =>
    .error (.malformed st.here.offset
      (if c = '\x7b' then .nothingToRepeatCounted else .nothingToRepeat))
  | item :: earlier =>
    match Repeat.read s.data st.flags st.here c with
    | .error failure => .error failure
    | .ok (bounds, after) =>
      .ok { st with here := after, items := .repetition bounds item :: earlier }

/-- Puts a leaf that was read behind the other items. -/
def State.pushRead (st : State) (read : Except Failure (Pattern × Cursor)) : Except Failure State :=
  match read with
  | .error failure => .error failure
  | .ok (leaf, after) => .ok (st.push leaf after)

/-- Reads the construct that starts with the character `c`. -/
def step (s : Settings) (st : State) (c : Char) : Except Failure State :=
  match c with
  | '(' => st.openGroup s
  | ')' => st.closeGroup
  | '|' => .ok st.nextBranch
  | '[' => st.pushRead (ClassSet.read (st.context s) st.here)
  | '?' | '*' | '+' | '\x7b' => st.repeatLast s c
  | '\\' => st.pushRead (Escape.read (st.context s) st.here st.here.skip)
  | '.' => .ok (st.push (s.dotPattern st.flags) st.here.skip)
  | '^' => .ok (st.push (.anchor .start) st.here.skip)
  | '$' => .ok (st.push (.anchor .finish) st.here.skip)
  | _ => .ok (st.push (s.charPattern st.flags c) st.here.skip)

theorem reaches_enter {s : Settings} {st st' : State} {capture : Option (Nat × Option String)}
    {flags : Flags} {after : Cursor} (entered : st.enter s capture flags after = .ok st') :
    st'.here = after := by
  unfold State.enter at entered
  split at entered <;> cases entered
  rfl

theorem reaches_openGroup {s : Settings} {st st' : State} (read : st.openGroup s = .ok st') :
    st.here.skip.Reaches st'.here := by
  unfold State.openGroup at read
  split at read
  · cases read
  · rename_i close isPrefix
    cases read
    exact (GroupPrefix.reaches_read isPrefix).trans (Cursor.reaches_skip _)
  · rename_i after isPrefix
    rw [reaches_enter read]
    exact GroupPrefix.reaches_read isPrefix
  · rename_i after isPrefix
    rw [reaches_enter read]
    exact GroupPrefix.reaches_read isPrefix

theorem reaches_pushRead {st st' : State} {read : Except Failure (Pattern × Cursor)}
    {from' : Cursor} (moved : ∀ leaf after, read = .ok (leaf, after) → from'.Reaches after)
    (pushed : st.pushRead read = .ok st') : from'.Reaches st'.here := by
  unfold State.pushRead at pushed
  split at pushed <;> cases pushed
  exact moved _ _ rfl

theorem reaches_step {s : Settings} {st st' : State} {c : Char} (stepped : step s st c = .ok st') :
    st.here.skip.Reaches st'.here := by
  unfold step at stepped
  split at stepped
  case h_1 => exact reaches_openGroup stepped
  case h_2 =>
    unfold State.closeGroup at stepped
    split at stepped <;> cases stepped
    exact Cursor.Reaches.refl _
  case h_3 => cases stepped; exact Cursor.Reaches.refl _
  case h_4 => exact reaches_pushRead (fun _ _ read => ClassSet.reaches_read read) stepped
  case h_9 => exact reaches_pushRead (fun _ _ read => Escape.reaches_read read) stepped
  case h_10 => cases stepped; exact Cursor.Reaches.refl _
  case h_11 => cases stepped; exact Cursor.Reaches.refl _
  case h_12 => cases stepped; exact Cursor.Reaches.refl _
  case h_13 => cases stepped; exact Cursor.Reaches.refl _
  all_goals
    unfold State.repeatLast at stepped
    split at stepped
    · cases stepped
    · split at stepped
      · cases stepped
      · rename_i bounds after isRepeat
        cases stepped
        exact Repeat.reaches_read isRepeat

theorem step_shorter {s : Settings} {st st' : State} {c : Char} {rest : List Char}
    (next : st.here.rest = c :: rest) (stepped : step s st c = .ok st') :
    st'.here.rest.length < st.here.rest.length :=
  Cursor.Reaches.length_lt next (reaches_step stepped)

/-- Reads constructs until the pattern ends. -/
def run (s : Settings) (st : State) : Except Failure State :=
  match _next : st.here.rest with
  | [] => .ok st
  | c :: _ =>
    match _stepped : step s st c with
    | .error failure => .error failure
    | .ok st' => run s st'
termination_by st.here.rest.length
decreasing_by exact step_shorter _next _stepped

/-- The tree of a state at the end of the pattern. -/
def State.tree (st : State) : Except Failure Pattern :=
  match st.enclosing with
  | opened :: _ => .error (.malformed opened.start .unclosedGroup)
  | [] => .ok (.ofLevel st.branches st.items)

end Parser

/-- Reads a pattern. Operators can be stacked without opening groups, so the depth of the finished
tree is checked as well. -/
def Settings.parse (s : Settings) (text : String) : Except Failure Pattern :=
  match Parser.run s (.initial s text.toList) with
  | .error failure => .error failure
  | .ok st =>
    match st.tree with
    | .error failure => .error failure
    | .ok tree =>
      if tree.nestedWithin s.nestLimit then .ok tree
      else .error (.malformed 0 .tooMuchNesting)

/-- Reads a pattern under the default settings. -/
def Pattern.parse (text : String) : Except Failure Pattern := ({} : Settings).parse text

end PatternForge
