import PatternForge.Proofs.Descent.Classes
import PatternForge.Proofs.Descent.Operators
import PatternForge.Proofs.Descent.Prefixes
import PatternForge.Proofs.Pattern.Nodes
import PatternForge.Proofs.RoundTrip.Moves

/-!
Levels of groups, read by recursive descent. A level is a list of branches, each a list of items; a group
contains a level, and the pattern is the outermost one. `constructs` reads what is left of a level and calls
itself for the groups in it, so the stack of the machine in `Parser` is its own stack of calls. `Follows` is
the invariant between the registers and a state of the machine, and `constructs_ends` carries it through a
level: it stops as the machine does, or both come to the end of the level. From that the whole reading
answers as the machine does, and no part of it is a fault (`parse_eq`).
-/
namespace PatternForge.Descent

variable (input : Input)

/-- Goes one level down, and says how many levels were there before. -/
def descend : Act Nat := do
  let r ← get
  if input.settings.nestLimit < r.depth then fail (.malformed r.pos .tooMuchNesting)
  else if fits (r.depth + 1) then
    modify fun r => { r with depth := r.depth + 1 }
    pure r.depth
  else fault .overflow

/-- Goes one level up. -/
def ascend : Act Unit := do
  let r ← get
  if r.depth = 0 then fault .underflow else modify fun r => { r with depth := r.depth - 1 }

/-- Wraps what a group encloses, and takes down that the group is closed. -/
def wrap (capture : Option (Nat × Option String)) (body : Pattern) : Act Pattern :=
  match capture with
  | none => pure body
  | some (index, name) => do
    modify fun r => { r with closed := r.closed.set index true }
    pure (.group index name body)

/-- Goes on behind the closing parenthesis of a group, or of flags, that an offset opens. -/
def closing (start : Nat) : Act Unit := do
  if (← get).char = some ')' then discard (bump input.text)
  else fail (.malformed start .unclosedGroup)

/-- An item that is neither a group nor a class. -/
def leaf : Act Pattern := do
  let start ← offset
  let c ← current
  discard (bump input.text)
  if c = '\\' then escape input start
  else if c = '.' then
    let flags ← flags
    check (input.dotLeaf flags)
  else if c = '^' then pure (.anchor .start)
  else if c = '$' then pure (.anchor .finish)
  else singleLeaf input c

/-- Reads the branches of a group or of the pattern, the constructs by a reader for a depth. -/
def level (read : Nat → Act Pattern) : Act Pattern := do
  let depth ← descend input
  let body ← read depth
  ascend
  pure body

/-- Reads a group from its opening parenthesis on, up to its closing one. -/
def group (read : Nat → Act Pattern) : Act (Option Pattern) := do
  match ← opening input with
  | .directive => pure none
  | .group capture =>
    let body ← level input read
    some <$> wrap capture body

/-- Reads constructs up to the end of a level. `branches` holds its finished branches and `items` the items
of the current one, both latest first. -/
def constructs (depth : Nat) (branches items : List Pattern) : Nat → Act Pattern
  | 0 => fault .endless
  | rounds + 1 => do
    if ← isDone input.text then pure (.ofLevel branches items)
    else
      let c ← current
      if c = '(' then
        let start ← offset
        let outer ← flags
        match ← group input (constructs · [] [] rounds) with
        | none =>
          closing input start
          constructs depth branches items rounds
        | some body =>
          setFlags outer
          closing input start
          constructs depth branches (body :: items) rounds
      else if c = ')' then
        if depth = 0 then fail (.malformed (← offset) .unopenedGroup)
        else pure (.ofLevel branches items)
      else if c = '|' then
        discard (bump input.text)
        constructs depth (.concat items.reverse :: branches) [] rounds
      else if c = '[' then
        let cls ← bracketed input
        constructs depth branches (cls :: items) rounds
      else if c = '?' ∨ c = '*' ∨ c = '+' then
        let items ← uncounted input items
        constructs depth branches items rounds
      else if c = '\x7b' then
        let items ← counted input items
        constructs depth branches items rounds
      else
        let item ← leaf input
        constructs depth branches (item :: items) rounds

mutual

/-- Whether no node at or below one at a depth lies deeper than a limit. Depths are counted in 32 bits. -/
def nests (limit depth : Nat) (p : Pattern) : Bool :=
  depth ≤ limit && fits (depth + 1) &&
    match p with
    | .literal _ | .oneOf _ | .anchor _ | .backreference _ => true
    | .sequence items => nestAll limit (depth + 1) items
    | .alternation branches => nestAll limit (depth + 1) branches
    | .repetition _ body => nests limit (depth + 1) body
    | .group _ _ body => nests limit (depth + 1) body

def nestAll (limit depth : Nat) (ps : List Pattern) : Bool :=
  match ps with
  | [] => true
  | p :: rest => nests limit depth p && nestAll limit depth rest

end

/-- Reads a pattern. -/
def parse : Except Stop Pattern :=
  match level input (constructs input · [] [] input.rounds)
      { pos := 0, char := input.text.head?, flags := input.settings.flags } with
  | .error stop => .error stop
  | .ok (tree, _) =>
    if nests input.settings.nestLimit 0 tree then .ok tree
    else .error (.failure (.malformed 0 .tooMuchNesting))

/-! ### Levels are read as by the machine -/

open PatternForge.Parser (State run step run_of_step run_of_end)

variable {input}

/-- The registers, the place apart, stand where a state of the machine stands whose level is being read. -/
structure Follows (input : Input) (r : Registers) (st : State) : Prop where
  within : st.here.Within input.text
  flags : r.flags = st.flags
  names : r.names = st.names
  count : r.count = st.count
  depth : r.depth = st.enclosing.length + 1
  /-- The table says which groups are closed. -/
  closed : ∀ index, (r.closed[index]?).getD false = st.closed.contains index
  length : r.closed.length = st.count + 1
  /-- Every open group has its entry in the table. -/
  tabled : ∀ opened ∈ st.enclosing, ∀ index name,
    opened.capture = some (index, name) → index ≤ st.count
  /-- Each group took a character of its own. -/
  few : st.count + st.here.rest.length ≤ input.text.length
  shallow : st.enclosing.length ≤ input.settings.nestLimit

/-- What the machine answers from a state on. -/
def finish (s : Settings) (st : State) : Except Failure Pattern :=
  match run s st with
  | .error failure => .error failure
  | .ok last => last.tree

/-- The outcome of reading the rest of a level from a state on: it refuses as the machine does, or it comes
to where the level ends, which is a state that the machine comes to as well. -/
inductive Ends (input : Input) (st : State) (outcome : Outcome Pattern) : Prop where
  | refused (failure : Failure) (stops : outcome = .error (.failure failure))
      (same : finish input.settings st = .error failure)
  | done (last : State) (r : Registers)
      (comes : outcome = .ok (.ofLevel last.branches last.items, r.at last.here))
      (same : run input.settings st = run input.settings last)
      (follows : Follows input r last) (level : last.enclosing = st.enclosing)
      (forward : last.here.rest.length ≤ st.here.rest.length)
      (atEnd : last.here.rest = [] ∨ st.enclosing ≠ [] ∧ ∃ rest, last.here.rest = ')' :: rest)

variable {r : Registers} {st st' : State} {here : Cursor} {c : Char} {rest : List Char} {rounds : Nat}

theorem finish_of_refused (next : st.here.rest = c :: rest) {failure : Failure}
    (refused : step input.settings st c = .error failure) :
    finish input.settings st = .error failure := by
  rw [finish, Parser.run_of_refused next refused]

theorem Ends.of_run {outcome : Outcome Pattern} (same : run input.settings st = run input.settings st')
    (level : st'.enclosing = st.enclosing) (forward : st'.here.rest.length ≤ st.here.rest.length)
    (ends : Ends input st' outcome) : Ends input st outcome := by
  cases ends with
  | refused failure stops same' =>
    refine .refused failure stops ?_
    rw [finish, same]
    exact same'
  | done last r comes same' follows level' forward' atEnd =>
    exact .done last r comes (same.trans same') follows (level'.trans level) (Nat.le_trans forward' forward)
      (level ▸ atEnd)

/-- The outcome of reading the items behind one, as the machine puts it there. -/
theorem Ends.of_refused {outcome : Outcome Pattern} {failure : Failure}
    (next : st.here.rest = c :: rest) (refused : step input.settings st c = .error failure)
    (stops : outcome = .error (.failure failure)) : Ends input st outcome :=
  .refused failure stops (finish_of_refused next refused)

theorem Follows.fits (follows : Follows input r st) : r.Fits input (st.context input.settings) where
  settings := rfl
  flags := follows.flags.symm
  closed := follows.closed

/-- Items that leave the groups alone. -/
theorem Follows.move (follows : Follows input r st) {here : Cursor} (reaches : st.here.Reaches here)
    (branches items : List Pattern) :
    Follows input r { st with here, branches, items } where
  within := follows.within.on reaches
  flags := follows.flags
  names := follows.names
  count := follows.count
  depth := follows.depth
  closed := follows.closed
  length := follows.length
  tabled := follows.tabled
  few := Nat.le_trans (Nat.add_le_add_left reaches.length_le _) follows.few
  shallow := follows.shallow

/-- What the leaf that starts with a character is. -/
private def leaf? (s : Settings) (st : State) (c : Char) : Except Failure (Pattern × Cursor) :=
  if c = '\\' then Escape.read (st.context s) st.here st.here.skip
  else if c = '.' then .ok (s.dotPattern st.flags, st.here.skip)
  else if c = '^' then .ok (.anchor .start, st.here.skip)
  else if c = '$' then .ok (.anchor .finish, st.here.skip)
  else .ok (s.charPattern st.flags c, st.here.skip)

theorem leaf_at (follows : Follows input r st) (next : st.here.rest = c :: rest) :
    leaf input (r.at st.here) = answer r (leaf? input.settings st c) := by
  have span : Span input.text st.here st.here.skip := ⟨follows.within, Cursor.reaches_skip st.here⟩
  simp only [leaf, leaf?, bind_apply, offset_at, andThen_ok, current_at next, discard_apply,
    bump_at follows.within, pure_apply, ite_act, flags_at, dotLeaf_eq, check_ok, singleLeaf_at,
    escape_at follows.fits span, follows.flags, apply_ite (answer r), answer_ok]

theorem step_leaf (notOpen : c ≠ '(') (notClose : c ≠ ')') (notBar : c ≠ '|') (notClass : c ≠ '[')
    (notPlain : ¬(c = '?' ∨ c = '*' ∨ c = '+')) (notCount : c ≠ '\x7b') (s : Settings) :
    step s st c = st.pushRead (leaf? s st c) := by
  unfold step leaf?
  split <;> simp_all [State.pushRead]

/-- The outcome of putting an operator on the latest item of a state. -/
private def answerItems (r : Registers) (found : Except Failure State) : Outcome (List Pattern) :=
  match found with
  | .error failure => .error (.failure failure)
  | .ok st => .ok (st.items, r.at st.here)

theorem uncounted_items (follows : Follows input r st) (next : st.here.rest = c :: rest)
    (isPlain : c = '?' ∨ c = '*' ∨ c = '+') :
    uncounted input st.items (r.at st.here) = answerItems r (st.repeatLast input.settings c) := by
  have span : Span input.text st.here st.here := ⟨follows.within, Cursor.Reaches.refl st.here⟩
  unfold State.repeatLast
  cases st.items with
  | nil => rcases isPlain with rfl | rfl | rfl <;> rfl
  | cons item earlier =>
    have taken : uncounted input (item :: earlier) (r.at st.here) =
        answerRepeated r item earlier (Repeat.read input.settings.data st.flags st.here c) := by
      rcases isPlain with rfl | rfl | rfl <;>
        rw [uncounted_at span next rfl, follows.flags, Repeat.read]
    rw [taken]
    cases Repeat.read input.settings.data st.flags st.here c <;> rfl

theorem counted_items (follows : Follows input r st) (next : st.here.rest = '\x7b' :: rest) :
    counted input st.items (r.at st.here) = answerItems r (st.repeatLast input.settings '\x7b') := by
  have span : Span input.text st.here st.here := ⟨follows.within, Cursor.Reaches.refl st.here⟩
  unfold State.repeatLast
  cases st.items with
  | nil => simp [counted, current_at next, answerItems]
  | cons item earlier =>
    have taken : counted input (item :: earlier) (r.at st.here) =
        answerRepeated r item earlier (Repeat.read input.settings.data st.flags st.here '\x7b') := by
      rw [counted_at span next, follows.flags]
      rfl
    rw [taken]
    cases Repeat.read input.settings.data st.flags st.here '\x7b' <;> rfl

/-- From every state with less ahead, the rest of the level is read as by the machine in some rounds. -/
def Further (input : Input) (rounds : Nat) (st : State) : Prop :=
  ∀ (st' : State) (r' : Registers), Follows input r' st' →
    st'.here.rest.length < st.here.rest.length →
    Ends input st'
      (constructs input st'.enclosing.length st'.branches st'.items rounds (r'.at st'.here))

/-- Where a step of the machine stays on its level, the level goes on behind it. -/
private theorem Further.step (further : Further input rounds st) (next : st.here.rest = c :: rest)
    (stepped : step input.settings st c = .ok st') {r' : Registers} (follows : Follows input r' st')
    (level : st'.enclosing = st.enclosing) :
    Ends input st
      (constructs input st.enclosing.length st'.branches st'.items rounds (r'.at st'.here)) := by
  have shorter := Parser.step_shorter next stepped
  have ends := further st' r' follows shorter
  rw [level] at ends
  exact ends.of_run (run_of_step next stepped) level (Nat.le_of_lt shorter)

private theorem Further.push (further : Further input rounds st) (follows : Follows input r st)
    (next : st.here.rest = c :: rest) {found : Except Failure (Pattern × Cursor)}
    (reads : Parser.step input.settings st c = st.pushRead found) :
    Ends input st
      (andThen (answer r found) fun item =>
        constructs input st.enclosing.length st.branches (item :: st.items) rounds) := by
  cases found with
  | error failure => exact .of_refused next reads rfl
  | ok pair =>
    obtain ⟨item, after⟩ := pair
    have stepped : Parser.step input.settings st c = .ok (st.push item after) := reads
    have moved := (Cursor.reaches_skip st.here).trans (Parser.reaches_step stepped)
    exact further.step next stepped (follows.move moved st.branches (item :: st.items)) rfl

private theorem Further.repeat (further : Further input rounds st) (follows : Follows input r st)
    (next : st.here.rest = c :: rest)
    (reads : Parser.step input.settings st c = st.repeatLast input.settings c) :
    Ends input st
      (andThen (answerItems r (st.repeatLast input.settings c)) fun items =>
        constructs input st.enclosing.length st.branches items rounds) := by
  cases repeated : st.repeatLast input.settings c with
  | error failure => exact .of_refused next (reads.trans repeated) rfl
  | ok st' =>
    have stepped := reads.trans repeated
    have moved := (Cursor.reaches_skip st.here).trans (Parser.reaches_step stepped)
    have kept : st' = { st with here := st'.here, items := st'.items } := by
      unfold State.repeatLast at repeated
      split at repeated
      · cases repeated
      · split at repeated <;> cases repeated
        rfl
    have follows' := follows.move moved st.branches st'.items
    rw [← kept] at follows'
    have ends := further.step next stepped follows' (by rw [kept])
    rw [show st'.branches = st.branches by rw [kept]] at ends
    exact ends

private theorem Follows.setFlags (follows : Follows input r st) (flags : Flags) :
    Follows input { r with flags } { st with flags } :=
  { follows with flags := rfl }

/-- The state in the group that a state opens. -/
private theorem Follows.enter (follows : Follows input r st) (opened : OpenGroup)
    (shallow : st.enclosing.length + 1 ≤ input.settings.nestLimit)
    (known : ∀ index name, opened.capture = some (index, name) → index ≤ st.count) :
    Follows input { r with depth := r.depth + 1 }
      { st with enclosing := opened :: st.enclosing, branches := [], items := [] } where
  within := follows.within
  flags := follows.flags
  names := follows.names
  count := follows.count
  depth := by rw [follows.depth]; rfl
  closed := follows.closed
  length := follows.length
  tabled := List.forall_mem_cons.mpr ⟨known, follows.tabled⟩
  few := follows.few
  shallow := shallow

/-- The registers behind a group. -/
private def Registers.leave (r : Registers) (capture : Option (Nat × Option String)) (outer : Flags) :
    Registers :=
  { r with
    depth := r.depth - 1
    flags := outer
    closed := capture.elim r.closed fun group => r.closed.set group.1 true }

private theorem Follows.leave {opened : OpenGroup} {outer : List OpenGroup}
    (follows : Follows input r st) (inside : st.enclosing = opened :: outer) {here : Cursor}
    (reaches : st.here.Reaches here) (branches items : List Pattern) :
    Follows input (r.leave opened.capture opened.outer)
      { st with
        here
        flags := opened.outer
        closed := (opened.capture.map (·.1)).toList ++ st.closed
        enclosing := outer
        branches
        items } where
  within := follows.within.on reaches
  flags := rfl
  names := follows.names
  count := follows.count
  depth := by
    have depth := follows.depth
    rw [inside, List.length_cons] at depth
    rw [Registers.leave, depth]
    rfl
  closed index := by
    have known := follows.tabled opened (inside ▸ List.mem_cons_self ..)
    cases isCapture : opened.capture with
    | none => exact follows.closed index
    | some group =>
      have inTable : group.1 < r.closed.length := by
        rw [follows.length]
        exact Nat.lt_succ_of_le (known group.1 group.2 isCapture)
      simp only [Registers.leave, Option.elim_some, List.getElem?_set, Option.map_some,
        Option.toList_some, List.singleton_append, List.contains_cons, ← follows.closed index]
      by_cases same : group.1 = index
      · subst same
        simp [inTable]
      · simp [same, Ne.symm same]
  length := by
    cases isCapture : opened.capture with
    | none => exact follows.length
    | some group =>
      rw [Registers.leave, Option.elim_some, List.length_set]
      exact follows.length
  tabled other member := follows.tabled other (inside ▸ List.mem_cons_of_mem opened member)
  few := Nat.le_trans (Nat.add_le_add_left reaches.length_le _) follows.few
  shallow := by
    have shallow := follows.shallow
    rw [inside, List.length_cons] at shallow
    exact Nat.le_of_succ_le shallow

theorem closing_at (within : here.Within input.text) (start : Nat) :
    closing input start (r.at here) =
      if here.rest.head? = some ')' then .ok ((), r.at here.skip)
      else .error (.failure (.malformed start .unclosedGroup)) := by
  simp only [closing, bind_apply, get_apply, andThen_ok, ite_act, discard_apply, bump_at within,
    pure_apply, fail_apply]
  rfl

theorem descend_at (deep : r.depth ≤ input.settings.nestLimit)
    (small : fits (input.settings.nestLimit + 1) = true) :
    descend input (r.at here) = .ok (r.depth, { r with depth := r.depth + 1 }.at here) := by
  have fit : fits (r.depth + 1) = true := by
    simp only [fits, decide_eq_true_eq] at small ⊢
    omega
  simp only [descend, bind_apply, get_apply, andThen_ok, depth_of_at, Nat.not_lt.mpr deep,
    ↓reduceIte, fit, modify_apply, pure_apply]
  rfl

theorem ascend_at {n : Nat} (depth : r.depth = n + 1) :
    ascend (r.at here) = .ok ((), { r with depth := r.depth - 1 }.at here) := by
  simp only [ascend, bind_apply, get_apply, andThen_ok, depth_of_at, depth,
    Nat.add_eq_zero_iff, Nat.one_ne_zero, and_false, ↓reduceIte, modify_apply]
  rfl

/-- What a level does behind the body of a group. -/
private def behind (input : Input) (rounds : Nat) (st : State)
    (capture : Option (Nat × Option String)) (body : Pattern) : Act Pattern := do
  let item ← wrap capture body
  setFlags st.flags
  closing input st.here.offset
  constructs input st.enclosing.length st.branches (item :: st.items) rounds

/-- Behind the body of a group the registers are put back, and the closing parenthesis has to follow. -/
private theorem behind_at (within : here.Within input.text) (capture : Option (Nat × Option String))
    (body : Pattern) :
    behind input rounds st capture body ({ r with depth := r.depth - 1 }.at here) =
      if here.rest.head? = some ')' then
        constructs input st.enclosing.length st.branches
          (capture.elim body (fun group => .group group.1 group.2 body) :: st.items) rounds
          ((r.leave capture st.flags).at here.skip)
      else .error (.failure (.malformed st.here.offset .unclosedGroup)) := by
  unfold behind wrap
  cases capture with
  | none =>
    simp only [bind_apply, pure_apply, andThen_ok, setFlags_at, closing_at within]
    split <;> rfl
  | some group =>
    have closed : (modify fun r => { r with closed := r.closed.set group.1 true } : Act Unit)
        ({ r with depth := r.depth - 1 }.at here) =
          .ok ((),
            { r with depth := r.depth - 1, closed := r.closed.set group.1 true }.at here) := rfl
    simp only [bind_apply, closed, pure_apply, andThen_ok, setFlags_at, closing_at within]
    split <;> rfl

/-- The group that a state opens. -/
private def opens (st : State) (capture : Option (Nat × Option String)) : OpenGroup :=
  { start := st.here.offset, capture, outer := st.flags, branches := st.branches, items := st.items }

/-- From inside a group, the body of the group is read as by the machine, and then what follows on the level
around it. -/
private theorem enclosed_body (further : Further input rounds st) {capture : Option (Nat × Option String)}
    (same : run input.settings st = run input.settings st')
    (inside : st'.enclosing = opens st capture :: st.enclosing)
    (forward : st'.here.rest.length ≤ st.here.rest.length) {outcome : Outcome Pattern}
    (ends : Ends input st' outcome) :
    Ends input st
      (andThen (andThen outcome fun body => do ascend; pure body) (behind input rounds st capture)) := by
  cases ends with
  | refused failure stops refuses =>
    exact .refused failure (by rw [stops]; rfl) (by rw [finish, same]; exact refuses)
  | done last r comes same' follows level forward' atEnd =>
    rw [inside] at level
    have toLast := same.trans same'
    have depth := follows.depth
    rw [level, List.length_cons] at depth
    simp only [comes, andThen_ok, bind_apply, ascend_at depth, pure_apply, behind_at follows.within]
    rcases atEnd with none | ⟨-, rest, next⟩
    · have unclosed : finish input.settings st =
          .error (.malformed st.here.offset .unclosedGroup) := by
        rw [finish, toLast, run_of_end none]
        simp only [State.tree, level]
        rfl
      exact .refused _ (by rw [none]; rfl) unclosed
    · have stepped : step input.settings last ')' = .ok
          { last with
            here := last.here.skip
            flags := st.flags
            closed := (capture.map (·.1)).toList ++ last.closed
            enclosing := st.enclosing
            branches := st.branches
            items := (opens st capture).close (.ofLevel last.branches last.items) :: st.items } := by
        simp only [step, State.closeGroup, level]
        rfl
      have goesOn := further _ _
        (follows.leave level (Cursor.reaches_skip last.here) st.branches
          ((opens st capture).close (.ofLevel last.branches last.items) :: st.items))
        (Nat.lt_of_lt_of_le (Cursor.length_skip_lt next) (Nat.le_trans forward' forward))
      have ends : Ends input st _ := goesOn.of_run (toLast.trans (run_of_step next stepped)) rfl
        (Nat.le_trans (Cursor.length_skip_le last.here) (Nat.le_trans forward' forward))
      rw [next, List.head?_cons, if_pos rfl]
      cases capture <;> exact ends

/-- A group is read as by the machine, and what follows on its level is. -/
private theorem enclosed (small : fits (input.settings.nestLimit + 1) = true)
    (further : Further input rounds st) (next : st.here.rest = c :: rest) (count : Nat) (names : List String)
    {capture : Option (Nat × Option String)} {flags : Flags} {after : Cursor}
    (reads : step input.settings st c =
      { st with count, names }.enter input.settings capture flags after)
    (follows : Follows input r { st with count, names, here := after, flags })
    (known : ∀ index name, capture = some (index, name) → index ≤ count) :
    Ends input st
      (andThen (level input (constructs input · [] [] rounds) (r.at after))
        (behind input rounds st capture)) := by
  have depth : r.depth = st.enclosing.length + 1 := follows.depth
  rw [State.enter] at reads
  rw [level]
  by_cases deep : input.settings.nestLimit < st.enclosing.length + 1
  · rw [if_pos deep] at reads
    exact .of_refused next reads (by simp [descend, Registers.at, depth, deep])
  · rw [if_neg deep] at reads
    have shallow := Nat.not_lt.mp deep
    have shorter := Parser.step_shorter next reads
    have body := further _ _ (follows.enter (opens st capture) shallow known) shorter
    simp only [bind_apply, descend_at (depth ▸ shallow) small, andThen_ok, depth]
    rw [depth] at body
    exact enclosed_body further (run_of_step next reads) rfl (Nat.le_of_lt shorter) body

/-- Another group is numbered, behind its parenthesis. -/
private theorem Follows.number (follows : Follows input r st) (next : st.here.rest = c :: rest)
    (name : Option String) {after : Cursor} (reaches : st.here.skip.Reaches after) :
    Follows input
      { r with
        count := r.count + 1
        closed := r.closed ++ [false]
        names := name.toList ++ r.names }
      { st with count := st.count + 1, names := name.toList ++ st.names, here := after } where
  within := follows.within.skip.on reaches
  flags := follows.flags
  names := congrArg (name.toList ++ ·) follows.names
  count := congrArg (· + 1) follows.count
  depth := follows.depth
  closed index := by
    rw [← follows.closed index, List.getElem?_append]
    split
    · rfl
    · rename_i behind
      rw [List.getElem?_eq_none (Nat.not_lt.mp behind)]
      cases index - r.closed.length <;> rfl
  length := by rw [List.length_append, follows.length]; rfl
  tabled other member index name known :=
    Nat.le_succ_of_le (follows.tabled other member index name known)
  few := by
    have few := follows.few
    have shorter := Cursor.Reaches.length_lt next reaches
    dsimp only
    omega
  shallow := follows.shallow

/-- What a level does with an opening parenthesis and its prefix. -/
private def opened (input : Input) (rounds : Nat) (st : State) : Opening → Act Pattern
  | .directive => do
    closing input st.here.offset
    constructs input st.enclosing.length st.branches st.items rounds
  | .group capture => level input (constructs input · [] [] rounds) >>= behind input rounds st capture

private theorem constructs_group (follows : Follows input r st) (next : st.here.rest = '(' :: rest) :
    constructs input st.enclosing.length st.branches st.items (rounds + 1) (r.at st.here) =
      (opening input >>= opened input rounds st) (r.at st.here) := by
  have parts : opening input >>= opened input rounds st = (do
      match ← group input (constructs input · [] [] rounds) with
      | none =>
        closing input st.here.offset
        constructs input st.enclosing.length st.branches st.items rounds
      | some body =>
        setFlags st.flags
        closing input st.here.offset
        constructs input st.enclosing.length st.branches (body :: st.items) rounds) := by
    rw [group, bind_assoc]
    congr 1
    funext announced
    cases announced with
    | directive => rfl
    | group capture =>
      simp only [opened, bind_assoc, bind_map_left]
      rfl
  rw [parts]
  conv => lhs; rw [constructs]
  simp only [bind_apply, isDone_at follows.within, Cursor.atEnd_of_cons next, andThen_ok,
    Bool.false_eq_true, ↓reduceIte, current_at next, offset_at, flags_at, follows.flags]

/-- An opening parenthesis is read as by the machine, and what follows on its level is. -/
private theorem constructs_open (closes : ClosesNames input.settings.data)
    (small : fits (input.settings.nestLimit + 1) = true) (short : fits input.text.length = true)
    (further : Further input rounds st) (follows : Follows input r st) (next : st.here.rest = '(' :: rest) :
    Ends input st
      (constructs input st.enclosing.length st.branches st.items (rounds + 1) (r.at st.here)) := by
  have few : fits (r.count + 1) = true := by
    have few := follows.few
    rw [next, List.length_cons] at few
    rw [follows.count]
    simp only [fits, decide_eq_true_eq] at short ⊢
    omega
  have stepped : step input.settings st '(' = st.openGroup input.settings := rfl
  rw [constructs_group follows next, bind_apply, opening_at closes few follows.within next,
    follows.flags, follows.names]
  rw [State.openGroup] at stepped
  cases isPrefix : GroupPrefix.read input.settings.data st.flags st.names st.here with
  | error failure =>
    rw [isPrefix] at stepped
    exact .of_refused next stepped rfl
  | ok pair =>
    obtain ⟨announced, after⟩ := pair
    have moved := (Cursor.reaches_skip st.here).trans (GroupPrefix.reaches_read isPrefix)
    have follows' := follows.move moved st.branches st.items
    rw [isPrefix] at stepped
    cases announced with
    | directive flags =>
      obtain ⟨rest', next'⟩ := GroupPrefix.close_of_directive isPrefix
      have past := follows.move (moved.trans (Cursor.reaches_skip after)) st.branches st.items
      simp only [answerOpening, andThen_ok, opened, bind_apply, closing_at follows'.within, next',
        List.head?_cons, ↓reduceIte]
      exact further.step next stepped (past.setFlags flags) rfl
    | flagged flags =>
      simp only [answerOpening, andThen_ok, opened, bind_apply]
      exact enclosed small further next st.count st.names stepped (follows'.setFlags flags)
        (fun _ _ none => by cases none)
    | capturing name =>
      simp only [answerOpening, andThen_ok, opened, bind_apply]
      have numbered := follows.number next name (GroupPrefix.reaches_read isPrefix)
      have ends := enclosed small further next (st.count + 1) (name.toList ++ st.names) stepped numbered
        (fun _ _ known => by cases known; exact Nat.le_refl _)
      rw [← follows.count] at ends
      exact ends

/-- **The rest of a level is read as by the machine.** -/
theorem constructs_ends (closes : ClosesNames input.settings.data)
    (small : fits (input.settings.nestLimit + 1) = true) (short : fits input.text.length = true)
    (st : State) (r : Registers) (follows : Follows input r st)
    (enough : st.here.rest.length < rounds) :
    Ends input st
      (constructs input st.enclosing.length st.branches st.items rounds (r.at st.here)) := by
  induction rounds generalizing st r with
  | zero => exact absurd enough (Nat.not_lt_zero _)
  | succ rounds ih =>
    have further : Further input rounds st := fun st' r' follows' shorter =>
      ih st' r' follows' (Nat.lt_of_lt_of_le shorter (Nat.le_of_lt_succ enough))
    cases next : st.here.rest with
    | nil =>
      refine .done st r ?_ rfl follows rfl (Nat.le_refl _) (.inl next)
      rw [constructs]
      simp [isDone_at follows.within, Cursor.rest_of_atEnd.mpr next]
    | cons c rest =>
      by_cases isOpen : c = '('
      · subst isOpen
        exact constructs_open closes small short further follows next
      rw [constructs]
      simp only [bind_apply, isDone_at follows.within, Cursor.atEnd_of_cons next, andThen_ok,
        Bool.false_eq_true, ↓reduceIte, current_at next, isOpen, ite_act]
      by_cases isClose : c = ')'
      · subst isClose
        rw [if_pos rfl]
        by_cases outermost : st.enclosing = []
        · have refused : step input.settings st ')' =
              .error (.malformed st.here.offset .unopenedGroup) := by
            simp only [step, State.closeGroup, outermost]
          exact .of_refused next refused (by simp [outermost])
        · refine .done st r ?_ rfl follows rfl (Nat.le_refl _) (.inr ⟨outermost, rest, next⟩)
          simp [outermost]
      by_cases isBar : c = '|'
      · subst isBar
        simp only [isClose, ↓reduceIte, discard_apply, bump_at follows.within, pure_apply, andThen_ok]
        have follows' : Follows input r st.nextBranch := follows.move (Cursor.reaches_skip st.here) _ _
        exact further.step next rfl follows' rfl
      by_cases isClass : c = '['
      · subst isClass
        simp only [↓reduceIte, bracketed_at follows.fits follows.within next, isClose, isBar]
        exact further.push follows next rfl
      by_cases isPlain : c = '?' ∨ c = '*' ∨ c = '+'
      · simp only [↓reduceIte, isClose, isBar, isClass, isPlain, uncounted_items follows next isPlain]
        exact further.repeat follows next (by rcases isPlain with rfl | rfl | rfl <;> rfl)
      by_cases isCount : c = '\x7b'
      · subst isCount
        simp only [↓reduceIte, isClose, isBar, isClass, isPlain, counted_items follows next]
        exact further.repeat follows next rfl
      · simp only [↓reduceIte, isClose, isBar, isClass, isPlain, isCount, leaf_at follows next]
        exact further.push follows next
          (step_leaf isOpen isClose isBar isClass isPlain isCount input.settings)

private theorem nestAll_iff {limit depth : Nat} {ps : List Pattern} :
    nestAll limit depth ps = true ↔ ∀ p ∈ ps, nests limit depth p = true := by
  induction ps with
  | nil => simp [nestAll]
  | cons p rest ih => simp [nestAll, ih]

private theorem nests_eq (limit depth : Nat) (p : Pattern) :
    nests limit depth p =
      (decide (depth ≤ limit) && fits (depth + 1) && nestAll limit (depth + 1) p.children) := by
  cases p <;> simp [nests, nestAll, Pattern.children]

/-- Counting in 32 bits is enough for the depth of a tree. -/
theorem nests_iff {limit : Nat} (small : fits (limit + 1) = true) {depth : Nat} {p : Pattern} :
    nests limit depth p = true ↔ p.DeepestWithin limit depth := by
  induction p using Pattern.induct_children generalizing depth with
  | node p ih =>
    have counted : depth ≤ limit → fits (depth + 1) = true := by
      simp only [fits, decide_eq_true_eq] at small ⊢
      omega
    rw [nests_eq, Pattern.deepestWithin_iff, Bool.and_eq_true, Bool.and_eq_true, decide_eq_true_eq,
      nestAll_iff, and_iff_left_of_imp counted]
    exact and_congr_right fun _ => forall₂_congr fun child member => ih child member

/-- The registers at the start of a pattern follow the machine's first state. -/
private theorem follows_initial (input : Input) :
    Follows input { pos := 0, char := none, flags := input.settings.flags, depth := 1 }
      (.initial input.settings input.text) where
  within := Cursor.Reaches.refl _
  flags := rfl
  names := rfl
  count := rfl
  depth := rfl
  closed index := by cases index <;> rfl
  length := rfl
  tabled _ none := absurd none List.not_mem_nil
  few := Nat.le_of_eq (Nat.zero_add _)
  shallow := Nat.zero_le _

/-- The outermost level is the whole pattern. -/
private theorem level_initial (closes : ClosesNames input.settings.data)
    (small : fits (input.settings.nestLimit + 1) = true) (short : fits input.text.length = true) :
    let outcome := level input (constructs input · [] [] input.rounds)
      { pos := 0, char := input.text.head?, flags := input.settings.flags }
    match finish input.settings (.initial input.settings input.text) with
    | .error failure => outcome = .error (.failure failure)
    | .ok tree => ∃ r, outcome = .ok (tree, r) := by
  have starts : ({ pos := 0, char := input.text.head?, flags := input.settings.flags } : Registers) =
      ({ pos := 0, char := none, flags := input.settings.flags } : Registers).at
        (.ofText input.text) := rfl
  have descended : descend input
      (({ pos := 0, char := none, flags := input.settings.flags } : Registers).at
        (.ofText input.text)) = _ := descend_at (Nat.zero_le _) small
  rw [starts, level]
  simp only [bind_apply, descended, andThen_ok]
  have ends := constructs_ends closes small short _ _ (follows_initial input) input.enough
  cases ends with
  | refused failure stops refuses =>
    have stops : constructs input 0 [] [] input.rounds
        (({ pos := 0, char := none, flags := input.settings.flags, depth := 1 } : Registers).at
          (.ofText input.text)) = .error (.failure failure) := stops
    rw [refuses, stops]
    rfl
  | done last r comes same follows level _ atEnd =>
    have ended : last.here.rest = [] := atEnd.resolve_right fun inside => inside.1 rfl
    have outermost : last.enclosing = [] := level
    have comes : constructs input 0 [] [] input.rounds
        (({ pos := 0, char := none, flags := input.settings.flags, depth := 1 } : Registers).at
          (.ofText input.text)) =
          .ok (.ofLevel last.branches last.items, r.at last.here) := comes
    have depth := follows.depth
    rw [finish, same, run_of_end ended, comes]
    simp only [State.tree, outermost, andThen_ok, bind_apply, ascend_at depth, pure_apply]
    exact ⟨_, rfl⟩

/-- Reading by recursive descent makes no mistake and answers as the machine does. -/
theorem parse_eq_of_closesNames (input : Input) (closes : ClosesNames input.settings.data)
    (limited : input.settings.nestLimit < UInt32.size - 1) (short : input.text.length < UInt32.size) :
    parse input = (input.settings.parse (String.ofList input.text)).mapError .failure := by
  have small : fits (input.settings.nestLimit + 1) = true := decide_eq_true (by omega)
  have whole := level_initial closes small (decide_eq_true short)
  have parsed : input.settings.parse (String.ofList input.text) =
      match finish input.settings (.initial input.settings input.text) with
      | .error failure => .error failure
      | .ok tree =>
        if tree.nestedWithin input.settings.nestLimit then .ok tree
        else .error (.malformed 0 .tooMuchNesting) := by
    unfold Settings.parse finish
    rw [String.toList_ofList]
    cases run input.settings (.initial input.settings input.text) <;> rfl
  unfold parse
  rw [parsed]
  cases finished : finish input.settings (.initial input.settings input.text) with
  | error failure =>
    simp only [finished] at whole
    rw [whole]
    rfl
  | ok tree =>
    simp only [finished] at whole
    obtain ⟨r, whole⟩ := whole
    rw [whole]
    have sameDepth : nests input.settings.nestLimit 0 tree =
        tree.nestedWithin input.settings.nestLimit := by
      rw [Bool.eq_iff_iff, nests_iff small, Pattern.nestedWithin_iff]
    simp only [sameDepth]
    split <;> rfl

/-- The character database has no place for a closing angle in names. -/
theorem closesNames_standard : ClosesNames .standard := by
  intro isFirst
  cases isFirst <;> decide

/-- **Reading by recursive descent answers as the machine does, for every text.** Its answer is never a
fault: no character is asked for at the end, no slice cuts a character, no set refuses a bound, every flag
has its entry, no count leaves its 32 bits, and no loop takes more rounds than there are characters and one
more. -/
theorem parse_eq (domain : Universe) (nestLimit : Nat) (flags : Flags) (listing : Listing)
    (text : String) (rounds : Nat) (enough : text.toList.length < rounds)
    (limited : nestLimit < UInt32.size - 1) (short : text.toList.length < UInt32.size) :
    parse { settings := { domain, nestLimit, flags }, listing, text := text.toList, rounds, enough } =
      (({ domain, nestLimit, flags } : Settings).parse text).mapError .failure := by
  rw [parse_eq_of_closesNames _ closesNames_standard limited short, String.ofList_toList]

theorem parse_eq_letterTwice :
    ∃ (enough : "(a)\\1".toList.length < 6), 50 < UInt32.size - 1 ∧
      "(a)\\1".toList.length < UInt32.size ∧
      parse { settings := {}, listing := .singly, text := "(a)\\1".toList, rounds := 6, enough } =
        .ok (.sequence [.group 1 none (.literal "a"), .backreference 1]) := by
  have reads : Parser.run {} (.initial {} "(a)\\1".toList) =
      .ok {
        here := ⟨5, []⟩, flags := {}, count := 1, closed := [1]
        items := [.backreference 1, .group 1 none (.literal "a")] } := by
    iterate 4 refine (run_of_step rfl rfl).trans ?_
    exact run_of_end rfl
  have parsed : ({} : Settings).parse "(a)\\1" =
      .ok (.sequence [.group 1 none (.literal "a"), .backreference 1]) := by
    unfold Settings.parse
    rw [reads]
    rfl
  have enough : "(a)\\1".toList.length < 6 := by decide
  have limited : 50 < UInt32.size - 1 := by decide
  have short : "(a)\\1".toList.length < UInt32.size := by decide
  have same := parse_eq .ascii 50 {} .singly "(a)\\1" 6 enough limited short
  rw [parsed] at same
  exact ⟨enough, limited, short, same⟩

end PatternForge.Descent
