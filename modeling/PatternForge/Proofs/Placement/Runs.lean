import PatternForge.Proofs.Placement.Constructs
import PatternForge.Proofs.Placement.Operators
import PatternForge.Proofs.RoundTrip.Moves

/-!
Reading a pattern inside a longer text. `State.placed` is a state of the reader at a place of the pattern
that is now further on, with more groups open around it. One step from there is the same step
(`carried_step`), so the run over the pattern is the same run (`run_placed`). What is known of groups may be
something else there, if no group of the pattern has a number: such a pattern neither asks nor tells.
-/
namespace PatternForge

open Cursor (rest_inside_of_cons skip_inside_of_cons)

/-- The same group, `n` bytes further on. -/
def OpenGroup.moved (n : Nat) (opened : OpenGroup) : OpenGroup := { opened with start := opened.start + n }

/-- The names that are taken matter to a name only. -/
theorem GroupPrefix.read_of_unnamed {data : CharacterData} {flags : Flags} {taken : List String}
    {start after : Cursor} {kind : GroupPrefix} (read' : read data flags taken start = .ok (kind, after))
    (unnamed : ∀ name, kind ≠ .capturing (some name)) (taken' : List String) :
    read data flags taken' start = .ok (kind, after) := by
  unfold read at read' ⊢
  dsimp only at read' ⊢
  split at read'
  · cases read'
  · split at read'
    · rename_i nameStart _
      cases isName : name data taken nameStart with
      | error failure => rw [isName] at read'; cases read'
      | ok found =>
        rw [isName] at read'
        cases read'
        exact absurd rfl (unnamed found.1)
    · exact read'

namespace Parser

/-- The same state, after `n` bytes were put in front of the pattern and `more` behind it, where the groups
`below` are open around it and something else may be known of the groups in front. -/
def State.placed (n : Nat) (more : List Char) (below : List OpenGroup) (known : Option Ledger)
    (st : State) : State :=
  { st with
    here := st.here.inside n more
    count := (known.getD st.ledger).count
    closed := (known.getD st.ledger).closed
    names := (known.getD st.ledger).names
    enclosing := st.enclosing.map (OpenGroup.moved n) ++ below }

variable {n : Nat} {more : List Char} {below : List OpenGroup} {known : Option Ledger} {s : Settings}
  {st st' last : State} {c : Char} {rest : List Char}

/-! ### States without numbered groups -/

/-- No group with a number was met so far. -/
structure State.Unnumbered (st : State) : Prop where
  count : st.count = 0
  closed : st.closed = []
  enclosing : ∀ opened ∈ st.enclosing, opened.capture = none

/-- A step leaves what is known of groups, opens a group with a number, or closes a group. -/
theorem ledger_of_step (stepped : step s st c = .ok st') :
    (st'.ledger = st.ledger ∧
      ∀ opened ∈ st'.enclosing, opened ∈ st.enclosing ∨ opened.capture = none) ∨
    st'.count = st.count + 1 ∨
    ∃ opened, st.enclosing = opened :: st'.enclosing ∧ st'.count = st.count ∧
      st'.closed = (opened.capture.map (·.1)).toList ++ st.closed := by
  have pushed {read : Except Failure (Pattern × Cursor)} (read' : st.pushRead read = .ok st') :
      st'.ledger = st.ledger ∧
        ∀ opened ∈ st'.enclosing, opened ∈ st.enclosing ∨ opened.capture = none := by
    unfold State.pushRead at read'
    split at read' <;> cases read'
    exact ⟨rfl, fun opened => .inl⟩
  have repeated (read' : st.repeatLast s c = .ok st') :
      st'.ledger = st.ledger ∧
        ∀ opened ∈ st'.enclosing, opened ∈ st.enclosing ∨ opened.capture = none := by
    unfold State.repeatLast at read'
    split at read'
    · cases read'
    · split at read' <;> cases read'
      exact ⟨rfl, fun opened => .inl⟩
  unfold step at stepped
  split at stepped
  case h_1 =>
    unfold State.openGroup at stepped
    split at stepped
    · cases stepped
    · cases stepped
      exact .inl ⟨rfl, fun opened => .inl⟩
    · unfold State.enter at stepped
      split at stepped <;> cases stepped
      refine .inl ⟨rfl, fun opened member => ?_⟩
      rcases List.mem_cons.mp member with rfl | member
      · exact .inr rfl
      · exact .inl member
    · unfold State.enter at stepped
      split at stepped <;> cases stepped
      exact .inr (.inl rfl)
  case h_2 =>
    unfold State.closeGroup at stepped
    split at stepped <;> cases stepped
    rename_i opened outer isOpen
    exact .inr (.inr ⟨opened, isOpen, rfl, rfl⟩)
  case h_4 => exact .inl (pushed stepped)
  case h_9 => exact .inl (pushed stepped)
  case h_3 | h_10 | h_11 | h_12 | h_13 =>
    cases stepped
    exact .inl ⟨rfl, fun opened => .inl⟩
  all_goals exact .inl (repeated stepped)

theorem State.Unnumbered.step (unnumbered : st.Unnumbered) (stepped : step s st c = .ok st')
    (none : st'.count = 0) : st'.Unnumbered := by
  obtain ⟨same, open'⟩ | more | ⟨opened, isOpen, same, closed⟩ := ledger_of_step stepped
  · refine ⟨none, (congrArg Ledger.closed same).trans unnumbered.closed, fun opened member => ?_⟩
    exact (open' opened member).elim (unnumbered.enclosing opened) id
  · omega
  · refine ⟨none, ?_, fun other member => unnumbered.enclosing other (by simp [isOpen, member])⟩
    rw [closed, unnumbered.enclosing opened (by simp [isOpen]), unnumbered.closed]
    rfl

/-- Groups are only ever added. -/
theorem count_le_of_run (ends : run s st = .ok last) : st.count ≤ last.count := by
  fun_induction run s st with
  | case1 => cases ends; exact Nat.le_refl _
  | case2 => cases ends
  | case3 st c rest next between stepped ih =>
    refine Nat.le_trans ?_ (ih ends)
    obtain ⟨same, -⟩ | more | ⟨-, -, same, -⟩ := ledger_of_step stepped
    · exact Nat.le_of_eq (congrArg Ledger.count same).symm
    · omega
    · exact Nat.le_of_eq same.symm

/-- What is known of the groups in front may differ only where no group has a number, up to a result, and
where more text follows. -/
def MayKnow (more : List Char) (known : Option Ledger) (st : State) (result : Except Failure State) : Prop :=
  known = none ∨ more ≠ [] ∧ st.Unnumbered ∧ ∀ last, result = .ok last → last.count = 0

theorem MayKnow.alone {result : Except Failure State} (may : MayKnow more known st result)
    (noMore : more = []) : known = none :=
  may.resolve_right fun other => other.1 noMore

theorem MayKnow.grows {result : Except Failure State} (may : MayKnow more known st result) :
    Grows more st.closed (known.getD st.ledger).closed := by
  obtain rfl | ⟨some, unnumbered, -⟩ := may
  · exact .refl more st.closed
  · exact ⟨by simp [unnumbered.closed], fun none => absurd none some⟩

/-! ### Steps -/

theorem context_placed (limit : Nat) (initial : Flags) :
    (st.placed n more below known).context (s.adjusted limit initial) =
      (st.context s).placed limit initial (known.getD st.ledger).closed :=
  rfl

/-- A leaf is put behind the same items. -/
theorem carried_pushRead {here there : Except Failure (Pattern × Cursor)}
    (read : Carried n more (carry n more) here there) :
    Carried n more (State.placed n more below known) (st.pushRead here)
      ((st.placed n more below known).pushRead there) := by
  unfold State.pushRead
  refine read.elim (fun found _ => rfl) fun failure there failed none => ?_
  rw [failed none]

/-- A group is opened with as much room left as before. -/
theorem carried_enter (capture : Option (Nat × Option String)) (inner : Flags) (after : Cursor)
    (initial : Flags) :
    Carried n more (State.placed n more below known) (st.enter s capture inner after)
      ((st.placed n more below known).enter (s.adjusted (s.nestLimit + below.length) initial) capture inner
        (after.inside n more)) := by
  have room : (s.adjusted (s.nestLimit + below.length) initial).nestLimit <
      (st.placed n more below known).enclosing.length + 1 ↔ s.nestLimit < st.enclosing.length + 1 := by
    simp only [Settings.adjusted, State.placed, List.length_append, List.length_map]
    omega
  unfold State.enter
  simp only [room]
  split
  · exact fun _ => rfl
  · rfl

theorem count_of_enter {capture : Option (Nat × Option String)} {inner : Flags} {after : Cursor}
    (entered : st.enter s capture inner after = .ok st') : st'.count = st.count := by
  unfold State.enter at entered
  split at entered <;> cases entered
  rfl

/-- What an opening parenthesis and its prefix announce is opened. -/
private theorem carried_opened (initial : Flags) {kind : GroupPrefix} {after : Cursor}
    (isPrefix : GroupPrefix.read s.data st.flags st.names st.here = .ok (kind, after))
    (isPrefix' : GroupPrefix.read s.data st.flags (known.getD st.ledger).names (st.here.inside n more) =
      .ok (kind, after.inside n more))
    (unnumbered : known = none ∨ ∀ name, kind ≠ .capturing name) :
    Carried n more (State.placed n more below known) (st.openGroup s)
      ((st.placed n more below known).openGroup (s.adjusted (s.nestLimit + below.length) initial)) := by
  unfold State.openGroup
  dsimp only [State.placed, Settings.data_adjusted]
  rw [isPrefix, isPrefix']
  cases kind with
  | capturing name =>
    obtain rfl := unnumbered.resolve_right fun other => other name rfl
    exact carried_enter _ _ after initial
  | flagged inner => exact carried_enter _ _ after initial
  | directive inner =>
    obtain ⟨others, isClose⟩ := GroupPrefix.close_of_directive isPrefix
    dsimp only
    rw [skip_inside_of_cons isClose]
    rfl

theorem carried_openGroup (closes : Closes more) (initial : Flags) (next : st.here.rest = c :: rest)
    (may : MayKnow more known st (st.openGroup s)) :
    Carried n more (State.placed n more below known) (st.openGroup s)
      ((st.placed n more below known).openGroup (s.adjusted (s.nestLimit + below.length) initial)) := by
  have again (taken : List String) : Carried n more (carry n more)
      (GroupPrefix.read s.data st.flags taken st.here)
      (GroupPrefix.read s.data st.flags taken (st.here.inside n more)) :=
    GroupPrefix.carried_read closes s.data st.flags taken next
  cases isPrefix : GroupPrefix.read s.data st.flags st.names st.here with
  | error failure =>
    unfold State.openGroup
    rw [isPrefix]
    intro none
    obtain rfl := may.alone none
    have refused := again st.names
    rw [isPrefix] at refused
    dsimp only [State.placed, Settings.data_adjusted, Option.getD_none, State.ledger]
    rw [refused none]
  | ok found =>
    obtain ⟨kind, after⟩ := found
    obtain rfl | ⟨some, unnumbered, quiet⟩ := may
    · have found := again st.names
      rw [isPrefix] at found
      exact carried_opened initial isPrefix found (.inl rfl)
    · by_cases capturing : ∃ name, kind = .capturing name
      · obtain ⟨name, rfl⟩ := capturing
        cases opens : st.openGroup s with
        | error failure => exact fun none => absurd none some
        | ok st' =>
          have numbered := quiet st' opens
          unfold State.openGroup at opens
          rw [isPrefix] at opens
          rw [count_of_enter opens] at numbered
          cases numbered
      · have unnumbered' : ∀ name, kind ≠ .capturing name := fun name same => capturing ⟨name, same⟩
        have found := again (known.getD st.ledger).names
        rw [GroupPrefix.read_of_unnamed isPrefix (fun name => unnumbered' _)] at found
        exact carried_opened initial isPrefix found (.inr unnumbered')

theorem carried_closeGroup (room : more = [] → below = []) (next : st.here.rest = c :: rest)
    (may : MayKnow more known st st.closeGroup) :
    Carried n more (State.placed n more below known) st.closeGroup
      (st.placed n more below known).closeGroup := by
  have past : (st.placed n more below known).here.skip = st.here.skip.inside n more :=
    skip_inside_of_cons next
  obtain ⟨here, flags, count, closed, names, enclosing, branches, items⟩ := st
  unfold State.closeGroup
  rw [past]
  cases enclosing with
  | nil =>
    intro none
    rw [room none]
    rfl
  | cons opened outer =>
    obtain rfl | ⟨-, unnumbered, -⟩ := may
    · rfl
    · obtain ⟨start, capture, inner, branches', items'⟩ := opened
      obtain rfl : capture = none := unnumbered.enclosing _ List.mem_cons_self
      rfl

theorem carried_repeatLast (closes : Closes more) (limit : Nat) (initial : Flags)
    (next : st.here.rest = c :: rest) :
    Carried n more (State.placed n more below known) (st.repeatLast s c)
      ((st.placed n more below known).repeatLast (s.adjusted limit initial) c) := by
  obtain ⟨here, flags, count, closed, names, enclosing, branches, items⟩ := st
  unfold State.repeatLast
  cases items with
  | nil => exact fun _ => rfl
  | cons item earlier =>
    have read : Carried n more (carry n more) (Repeat.read s.data flags here c)
        (Repeat.read (s.adjusted limit initial).data flags (here.inside n more) c) :=
      Repeat.carried_read closes s.data flags next c
    refine read.elim (fun found _ => rfl) fun failure there failed none => ?_
    rw [failed none]
    rfl

/-- **One step** inside a longer text is the same step. -/
theorem carried_step (closes : Closes more) (room : more = [] → below = []) (initial : Flags)
    (next : st.here.rest = c :: rest) (may : MayKnow more known st (step s st c)) :
    Carried n more (State.placed n more below known) (step s st c)
      (step (s.adjusted (s.nestLimit + below.length) initial) (st.placed n more below known) c) := by
  have past : (st.placed n more below known).here.skip = st.here.skip.inside n more :=
    skip_inside_of_cons next
  have grows := may.grows
  unfold step at may ⊢
  split
  · exact carried_openGroup closes initial next may
  · exact carried_closeGroup room next may
  · simp only [State.nextBranch, past]
    rfl
  · rw [context_placed]
    exact carried_pushRead (ClassSet.carried_read closes grows next)
  · exact carried_repeatLast closes _ initial next
  · exact carried_repeatLast closes _ initial next
  · exact carried_repeatLast closes _ initial next
  · exact carried_repeatLast closes _ initial next
  · rw [context_placed, past]
    exact carried_pushRead (Escape.carried_read grows st.here st.here.skip)
  · rw [past]
    rfl
  · rw [past]
    rfl
  · rw [past]
    rfl
  · rw [past]
    rfl

/-! ### Runs -/

/-- **A run** inside a longer text goes on behind the pattern from where it ends alone, and fails where it
fails alone: induction on the run, one step after another. -/
theorem run_placed (below : List OpenGroup) (closes : Closes more) (room : more = [] → below = [])
    (initial : Flags) (may : MayKnow more known st (run s st)) :
    match run s st with
    | .ok last =>
      run (s.adjusted (s.nestLimit + below.length) initial) (st.placed n more below known) =
        run (s.adjusted (s.nestLimit + below.length) initial) (last.placed n more below known)
    | .error failure =>
      more = [] →
        run (s.adjusted (s.nestLimit + below.length) initial) (st.placed n more below known) =
          .error (failure.moved n) := by
  revert may
  fun_induction run s st with
  | case1 st none => exact fun _ => rfl
  | case2 st c rest next failure refused =>
    intro may none
    obtain rfl := may.alone none
    have again := carried_step (n := n) (s := s) closes room initial next (.inl rfl)
    rw [refused] at again
    exact run_of_refused (rest_inside_of_cons next) (again none)
  | case3 st c rest next between stepped ih =>
    intro may
    have onward (here : MayKnow more known st (step s st c))
        (there : MayKnow more known between (run s between)) := by
      have again := carried_step (n := n) closes room initial next here
      rw [stepped] at again
      have run := ih there
      rw [← run_of_step (rest_inside_of_cons next) again] at run
      exact run
    obtain rfl | ⟨some, unnumbered, quiet⟩ := may
    · exact onward (.inl rfl) (.inl rfl)
    · cases ends : run s between with
      | error failure => exact fun none => absurd none some
      | ok last =>
        have quiet := quiet last ends
        have none : between.count = 0 := Nat.le_zero.mp (quiet ▸ count_le_of_run ends)
        have here : MayKnow more known st (step s st c) := by
          refine .inr ⟨some, unnumbered, fun st' same => ?_⟩
          rw [stepped] at same
          cases same
          exact none
        have there : MayKnow more known between (run s between) := by
          refine .inr ⟨some, unnumbered.step stepped none, fun last' same => ?_⟩
          rw [ends] at same
          cases same
          exact quiet
        have onward := onward here there
        rw [ends] at onward
        exact onward

/-- A run that comes to an end leaves nothing of the pattern. -/
theorem rest_of_run (read : run s st = .ok st') : st'.here.rest = [] := by
  fun_induction run s st with
  | case1 st none => cases read; exact none
  | case2 => cases read
  | case3 st c rest next between stepped ih => exact ih read

/-- A run behind some text is the same run. -/
theorem carried_run (n : Nat) (s : Settings) (initial : Flags) (st : State) :
    Carried n [] (State.placed n [] [] none) (run s st)
      (run (s.adjusted s.nestLimit initial) (st.placed n [] [] none)) := by
  have knows : MayKnow [] none st (run s st) := .inl rfl
  have again := run_placed (n := n) [] .none (fun _ => rfl) initial knows
  cases ends : run s st with
  | error failure =>
    rw [ends] at again
    exact again
  | ok last =>
    rw [ends] at again
    refine again.trans (run_of_end ?_)
    rw [State.placed, Cursor.rest_inside, rest_of_run ends, List.append_nil]

end Parser

end PatternForge
