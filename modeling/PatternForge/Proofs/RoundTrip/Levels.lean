import PatternForge.Proofs.RoundTrip.Items
import PatternForge.Proofs.RoundTrip.Prefixes

/-!
Printed levels. A printed tree fills the level that it stands on with its branches (`Fills`), whatever
is around it; parentheses around it make it one item of the level outside, which is the tree itself or
a group with it as its body.
-/
namespace PatternForge

open Pattern (text)

namespace Pattern

/-- An alternation that was read has branches. -/
theorem hasBranches {s : Settings} {p : Pattern} (every : p.Every (IsRead s)) : p.Every HasBranches :=
  every.imp fun q isRead => by
    cases q with
    | alternation _ =>
      have several : 2 ≤ List.length _ := isRead
      exact fun none => by simp [none] at several
    | _ => trivial

/-- The branches of a normalised tree are put together to it. -/
theorem choice_branchList {s : Settings} {p : Pattern} (every : p.Every (IsRead s)) :
    choice p.normalised.branchList = p.normalised := by
  cases p with
  | alternation branches =>
    have below := hasBranches every
    have several : 2 ≤ branches.length := every.here
    obtain ⟨first, second, rest, rfl⟩ : ∃ first second rest, branches = first :: second :: rest := by
      match branches, several with
      | first :: second :: rest, _ => exact ⟨first, second, rest, rfl⟩
    have some := branchList_normalised_ne_nil (below.below List.mem_cons_self)
    have some' := branchList_normalised_ne_nil
      (below.below (List.mem_cons_of_mem _ List.mem_cons_self))
    rw [normalised_alternation, branchList, choice]
    rintro branch single
    have one := congrArg List.length single
    simp only [List.flatMap_cons, List.length_append, List.length_singleton] at one
    have long := List.length_pos_iff.mpr some
    have long' := List.length_pos_iff.mpr some'
    omega
  | literal _ | oneOf _ | anchor _ | sequence _ | repetition _ _ | group _ _ _ | backreference _ =>
    rfl

end Pattern

namespace Parser
variable {s : Settings}

/-- The reader behind some text, with its branches put behind the others. The last branch is still a
list of items. -/
def State.filled (st : State) (chars : List Char) (ledger : Ledger) (branches items : List Pattern) :
    State :=
  { st.past chars ledger [] with branches := branches ++ st.branches, items }

/-- A text in front of `rest` is read as some branches of the level it stands on, where at most `depth`
groups are open. -/
def FillsWith (s : Settings) (chars : List Char) (marks : List Mark) (parts : List Pattern)
    (depth : Nat) (rest : List Char) : Prop :=
  ∀ (st : State) (after : Ledger), Flags.Plain st.flags → st.items = [] →
    st.here.rest = chars ++ rest → st.ledger.recordAll marks = some after →
      st.enclosing.length ≤ depth → ∃ branches items,
        run s st = run s (st.filled chars after branches items) ∧
          (Pattern.concat items.reverse :: branches).reverse = parts

/-- A printed tree is read as its branches. -/
def Fills (s : Settings) (p : Pattern) (depth : Nat) (rest : List Char) : Prop :=
  FillsWith s (text false p) p.marks p.normalised.branchList depth rest

/-- Branches with a bar between them. -/
theorem FillsWith.bar {chars chars' rest : List Char} {marks marks' : List Mark}
    {parts parts' : List Pattern} {depth : Nat}
    (first : FillsWith s chars marks parts depth ('|' :: chars' ++ rest))
    (other : FillsWith s chars' marks' parts' depth rest) :
    FillsWith s (chars ++ '|' :: chars') (marks ++ marks') (parts ++ parts') depth rest := by
  intro st after plain none next recorded room
  rw [List.append_assoc] at next
  obtain ⟨between, recorded, recorded'⟩ := Ledger.recordAll_append.mp recorded
  obtain ⟨branches, items, filled, whole⟩ := first st between plain none next recorded room
  rw [filled]
  have bar : (st.filled chars between branches items).here.rest = '|' :: (chars' ++ rest) :=
    rest_past next between []
  have behind : (st.filled chars between branches items).here.skip.rest = chars' ++ rest := by
    rw [Cursor.rest_skip, bar]
    rfl
  rw [run_of_step bar rfl]
  obtain ⟨branches', items', filled', whole'⟩ :=
    other (st.filled chars between branches items).nextBranch after plain rfl behind recorded' room
  rw [filled']
  refine ⟨branches' ++ Pattern.concat items.reverse :: branches, items', ?_, ?_⟩
  · simp [State.filled, State.past, State.nextBranch, Cursor.skipMany_add, Cursor.skipMany]
  · rw [← whole, ← whole']
    simp

/-- Items that come to the tree fill a level with it. -/
theorem fills_of_gives {p : Pattern} {pieces : List Pattern} {depth : Nat} {rest : List Char}
    (isRead : p.IsRead s) (single : p.isAlternation = false)
    (same : Pattern.SameItems pieces [p.normalised])
    (gives : Gives s (text false p) p.marks pieces depth rest) : Fills s p depth rest := by
  intro st after plain none next recorded room
  refine ⟨[], pieces.reverse, ?_, ?_⟩
  · rw [gives st after plain next recorded room]
    simp [State.filled, State.past, none]
  · rw [List.reverse_reverse, same.concat, Pattern.concat_normalised isRead]
    cases p <;> first | rfl | cases single

/-- What closing a group makes of its body. -/
def enclosed (capture : Option (Nat × Option String)) (body : Pattern) : Pattern :=
  match capture with
  | none => body
  | some (index, name) => .group index name body

/-- The reader behind an opening parenthesis and its prefix. -/
def State.inside (st : State) (opening : List Char) (capture : Option (Nat × Option String))
    (ledger : Ledger) : State :=
  { st with
    here := st.here.skipMany opening.length
    count := ledger.count
    closed := ledger.closed
    names := ledger.names
    enclosing :=
      { start := st.here.offset, capture, outer := st.flags, branches := st.branches,
        items := st.items } :: st.enclosing
    branches := []
    items := [] }

/-- From inside a group to behind its closing parenthesis. -/
theorem run_inside {p : Pattern} {depth : Nat} {rest opening : List Char} {st : State}
    {ledger after : Ledger} (every : p.Every (Pattern.IsRead s))
    (fills : Fills s p (depth + 1) (')' :: rest)) (capture : Option (Nat × Option String))
    (plain : Flags.Plain st.flags) (next : st.here.rest = opening ++ text false p ++ ')' :: rest)
    (recorded : ledger.recordAll p.marks = some after) (room : st.enclosing.length ≤ depth) :
    run s (st.inside opening capture ledger) =
      run s (st.past (opening ++ text false p ++ [')'])
        { after with closed := (capture.map (·.1)).toList ++ after.closed }
        [enclosed capture p.normalised]) := by
  have inside : (st.inside opening capture ledger).here.rest = text false p ++ ')' :: rest := by
    simp [State.inside, next]
  obtain ⟨branches, items, filled, whole⟩ := fills (st.inside opening capture ledger) after plain rfl
    inside recorded (Nat.succ_le_succ room)
  rw [filled]
  have close :
      ((st.inside opening capture ledger).filled (text false p) after branches items).here.rest =
        ')' :: rest := rest_past inside after []
  have level : Pattern.ofLevel branches items = p.normalised := by
    rw [Pattern.ofLevel, whole, Pattern.choice_branchList every]
  have after' : ((st.here.skipMany opening.length).skipMany (text false p).length).skip =
      st.here.skipMany (opening ++ text false p ++ [')']).length := by
    rw [List.length_append, List.length_append, Cursor.skipMany_add, Cursor.skipMany_add]
    rfl
  refine run_of_step close ?_
  simp only [step, State.closeGroup, State.inside, State.filled, State.past,
    List.append_nil, level, after']
  cases capture <;> rfl

/-- Parentheses that only keep things together are read in one step. -/
theorem step_grouping {st : State} {rest : List Char}
    (next : st.here.rest = '(' :: '?' :: ':' :: rest)
    (shallow : st.enclosing.length + 1 ≤ s.nestLimit) :
    step s st '(' = .ok (st.inside ['(', '?', ':'] none st.ledger) := by
  have notDeep : ¬s.nestLimit < st.enclosing.length + 1 := by omega
  simp only [step, State.openGroup, GroupPrefix.read_flagged next, State.enter, notDeep, ↓reduceIte]
  rfl

/-- A group without a number leaves its body. -/
theorem gives_grouped {p : Pattern} {depth : Nat} {rest : List Char}
    (every : p.Every (Pattern.IsRead s)) (fills : Fills s p (depth + 1) (')' :: rest))
    (shallow : depth + 1 ≤ s.nestLimit) :
    Gives s (Pattern.grouped true (text false p)) p.marks [p.normalised] depth rest := by
  intro st after plain next recorded room
  have next' : st.here.rest = '(' :: '?' :: ':' :: (text false p ++ ')' :: rest) := by
    simpa [Pattern.grouped] using next
  have opens := step_grouping next' (Nat.le_trans (Nat.succ_le_succ room) shallow)
  rw [run_of_step next' opens, run_inside every fills none plain next' recorded room]
  rfl

/-- A group with a number keeps it. -/
theorem gives_group {p : Pattern} {index depth : Nat} {name : Option String} {rest : List Char}
    (legible : s.data.Legible) (every : p.Every (Pattern.IsRead s))
    (named : ∀ given ∈ name, IsName s.data given)
    (notMark : (text false p ++ ')' :: rest).head? ≠ some '?')
    (fills : Fills s p (depth + 1) (')' :: rest)) (shallow : depth + 1 ≤ s.nestLimit) :
    Gives s (text false (.group index name p)) (Pattern.group index name p).marks
      [(Pattern.group index name p).normalised] depth rest := by
  intro st after plain next recorded room
  have notDeep : ¬s.nestLimit < st.enclosing.length + 1 := by omega
  rw [Pattern.marks, List.cons_append, ← List.singleton_append, Ledger.recordAll_append] at recorded
  obtain ⟨opened, isOpened, recorded⟩ := recorded
  obtain ⟨closing, inside, isClosed⟩ := Ledger.recordAll_append.mp recorded
  obtain ⟨⟨rfl, isNew⟩, rfl⟩ := Ledger.recordAll_opened.mp isOpened
  obtain rfl := Ledger.recordAll_closed.mp isClosed
  cases name with
  | none =>
    have next' : st.here.rest = ['('] ++ text false p ++ ')' :: rest := by
      simpa [text] using next
    have opens : step s st '(' = .ok (st.inside ['('] (some (st.count + 1, none))
        (st.ledger.opening none)) := by
      rw [step, State.openGroup, GroupPrefix.read_unnamed next' notMark]
      simp only [State.enter, notDeep, ↓reduceIte]
      rfl
    rw [run_of_step next' opens, run_inside every fills _ plain next' inside room]
    rfl
  | some given =>
    have next' : st.here.rest =
        ['(', '?', '<'] ++ given.toList ++ '>' :: (text false p ++ ')' :: rest) := by
      simpa [text] using next
    have next'' : st.here.rest =
        (['(', '?', '<'] ++ given.toList ++ ['>']) ++ text false p ++ ')' :: rest := by
      simpa [text] using next
    have opens : step s st '(' = .ok (st.inside (['(', '?', '<'] ++ given.toList ++ ['>'])
        (some (st.count + 1, some given)) (st.ledger.opening (some given))) := by
      have isNew' : given ∉ st.names := isNew given rfl
      rw [step, State.openGroup, GroupPrefix.read_named legible (named given rfl) isNew' next']
      simp only [State.enter, notDeep, ↓reduceIte]
      rfl
    rw [run_of_step next' opens, run_inside every fills _ plain next'' inside room]
    have whole : (['(', '?', '<'] ++ given.toList ++ ['>']) ++ text false p ++ [')'] =
        text false (.group (st.ledger.count + 1) (some given) p) := by
      simp [text]
    rw [whole]
    rfl

end Parser

end PatternForge
