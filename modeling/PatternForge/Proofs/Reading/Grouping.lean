import PatternForge.Matcher
import PatternForge.Proofs.Pattern.WellNumbered
import PatternForge.Proofs.Placement.Runs
import PatternForge.Proofs.Reading.Steps
import PatternForge.Proofs.RoundTrip.Levels

/-!
Patterns in parentheses. A pattern that is read alone is read in a group without a number just the same,
and leaves its tree there. Flags that it sets hold up to the end of the group; what it numbers is known
behind the group, but only a pattern with numbered groups of its own would notice.
-/
namespace PatternForge

open PatternForge.Parser (State run step)

namespace Settings

variable {s : Settings}

/-- The same settings with room for one more group around a pattern. -/
def deeper (s : Settings) : Settings := s.adjusted (s.nestLimit + 1) s.flags

end Settings

/-- The reader at a place behind a group whose tree was put behind the other items. -/
def Parser.State.behind (st : State) (after : Cursor) (ledger : Ledger) (tree : Pattern) : State :=
  { st with
    here := after
    count := ledger.count
    closed := ledger.closed
    names := ledger.names
    items := tree :: st.items }

namespace Settings

variable {s : Settings} {st last : State} {known : Option Ledger} {text rest : List Char}

/-- The parenthesis around the groups of a pattern. -/
private def groupAt (st : State) : OpenGroup :=
  { start := st.here.offset, capture := none, outer := st.flags, branches := st.branches, items := st.items }

/-- Behind an opening parenthesis a pattern begins. -/
private theorem step_open (outermost : st.enclosing = []) (same : st.flags = s.flags)
    (knows : st.ledger = known.getD {})
    (next : st.here.rest = '(' :: '?' :: ':' :: (text ++ ')' :: rest)) :
    step s.deeper st '(' =
      .ok ((State.initial s text).placed (st.here.skipMany 3).offset (')' :: rest) [groupAt st]
        known) := by
  rw [Parser.step_grouping next (by simp [outermost, deeper, Settings.adjusted])]
  have here : st.here.skipMany ['(', '?', ':'].length =
      (Cursor.ofText text).inside (st.here.skipMany 3).offset (')' :: rest) := by
    have behind : (st.here.skipMany 3).rest = text ++ ')' :: rest := by simp [next]
    rw [Cursor.inside, Cursor.rest_ofText, ← behind]
    exact congrArg (Cursor.mk · _) (Nat.zero_add _).symm
  rw [State.inside, here, knows, groupAt, same, outermost]
  rfl

/-- At its closing parenthesis a pattern leaves its tree. -/
private theorem step_close (closed : last.enclosing = []) (outermost : st.enclosing = []) (n : Nat) :
    step s.deeper (last.placed n (')' :: rest) [groupAt st] known) ')' =
      .ok (st.behind (last.here.inside n (')' :: rest)).skip (known.getD last.ledger)
        (.ofLevel last.branches last.items)) := by
  obtain ⟨here, flags, count, closed', names, enclosing, branches, items⟩ := last
  obtain ⟨here', flags', count', closed'', names', enclosing', branches', items'⟩ := st
  dsimp only at closed outermost
  subst closed outermost
  rfl

/-- A pattern whose tree has no group has opened none. -/
private theorem count_of_groups (ends : run s (.initial s text) = .ok last) (closed : last.enclosing = [])
    (free : (Pattern.ofLevel last.branches last.items).groups = []) : last.count = 0 := by
  have recorded := (Parser.sound_run (Parser.sound_initial s text) ends).recorded
  have marks : last.marks = (Pattern.ofLevel last.branches last.items).marks := by
    rw [Pattern.marks_ofLevel, State.marks, closed]
    simp
  rw [marks] at recorded
  have counted := Ledger.count_of_recordAll recorded
  rw [← Pattern.openings_groups, free] at counted
  exact counted

/-- From an opening parenthesis to behind the one that closes the group. -/
private theorem run_group (known : Option Ledger) (alone : run s (.initial s text) = .ok last)
    (closed : last.enclosing = []) (outermost : st.enclosing = []) (same : st.flags = s.flags)
    (knows : st.ledger = known.getD {}) (unnumbered : known = none ∨ last.count = 0)
    (next : st.here.rest = '(' :: '?' :: ':' :: (text ++ ')' :: rest)) :
    ∃ after : Cursor, after.rest = rest ∧
      run s.deeper st =
        run s.deeper (st.behind after (known.getD last.ledger) (.ofLevel last.branches last.items)) := by
  have atEnd : (last.here.inside (st.here.skipMany 3).offset (')' :: rest)).rest = ')' :: rest := by
    rw [Cursor.rest_inside, Parser.rest_of_run alone, List.nil_append]
  have may : Parser.MayKnow (')' :: rest) known (.initial s text) (run s (.initial s text)) := by
    refine unnumbered.imp_right fun none => ⟨by simp, ⟨rfl, rfl, by simp [State.initial]⟩, ?_⟩
    rw [alone]
    rintro _ ⟨⟩
    exact none
  have going := Parser.run_placed (n := (st.here.skipMany 3).offset) [groupAt st] (.parenthesis rest)
    (by simp) s.flags may
  rw [alone] at going
  refine ⟨_, ?_, (Parser.run_of_step next (step_open outermost same knows next)).trans
    (going.trans (Parser.run_of_step atEnd (step_close closed outermost _)))⟩
  rw [Cursor.rest_skip, atEnd, List.tail_cons]

variable {p q : String} {tree tree' : Pattern}

/-- **A pattern in parentheses** leaves the tree that it has alone, with the flags that held before it, if no
group was numbered so far or the pattern has none. -/
theorem run_grouped (st : State) (parsed : s.parse p = .ok tree) (outermost : st.enclosing = [])
    (same : st.flags = s.flags) (free : st.ledger = {} ∨ tree.groups = [])
    (next : st.here.rest = '(' :: '?' :: ':' :: (p.toList ++ ')' :: rest)) :
    ∃ after ledger, after.rest = rest ∧ run s.deeper st = run s.deeper (st.behind after ledger tree) := by
  obtain ⟨last, alone, closed, rfl, -⟩ := parse_eq_ok.mp parsed
  obtain first | free := free
  · obtain ⟨after, behind, reads⟩ :=
      run_group none alone closed outermost same first (.inl rfl) next
    exact ⟨after, last.ledger, behind, reads⟩
  · obtain ⟨after, behind, reads⟩ :=
      run_group (some st.ledger) alone closed outermost same rfl
        (.inr (count_of_groups alone closed free)) next
    exact ⟨after, st.ledger, behind, reads⟩

private theorem parse_sequence (isFirst : s.parse p = .ok tree) (isSecond : s.parse q = .ok tree')
    (free : tree'.groups = []) :
    s.deeper.parse ("(?:" ++ p ++ ")(?:" ++ q ++ ")") = .ok (.concat [tree, tree']) := by
  have text : ("(?:" ++ p ++ ")(?:" ++ q ++ ")").toList =
      '(' :: '?' :: ':' :: (p.toList ++ ')' :: '(' :: '?' :: ':' :: (q.toList ++ [')'])) := by
    simp
  let start := State.initial s.deeper ("(?:" ++ p ++ ")(?:" ++ q ++ ")").toList
  obtain ⟨between, ledger, next, reads⟩ := run_grouped start isFirst rfl rfl (.inl rfl) text
  obtain ⟨after, ledger', atEnd, reads'⟩ :=
    run_grouped (start.behind between ledger tree) isSecond rfl rfl (.inr free) next
  refine parse_eq_ok.mpr ⟨_, reads.trans (reads'.trans (Parser.run_of_end atEnd)), rfl, rfl, ?_⟩
  exact Pattern.deepestWithin_concat (Nat.zero_le _)
    (by simp [isRead_of_parse isFirst, isRead_of_parse isSecond])

private theorem parse_choice (isFirst : s.parse p = .ok tree) (isSecond : s.parse q = .ok tree')
    (free : tree'.groups = []) :
    s.deeper.parse ("(?:" ++ p ++ ")|(?:" ++ q ++ ")") = .ok (.choice [tree, tree']) := by
  have text : ("(?:" ++ p ++ ")|(?:" ++ q ++ ")").toList =
      '(' :: '?' :: ':' :: (p.toList ++ ')' :: '|' :: '(' :: '?' :: ':' :: (q.toList ++ [')'])) := by
    simp
  let start := State.initial s.deeper ("(?:" ++ p ++ ")|(?:" ++ q ++ ")").toList
  obtain ⟨between, ledger, next, reads⟩ := run_grouped start isFirst rfl rfl (.inl rfl) text
  have bar : run s.deeper (start.behind between ledger tree) =
      run s.deeper (start.behind between ledger tree).nextBranch := Parser.run_of_step next rfl
  have next' : (start.behind between ledger tree).nextBranch.here.rest =
      '(' :: '?' :: ':' :: (q.toList ++ [')']) := by
    change between.skip.rest = _
    rw [Cursor.rest_skip, next, List.tail_cons]
  obtain ⟨after, ledger', atEnd, reads'⟩ :=
    run_grouped (start.behind between ledger tree).nextBranch isSecond rfl rfl (.inr free) next'
  have level : Pattern.choice [tree, tree'] = .ofLevel [.concat [tree]] [tree'] := by
    rw [Pattern.ofLevel, Pattern.concat_alone (isRead_of_parse isFirst).1.here, List.reverse_singleton,
      Pattern.concat_alone (isRead_of_parse isSecond).1.here]
    rfl
  have ends := reads.trans (bar.trans (reads'.trans (Parser.run_of_end atEnd)))
  refine parse_eq_ok.mpr ⟨_, ends, rfl, level, ?_⟩
  exact Pattern.deepestWithin_choice (Nat.zero_le _)
    (by simp [isRead_of_parse isFirst, isRead_of_parse isSecond])

private theorem parse_anchored (parsed : s.parse p = .ok tree) :
    s.deeper.parse (Matcher.anchored p) = .ok (.concat [.anchor .start, tree, .anchor .finish]) := by
  have text : (Matcher.anchored p).toList = '^' :: '(' :: '?' :: ':' :: (p.toList ++ ')' :: ['$']) := by
    simp [Matcher.anchored]
  let start := State.initial s.deeper (Matcher.anchored p).toList
  let opened := start.push (.anchor .start) start.here.skip
  have opens : run s.deeper start = run s.deeper opened := Parser.run_of_step text rfl
  have next : opened.here.rest = '(' :: '?' :: ':' :: (p.toList ++ ')' :: ['$']) := by
    change start.here.skip.rest = _
    rw [Cursor.rest_skip]
    exact congrArg List.tail text
  obtain ⟨after, ledger, next', reads⟩ := run_grouped opened parsed rfl rfl (.inl rfl) next
  have closes : run s.deeper (opened.behind after ledger tree) =
      run s.deeper ((opened.behind after ledger tree).push (.anchor .finish) after.skip) :=
    Parser.run_of_step next' rfl
  have atEnd : ((opened.behind after ledger tree).push (.anchor .finish) after.skip).here.rest = [] := by
    change after.skip.rest = []
    rw [Cursor.rest_skip, next', List.tail_cons]
  have ends := opens.trans (reads.trans (closes.trans (Parser.run_of_end atEnd)))
  refine parse_eq_ok.mpr ⟨_, ends, rfl, rfl, ?_⟩
  have anchor (kind : Anchor) : (Pattern.anchor kind).DeepestWithin s.nestLimit 0 :=
    Pattern.deepestWithin_iff.mpr ⟨Nat.zero_le _, by simp [Pattern.children]⟩
  exact Pattern.deepestWithin_concat (Nat.zero_le _) (by simp [isRead_of_parse parsed, anchor])

/-- **Parentheses keep things together and change nothing.** -/
theorem parse_grouped (isFirst : s.parse p = .ok tree) (isSecond : s.parse q = .ok tree')
    (free : tree'.groups = []) :
    s.deeper.parse ("(?:" ++ p ++ ")(?:" ++ q ++ ")") = .ok (.concat [tree, tree']) ∧
      s.deeper.parse ("(?:" ++ p ++ ")|(?:" ++ q ++ ")") = .ok (.choice [tree, tree']) ∧
      s.deeper.parse (Matcher.anchored p) = .ok (.concat [.anchor .start, tree, .anchor .finish]) :=
  ⟨parse_sequence isFirst isSecond free, parse_choice isFirst isSecond free, parse_anchored isFirst⟩

/-- As few letters as there can be. -/
def reluctant : Pattern := .repetition ⟨0, none, false⟩ (.literal "a")

/-- As many letters as there can be. -/
def eager : Pattern := .repetition ⟨0, none, true⟩ (.literal "b")

/-- A directive in the first parentheses swaps the greed of the first repetition, and not of the second. -/
theorem parse_grouped_swapGreed :
    ({} : Settings).parse "(?U)a*" = .ok reluctant ∧ ({} : Settings).parse "b*" = .ok eager ∧
      ({} : Settings).deeper.parse ("(?:" ++ "(?U)a*" ++ ")(?:" ++ "b*" ++ ")") =
        .ok (.concat [reluctant, eager]) ∧
      ({} : Settings).deeper.parse ("(?:" ++ "(?U)a*" ++ ")|(?:" ++ "b*" ++ ")") =
        .ok (.choice [reluctant, eager]) ∧
      ({} : Settings).deeper.parse (Matcher.anchored "(?U)a*") =
        .ok (.concat [.anchor .start, reluctant, .anchor .finish]) := by
  have listed : GroupPrefix.flagList { flags := {} } ⟨2, ['U', ')', 'a', '*']⟩ =
      .ok ({ swapGreed := true }, ⟨3, [')', 'a', '*']⟩) := by
    rw [GroupPrefix.flagList_letter rfl (by decide) rfl (by simp), GroupPrefix.flagList_more _ rfl]
    rfl
  have directive : step {} (.initial {} "(?U)a*".toList) '(' =
      .ok { here := ⟨4, ['a', '*']⟩, flags := { swapGreed := true } } := by
    simp only [step, State.openGroup]
    rw [GroupPrefix.read_directive rfl (by decide) listed rfl (by decide)]
    rfl
  have first : run {} (.initial {} "(?U)a*".toList) =
      .ok { here := ⟨6, []⟩, flags := { swapGreed := true }, items := [reluctant] } := by
    refine (Parser.run_of_step rfl directive).trans ?_
    iterate 2 refine (Parser.run_of_step rfl rfl).trans ?_
    exact Parser.run_of_end rfl
  have second : run {} (.initial {} "b*".toList) =
      .ok { here := ⟨2, []⟩, flags := {}, items := [eager] } := by
    iterate 2 refine (Parser.run_of_step rfl rfl).trans ?_
    exact Parser.run_of_end rfl
  have isFirst : ({} : Settings).parse "(?U)a*" = .ok reluctant := by
    rw [parse, first]
    rfl
  have isSecond : ({} : Settings).parse "b*" = .ok eager := by
    rw [parse, second]
    rfl
  exact ⟨isFirst, isSecond, parse_grouped isFirst isSecond rfl⟩

end Settings

end PatternForge
