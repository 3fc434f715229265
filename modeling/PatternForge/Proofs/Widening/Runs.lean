import PatternForge.Proofs.Reading.Steps
import PatternForge.Proofs.Widening.Constructs

/-!
The same pattern over a smaller universe. Two runs over one pattern that minds case, if neither fails, go
through the same states, with the characters of the smaller universe only in the classes of one of them
(`Parser.State.within`). So they give the same trees up to such classes (`Settings.parse_within`).
-/
namespace PatternForge

/-- The group with the characters of a universe only in its classes. -/
def OpenGroup.within (u : Universe) (opened : OpenGroup) : OpenGroup :=
  { opened with
    branches := opened.branches.map (.within u)
    items := opened.items.map (.within u) }

namespace Parser

/-- The state with the characters of a universe only in the classes that were read. -/
def State.within (u : Universe) (st : State) : State :=
  { st with
    enclosing := st.enclosing.map (.within u)
    branches := st.branches.map (.within u)
    items := st.items.map (.within u) }

/-- From here on, case is never ignored. -/
def State.MindsCase (s : Settings) (st : State) : Prop :=
  ∀ later, Relation.ReflTransGen (Reads s) st later → later.flags.ignoreCase = false

variable {s : Settings} {u : Universe} {st st' last : State} {c : Char} {rest : List Char}

theorem State.MindsCase.step (minds : st.MindsCase s) (reads : Reads s st st') : st'.MindsCase s :=
  fun later onwards => minds later (.head reads onwards)

theorem mindsCase_of_end (ends : st.here.rest = []) (minding : st.flags.ignoreCase = false) :
    st.MindsCase s := by
  intro later onwards
  rcases Relation.ReflTransGen.cases_head onwards with rfl | ⟨st', ⟨c, rest, next, -⟩, -⟩
  · exact minding
  · rw [ends] at next
    cases next

theorem mindsCase_of_step (next : st.here.rest = c :: rest) (minding : st.flags.ignoreCase = false)
    (stepped : Parser.step s st c = .ok st') (minds : st'.MindsCase s) : st.MindsCase s := by
  intro later onwards
  rcases Relation.ReflTransGen.cases_head onwards with rfl | ⟨between, ⟨d, others, next', stepped'⟩, onwards⟩
  · exact minding
  · cases next.symm.trans next'
    cases stepped.symm.trans stepped'
    exact minds later onwards

/-! ### One step -/

/-- Where two steps both succeed, the second one leads to the state of the first over the smaller universe. -/
def Follow (u : Universe) (x y : Except Failure State) : Prop :=
  ∀ next next', x = .ok next → y = .ok next' → next' = next.within u

private theorem follow_of_ok {next next' : State} (same : next' = next.within u) :
    Follow u (.ok next) (.ok next') := by
  rintro _ _ ⟨⟩ ⟨⟩
  exact same

private theorem follow_of_error {x y : Except Failure State} {failure : Failure} (failed : x = .error failure) :
    Follow u x y := by
  intro next _ stepped
  rw [failed] at stepped
  cases stepped

private theorem follow_pushRead {x y : Except Failure (Pattern × Cursor)} (agree : Agree (Narrows u) x y) :
    Follow u (st.pushRead x) ((st.within u).pushRead y) := by
  unfold State.pushRead
  cases isLeaf : x with
  | error failure => exact follow_of_error rfl
  | ok found =>
    cases isLeaf' : y with
    | error failure =>
      intro _ _ _ failed
      cases failed
    | ok found' =>
      obtain ⟨⟨same⟩, after⟩ := agree found found' isLeaf isLeaf'
      refine follow_of_ok ?_
      simp only [State.push, State.within, List.map_cons, same, after]

private theorem follow_enter (capture : Option (Nat × Option String)) (flags : Flags) (after : Cursor) :
    Follow u (st.enter s capture flags after) ((st.within u).enter (s.over u) capture flags after) := by
  have depth : (st.within u).enclosing.length = st.enclosing.length := List.length_map _
  by_cases full : s.nestLimit < st.enclosing.length + 1
  · exact follow_of_error (if_pos full)
  · have room : ¬(s.over u).nestLimit < (st.within u).enclosing.length + 1 := by rwa [depth]
    rw [State.enter, State.enter, if_neg full, if_neg room]
    exact follow_of_ok rfl

private theorem follow_openGroup : Follow u (st.openGroup s) ((st.within u).openGroup (s.over u)) := by
  unfold State.openGroup
  dsimp only [Settings.over, State.within]
  split
  · exact follow_of_error rfl
  · exact follow_of_ok rfl
  · exact follow_enter _ _ _
  · exact follow_enter _ _ _

private theorem close_within (opened : OpenGroup) (body : Pattern) :
    (opened.within u).close (body.within u) = (opened.close body).within u := by
  obtain ⟨start, capture, outer, branches, items⟩ := opened
  cases capture <;> rfl

private theorem follow_closeGroup : Follow u st.closeGroup (st.within u).closeGroup := by
  obtain ⟨here, flags, count, closed, names, enclosing, branches, items⟩ := st
  cases enclosing with
  | nil => exact follow_of_error rfl
  | cons opened outer =>
    refine follow_of_ok ?_
    have body : Pattern.ofLevel (branches.map (.within u)) (items.map (.within u)) =
        (Pattern.ofLevel branches items).within u := Pattern.ofLevel_mapClasses branches items
    simp only [State.within, body, close_within, List.map_cons]
    rfl

private theorem nextBranch_within : (st.within u).nextBranch = st.nextBranch.within u := by
  have branch : Pattern.concat ((st.items.map (.within u)).reverse) =
      (Pattern.concat st.items.reverse).within u := by
    rw [← List.map_reverse]
    exact Pattern.concat_mapClasses _
  simp only [State.nextBranch, State.within, branch, List.map_cons, List.map_nil]

private theorem follow_repeatLast : Follow u (st.repeatLast s c) ((st.within u).repeatLast (s.over u) c) := by
  obtain ⟨here, flags, count, closed, names, enclosing, branches, items⟩ := st
  cases items with
  | nil => exact follow_of_error rfl
  | cons item earlier =>
    dsimp only [State.repeatLast, State.within, Settings.over, List.map_cons]
    split
    · exact follow_of_error rfl
    · exact follow_of_ok rfl

/-- The dot leaves out the line feed over each universe. -/
private theorem dotPattern_over (inside : ∀ c, u.contains c = true → s.domain.contains c = true)
    (flags : Flags) : (s.over u).dotPattern flags = (s.dotPattern flags).within u := by
  have excluded : CharSet.Narrowed u (if flags.dotNewLine then .empty s.domain else s.setOf ['\n'])
      (if flags.dotNewLine then .empty u else (s.over u).setOf ['\n']) := by
    split
    · exact ⟨rfl, by simp⟩
    · refine ⟨Settings.domain_setOf _ _, fun c => ?_⟩
      rw [Bool.eq_iff_iff, Bool.and_eq_true, Settings.contains_setOf, Settings.contains_setOf]
      exact ⟨fun ⟨known, member⟩ => ⟨known, inside c known, member⟩,
        fun ⟨known, _, member⟩ => ⟨known, member⟩⟩
  exact congrArg Pattern.oneOf (CharClass.of_narrowed excluded true)

/-- **One step** over the smaller universe. -/
theorem follow_step (inside : ∀ c, u.contains c = true → s.domain.contains c = true)
    (minding : st.flags.ignoreCase = false) : Follow u (step s st c) (step (s.over u) (st.within u) c) := by
  have inside' : ∀ c, u.contains c = true → (st.context s).settings.domain.contains c = true := inside
  have minding' : (st.context s).flags.ignoreCase = false := minding
  unfold step
  split
  case h_1 => exact follow_openGroup
  case h_2 => exact follow_closeGroup
  case h_3 => exact follow_of_ok nextBranch_within
  case h_4 => exact follow_pushRead (ClassSet.agree_read inside' minding')
  case h_9 => exact follow_pushRead (Escape.agree_read inside' minding')
  case h_10 =>
    refine follow_of_ok ?_
    rw [dotPattern_over inside]
    rfl
  case h_11 | h_12 => exact follow_of_ok rfl
  case h_13 =>
    refine follow_of_ok ?_
    have minding : (st.within u).flags.ignoreCase = false := minding
    rw [Settings.charPattern_over minding]
    rfl
  all_goals exact follow_repeatLast

/-- **A run** over the smaller universe: induction on the run, one step after another. -/
theorem run_within (inside : ∀ c, u.contains c = true → s.domain.contains c = true)
    (minds : st.MindsCase s) {last' : State} (ends : run s st = .ok last)
    (ends' : run (s.over u) (st.within u) = .ok last') : last' = last.within u := by
  fun_induction run s st generalizing last' with
  | case1 st none =>
    cases ends
    cases (run_of_end none : run (s.over u) (last.within u) = _).symm.trans ends'
    rfl
  | case2 => cases ends
  | case3 st c rest next between stepped ih =>
    have next' : (st.within u).here.rest = c :: rest := next
    obtain ⟨between', stepped', ends'⟩ := exists_step_of_run next' ends'
    obtain rfl := follow_step inside (minds st .refl) _ _ stepped stepped'
    exact ih (minds.step ⟨c, rest, next, stepped⟩) ends ends'

end Parser

/-- Where case is minded at the start of a pattern and no flag of the pattern changes that. -/
def Settings.MindsCase (s : Settings) (pattern : String) : Prop :=
  (Parser.State.initial s pattern.toList).MindsCase s

/-- **Widening the universe only widens classes.** Where a pattern never ignores case and is read over two
universes, one inside the other, the trees are the same but for their classes; corresponding classes are
negated alike, and what is written in a class and what it allows over the smaller universe are the
characters of it that are written or allowed over the larger one. -/
theorem Settings.parse_within {s : Settings} {u : Universe} {pattern : String} {tree tree' : Pattern}
    (inside : ∀ c, u.contains c = true → s.domain.contains c = true) (minds : s.MindsCase pattern)
    (parsed : s.parse pattern = .ok tree) (parsed' : (s.over u).parse pattern = .ok tree') :
    tree' = tree.within u ∧
      tree.Every fun node => ∀ cls, node = .oneOf cls →
        node.within u = .oneOf (cls.within u) ∧ (cls.within u).negated = cls.negated ∧
          (cls.within u).set.domain = u ∧
          ∀ c, (cls.within u).set.contains c = (u.contains c && cls.set.contains c) ∧
            (cls.within u).effective.contains c = (u.contains c && cls.effective.contains c) := by
  have isRead := (isRead_of_parse parsed).1
  refine ⟨?_, fun node visited cls same => ?_⟩
  · unfold parse at parsed parsed'
    split at parsed
    · cases parsed
    · rename_i last ends
      split at parsed'
      · cases parsed'
      · rename_i last' ends'
        obtain rfl := Parser.run_within inside minds ends ends'
        split at parsed
        · cases parsed
        · rename_i isTree
          split at parsed'
          · cases parsed'
          · rename_i isTree'
            split at parsed <;> cases parsed
            split at parsed' <;> cases parsed'
            unfold Parser.State.tree at isTree isTree'
            split at isTree
            · cases isTree
            · rename_i none
              simp only [Parser.State.within, none, List.map_nil] at isTree'
              cases isTree
              cases isTree'
              exact Pattern.ofLevel_mapClasses _ _
  · obtain ⟨domain, -⟩ : cls.set.domain = s.domain ∧ cls.set.frozen = true := by
      have here := isRead node visited
      rwa [same] at here
    have narrowed := CharClass.narrowed_effective (domain ▸ inside)
    refine ⟨same ▸ rfl, rfl, rfl, fun c => ⟨CharSet.contains_ofPredicate u _ c, narrowed.contains c⟩⟩

namespace Settings

/-- Reading over the eight-bit characters. -/
def eightBit : Settings := { domain := .latin1 }

section
open PatternForge.Parser

private theorem step_except {s : Settings} {st : State} {cls : CharClass} (here : st.here = ⟨1, "[^b]".toList⟩)
    (built : ClassSet.build (st.context s) ⟨1, "[^b]".toList⟩ ⟨5, []⟩ true [.range 'b' 'b'] =
      .ok (.oneOf cls)) : step s st '[' = .ok (st.push (.oneOf cls) ⟨5, []⟩) := by
  have item := @ClassSet.readItems_item (st.context s) ⟨1, "[^b]".toList⟩ ⟨3, "b]".toList⟩ ⟨4, [']']⟩
    'b' [']'] (.range 'b' 'b') rfl ⟨by decide, by decide⟩ (by decide) rfl true []
  have close := @ClassSet.readItems_close (st.context s) ⟨1, "[^b]".toList⟩ ⟨4, [']']⟩ [] rfl true
    [.range 'b' 'b']
  have read : ClassSet.read (st.context s) ⟨1, "[^b]".toList⟩ = .ok (.oneOf cls, ⟨5, []⟩) := by
    refine (item.trans close).trans ?_
    exact congrArg (fun made => (fun leaf => (leaf, Cursor.mk 5 [])) <$> made) built
  simp only [step, State.pushRead, here, read]

/-- Any character, and then any but one letter. -/
private theorem reads_dotExcept {s : Settings} {cls : CharClass} (plain : s.flags = {})
    (room : 1 ≤ s.nestLimit)
    (built : ClassSet.build ((State.initial s []).context s) ⟨1, "[^b]".toList⟩ ⟨5, []⟩ true
      [.range 'b' 'b'] = .ok (.oneOf cls)) :
    s.parse ".[^b]" = .ok (.sequence [s.dotPattern {}, .oneOf cls]) ∧ s.MindsCase ".[^b]" := by
  have dot : step s (.initial s ".[^b]".toList) '.' =
      .ok ((State.initial s ".[^b]".toList).push (s.dotPattern s.flags) ⟨1, "[^b]".toList⟩) := rfl
  have except := @step_except s
    ((State.initial s ".[^b]".toList).push (s.dotPattern s.flags) ⟨1, "[^b]".toList⟩) cls rfl built
  have minding : s.flags.ignoreCase = false := by rw [plain]
  constructor
  · have reads := (run_of_step rfl dot).trans ((run_of_step rfl except).trans (run_of_end rfl))
    have nested : (Pattern.sequence [s.dotPattern {}, .oneOf cls]).nestedWithin s.nestLimit = true := by
      simp [Pattern.nestedWithin, Pattern.walk, Pattern.walkFrom, Pattern.walkAll, dotPattern, room]
    unfold parse
    rw [reads, plain]
    exact if_pos nested
  · exact mindsCase_of_step rfl minding dot
      (mindsCase_of_step rfl minding except (mindsCase_of_end rfl minding))

end

/-- Any eight-bit character and then any but one letter, cut down to seven bits. -/
theorem parse_within_dotExcept : ∃ tree tree',
    eightBit.parse ".[^b]" = .ok tree ∧ (eightBit.over .ascii).parse ".[^b]" = .ok tree' ∧
      eightBit.MindsCase ".[^b]" ∧ tree' = tree.within .ascii := by
  obtain ⟨cls, built⟩ : ∃ cls, ClassSet.build ((Parser.State.initial eightBit []).context eightBit)
      ⟨1, "[^b]".toList⟩ ⟨5, []⟩ true [.range 'b' 'b'] = .ok (.oneOf cls) := ⟨_, rfl⟩
  obtain ⟨cls', built'⟩ : ∃ cls, ClassSet.build
      ((Parser.State.initial (eightBit.over .ascii) []).context (eightBit.over .ascii))
      ⟨1, "[^b]".toList⟩ ⟨5, []⟩ true [.range 'b' 'b'] = .ok (.oneOf cls) := ⟨_, rfl⟩
  obtain ⟨parsed, minds⟩ := reads_dotExcept rfl (by decide) built
  obtain ⟨parsed', -⟩ := reads_dotExcept rfl (by decide) built'
  have inside : ∀ c, Universe.ascii.contains c = true → eightBit.domain.contains c = true := by
    intro c known
    have bounds := Universe.contains_iff.mp known
    exact Universe.contains_iff.mpr ⟨bounds.1, Nat.le_trans bounds.2 (by decide)⟩
  exact ⟨_, _, parsed, parsed', minds, (parse_within inside minds parsed parsed').1⟩

end Settings

end PatternForge
