import PatternForge.Proofs.Reading.Grouping
import PatternForge.Proofs.Reading.Steps
import PatternForge.Proofs.Replacing.Constructs
import PatternForge.Proofs.Replacing.Operators

/-!
A part of a pattern replaced by another text. Up to the part, the reader goes through the same states
(`reads_alike`). If it then takes the other text for the same items, it goes on as it did: no step depends on how
many bytes were read (`State.unplaced`). So the tree is the same (`Settings.parse_replaced`).
-/
namespace PatternForge

open Cursor (rest_inside_of_cons skip_inside_of_cons)

/-- An open group, wherever it was opened. -/
def OpenGroup.unplaced (opened : OpenGroup) : OpenGroup := { opened with start := 0 }

namespace Parser

variable {s : Settings} {t t' : List Char} {st st' last : State} {c : Char} {rest : List Char}

/-! ### Up to the part -/

/-- The same state, where another text follows. -/
def State.inFront (t : List Char) (st : State) : State := { st with here := st.here.inside 0 t }

/-- What is read up to a place in front of `t` is read up to the same place in front of `t'`. -/
def Follows (t t' : List Char) (x y : Except Failure State) : Prop :=
  ∀ next, x = .ok next → t.length ≤ next.here.rest.length →
    ∃ between : State, next = between.inFront t ∧ y = .ok (between.inFront t')

private theorem follows_of_error {x y : Except Failure State} {failure : Failure} (failed : x = .error failure) :
    Follows t t' x y := by
  intro next read
  rw [failed] at read
  cases read

private theorem follows_of_ok (between : State) :
    Follows t t' (.ok (between.inFront t)) (.ok (between.inFront t')) := by
  rintro _ ⟨⟩ _
  exact ⟨between, rfl, rfl⟩

private theorem follows_pushRead {x y : Except Failure (Pattern × Cursor)} (alike : Alike t t' x y) :
    Follows t t' ((st.inFront t).pushRead x) ((st.inFront t').pushRead y) := by
  intro next read before
  unfold State.pushRead at read ⊢
  split at read
  · cases read
  · rename_i leaf after
    cases read
    obtain ⟨b, rfl, again⟩ := alike leaf after rfl before
    exact ⟨st.push leaf b, rfl, by rw [again]; rfl⟩

private theorem follows_repeatLast (notEmpty : t ≠ []) (plain : t'.head? ≠ some '?' ∧ t'.head? ≠ some '+')
    (next : st.here.rest = c :: rest) (sign : Char) :
    Follows t t' ((st.inFront t).repeatLast s sign) ((st.inFront t').repeatLast s sign) := by
  obtain ⟨here, flags, count, closed, names, enclosing, branches, items⟩ := st
  cases items with
  | nil => exact follows_of_error rfl
  | cons item earlier =>
    intro st' read before
    dsimp only [State.repeatLast, State.inFront] at read ⊢
    split at read
    · cases read
    · rename_i bounds after isRepeat
      cases read
      obtain ⟨b, rfl, again⟩ := Repeat.alike_read notEmpty plain next sign bounds after isRepeat before
      exact ⟨⟨b, flags, count, closed, names, enclosing, branches, .repetition bounds item :: earlier⟩, rfl,
        by rw [again]⟩

private theorem follows_enter (capture : Option (Nat × Option String)) (inner : Flags) (b : Cursor) :
    Follows t t' ((st.inFront t).enter s capture inner (b.inside 0 t))
      ((st.inFront t').enter s capture inner (b.inside 0 t')) := by
  by_cases full : s.nestLimit < st.enclosing.length + 1
  · exact follows_of_error (if_pos full)
  · have entered (more : List Char) : (st.inFront more).enter s capture inner (b.inside 0 more) = _ := if_neg full
    rw [entered, entered]
    exact follows_of_ok ⟨b, inner, st.count, st.closed, st.names,
      ⟨st.here.offset, capture, st.flags, st.branches, st.items⟩ :: st.enclosing, [], []⟩

private theorem follows_openGroup (notEmpty : t ≠ []) (plain : t'.head? ≠ some '?')
    (next : st.here.rest = '(' :: rest) :
    Follows t t' ((st.inFront t).openGroup s) ((st.inFront t').openGroup s) := by
  intro st' read before
  unfold State.openGroup at read ⊢
  cases isPrefix : GroupPrefix.read s.data st.flags st.names (st.here.inside 0 t) with
  | error failure =>
    dsimp only [State.inFront] at read
    rw [isPrefix] at read
    cases read
  | ok found =>
    obtain ⟨kind, e⟩ := found
    dsimp only [State.inFront] at read ⊢
    rw [isPrefix] at read
    cases kind with
    | directive inner =>
      cases read
      obtain ⟨others, isClose⟩ := GroupPrefix.close_of_directive isPrefix
      obtain ⟨b, rfl, again⟩ := GroupPrefix.read_alike notEmpty plain next isPrefix
        (Nat.le_trans before (Cursor.length_skip_le e))
        fun _ _ => Nat.lt_of_le_of_lt before (Cursor.length_skip_lt isClose)
      obtain ⟨d, others', close⟩ := Cursor.cons_of_skip notEmpty before
      refine ⟨{ st with here := b.skip, flags := inner }, ?_, ?_⟩
      · rw [skip_inside_of_cons close]
      · rw [again]
        dsimp only
        rw [skip_inside_of_cons close]
    | flagged inner =>
      rw [reaches_enter read] at before
      obtain ⟨b, rfl, again⟩ := GroupPrefix.read_alike notEmpty plain next isPrefix before nofun
      rw [again]
      refine follows_enter none inner b st' read ?_
      rwa [reaches_enter read]
    | capturing name =>
      rw [reaches_enter read] at before
      obtain ⟨b, rfl, again⟩ := GroupPrefix.read_alike notEmpty plain next isPrefix before nofun
      rw [again]
      refine @follows_enter s t t' { st with count := st.count + 1, names := name.toList ++ st.names }
        (some (st.count + 1, name)) st.flags b st' read ?_
      rwa [reaches_enter read]

private theorem follows_closeGroup (next : st.here.rest = c :: rest) :
    Follows t t' (st.inFront t).closeGroup (st.inFront t').closeGroup := by
  obtain ⟨here, flags, count, closed, names, enclosing, branches, items⟩ := st
  cases enclosing with
  | nil => exact follows_of_error rfl
  | cons opened outer =>
    unfold State.closeGroup
    dsimp only [State.inFront]
    rw [skip_inside_of_cons next, skip_inside_of_cons next]
    exact follows_of_ok ⟨here.skip, _, _, _, _, _, _, _⟩

/-- **One step** in front of `t`. -/
theorem follows_step (notEmpty : t ≠ []) (plain : t'.head? ≠ some '?' ∧ t'.head? ≠ some '+')
    (next : st.here.rest = c :: rest) :
    Follows t t' (step s (st.inFront t) c) (step s (st.inFront t') c) := by
  have past (more : List Char) : (st.inFront more).here.skip = st.here.skip.inside 0 more :=
    skip_inside_of_cons next
  have pushed (leaf : Pattern) : Follows t t' (.ok ((st.inFront t).push leaf (st.here.skip.inside 0 t)))
      (.ok ((st.inFront t').push leaf (st.here.skip.inside 0 t'))) := follows_of_ok (st.push leaf st.here.skip)
  unfold step
  split
  · exact follows_openGroup notEmpty plain.1 next
  · exact follows_closeGroup next
  · unfold State.nextBranch
    rw [past, past]
    exact follows_of_ok ⟨st.here.skip, _, _, _, _, _, _, _⟩
  · exact follows_pushRead (ClassSet.alike_read notEmpty next)
  · exact follows_repeatLast notEmpty plain next _
  · exact follows_repeatLast notEmpty plain next _
  · exact follows_repeatLast notEmpty plain next _
  · exact follows_repeatLast notEmpty plain next _
  · rw [past, past]
    exact follows_pushRead (Escape.alike_read notEmpty st.here.skip)
  · rw [past, past]
    exact pushed _
  · rw [past, past]
    exact pushed _
  · rw [past, past]
    exact pushed _
  · rw [past, past]
    exact pushed _

theorem reaches_of_reads (onwards : Relation.ReflTransGen (Reads s) st st') : st.here.Reaches st'.here := by
  induction onwards with
  | refl => exact Cursor.Reaches.refl _
  | tail _ reads ih =>
    obtain ⟨c, rest, next, stepped⟩ := reads
    exact ih.trans ((Cursor.reaches_skip _).trans (reaches_step stepped))

/-- **The way to the part**: induction on the steps that lead there. -/
theorem reads_alike (notEmpty : t ≠ []) (plain : t'.head? ≠ some '?' ∧ t'.head? ≠ some '+')
    (comes : Relation.ReflTransGen (Reads s) (st.inFront t) last) (place : last.here.rest = t) :
    ∃ there : State, there.here.rest = [] ∧ last = there.inFront t ∧
      Relation.ReflTransGen (Reads s) (st.inFront t') (there.inFront t') := by
  generalize isFirst : st.inFront t = first at comes
  induction comes using Relation.ReflTransGen.head_induction_on generalizing st with
  | refl =>
    subst isFirst
    exact ⟨st, by simpa [State.inFront] using place, rfl, .refl⟩
  | head reads onwards ih =>
    subst isFirst
    obtain ⟨c, rest, next, stepped⟩ := reads
    have before := (reaches_of_reads onwards).length_le
    have shorter := step_shorter next stepped
    rw [place] at before
    obtain ⟨d, others, next'⟩ : ∃ d others, st.here.rest = d :: others := by
      refine List.exists_cons_of_ne_nil fun none => ?_
      rw [State.inFront, Cursor.rest_inside, none, List.nil_append] at shorter
      omega
    cases (rest_inside_of_cons next').symm.trans next
    obtain ⟨between, rfl, stepped'⟩ := follows_step notEmpty plain next' _ stepped before
    obtain ⟨there, none, rfl, onwards'⟩ := ih rfl
    exact ⟨there, none, rfl, .head ⟨c, others ++ t', rest_inside_of_cons next', stepped'⟩ onwards'⟩

/-! ### Behind the part -/

/-- The state without the places of the groups that are open. -/
def State.unopened (st : State) : State := { st with enclosing := st.enclosing.map OpenGroup.unplaced }

/-- The state without anything that depends on how many bytes were read. -/
def State.unplaced (st : State) : State := { st.unopened with here := ⟨0, st.here.rest⟩ }

private theorem unopened_eq (same : st.unopened = st'.unopened) :
    ∃ enclosing, st' = { st with enclosing } ∧
      st.enclosing.map OpenGroup.unplaced = enclosing.map OpenGroup.unplaced := by
  obtain ⟨here, flags, count, closed, names, enclosing, branches, items⟩ := st
  obtain ⟨here', flags', count', closed', names', enclosing', branches', items'⟩ := st'
  simp only [State.unopened, State.mk.injEq] at same
  obtain ⟨rfl, rfl, rfl, rfl, rfl, groups, rfl, rfl⟩ := same
  exact ⟨enclosing', rfl, groups⟩

private theorem here_of_unopened (same : st.unopened = st'.unopened) : st'.here = st.here := by
  obtain ⟨enclosing, rfl, -⟩ := unopened_eq same
  rfl

private theorem unplaced_of_unopened (same : st.unopened = st'.unopened) : st.unplaced = st'.unplaced := by
  have here := here_of_unopened same
  unfold State.unplaced
  rw [same, here]

/-- Where the open groups were opened is only ever reported. -/
private theorem step_unopened (same : st.unopened = st'.unopened) (c : Char) :
    (step s st c).map State.unopened = (step s st' c).map State.unopened := by
  obtain ⟨enclosing, rfl, groups⟩ := unopened_eq same
  have pushed (read : Except Failure (Pattern × Cursor)) : (st.pushRead read).map State.unopened =
      (({ st with enclosing } : State).pushRead read).map State.unopened := by
    cases read with
    | error failure => rfl
    | ok found => simp only [State.pushRead, State.push, Except.map, State.unopened, groups]
  have repeated : (st.repeatLast s c).map State.unopened =
      (({ st with enclosing } : State).repeatLast s c).map State.unopened := by
    unfold State.repeatLast
    dsimp only
    split
    · rfl
    · split
      · rfl
      · simp only [Except.map, State.unopened, groups]
  have entered (count : Nat) (names : List String) (capture : Option (Nat × Option String)) (inner : Flags)
      (after : Cursor) :
      (({ st with count, names } : State).enter s capture inner after).map State.unopened =
        (({ st with count, names, enclosing } : State).enter s capture inner after).map State.unopened := by
    have depth : st.enclosing.length = enclosing.length := by simpa using congrArg List.length groups
    unfold State.enter
    dsimp only
    rw [depth]
    split
    · rfl
    · simp only [Except.map, State.unopened, List.map_cons, groups]
  have kept (here : Cursor) (flags : Flags) (branches items : List Pattern) :
      (Except.ok ({ st with here, flags, branches, items } : State) : Except Failure State).map State.unopened =
        (Except.ok ({ st with here, flags, branches, items, enclosing } : State)).map State.unopened := by
    simp only [Except.map, State.unopened, groups]
  unfold step
  split
  · unfold State.openGroup
    dsimp only
    split
    · rfl
    · exact kept _ _ _ _
    · exact entered _ _ _ _ _
    · exact entered _ _ _ _ _
  · obtain ⟨here, flags, count, closed, names, enclosing', branches, items⟩ := st
    cases enclosing' with
    | nil =>
      obtain rfl : enclosing = [] := by simpa using groups.symm
      rfl
    | cons opened outer =>
      cases enclosing with
      | nil => cases groups
      | cons opened' outer' =>
        obtain ⟨first, others⟩ := List.cons.inj groups
        obtain ⟨start, capture, inner, branches', items'⟩ := opened
        obtain ⟨start', capture', inner', branches'', items''⟩ := opened'
        cases first
        simp only [State.closeGroup, Except.map, State.unopened, others, OpenGroup.close]
  · exact kept _ _ _ _
  · exact pushed _
  · exact repeated
  · exact repeated
  · exact repeated
  · exact repeated
  · exact pushed _
  · exact kept _ _ _ _
  · exact kept _ _ _ _
  · exact kept _ _ _ _
  · exact kept _ _ _ _

private theorem run_unopened (same : st.unopened = st'.unopened) :
    (run s st).map State.unopened = (run s st').map State.unopened := by
  have here := here_of_unopened same
  fun_induction run s st generalizing st' with
  | case1 st none =>
    rw [run_of_end (here ▸ none)]
    exact congrArg Except.ok same
  | case2 st c rest next failure refused =>
    have stepped := step_unopened (s := s) same c
    rw [refused] at stepped
    cases again : step s st' c with
    | error failure' =>
      rw [again] at stepped
      rw [run_of_refused (here ▸ next) again]
      exact stepped
    | ok between => rw [again] at stepped; cases stepped
  | case3 st c rest next between stepped ih =>
    have stepped' := step_unopened (s := s) same c
    rw [stepped] at stepped'
    cases again : step s st' c with
    | error failure => rw [again] at stepped'; cases stepped'
    | ok between' =>
      rw [again] at stepped'
      have same' : between.unopened = between'.unopened := Except.ok.inj stepped'
      rw [run_of_step (here ▸ next) again]
      exact ih same' (here_of_unopened same')

/-- The same state at the start of a text. -/
private def State.first (st : State) : State := { st with here := ⟨0, st.here.rest⟩ }

/-- A run from the middle of a text is a run from the start of what is left. -/
private theorem run_first (st reached : State) :
    (∃ last, run s st = .ok last ∧ last.unplaced = reached) ↔
      ∃ last, run s st.first = .ok last ∧ last.unplaced = reached := by
  have moved (state : State) (n : Nat) : (state.placed n [] [] none).unplaced = state.unplaced := by
    simp [State.unplaced, State.unopened, State.placed, State.ledger, Function.comp_def, OpenGroup.unplaced,
      OpenGroup.moved]
  have place : st.unopened = (st.first.placed st.here.offset [] [] none).unopened := by
    simp [State.unopened, State.placed, State.first, State.ledger, Function.comp_def, OpenGroup.unplaced,
      OpenGroup.moved, Cursor.inside]
  have same := run_unopened (s := s) place
  have carried : Carried st.here.offset [] (State.placed st.here.offset [] [] none) (run s st.first)
      (run s (st.first.placed st.here.offset [] [] none)) := carried_run st.here.offset s s.flags st.first
  cases ends : run s st.first with
  | error failure =>
    rw [ends] at carried
    rw [carried rfl] at same
    cases ends' : run s st with
    | error failure' => simp
    | ok last => rw [ends'] at same; cases same
  | ok last =>
    rw [ends] at carried
    rw [carried] at same
    cases ends' : run s st with
    | error failure => rw [ends'] at same; cases same
    | ok last' =>
      rw [ends'] at same
      have same : last'.unopened = (last.placed st.here.offset [] [] none).unopened := Except.ok.inj same
      have same' : last'.unplaced = last.unplaced := (unplaced_of_unopened same).trans (moved last _)
      simp [same']

/-- **A run from behind the part**: how many bytes were read does not matter. -/
theorem run_unplaced (same : st.unplaced = st'.unplaced) (ends : run s st = .ok last) :
    ∃ last', run s st' = .ok last' ∧ last'.unplaced = last.unplaced := by
  obtain ⟨between, ends', reached⟩ := (run_first st _).mp ⟨last, ends, rfl⟩
  have same' := run_unopened (s := s) (show st.first.unopened = st'.first.unopened from same)
  rw [ends'] at same'
  refine (run_first st' _).mpr ?_
  cases ends'' : run s st'.first with
  | error failure => rw [ends''] at same'; cases same'
  | ok between' =>
    rw [ends''] at same'
    have same' : between.unopened = between'.unopened := Except.ok.inj same'
    exact ⟨between', rfl, (unplaced_of_unopened same').symm.trans reached⟩

/-- The same state, with another text from there on. -/
def State.goingOn (st : State) (text : List Char) : State := { st with here := ⟨st.here.offset, text⟩ }

end Parser

open PatternForge.Parser

namespace Settings

variable {s : Settings} {front t t' : List Char} {st next : State} {tree : Pattern}

/-- The reader comes to the part with another text as it comes to the part. -/
theorem reads_replaced (notEmpty : t ≠ []) (plain : t'.head? ≠ some '?' ∧ t'.head? ≠ some '+')
    (comes : Relation.ReflTransGen (Reads s) (.initial s (front ++ t)) st) (place : st.here.rest = t) :
    Relation.ReflTransGen (Reads s) (.initial s (front ++ t')) (st.goingOn t') := by
  obtain ⟨there, none, rfl, onway⟩ :=
    @reads_alike s t t' (.initial s front) st notEmpty plain comes place
  have same : there.inFront t' = (there.inFront t).goingOn t' := by
    simp only [State.inFront, State.goingOn, Cursor.inside, none, List.nil_append]
  rwa [← same]

/-- **A part of a pattern is replaced.** Where the reader takes another text for what it took the part for, the
pattern is read as the same tree. -/
theorem parse_replaced (notEmpty : t ≠ []) (plain : t'.head? ≠ some '?' ∧ t'.head? ≠ some '+')
    (parsed : s.parse (String.ofList (front ++ t)) = .ok tree)
    (comes : Relation.ReflTransGen (Reads s) (.initial s (front ++ t)) st) (place : st.here.rest = t)
    (onwards : Relation.ReflTransGen (Reads s) st next)
    (again : ∃ next', Relation.ReflTransGen (Reads s) (st.goingOn t') next' ∧
      next'.unplaced = next.unplaced) :
    s.parse (String.ofList (front ++ t')) = .ok tree := by
  obtain ⟨next', onwards', same⟩ := again
  have onway := reads_replaced notEmpty plain comes place
  obtain ⟨last, ends, closed, rfl, depth⟩ := parse_eq_ok.mp parsed
  rw [String.toList_ofList, run_of_reads (comes.trans onwards)] at ends
  obtain ⟨last', ends', same'⟩ := run_unplaced same.symm ends
  rw [← run_of_reads (onway.trans onwards')] at ends'
  simp only [State.unplaced, State.unopened, State.mk.injEq] at same'
  obtain ⟨-, -, -, -, -, groups, branches, items⟩ := same'
  refine parse_eq_ok.mpr ⟨last', by rwa [String.toList_ofList], ?_, by rw [branches, items], depth⟩
  simpa [closed] using groups

/-- The same for one leaf. -/
theorem parse_leaf_replaced {leaf : Pattern} {e e' : Cursor} (notEmpty : t ≠ [])
    (plain : t'.head? ≠ some '?' ∧ t'.head? ≠ some '+')
    (parsed : s.parse (String.ofList (front ++ t)) = .ok tree)
    (comes : Relation.ReflTransGen (Reads s) (.initial s (front ++ t)) st) (place : st.here.rest = t)
    (stepped : Reads s st (st.push leaf e))
    (again : Reads s (st.goingOn t') ((st.goingOn t').push leaf e')) (behind : e'.rest = e.rest) :
    s.parse (String.ofList (front ++ t')) = .ok tree := by
  refine parse_replaced notEmpty plain parsed comes place (.single stepped) ⟨_, .single again, ?_⟩
  simp only [State.unplaced, State.unopened, State.push, State.goingOn, behind]

/-- The same where the reader refuses the other text. -/
theorem parse_refused {failure : Failure} {c : Char} {rest : List Char} (notEmpty : t ≠ [])
    (plain : t'.head? ≠ some '?' ∧ t'.head? ≠ some '+')
    (comes : Relation.ReflTransGen (Reads s) (.initial s (front ++ t)) st) (place : st.here.rest = t)
    (next : t' = c :: rest) (refused : step s (st.goingOn t') c = .error failure) :
    s.parse (String.ofList (front ++ t')) = .error failure := by
  have ends := run_of_reads (reads_replaced notEmpty plain comes place)
  rw [run_of_refused next refused] at ends
  unfold parse
  rw [String.toList_ofList, ends]

end Settings

end PatternForge
