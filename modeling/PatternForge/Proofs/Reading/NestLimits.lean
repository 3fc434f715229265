import PatternForge.Proofs.Parentheses.Runs
import PatternForge.Proofs.Reading.Steps

/-!
What the limit on nesting does. It is checked twice: where a group opens, against the groups that are open,
and on the finished tree, against its height. Neither of the two bounds the other, because operators stack
without groups and groups without a number leave no node. Under a lower limit a pattern is read as under a
higher one or refused for its nesting (`parse_under_limits`), and it is refused exactly if its groups or its
tree are too deep.
-/
namespace PatternForge

/-! ### The height of a tree -/

namespace Pattern

mutual

/-- The number of edges from a tree down to its lowest node. -/
def height : Pattern → Nat
  | literal _ | oneOf _ | anchor _ | backreference _ => 0
  | sequence items => heightBelow items
  | alternation branches => heightBelow branches
  | repetition _ body => height body + 1
  | group _ _ body => height body + 1

/-- The height of a node over some trees. -/
def heightBelow : List Pattern → Nat
  | [] => 0
  | p :: rest => max (height p + 1) (heightBelow rest)

end

theorem heightBelow_le_iff {ps : List Pattern} {limit : Nat} :
    heightBelow ps ≤ limit ↔ ∀ p ∈ ps, p.height + 1 ≤ limit := by
  induction ps with
  | nil => simp [heightBelow]
  | cons p rest ih => rw [heightBelow, Nat.max_le, ih, List.forall_mem_cons]

theorem height_le_iff {p : Pattern} {limit : Nat} :
    p.height ≤ limit ↔ ∀ child ∈ p.children, child.height + 1 ≤ limit := by
  cases p with
  | literal _ | oneOf _ | anchor _ | backreference _ => simp [height, children]
  | sequence items => exact heightBelow_le_iff
  | alternation branches => exact heightBelow_le_iff
  | repetition _ _ | group _ _ _ => simp [height, children]

theorem deepestWithin_iff_height {p : Pattern} {limit depth : Nat} :
    p.DeepestWithin limit depth ↔ depth + p.height ≤ limit := by
  induction p using induct_children generalizing depth with
  | node p ih =>
    rw [deepestWithin_iff]
    constructor
    · rintro ⟨here, below⟩
      have room : p.height ≤ limit - depth := by
        refine height_le_iff.mpr fun child member => ?_
        have within := (ih child member).mp (below child member)
        omega
      omega
    · intro within
      refine ⟨by omega, fun child member => (ih child member).mpr ?_⟩
      have lower := height_le_iff.mp (Nat.le_refl p.height) child member
      omega

/-- No node lies deeper than a limit exactly if the tree is not higher. -/
theorem nestedWithin_iff_height {p : Pattern} {limit : Nat} :
    p.nestedWithin limit = true ↔ p.height ≤ limit := by
  rw [nestedWithin_iff, deepestWithin_iff_height, Nat.zero_add]

end Pattern

/-! ### Constructs that open no group -/

/-- Settings with another limit on nesting. -/
def Settings.limited (s : Settings) (limit : Nat) : Settings := { s with nestLimit := limit }

namespace ClassSet

open Escape (Context)

/-- What an escape sequence or a class depends on, under another limit on nesting. -/
def limited (ctx : Context) (limit : Nat) : Context := { ctx with settings := ctx.settings.limited limit }

theorem readItems_limited (ctx : Context) (limit : Nat) (start : Cursor) (negated : Bool) (here : Cursor)
    (found : List Item) :
    readItems (limited ctx limit) start negated here found = readItems ctx start negated here found := by
  fun_induction readItems ctx start negated here found with
  | case1 here found none => exact readItems_atEnd none negated found
  | case2 here found rest set next shown isOpen ih =>
    rw [@readItems_posix (limited ctx limit) _ _ _ _ _ isOpen shown]
    exact ih
  | case3 here found rest shown next =>
    rw [readItems_more next, if_pos rfl, show posix? (limited ctx limit) here = none from shown]
  | case4 here found rest next notOpen =>
    rw [readItems_close next]
    rfl
  | case5 here found c rest next notOpen notClose operator =>
    rw [readItems_more next, if_neg notOpen, if_neg notClose, if_pos operator]
  | case6 here found c rest next notOpen notClose notOperator failure single =>
    rw [readItems_more next, if_neg notOpen, if_neg notClose, if_neg notOperator,
      show item (limited ctx limit) start here = .error failure from single]
  | case7 here found c rest next notOpen notClose notOperator one stop single ih =>
    rw [@readItems_item (limited ctx limit) _ _ _ _ _ _ next ⟨notOpen, notClose⟩ notOperator single]
    exact ih

theorem read_limited (ctx : Context) (limit : Nat) (start : Cursor) :
    read (limited ctx limit) start = read ctx start := by
  rw [read_opening, read_opening]
  cases opening start with
  | error failure => rfl
  | ok found => exact readItems_limited ctx limit start _ _ _

end ClassSet

namespace Parser

variable {s : Settings} {st st' : State} {c : Char} {low : Nat}

theorem step_limited_of_ne (limit : Nat) (other : c ≠ '(') :
    step (s.limited limit) st c = step s st c := by
  unfold step
  split
  · exact absurd rfl other
  · rfl
  · rfl
  · exact congrArg st.pushRead (ClassSet.read_limited (st.context s) limit st.here)
  all_goals rfl

/-- A group that opens under a limit opens under a lower one too, or it is too deep for that. -/
theorem enter_limited (below : low ≤ s.nestLimit) (capture : Option (Nat × Option String)) (flags : Flags)
    (after : Cursor) :
    st.enter (s.limited low) capture flags after = st.enter s capture flags after ∨
      st.enter (s.limited low) capture flags after = .error (.malformed after.offset .tooMuchNesting) ∧
        ∀ st', st.enter s capture flags after = .ok st' → low < st'.enclosing.length := by
  by_cases deep : low < st.enclosing.length + 1
  · refine .inr ⟨if_pos deep, fun st' entered => ?_⟩
    obtain ⟨-, rfl⟩ := enter_eq_ok.mp entered
    exact deep
  · have room : ¬s.nestLimit < st.enclosing.length + 1 := by omega
    exact .inl ((if_neg deep).trans (if_neg room).symm)

/-- A step does the same under a lower limit, or it opens a group that is too deep for that. -/
theorem step_limited (below : low ≤ s.nestLimit) (st : State) (c : Char) :
    step (s.limited low) st c = step s st c ∨
      (∃ position, step (s.limited low) st c = .error (.malformed position .tooMuchNesting)) ∧
        ∀ st', step s st c = .ok st' → low < st'.enclosing.length := by
  by_cases isOpen : c = '('
  · subst isOpen
    simp only [step, State.openGroup]
    rw [show (s.limited low).data = s.data from rfl]
    split
    · exact .inl rfl
    · exact .inl rfl
    · exact (enter_limited below _ _ _).imp_right fun ⟨refused, deep⟩ => ⟨⟨_, refused⟩, deep⟩
    · exact (enter_limited below _ _ _).imp_right fun ⟨refused, deep⟩ => ⟨⟨_, refused⟩, deep⟩
  · exact .inl (step_limited_of_ne low isOpen)

/-- Open groups never exceed the limit. -/
theorem enclosing_le_of_step (within : st.enclosing.length ≤ s.nestLimit) (stepped : step s st c = .ok st') :
    st'.enclosing.length ≤ s.nestLimit := by
  cases takes_of_step stepped with
  | leaf | directive | bar | repeats => exact within
  | flagged read entered =>
    obtain ⟨room, rfl⟩ := enter_eq_ok.mp entered
    exact room
  | capturing read entered =>
    obtain ⟨room, rfl⟩ := enter_eq_ok.mp entered
    exact room
  | closes isEnclosing =>
    rw [isEnclosing, List.length_cons] at within
    exact Nat.le_of_succ_le within

/-- A run under a lower limit gives the same, or it is refused for its nesting. -/
theorem run_limited (below : low ≤ s.nestLimit) (st : State) :
    run (s.limited low) st = run s st ∨
      ∃ position, run (s.limited low) st = .error (.malformed position .tooMuchNesting) := by
  fun_induction run s st with
  | case1 st none => exact .inl (run_of_end none)
  | case2 st c rest next failure refused =>
    rcases step_limited below st c with same | ⟨⟨position, failed⟩, -⟩
    · exact .inl (run_of_refused next (same.trans refused))
    · exact .inr ⟨position, run_of_refused next failed⟩
  | case3 st c rest next st' stepped ih =>
    rcases step_limited below st c with same | ⟨⟨position, failed⟩, -⟩
    · rw [run_of_step next (same.trans stepped)]
      exact ih
    · exact .inr ⟨position, run_of_refused next failed⟩

/-- A crossing keeps the count of the parentheses: what is deepest from here on is deepest from there on, or
it is the depth here. -/
theorem Crosses.deepest_le_iff (crosses : Crosses st st') (within : st.enclosing.length ≤ low) :
    Parenthesis.deepest st.enclosing.length (Parenthesis.scan st.here.rest) ≤ low ↔
      Parenthesis.deepest st'.enclosing.length (Parenthesis.scan st'.here.rest) ≤ low := by
  cases crosses with
  | nothing signs level => rw [signs, level]
  | opening isOpening signs level => rw [signs, level, Parenthesis.deepest_opening isOpening, List.length_cons]
  | setting signs level =>
    rw [signs, level]
    rfl
  | closing signs level =>
    rw [level, List.length_cons] at within
    rw [signs, level, List.length_cons, Parenthesis.deepest, Nat.add_sub_cancel, Nat.max_le]
    exact and_iff_right within

/-- **A run under a lower limit reads what it reads under a higher one exactly if the groups of the text are not
too deep.** -/
theorem run_limited_eq_ok_iff (punctuated : s.data.Punctuated) (below : low ≤ s.nestLimit) {last : State}
    (ends : run s st = .ok last) (within : st.enclosing.length ≤ low) :
    run (s.limited low) st = .ok last ↔
      Parenthesis.deepest st.enclosing.length (Parenthesis.scan st.here.rest) ≤ low := by
  fun_induction run s st with
  | case1 st none =>
    cases ends
    rw [none, Parenthesis.scan_nil, Parenthesis.deepest, run_of_end none]
    exact iff_of_true rfl within
  | case2 => cases ends
  | case3 st c rest next st' stepped ih =>
    rw [(crosses_of_step punctuated next stepped).deepest_le_iff within]
    rcases step_limited below st c with same | ⟨⟨position, failed⟩, deep⟩
    · have within' := @enclosing_le_of_step (s.limited low) _ _ _ within (same.trans stepped)
      rw [run_of_step next (same.trans stepped)]
      exact ih ends within'
    · rw [run_of_refused next failed]
      refine iff_of_false (fun same => by cases same) (Nat.not_le.mpr ?_)
      exact Nat.lt_of_lt_of_le (deep st' stepped) (Parenthesis.le_deepest _ _)

end Parser

/-! ### Whole patterns -/

open PatternForge.Parser (State)
open Parenthesis (groupDepth)

namespace Settings

variable {s : Settings} {low : Nat}

/-- Under a lower limit a pattern is read as before, or it is refused for its nesting. -/
theorem parse_limited (below : low ≤ s.nestLimit) (pattern : String) :
    (s.limited low).parse pattern = s.parse pattern ∨
      ∃ position, (s.limited low).parse pattern = .error (.malformed position .tooMuchNesting) := by
  unfold parse
  rw [show State.initial (s.limited low) pattern.toList = State.initial s pattern.toList from rfl]
  rcases Parser.run_limited below (State.initial s pattern.toList) with same | ⟨position, refused⟩
  · rw [same]
    split
    · exact .inl rfl
    · split
      · exact .inl rfl
      · rename_i tree _
        by_cases within : tree.height ≤ low
        · have within' : tree.height ≤ s.nestLimit := by omega
          exact .inl ((if_pos (Pattern.nestedWithin_iff_height.mpr within)).trans
            (if_pos (Pattern.nestedWithin_iff_height.mpr within')).symm)
        · exact .inr ⟨0, if_neg (mt Pattern.nestedWithin_iff_height.mp within)⟩
  · rw [refused]
    exact .inr ⟨position, rfl⟩

/-- A pattern that is read is read under a lower limit too, exactly if neither its tree nor its groups are too
deep for that. -/
theorem parse_limited_eq_ok_iff (punctuated : s.data.Punctuated) (below : low ≤ s.nestLimit) {pattern : String}
    {tree : Pattern} (parsed : s.parse pattern = .ok tree) :
    (s.limited low).parse pattern = .ok tree ↔ tree.height ≤ low ∧ groupDepth pattern ≤ low := by
  obtain ⟨last, ends, closed, rfl, -⟩ := parse_eq_ok.mp parsed
  have groups := Parser.run_limited_eq_ok_iff punctuated below ends (Nat.zero_le low)
  rw [parse_eq_ok]
  constructor
  · rintro ⟨last', ends', -, -, within⟩
    rw [Pattern.deepestWithin_iff_height, Nat.zero_add] at within
    refine ⟨within, groups.mp ?_⟩
    rcases Parser.run_limited below (State.initial s pattern.toList) with same | ⟨position, refused⟩
    · exact same.trans ends
    · cases refused.symm.trans ends'
  · rintro ⟨within, shallow⟩
    refine ⟨last, groups.mpr shallow, closed, rfl, ?_⟩
    rw [Pattern.deepestWithin_iff_height, Nat.zero_add]
    exact within

/-- **Limits on nesting only cut off.** Under the lower of two limits a pattern is read as under the higher one
or refused for its nesting. What the higher one lets pass the lower one lets pass exactly if the tree is not
higher than it and the groups of the text are not nested deeper, and no tree is higher than its limit. -/
theorem parse_under_limits (domain : Universe) (flags : Flags) {low high : Nat} (below : low ≤ high)
    (pattern : String) :
    (({ domain, flags, nestLimit := low } : Settings).parse pattern =
        ({ domain, flags, nestLimit := high } : Settings).parse pattern ∨
      ∃ position, ({ domain, flags, nestLimit := low } : Settings).parse pattern =
        .error (.malformed position .tooMuchNesting)) ∧
    ∀ tree, ({ domain, flags, nestLimit := high } : Settings).parse pattern = .ok tree →
      tree.height ≤ high ∧
        (({ domain, flags, nestLimit := low } : Settings).parse pattern = .ok tree ↔
          tree.height ≤ low ∧ groupDepth pattern ≤ low) := by
  refine ⟨@parse_limited { domain, flags, nestLimit := high } low below pattern, fun tree parsed => ?_⟩
  constructor
  · obtain ⟨-, -, -, -, within⟩ := parse_eq_ok.mp parsed
    rwa [Pattern.deepestWithin_iff_height, Nat.zero_add] at within
  · exact @parse_limited_eq_ok_iff { domain, flags, nestLimit := high } low
      CharacterData.punctuated_standard below _ _
      parsed

/-- A group that is repeated twice over. -/
def stackedStars : Pattern :=
  .repetition { least := 0, most := none, greedy := true }
    (.repetition { least := 0, most := none, greedy := true } (.group 1 none (.literal "a")))

theorem parse_under_limits_stackedStars :
    2 ≤ 3 ∧ ({ nestLimit := 3 } : Settings).parse "(a)**" = .ok stackedStars ∧
      groupDepth "(a)**" = 1 ∧ stackedStars.height = 3 ∧
        ({ nestLimit := 2 } : Settings).parse "(a)**" ≠ .ok stackedStars := by
  have reads : Parser.run { nestLimit := 3 } (.initial { nestLimit := 3 } "(a)**".toList) =
      .ok { here := ⟨5, []⟩, flags := {}, count := 1, closed := [1], items := [stackedStars] } := by
    iterate 5 refine (Parser.run_of_step rfl rfl).trans ?_
    exact Parser.run_of_end rfl
  have parsed : ({ nestLimit := 3 } : Settings).parse "(a)**" = .ok stackedStars := by
    unfold parse
    rw [reads]
    rfl
  refine ⟨by decide, parsed, by decide +kernel, rfl, fun lower => ?_⟩
  obtain ⟨-, exactly⟩ := (parse_under_limits .ascii {} (by decide : 2 ≤ 3) "(a)**").2 _ parsed
  exact absurd (exactly.mp lower).1 (by decide)

end Settings

end PatternForge
