import PatternForge.Proofs.CharSet.Order
import PatternForge.Proofs.Pattern.Respelled
import PatternForge.Proofs.Reading.Letters
import PatternForge.Proofs.Replacing.Literals

/-!
A character of a pattern written in another of its cases, where case is ignored. A character that has
another case in the universe is read as the class of its cases, and this is the same class for each of them.
Without a case in the universe a character is read as it is written. Then the two patterns are read through
states that differ in one character of one literal (`State.Respelled`): every step keeps this
(`keeps_step`), and so do the trees.

`Settings.parse_variant` says both.
-/
namespace PatternForge

open Pattern (RespelledLevel)

/-- A group that is open, with the character or the other one in front of it. -/
inductive OpenGroup.Respelled (c d : Char) : OpenGroup → OpenGroup → Prop
  | mk (opened : OpenGroup) {branches items : List Pattern} :
    RespelledLevel c d opened.branches opened.items branches items →
      Respelled c d opened { opened with branches, items }

namespace Parser

/-! ### States that differ in one character -/

/-- Two states of the reader that differ in one character of what was read, at the level that is read or
around it. -/
inductive State.Respelled (c d : Char) : State → State → Prop
  | level (st : State) {branches items : List Pattern} :
    RespelledLevel c d st.branches st.items branches items → Respelled c d st { st with branches, items }
  | around (st : State) {enclosing : List OpenGroup} :
    AtOnePlace (OpenGroup.Respelled c d) st.enclosing enclosing → Respelled c d st { st with enclosing }

variable {s : Settings} {st st' next last : State} {a c d : Char}

theorem State.Respelled.push (respelled : st.Respelled c d st') (leaf : Pattern) (after : Cursor) :
    (st.push leaf after).Respelled c d (st'.push leaf after) := by
  cases respelled with
  | level level => exact .level (st.push leaf after) (level.push leaf)
  | around groups => exact .around (st.push leaf after) groups

/-- Where one step succeeds, the other does, and they lead to such states. -/
def Keeps (c d : Char) (x y : Except Failure State) : Prop :=
  ∀ next, x = .ok next → ∃ next', y = .ok next' ∧ next.Respelled c d next'

theorem keeps_of_ok {next' : State} (respelled : next.Respelled c d next') :
    Keeps c d (.ok next) (.ok next') := by
  rintro _ ⟨⟩
  exact ⟨next', rfl, respelled⟩

theorem keeps_of_error {failure : Failure} (y : Except Failure State) : Keeps c d (.error failure) y := nofun

theorem keeps_pushRead (respelled : st.Respelled c d st') (read : Except Failure (Pattern × Cursor)) :
    Keeps c d (st.pushRead read) (st'.pushRead read) := by
  cases read with
  | error failure => exact keeps_of_error _
  | ok found => exact keeps_of_ok (respelled.push found.1 found.2)

theorem keeps_nextBranch (respelled : st.Respelled c d st') :
    Keeps c d (.ok st.nextBranch) (.ok st'.nextBranch) := by
  cases respelled with
  | level level => exact keeps_of_ok (.level st.nextBranch (.branches [] level.next))
  | around groups => exact keeps_of_ok (.around st.nextBranch groups)

theorem keeps_repeatLast (respelled : st.Respelled c d st') :
    Keeps c d (st.repeatLast s a) (st'.repeatLast s a) := by
  obtain ⟨here, flags, count, closed, names, enclosing, branches, items⟩ := st
  unfold State.repeatLast
  cases items with
  | nil => exact keeps_of_error _
  | cons item earlier =>
    cases respelled with
    | level level =>
      obtain ⟨item', rest, rfl, repeated⟩ := level.repeated
      dsimp only
      split
      · exact keeps_of_error _
      · exact keeps_of_ok (.level ⟨_, _, _, _, _, _, _, _⟩ (repeated _))
    | around groups =>
      dsimp only
      split
      · exact keeps_of_error _
      · exact keeps_of_ok (.around ⟨_, _, _, _, _, _, _, _⟩ groups)

theorem keeps_enter (respelled : st.Respelled c d st') (capture : Option (Nat × Option String)) (flags : Flags)
    (after : Cursor) : Keeps c d (st.enter s capture flags after) (st'.enter s capture flags after) := by
  unfold State.enter
  cases respelled with
  | level level =>
    split
    · exact keeps_of_error _
    · exact keeps_of_ok (.around _ (.here (.mk _ level)))
  | around groups =>
    rw [groups.length_eq]
    split
    · exact keeps_of_error _
    · exact keeps_of_ok (.around _ (.later groups))

theorem keeps_openGroup (respelled : st.Respelled c d st') : Keeps c d (st.openGroup s) (st'.openGroup s) := by
  unfold State.openGroup
  cases respelled with
  | level level =>
    dsimp only
    split
    · exact keeps_of_error _
    · exact keeps_of_ok (.level _ level)
    · exact keeps_enter (.level st level) _ _ _
    · refine keeps_enter ?_ _ _ _
      exact .level _ level
  | around groups =>
    dsimp only
    split
    · exact keeps_of_error _
    · exact keeps_of_ok (.around _ groups)
    · exact keeps_enter (.around st groups) _ _ _
    · refine keeps_enter ?_ _ _ _
      exact .around _ groups

theorem close_respelled {p p' : Pattern} (opened : OpenGroup) (respelled : p.Respelled c d p') :
    (opened.close p).Respelled c d (opened.close p') := by
  unfold OpenGroup.close
  split
  · exact respelled
  · exact .around (.group _ _) respelled

theorem keeps_closeGroup (respelled : st.Respelled c d st') : Keeps c d st.closeGroup st'.closeGroup := by
  obtain ⟨here, flags, count, closed, names, enclosing, branches, items⟩ := st
  unfold State.closeGroup
  cases respelled with
  | level level =>
    cases enclosing with
    | nil => exact keeps_of_error _
    | cons opened outer =>
      exact keeps_of_ok (.level ⟨_, _, _, _, _, _, _, _⟩ (.items _ (.here (close_respelled opened level.ofLevel))))
  | around groups =>
    cases groups with
    | here group =>
      cases group with
      | mk level => exact keeps_of_ok (.level ⟨_, _, _, _, _, _, _, _⟩ (level.push _))
    | later groups => exact keeps_of_ok (.around ⟨_, _, _, _, _, _, _, _⟩ groups)

/-- What is still to be read, and how, is the same. -/
theorem State.Respelled.same (respelled : st.Respelled c d st') :
    st'.here = st.here ∧ st'.flags = st.flags ∧ st'.context s = st.context s := by
  cases respelled <;> exact ⟨rfl, rfl, rfl⟩

/-- At the end, with no group open, the trees differ so. -/
theorem State.Respelled.atEnd (respelled : st.Respelled c d st') (closed : st.enclosing = []) :
    st'.enclosing = [] ∧
      (Pattern.ofLevel st.branches st.items).Respelled c d (.ofLevel st'.branches st'.items) := by
  cases respelled with
  | level level => exact ⟨closed, level.ofLevel⟩
  | around groups =>
    rw [closed] at groups
    cases groups

/-- **One step** from such states. -/
theorem keeps_step (respelled : st.Respelled c d st') : Keeps c d (step s st a) (step s st' a) := by
  obtain ⟨here, flags, context⟩ := respelled.same (s := s)
  unfold step
  rw [here, flags, context]
  split
  · exact keeps_openGroup respelled
  · exact keeps_closeGroup respelled
  · exact keeps_nextBranch respelled
  · exact keeps_pushRead respelled _
  · exact keeps_repeatLast respelled
  · exact keeps_repeatLast respelled
  · exact keeps_repeatLast respelled
  · exact keeps_repeatLast respelled
  · exact keeps_pushRead respelled _
  · exact keeps_of_ok (respelled.push _ _)
  · exact keeps_of_ok (respelled.push _ _)
  · exact keeps_of_ok (respelled.push _ _)
  · exact keeps_of_ok (respelled.push _ _)

/-- **A run** from such states: induction on the run, one step after another. -/
theorem run_respelled (respelled : st.Respelled c d st') (ends : run s st = .ok last) :
    ∃ last', run s st' = .ok last' ∧ last.Respelled c d last' := by
  have here := (respelled.same (s := s)).1
  fun_induction run s st generalizing st' with
  | case1 st none =>
    cases ends
    exact ⟨st', run_of_end (here ▸ none), respelled⟩
  | case2 => cases ends
  | case3 st a rest next between stepped ih =>
    obtain ⟨between', stepped', respelled'⟩ := keeps_step respelled _ stepped
    rw [run_of_step (here ▸ next) stepped']
    exact ih respelled' ends (respelled'.same (s := s)).1

end Parser

open PatternForge.Parser

namespace Settings

/-! ### The character -/

variable {s : Settings} {flags : Flags} {front behind : List Char} {c d : Char} {st : State} {tree : Pattern}

private theorem frozen_setOf (s : Settings) (chars : List Char) :
    (s.setOf chars).frozen = (CharSet.empty s.domain).frozen := by
  have general : ∀ set : CharSet, (chars.foldl CharSet.withKnown set).frozen = set.frozen := by
    induction chars with
    | nil => intro set; rfl
    | cons c rest ih =>
      intro set
      rw [List.foldl_cons, ih]
      unfold CharSet.withKnown
      split <;> rfl
  exact general _

/-- The cases of a character are those of each of them. -/
theorem setOf_variants (variants : Equivalence fun c d => d ∈ s.data.variants c)
    (variant : d ∈ s.data.variants c) :
    s.setOf (s.data.variants d) = s.setOf (s.data.variants c) := by
  refine CharSet.ext (by simp) (by rw [frozen_setOf, frozen_setOf]) fun e => ?_
  rw [Bool.eq_iff_iff, contains_setOf, contains_setOf]
  exact and_congr_right fun _ => ⟨variants.trans variant, variants.trans (variants.symm variant)⟩

/-- A character that stands for all its cases is not told from another case of it. -/
theorem charPattern_of_variant (variants : Equivalence fun c d => d ∈ s.data.variants c)
    (variant : d ∈ s.data.variants c) (folds : s.Folds flags c) :
    s.charPattern flags d = s.charPattern flags c := by
  have same := setOf_variants variants variant
  have folds' : s.Folds flags d := ⟨folds.1, same ▸ folds.2⟩
  rw [charPattern_of_folds folds, charPattern_of_folds folds', same]

/-- Without a case in the universe, a character stands for itself. -/
theorem not_folds_of_outside (outside : ∀ e ∈ s.data.variants c, s.domain.contains e = false) :
    ¬s.Folds flags c := by
  rintro ⟨-, several⟩
  have none : (s.setOf (s.data.variants c)).members = [] := by
    refine List.eq_nil_iff_forall_not_mem.mpr fun e member => ?_
    obtain ⟨inside, variant⟩ := (s.contains_setOf _ e).mp (CharSet.mem_members.mp member)
    rw [outside e variant] at inside
    cases inside
  rw [CharSet.size_eq, none] at several
  cases several

/-- A character that stands for itself does not continue an operator in front of it. -/
private theorem plain_head (plain : isSyntax d = false) :
    (d :: behind).head? ≠ some '?' ∧ (d :: behind).head? ≠ some '+' := by
  constructor <;> (rintro ⟨⟩; cases plain)

/-- The reader takes a character for itself. -/
private theorem reads_character (plain : isSyntax c = false) (place : st.here.rest = c :: behind) :
    Reads s st (st.push (s.charPattern st.flags c) st.here.skip) :=
  ⟨c, behind, place, step_of_not_syntax plain⟩

/-- In another character's place it takes this one for itself. -/
private theorem reads_replacement (plain : isSyntax d = false) (st : State) (behind : List Char) :
    Reads s (st.goingOn (d :: behind)) ((st.goingOn (d :: behind)).push (s.charPattern st.flags d)
      (st.goingOn (d :: behind)).here.skip) :=
  reads_character plain rfl

/-- A literal character written as another one that is read as a literal: the other one takes its place in
the tree. -/
theorem parse_literal_replaced (plain : isSyntax c = false) (plain' : isSyntax d = false)
    (single : ¬s.Folds st.flags c) (single' : ¬s.Folds st.flags d)
    (parsed : s.parse (String.ofList (front ++ c :: behind)) = .ok tree)
    (comes : Relation.ReflTransGen (Reads s) (.initial s (front ++ c :: behind)) st)
    (place : st.here.rest = c :: behind) :
    ∃ tree', s.parse (String.ofList (front ++ d :: behind)) = .ok tree' ∧ tree.Respelled c d tree' := by
  have stepped := reads_character (s := s) plain place
  have stepped' := reads_replacement (s := s) plain' st behind
  rw [charPattern_of_not_folds single] at stepped
  rw [charPattern_of_not_folds single'] at stepped'
  have onway : Relation.ReflTransGen (Reads s) (.initial s (front ++ d :: behind)) (st.goingOn (d :: behind)) :=
    reads_replaced (List.cons_ne_nil _ _) (plain_head plain') comes place
  obtain ⟨last, ends, closed, rfl, depth⟩ := parse_eq_ok.mp parsed
  rw [String.toList_ofList, run_of_reads (comes.tail stepped)] at ends
  -- The other character is put behind the same items at the same place, and then at its own.
  have respelled : (st.push (.literal c.toString) st.here.skip).Respelled c d
      (st.push (.literal d.toString) st.here.skip) := .level _ (.items _ (.here (.literal [] [])))
  obtain ⟨between, ends', respelled'⟩ := run_respelled respelled ends
  have moved : (st.push (.literal d.toString) st.here.skip).unplaced =
      ((st.goingOn (d :: behind)).push (.literal d.toString) (st.goingOn (d :: behind)).here.skip).unplaced := by
    simp only [State.unplaced, State.unopened, State.push, State.goingOn, Cursor.rest_skip, place,
      List.tail_cons]
  obtain ⟨last', ends'', same⟩ := run_unplaced moved ends'
  rw [← run_of_reads (onway.tail stepped')] at ends''
  simp only [State.unplaced, State.unopened, State.mk.injEq] at same
  obtain ⟨-, -, -, -, -, groups, branches, items⟩ := same
  obtain ⟨closed', trees⟩ := respelled'.atEnd closed
  rw [← branches, ← items] at trees
  refine ⟨_, parse_eq_ok.mpr ⟨last', by rwa [String.toList_ofList], ?_, rfl, trees.deepestWithin depth⟩, trees⟩
  simpa [closed'] using groups

/-- In the tree, a literal character stands behind the letters that were read before it. -/
private theorem letters_of_literal (plain : isSyntax c = false) (single : ¬s.Folds st.flags c)
    (parsed : s.parse (String.ofList (front ++ c :: behind)) = .ok tree)
    (comes : Relation.ReflTransGen (Reads s) (.initial s (front ++ c :: behind)) st)
    (place : st.here.rest = c :: behind) : ∃ more, tree.letters = st.letters ++ c :: more := by
  have stepped := reads_character (s := s) plain place
  rw [charPattern_of_not_folds single] at stepped
  have onwards := comes.tail stepped
  rw [← String.toList_ofList (l := front ++ c :: behind)] at onwards
  obtain ⟨more, letters⟩ := letters_of_parse parsed onwards
  refine ⟨more, ?_⟩
  rw [letters, letters_push]
  simp [Pattern.letters]

/-- **The case in which a letter is written does not matter** where case is ignored and the letter has
another case in the universe: the tree is the same. Where none of its cases lies in the universe, the letter
stands for itself, and the tree has it as it is written, at its own place: behind the letters that were read
before it. -/
theorem parse_variant (variants : Equivalence fun c d => d ∈ s.data.variants c)
    (marks : ∀ c, isSyntax c = true → ∀ d ∈ s.data.variants c, d = c)
    (parsed : s.parse (String.ofList (front ++ c :: behind)) = .ok tree)
    (comes : Relation.ReflTransGen (Reads s) (.initial s (front ++ c :: behind)) st)
    (place : st.here.rest = c :: behind) (plain : isSyntax c = false) (ignoring : st.flags.ignoreCase = true)
    (variant : d ∈ s.data.variants c) :
    (1 < (s.setOf (s.data.variants c)).size → s.parse (String.ofList (front ++ d :: behind)) = .ok tree) ∧
    ((∀ e ∈ s.data.variants c, s.domain.contains e = false) → ∃ frames before rest,
      tree = Pattern.framed frames (.literal (String.ofList (before ++ c :: rest))) ∧
        s.parse (String.ofList (front ++ d :: behind)) =
          .ok (Pattern.framed frames (.literal (String.ofList (before ++ d :: rest)))) ∧
        Pattern.lettersBefore frames ++ before = st.letters) := by
  have plain' : isSyntax d = false := by
    refine Bool.eq_false_iff.mpr fun mark => ?_
    obtain rfl := marks d mark c (variants.symm variant)
    rw [plain] at mark
    cases mark
  constructor
  · intro several
    have folds : s.Folds st.flags c := ⟨ignoring, several⟩
    have stepped' := reads_replacement (s := s) plain' st behind
    rw [charPattern_of_variant variants variant folds] at stepped'
    refine parse_leaf_replaced (List.cons_ne_nil _ _) (plain_head plain') parsed comes place
      (reads_character plain place) stepped' ?_
    rw [Cursor.rest_skip, Cursor.rest_skip, place]
    rfl
  · intro outside
    have outside' : ∀ e ∈ s.data.variants d, s.domain.contains e = false := fun e variant' =>
      outside e (variants.trans variant variant')
    have single : ¬s.Folds st.flags c := not_folds_of_outside outside
    have single' : ¬s.Folds st.flags d := not_folds_of_outside outside'
    obtain ⟨more, letters⟩ := letters_of_literal plain single parsed comes place
    by_cases other : c = d
    · subst other
      obtain ⟨frames, before, rest, rfl, own⟩ := Pattern.exists_place letters
      exact ⟨frames, before, rest, rfl, parsed, own⟩
    · obtain ⟨tree', parsed', respelled⟩ := parse_literal_replaced plain plain' single single' parsed comes place
      obtain ⟨frames, before, rest, rfl, rfl⟩ := respelled.exists_framed
      have alone : ¬s.Folds (st.goingOn (d :: behind)).flags d := single'
      obtain ⟨more', letters'⟩ := letters_of_literal plain' alone parsed'
        (reads_replaced (List.cons_ne_nil _ _) (plain_head plain') comes place) rfl
      exact ⟨frames, before, rest, rfl, parsed', Pattern.lettersBefore_of_letters other letters letters'⟩

/-! ### One letter -/

/-- Reading where the letter e with an acute accent is the only one that has another case. -/
def accents (domain : Universe) : Settings :=
  { domain
    data := { ClassSet.sevenBit with variants := fun c => if c = 'é' ∨ c = 'É' then ['É', 'é'] else [c] } }

private theorem accents_variants (domain : Universe) :
    Equivalence fun c d => d ∈ (accents domain).data.variants c := by
  have mem (c d : Char) : d ∈ (accents domain).data.variants c ↔
      d = c ∨ (c = 'é' ∨ c = 'É') ∧ (d = 'é' ∨ d = 'É') := by
    simp only [accents]
    split <;> grind
  simp only [mem]
  exact ⟨by grind, by grind, by grind⟩

private theorem accents_marks (domain : Universe) {c d : Char} (mark : isSyntax c = true)
    (variant : d ∈ (accents domain).data.variants c) : d = c := by
  have other : ¬(c = 'é' ∨ c = 'É') := by rintro (rfl | rfl) <;> cases mark
  simpa [accents, other] using variant

private theorem reads_ignoring (domain : Universe) (c : Char) :
    Reads (accents domain) (.initial (accents domain) ("(?i)".toList ++ [c]))
      { here := ⟨4, [c]⟩, flags := { ignoreCase := true } } := by
  have listed : GroupPrefix.flagList { flags := {} } ⟨2, ['i', ')', c]⟩ =
      .ok ({ ignoreCase := true }, ⟨3, [')', c]⟩) := by
    rw [GroupPrefix.flagList_letter rfl (by decide) rfl (by simp), GroupPrefix.flagList_more _ rfl]
    rfl
  refine ⟨'(', _, rfl, ?_⟩
  have isDirective : GroupPrefix.read (accents domain).data {} [] ⟨0, "(?i)".toList ++ [c]⟩ = _ :=
    GroupPrefix.read_directive rfl (by decide) listed rfl (show (3 : Nat) ≠ 2 by decide)
  show State.openGroup _ _ = _
  unfold State.openGroup
  exact isDirective ▸ rfl

private theorem parse_ignoring (domain : Universe) {c : Char} (plain : isSyntax c = false) :
    (accents domain).parse (String.ofList ("(?i)".toList ++ [c])) =
      .ok ((accents domain).charPattern { ignoreCase := true } c) := by
  have stepped := @reads_character (accents domain) [] c
    { here := ⟨4, [c]⟩, flags := { ignoreCase := true } } plain rfl
  have ends := (run_of_reads ((Relation.ReflTransGen.single (reads_ignoring domain c)).tail stepped)).trans
    (run_of_end rfl)
  have leaf : (accents domain).charPattern { ignoreCase := true } c =
        .ofLevel [] [(accents domain).charPattern { ignoreCase := true } c] ∧
      ((accents domain).charPattern { ignoreCase := true } c).DeepestWithin (accents domain).nestLimit 0 := by
    by_cases folds : (accents domain).Folds { ignoreCase := true } c
    · rw [charPattern_of_folds folds]
      exact ⟨rfl, Pattern.deepestWithin_iff.mpr ⟨Nat.zero_le _, nofun⟩⟩
    · rw [charPattern_of_not_folds folds]
      exact ⟨rfl, Pattern.deepestWithin_iff.mpr ⟨Nat.zero_le _, nofun⟩⟩
  exact parse_eq_ok.mpr ⟨_, by rw [String.toList_ofList, ends], rfl, leaf.1, leaf.2⟩

/-- Neither case of the letter is one of the seven-bit characters. -/
private theorem accents_outside {c : Char} (accented : c = 'é' ∨ c = 'É') :
    ∀ e ∈ (accents .ascii).data.variants c, (accents .ascii).domain.contains e = false := by
  have cases : (accents .ascii).data.variants c = ['É', 'é'] := if_pos accented
  rw [cases, List.forall_mem_cons, List.forall_mem_singleton]
  exact ⟨rfl, rfl⟩

private theorem parse_outside :
    (accents .ascii).parse (String.ofList ("(?i)".toList ++ ['é'])) = .ok (.literal "é") ∧
      (accents .ascii).parse (String.ofList ("(?i)".toList ++ ['É'])) = .ok (.literal "É") := by
  constructor
  · rw [parse_ignoring .ascii (by decide),
      charPattern_of_not_folds (not_folds_of_outside (accents_outside (.inl rfl)))]
    rfl
  · rw [parse_ignoring .ascii (by decide),
      charPattern_of_not_folds (not_folds_of_outside (accents_outside (.inr rfl)))]
    rfl

/-- Over the seven-bit characters the case in which an accented letter is written does matter: neither case
of it is one of them, and each is read as it is written. -/
theorem parse_variant_outside :
    (Equivalence fun c d => d ∈ (accents .ascii).data.variants c) ∧ 'É' ∈ (accents .ascii).data.variants 'é' ∧
      (∃ st, Relation.ReflTransGen (Reads (accents .ascii)) (.initial (accents .ascii) "(?i)é".toList) st ∧
        st.here.rest = ['é'] ∧ st.flags.ignoreCase = true) ∧ isSyntax 'é' = false ∧
      (accents .ascii).parse "(?i)é" = .ok (.literal "é") ∧ (accents .ascii).parse "(?i)É" = .ok (.literal "É") ∧
      Pattern.literal "é" ≠ .literal "É" :=
  ⟨accents_variants .ascii, by decide, ⟨_, .single (reads_ignoring .ascii 'é'), rfl, rfl⟩, by decide,
    parse_outside.1, parse_outside.2, by simp⟩

/-- An accented letter in both of its cases, over the eight-bit characters, of which both are, and over the
seven-bit ones. -/
theorem parse_variant_accented :
    (∃ tree, (accents .latin1).parse "(?i)é" = .ok tree ∧ (accents .latin1).parse "(?i)É" = .ok tree) ∧
      ∃ frames before rest,
        Pattern.literal "é" = .framed frames (.literal (String.ofList (before ++ 'é' :: rest))) ∧
        (accents .ascii).parse "(?i)É" = .ok (.framed frames (.literal (String.ofList (before ++ 'É' :: rest)))) ∧
        Pattern.lettersBefore frames ++ before = [] := by
  have small : "(?i)é" = String.ofList ("(?i)".toList ++ 'é' :: []) := rfl
  have capital : "(?i)É" = String.ofList ("(?i)".toList ++ 'É' :: []) := rfl
  rw [small, capital]
  constructor
  · have parsed := parse_ignoring .latin1 (c := 'é') (by decide)
    exact ⟨_, parsed, (parse_variant (accents_variants .latin1) (fun _ mark _ => accents_marks .latin1 mark) parsed
      (.single (reads_ignoring .latin1 'é')) rfl (by decide) rfl (by decide)).1 (by decide)⟩
  · exact (parse_variant (accents_variants .ascii) (fun _ mark _ => accents_marks .ascii mark) parse_outside.1
      (.single (reads_ignoring .ascii 'é')) rfl (by decide) rfl (by decide)).2 (accents_outside (.inl rfl))

end Settings

end PatternForge
