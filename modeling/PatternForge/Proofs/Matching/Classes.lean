import PatternForge.Matching.Regular.CharGroup
import PatternForge.Proofs.Matching.Leaves
import PatternForge.Proofs.Reading.ClassTurns

/-!
Bracketed classes in both notations. The finite engine knows more of them: classes in classes, and
operations. A class that the reader of patterns accepts has neither, so where no flag is set both find
the same items in it. The reader keeps those of their characters that are in the universe; among these
the engine allows the same.
-/
namespace PatternForge

namespace ClassSet

theorem SpellsUnit.append {ctx : Escape.Context} {text rest : List Char} {one : Written}
    (spelled : SpellsUnit ctx text one rest) (more : List Char) :
    SpellsUnit ctx (text ++ more) one (rest ++ more) := by
  cases spelled with
  | plain notEscape => exact .plain notEscape
  | escaped spelled => exact .escaped (spelled.append more)
  | named spelled => exact .named (spelled.append more)

/-- Every unit takes some text. -/
theorem SpellsUnit.shorter {ctx : Escape.Context} {text rest : List Char} {one : Written}
    (spelled : SpellsUnit ctx text one rest) : rest.length < text.length := by
  cases spelled with
  | plain notEscape => simp
  | escaped spelled => cases spelled <;> simp <;> omega
  | named spelled => cases spelled <;> simp <;> omega

theorem Alone.append {text : List Char} (alone : Alone text) (more : List Char) :
    Alone (text ++ more) := by
  obtain ⟨c, rest, rfl, isHyphen⟩ := alone
  refine ⟨c, rest ++ more, rfl, fun same => ?_⟩
  rcases isHyphen same with next | next
  · exact .inl (by simp [next])
  · exact .inr (by simp [next])

end ClassSet

namespace Regular

open ClassSet (Alone Item Joins Resolves SpellsUnit Written)

variable {ctx : Escape.Context} {here : Cursor} {text rest : List Char}

/-! ### Items -/

/-- The characters of an item of which no character has another case. -/
def inWritten : Written → Char → Bool
  | .character d => fun c => c = d
  | .range lo hi => fun c => lo ≤ c && c ≤ hi
  | .named holds negated => fun c => negated ^^ holds c
  | .posix ranges negated => fun c =>
    negated ^^ ranges.any fun range => range.1 ≤ c && c ≤ range.2

private theorem has_iff (minding : ctx.flags.ignoreCase = false) {one : Written} {item : Item}
    (resolves : Resolves ctx one item) {c : Char} (within : ctx.settings.domain.contains c = true) :
    item.Has c ↔ inWritten one c = true := by
  cases resolves with
  | character d =>
    simp only [Item.Has, inWritten, decide_eq_true_eq]
    exact ⟨fun between => Char.le_antisymm between.2 between.1,
      fun same => same ▸ ⟨Char.le_refl _, Char.le_refl _⟩⟩
  | cases d ignoring => simp [minding] at ignoring
  | range ordered => simp [Item.Has, inWritten]
  | named spelled =>
    simp [Item.Has, inWritten, CharClass.contains_of, CharSet.contains_ofPredicate, within]
  | posix ranges negated =>
    cases negated <;>
      simp [Item.Has, inWritten, ClassSet.setOfRanges, CharSet.contains_ofPredicate, within]

private theorem classLeaf_of_spells (consistent : ctx.settings.data.Consistent)
    (minding : ctx.flags.ignoreCase = false) {one : Written} (spelled : SpellsUnit ctx text one rest)
    (next : here.rest = text) :
    ∃ leaf after, classLeaf ctx.settings.data {} here = some (leaf, after) ∧ after.rest = rest ∧
      leaf.classSet? {} = some (inWritten one) ∧
        ∀ c, one = .character c → leaf.classChar? {} = some c := by
  cases spelled with
  | @plain c _ notEscape =>
    refine ⟨.char c false, here.skip, ?_, by simp [next], rfl, fun d same => by cases same; rfl⟩
    unfold classLeaf
    split
    · rename_i none
      rw [next] at none
      cases none
    · rename_i escape
      rw [next] at escape
      cases escape
      exact absurd rfl notEscape
    · rename_i same
      rw [next] at same
      cases same
      rfl
  | @escaped text _ c spelled =>
    have behind : here.skip.rest = text := by simp [next]
    obtain ⟨asByte, after, found, stop⟩ := escape_of_spells ctx.settings.data spelled behind
    refine ⟨.char c asByte, after, ?_, stop, rfl, fun d same => by cases same; rfl⟩
    simp only [classLeaf, next, found]
  | @named text _ holds negated spelled =>
    have behind : here.skip.rest = text := by simp [next]
    obtain ⟨after, found, stop⟩ := escape_of_spellsNamed consistent minding spelled behind
    refine ⟨.oneOf fun c => negated ^^ holds c, after, ?_, stop, rfl, fun d same => by cases same⟩
    simp only [classLeaf, next, found]

/-- Whether a hyphen joins two characters here, as the engine sees it. -/
private def joinsNext (data : CharacterData) (after : Cursor) : Bool :=
  after.rest.head? = some '-' && behindHyphen? data {} (after.rest.drop 1) ≠ some ']' &&
    behindHyphen? data {} (after.rest.drop 1) ≠ some '-'

private theorem joinsNext_of_alone {data : CharacterData} {after : Cursor}
    (alone : Alone after.rest) : joinsNext data after = false := by
  obtain ⟨c, rest, next, isHyphen⟩ := alone
  by_cases hyphen : c = '-'
  · rcases isHyphen hyphen with last | last <;> simp [joinsNext, next, behindHyphen?, last]
  · simp [joinsNext, next, hyphen]

private theorem joinsNext_of_joins {data : CharacterData} {after : Cursor}
    (joins : Joins after.rest) : joinsNext data after = true := by
  obtain ⟨c, rest, next, notBracket, notHyphen⟩ := joins
  simp [joinsNext, next, behindHyphen?, notBracket, notHyphen]

private theorem classItem_single (consistent : ctx.settings.data.Consistent)
    (minding : ctx.flags.ignoreCase = false) {one : Written} (spelled : SpellsUnit ctx text one rest)
    (alone : Alone rest) (next : here.rest = text) :
    ∃ after, classItem ctx.settings.data {} here = some (inWritten one, after) ∧ after.rest = rest := by
  obtain ⟨leaf, after, found, stop, set, -⟩ := classLeaf_of_spells consistent minding spelled next
  have apart : joinsNext ctx.settings.data after = false := joinsNext_of_alone (stop ▸ alone)
  refine ⟨after, ?_, stop⟩
  unfold classItem
  simp only [found, Option.bind_eq_bind, Option.bind_some, skipBlanks_plain, set]
  exact if_neg (Bool.not_eq_true _ ▸ apart)

private theorem classItem_range (consistent : ctx.settings.data.Consistent)
    (minding : ctx.flags.ignoreCase = false) {lo hi : Char} {second : List Char}
    (first : SpellsUnit ctx text (.character lo) ('-' :: second)) (joins : Joins ('-' :: second))
    (last : SpellsUnit ctx second (.character hi) rest) (ordered : lo ≤ hi) (next : here.rest = text) :
    ∃ after, classItem ctx.settings.data {} here = some (inWritten (.range lo hi), after) ∧
      after.rest = rest := by
  obtain ⟨leaf, between, found, behind, -, isLo⟩ := classLeaf_of_spells consistent minding first next
  have second' : between.skip.rest = second := by simp [behind]
  obtain ⟨leaf', after, found', stop, -, isHi⟩ := classLeaf_of_spells consistent minding last second'
  have together : joinsNext ctx.settings.data between = true := joinsNext_of_joins (behind ▸ joins)
  refine ⟨after, ?_, stop⟩
  unfold classItem
  simp only [found, Option.bind_eq_bind, Option.bind_some, skipBlanks_plain, next_plain, found',
    isLo lo rfl, isHi hi rfl, if_neg (Char.not_lt.mpr ordered)]
  exact if_pos together

private theorem posixClass_eq_some {name : List Char} {ranges : List (Char × Char)} {negated : Bool}
    (absent : ':' ∉ name) (bare : negated = false → name.head? ≠ some '^')
    (known : ClassSet.posixRanges? (String.ofList name) = some ranges)
    (next : here.rest = '[' :: ':' :: ClassSet.caret negated ++ name ++ ':' :: ']' :: rest) :
    ∃ after, posixClass? here =
        some (negated, fun c => ranges.any fun range => range.1 ≤ c && c ≤ range.2, after) ∧
      after.rest = rest := by
  have opening : here.afterText? ['[', ':'] = some (here.skipMany 2) :=
    Cursor.afterText_eq_some.mpr ⟨by simp [next], rfl⟩
  have opened : (here.skipMany 2).rest = ClassSet.caret negated ++ name ++ ':' :: ']' :: rest := by
    simp [next]
  generalize here.skipMany 2 = start at opening opened
  have marked : start.rest.head? = some '^' ↔ negated = true := by
    rw [opened]
    cases negated with
    | true => simp [ClassSet.caret]
    | false =>
      have notCaret := bare rfl
      cases name with
      | nil => simp [ClassSet.caret]
      | cons c others => simpa [ClassSet.caret] using notCaret
  have named : (if negated = true then start.skip else start).rest = name ++ ':' :: ']' :: rest := by
    cases negated with
    | true => simp [opened, ClassSet.caret]
    | false => exact opened
  obtain ⟨taken, dropped⟩ := @cut_at ':' name (']' :: rest) absent
  generalize isName : (if negated = true then start.skip else start) = nameStart at named
  have between : nameStart.textTo (nameStart.skipWhile (· ≠ ':')) = String.ofList name := by
    rw [Cursor.textTo, Cursor.charsTo_skipWhile, named, taken]
  have stop : (nameStart.skipWhile (· ≠ ':')).rest = ':' :: ']' :: rest := by
    rw [Cursor.rest_skipWhile, named, dropped]
  generalize isStop : nameStart.skipWhile (· ≠ ':') = nameEnd at between stop
  have closing : nameEnd.afterText? [':', ']'] = some (nameEnd.skipMany 2) :=
    Cursor.afterText_eq_some.mpr ⟨by simp [stop], rfl⟩
  refine ⟨nameEnd.skipMany 2, ?_, by simp [stop]⟩
  unfold posixClass?
  simp only [opening, Option.bind_eq_bind, Option.bind_some, marked, Bool.decide_eq_true, isName,
    isStop, closing, between, known]
  rfl

/-! ### Classes -/

/-- The class that is being read allows what the items found so far have, among the characters of the
universe. -/
private structure Follows (ctx : Escape.Context) (negated : Bool) (found : List Item)
    (cls : OpenClass) : Prop where
  negated : cls.negated = negated
  pending : cls.pending = none
  ordered : ∀ item ∈ found, item.Ordered
  found : ∀ c, ctx.settings.domain.contains c = true →
    (cls.found c = true ↔ ∃ item ∈ found, item.Has c)

private theorem Follows.add {negated : Bool} {found : List Item} {cls : OpenClass}
    (follows : Follows ctx negated found cls) {item : Item} {allows : Char → Bool}
    (ordered : item.Ordered)
    (same : ∀ c, ctx.settings.domain.contains c = true → (item.Has c ↔ allows c = true)) :
    Follows ctx negated (item :: found) (cls.add { allows }) where
  negated := follows.negated
  pending := follows.pending
  ordered := by simpa using ⟨ordered, follows.ordered⟩
  found := by
    intro c within
    simp only [OpenClass.add, Bool.or_eq_true, follows.found c within, ← same c within,
      List.mem_cons, exists_eq_or_imp]
    exact or_comm

private theorem classRun_of_step {data : CharacterData} {cls cls' : OpenClass} {after : Cursor}
    (stepped : classStep data {} cls [] here = some (.reading cls' [] after))
    (shorter : after.rest.length < here.rest.length) :
    classRun data {} cls [] here = classRun data {} cls' [] after := by
  rw [classRun]
  simp only [skipBlanks_plain, stepped, shorter, ↓reduceIte]

/-- The closing bracket makes one test of what was found. -/
private theorem classRun_of_close {negated : Bool} {found : List Item} {cls : OpenClass}
    (follows : Follows ctx negated found cls) (minding : ctx.flags.ignoreCase = false)
    {start after : Cursor} {leaf : Pattern}
    (built : ClassSet.build ctx start after negated found.reverse = .ok leaf)
    (next : here.rest = ']' :: rest) :
    ∃ test, classRun ctx.settings.data {} cls [] here = some (test, here.skip) ∧
      ∀ cap, leaf.MatchedBy cap (.one test) := by
  obtain ⟨test, closes, allows⟩ : ∃ test, cls.close ctx.settings.data {} = some test ∧
      ∀ c, test.allows c = (negated ^^ cls.found c) := by
    obtain ⟨isNegated, none, -, -⟩ := follows
    subst isNegated
    unfold OpenClass.close OpenClass.operand
    rw [none]
    cases cls.negated <;> simp [negatable, Mode.widened]
  refine ⟨test, ?_, fun cap => ?_⟩
  · rw [classRun]
    simp only [skipBlanks_plain, classStep, next, closes, Option.map_some]
  · obtain ⟨made, rfl, allowed⟩ := ClassSet.contains_build
      (fun item member => follows.ordered item (List.mem_reverse.mp member)) built
    refine Pattern.matchedBy_class fun c member => ?_
    obtain ⟨within, listed⟩ := (allowed c).mp member
    have same : (∃ item ∈ found.reverse, ClassSet.Widens ctx item.Has c) ↔ cls.found c = true := by
      simp [ClassSet.Widens, minding, follows.found c within]
    rw [same] at listed
    rw [allows]
    cases negated <;> simpa using listed

private theorem operator_eq_none {c : Char}
    (operator : ¬(ClassSet.isSetOperator c = true ∧ rest.head? = some c)) :
    ((operator? c).filter fun _ => rest.head? = some c) = none := by
  by_cases twice : rest.head? = some c
  · have single : ClassSet.isSetOperator c = false := by simpa [twice] using operator
    have none : operator? c = none := by
      unfold operator?
      split
      case h_4 => rfl
      all_goals cases single
    rw [none]
    rfl
  · cases operator? c <;> simp [twice]

private theorem classStep_item (data : CharacterData) {cls : OpenClass} {c : Char}
    {allows : Char → Bool} {after : Cursor} (next : here.rest = c :: rest)
    (bracket : c ≠ '[' ∧ c ≠ ']')
    (operator : ¬(ClassSet.isSetOperator c = true ∧ rest.head? = some c))
    (found : classItem data {} here = some (allows, after)) :
    classStep data {} cls [] here = some (.reading (cls.add { allows }) [] after) := by
  unfold classStep
  split
  · rename_i none
    rw [next] at none
    cases none
  · rename_i opens
    rw [next] at opens
    cases opens
    exact absurd rfl bracket.1
  · rename_i closes
    rw [next] at closes
    cases closes
    exact absurd rfl bracket.2
  · rename_i same
    rw [next] at same
    cases same
    rw [operator_eq_none operator]
    simp only [found, Option.map_some]

/-- An item that is read is an item of the engine, which allows what is written there. -/
private theorem classItem_of_item (consistent : ctx.settings.data.Consistent)
    (minding : ctx.flags.ignoreCase = false) {start stop here' : Cursor} {one : Item} {more : List Char}
    (single : ClassSet.item ctx start here = .ok (one, stop)) (same : here'.rest = here.rest ++ more) :
    ∃ written, Resolves ctx written one ∧
      ∃ stop', classItem ctx.settings.data {} here' = some (inWritten written, stop') ∧
        stop'.rest = stop.rest ++ more := by
  rcases ClassSet.reads_of_item single with ⟨written, unit, resolves, alone⟩ |
    ⟨lo, hi, second, rfl, ordered, first, joins, last⟩
  · exact ⟨written, resolves,
      classItem_single consistent minding (unit.append more) (alone.append more) same⟩
  · have joins' : Joins ('-' :: (second ++ more)) := by
      obtain ⟨next, others, isNext, apart⟩ := joins
      cases isNext
      exact ⟨next, others ++ more, rfl, apart⟩
    exact ⟨_, .range ordered,
      classItem_range consistent minding (first.append more) joins' (last.append more) ordered same⟩

/-- Something follows the first character of an item. -/
private theorem several_of_item {start stop : Cursor} {one : Item} {c : Char}
    (single : ClassSet.item ctx start here = .ok (one, stop)) (next : here.rest = c :: rest) : rest ≠ [] := by
  rintro rfl
  rcases ClassSet.reads_of_item single with ⟨written, unit, -, d, others, behind, -⟩ |
    ⟨lo, hi, second, -, -, first, -, -⟩
  · have := unit.shorter
    rw [next, behind] at this
    simp at this
  · have := first.shorter
    rw [next] at this
    simp at this

/-- A turn of the reader is a step of the engine. -/
private theorem classStep_of_turn (consistent : ctx.settings.data.Consistent)
    (minding : ctx.flags.ignoreCase = false) {start next here' : Cursor} {one : Item} {negated : Bool}
    {found : List Item} {cls : OpenClass} {more : List Char} (turn : ClassSet.Turn ctx start here one next)
    (same : here'.rest = here.rest ++ more) (follows : Follows ctx negated found cls) :
    ∃ cls' next', classStep ctx.settings.data {} cls [] here' = some (.reading cls' [] next') ∧
      next'.rest = next.rest ++ more ∧ Follows ctx negated (one :: found) cls' := by
  cases turn with
  | posix isOpen shown =>
    obtain ⟨name, ranges, itemNegated, spelled, absent, bare, known, resolves⟩ :=
      ClassSet.posix_eq_some shown
    have spelled' : here'.rest =
        '[' :: ':' :: ClassSet.caret itemNegated ++ name ++ ':' :: ']' :: (next.rest ++ more) := by
      rw [same, spelled]
      simp
    obtain ⟨next', found', stop⟩ := posixClass_eq_some absent bare known spelled'
    refine ⟨cls.add { allows := inWritten (.posix ranges itemNegated) }, next', ?_, stop,
      follows.add resolves.ordered fun c within => has_iff minding resolves within⟩
    unfold classStep
    simp only [spelled', List.cons_append, found']
    cases itemNegated <;> simp [negatable, Mode.widened, inWritten]
  | @item _ _ c rest isNext bracket operator single =>
    obtain ⟨written, resolves, next', found', stop⟩ := classItem_of_item consistent minding single same
    have isNext' : here'.rest = c :: (rest ++ more) := by rw [same, isNext, List.cons_append]
    have operator' : ¬(ClassSet.isSetOperator c = true ∧ (rest ++ more).head? = some c) := by
      rwa [List.head?_append_of_ne_nil _ (several_of_item single isNext)]
    exact ⟨cls.add { allows := inWritten written }, next',
      classStep_item ctx.settings.data isNext' bracket operator' found', stop,
      follows.add resolves.ordered fun c within => has_iff minding resolves within⟩

/-- And so the turns of the reader are a run of the engine. -/
private theorem classRun_of_turns (consistent : ctx.settings.data.Consistent)
    (minding : ctx.flags.ignoreCase = false) {start close here' : Cursor} {items found : List Item}
    {negated : Bool} {cls : OpenClass} {more : List Char} (turns : ClassSet.Turns ctx start here items close)
    (same : here'.rest = here.rest ++ more) (follows : Follows ctx negated found cls) :
    ∃ cls' close', classRun ctx.settings.data {} cls [] here' = classRun ctx.settings.data {} cls' [] close' ∧
      close'.rest = close.rest ++ more ∧ Follows ctx negated (items.reverse ++ found) cls' := by
  induction turns generalizing here' found cls with
  | nil here => exact ⟨cls, here', rfl, same, follows⟩
  | cons turn turns ih =>
    obtain ⟨between, next', stepped, isNext, follows⟩ := classStep_of_turn consistent minding turn same follows
    have shorter : next'.rest.length < here'.rest.length := by
      rw [isNext, same]
      simpa using turn.length_lt
    obtain ⟨cls', close', ran, isClose, follows⟩ := ih isNext follows
    refine ⟨cls', close', (classRun_of_step stepped shorter).trans ran, isClose, ?_⟩
    rwa [List.reverse_cons, List.append_assoc]

private theorem has_single (d c : Char) : (Item.range d d).Has c ↔ decide (c = d) = true := by
  rw [decide_eq_true_eq]
  exact ⟨fun between => Char.le_antisymm between.2 between.1,
    fun same => same ▸ ⟨Char.le_refl _, Char.le_refl _⟩⟩

/-- Each hyphen in front of a class allows a hyphen. -/
private theorem follows_hyphens {negated : Bool} {cls : OpenClass} {found : List Item}
    (follows : Follows ctx negated found cls) (n : Nat) :
    Follows ctx negated (List.replicate n (.range '-' '-') ++ found)
      ((List.replicate n '-').foldl (fun cls hyphen => cls.add { allows := (· = hyphen) }) cls) := by
  induction n generalizing found cls with
  | zero => exact follows
  | succ n ih =>
    have added : Follows ctx negated (.range '-' '-' :: found) (cls.add { allows := (· = '-') }) :=
      follows.add (Char.le_refl '-') fun c _ => has_single '-' c
    have moved : List.replicate (n + 1) (Item.range '-' '-') ++ found =
        List.replicate n (.range '-' '-') ++ .range '-' '-' :: found := by
      rw [List.replicate_succ', List.append_assoc]
      rfl
    rw [moved]
    exact ih added

private theorem follows_none (ctx : Escape.Context) (negated : Bool) :
    Follows ctx negated [] { negated } where
  negated := rfl
  pending := rfl
  ordered := by simp
  found := by simp

/-- The engine finds the sign of negation where the reader finds it. -/
private theorem negation_append {start start' : Cursor} {text more : List Char} (nonempty : text ≠ [])
    (spelled : start.skip.rest = ClassSet.caret (ClassSet.isNegated start) ++ text)
    (same : start'.rest = start.rest ++ more) :
    (start'.skip.rest.head? = some '^' ↔ ClassSet.isNegated start = true) ∧
      (if ClassSet.isNegated start = true then start'.skip.skip else start'.skip).rest = text ++ more := by
  have behind : start.skip.rest ≠ [] := by
    rw [spelled]
    exact List.append_ne_nil_of_right_ne_nil _ nonempty
  have going : start.rest ≠ [] := by
    intro none
    simp [none] at behind
  have inside : start'.skip.rest = start.skip.rest ++ more := by
    simp only [Cursor.rest_skip, same, List.tail_append_of_ne_nil going]
  constructor
  · rw [inside, List.head?_append_of_ne_nil _ behind]
    simp [ClassSet.isNegated]
  · rw [spelled] at inside
    split
    · rename_i negated
      rw [Cursor.rest_skip, inside, negated]
      rfl
    · rename_i plain
      rw [inside, Bool.eq_false_iff.mpr plain]
      rfl

/-- The engine opens a class as the reader does. -/
private theorem openClass_of_opening {start start' after : Cursor} {more : List Char} {found : List Item}
    (opens : ClassSet.opening start = .ok (found, after)) (same : start'.rest = start.rest ++ more) :
    ∃ cls first, openClass ctx.settings.data {} start' = (cls, first) ∧ first.rest = after.rest ++ more ∧
      Follows ctx (ClassSet.isNegated start) found cls := by
  obtain ⟨lead, spelled, -, going, leads⟩ := ClassSet.opening_eq_ok.mp opens
  rw [List.append_assoc] at spelled
  obtain ⟨marked, isFirst⟩ :=
    negation_append (List.append_ne_nil_of_right_ne_nil lead going) spelled same
  unfold openClass
  simp only [next_plain, marked, Bool.decide_eq_true]
  generalize (if ClassSet.isNegated start = true then start'.skip.skip else start'.skip) = first at isFirst ⊢
  rw [List.append_assoc] at isFirst
  have none := follows_none ctx (ClassSet.isNegated start)
  cases leads with
  | @hyphens n _ notHyphen bare =>
    obtain ⟨c, rest, next⟩ := List.exists_cons_of_ne_nil going
    rw [next] at isFirst notHyphen bare
    have stops : decide (c = '-') = false := decide_eq_false fun hyphen => notHyphen (by rw [hyphen]; rfl)
    have noBracket : ¬first.rest.head? = some ']' := by
      rw [isFirst]
      cases n with
      | zero => exact bare rfl
      | succ n => simp [List.replicate_succ]
    have taken : first.rest.takeWhile (· = '-') = List.replicate n '-' := by
      simp [isFirst, List.takeWhile_append_of_pos, stops]
    have dropped : first.rest.dropWhile (· = '-') = after.rest ++ more := by
      simp [isFirst, next, List.dropWhile_append_of_pos, stops]
    have follows := follows_hyphens none n
    rw [List.append_nil] at follows
    refine ⟨_, _, if_neg noBracket, ?_, ?_⟩
    · rw [spelled_plain, Cursor.rest_skipWhile, dropped]
    · rwa [spelled_plain, taken]
  | bracket =>
    refine ⟨_, first.skip, if_pos (by rw [isFirst]; rfl), ?_, ?_⟩
    · rw [Cursor.rest_skip, isFirst]
      rfl
    · exact none.add (Char.le_refl ']') fun c _ => has_single ']' c

/-- A bracketed class of a pattern is a test of the engine that passes each character of the class, and
ends at the same place. -/
theorem charGroup_of_read (consistent : ctx.settings.data.Consistent)
    (minding : ctx.flags.ignoreCase = false) {start after : Cursor} {leaf : Pattern}
    (read : ClassSet.read ctx start = .ok (leaf, after)) {more : List Char} {start' : Cursor}
    (same : start'.rest = start.rest ++ more) :
    ∃ test after', charGroup ctx.settings.data {} start' = some (test, after') ∧
      after'.rest = after.rest ++ more ∧ ∀ cap, leaf.MatchedBy cap (.one test) := by
  obtain ⟨found, items, close, rest, ⟨first, opens, turns⟩, closes, built, rfl⟩ :=
    ClassSet.read_eq_ok.mp read
  obtain ⟨cls, first', opened, isFirst, follows⟩ := openClass_of_opening opens same
  obtain ⟨cls', close', ran, isClose, follows'⟩ := classRun_of_turns consistent minding turns isFirst follows
  rw [closes, List.cons_append] at isClose
  obtain ⟨test, closed, matched⟩ := classRun_of_close follows' minding (by simpa using built) isClose
  refine ⟨test, close'.skip, ?_, ?_, matched⟩
  · unfold charGroup
    rw [opened]
    exact ran.trans closed
  · rw [Cursor.rest_skip, isClose, Cursor.rest_skip, closes]
    rfl

end Regular

end PatternForge
