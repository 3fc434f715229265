import PatternForge.Proofs.CharSet.Runs
import PatternForge.Proofs.Reading.ClassDenotation
import PatternForge.Proofs.RoundTrip.Characters

/-!
Printed classes. The runs of a set are printed one after another, and each is read as one range or as
two single characters, so what is read is the set that was printed.
-/
namespace PatternForge

open Pattern (isMeta literalChar classRun)

/-- A printed character starts with a backslash or with itself, and then it is not special. -/
theorem Pattern.literalChar_head (c : Char) :
    ∃ head tail, literalChar c = head :: tail ∧ (head = '\\' ∨ isMeta head = false) := by
  rcases literalChar_cases c with ⟨-, form⟩ | ⟨-, form⟩ | ⟨plain, form⟩
  · exact ⟨_, _, form, .inl rfl⟩
  · exact ⟨_, _, form, .inl rfl⟩
  · exact ⟨_, _, form, .inr plain⟩

/-- So it does not start with a special character other than the backslash. -/
theorem Pattern.ne_of_literalChar_head {head mark : Char} (starts : head = '\\' ∨ isMeta head = false)
    (special : isMeta mark = true) (other : mark ≠ '\\') : head ≠ mark := by
  rintro rfl
  rcases starts with same | plain
  · exact other same
  · rw [plain] at special
    cases special

namespace ClassSet
variable {ctx : Escape.Context} {start here : Cursor}

private theorem asItem_literal' (position : Nat) (c : Char) :
    asItem position (.literal c.toString) = .ok (.range c c) := by
  simp [asItem, asChar, Char.toString, Functor.map, Except.map]

private theorem asRange_literal {lo hi : Char} (ordered : lo ≤ hi) (position : Nat) :
    asRange position (.literal lo.toString) (.literal hi.toString) = .ok (.range lo hi) := by
  simp [asRange, asChar, Char.toString, bind, Except.bind, pure, Except.pure,
    Char.not_lt.mpr ordered]

/-- A printed character that no hyphen follows is an item. -/
private theorem item_character {c next : Char} {more : List Char}
    (minding : ctx.flags.ignoreCase = false) (text : here.rest = literalChar c ++ next :: more)
    (alone : next ≠ '-') :
    item ctx start here = .ok (.range c c, here.skipMany (literalChar c).length) := by
  have behind : (here.skipMany (literalChar c).length).rest = next :: more := by simp [text]
  unfold item
  rw [primitive_literalChar minding text]
  simp only [behind]
  split
  · rename_i none
    cases none
  · rename_i same
    cases same
    exact absurd rfl alone
  · rename_i same
    cases same
    exact absurd rfl alone
  · rw [asItem_literal']
    rfl

/-- Two printed characters with a hyphen between them are a range. -/
private theorem item_range {lo hi : Char} {more : List Char} (minding : ctx.flags.ignoreCase = false)
    (ordered : lo ≤ hi) (text : here.rest = literalChar lo ++ '-' :: (literalChar hi ++ more)) :
    item ctx start here =
      .ok (.range lo hi, here.skipMany (literalChar lo ++ '-' :: literalChar hi).length) := by
  obtain ⟨head, tail, form, starts⟩ := Pattern.literalChar_head hi
  have behind : (here.skipMany (literalChar lo).length).rest =
      '-' :: head :: (tail ++ more) := by simp [text, form]
  have second : (here.skipMany (literalChar lo).length).skip.rest = literalChar hi ++ more := by
    simp [text]
  have notLast : ¬(head = ']' ∨ head = '-') := by
    rw [not_or]
    exact ⟨Pattern.ne_of_literalChar_head starts rfl (by decide),
      Pattern.ne_of_literalChar_head starts rfl (by decide)⟩
  unfold item
  rw [primitive_literalChar minding text]
  simp only [behind, notLast, ↓reduceIte]
  rw [primitive_literalChar minding second]
  dsimp only
  rw [asRange_literal ordered]
  simp [Functor.map, Except.map, Cursor.skipMany_add, Cursor.skipMany]

/-- The items that a run is read as. -/
def runItems (run : Char × Char) : List Item :=
  if run.1 = run.2 then [.range run.1 run.1]
  else if run.2.toNat - run.1.toNat > 1 then [.range run.1 run.2]
  else [.range run.1 run.1, .range run.2 run.2]

/-- A printed character starts no nested class and no operation, and does not close the class. -/
private theorem opens_item (c : Char) (more : List Char) :
    ∃ head tail, literalChar c ++ more = head :: tail ∧ (head ≠ '[' ∧ head ≠ ']') ∧
      isSetOperator head = false := by
  obtain ⟨head, tail, form, starts⟩ := Pattern.literalChar_head c
  refine ⟨head, tail ++ more, by rw [form]; rfl, ⟨?_, ?_⟩, ?_⟩
  · exact Pattern.ne_of_literalChar_head starts rfl (by decide)
  · exact Pattern.ne_of_literalChar_head starts rfl (by decide)
  · have ampersand := @Pattern.ne_of_literalChar_head _ '&' starts rfl (by decide)
    have hyphen := @Pattern.ne_of_literalChar_head _ '-' starts rfl (by decide)
    have tilde := @Pattern.ne_of_literalChar_head _ '~' starts rfl (by decide)
    simp [isSetOperator, ampersand, hyphen, tilde]

private theorem readItems_character {c next : Char} {more : List Char}
    (minding : ctx.flags.ignoreCase = false) (text : here.rest = literalChar c ++ next :: more)
    (alone : next ≠ '-') (found : List Item) :
    readItems ctx start false here found =
      readItems ctx start false (here.skipMany (literalChar c).length) (.range c c :: found) := by
  obtain ⟨head, tail, form, bracket, operator⟩ := opens_item c (next :: more)
  exact readItems_item (text.trans form) bracket (by simp [operator])
    (item_character minding text alone) false found

/-- A run is read as its items. -/
private theorem readItems_run {run : Char × Char} {next : Char} {more : List Char}
    (minding : ctx.flags.ignoreCase = false) (ordered : run.1 ≤ run.2)
    (text : here.rest = classRun run ++ next :: more) (alone : next ≠ '-') (found : List Item) :
    readItems ctx start false here found =
      readItems ctx start false (here.skipMany (classRun run).length)
        ((runItems run).reverse ++ found) := by
  obtain ⟨lo, hi⟩ := run
  by_cases single : lo = hi
  · simp only [classRun, single, ↓reduceIte, runItems] at text ⊢
    exact readItems_character minding text alone found
  · by_cases long : hi.toNat - lo.toNat > 1
    · simp only [classRun, single, long, ↓reduceIte, runItems, List.append_assoc,
        List.cons_append, List.nil_append] at text ⊢
      obtain ⟨head, tail, form, bracket, operator⟩ :=
        opens_item lo ('-' :: (literalChar hi ++ next :: more))
      exact readItems_item (text.trans form) bracket (by simp [operator])
        (item_range minding ordered text) false found
    · simp only [classRun, single, long, ↓reduceIte, runItems, List.append_nil,
        List.append_assoc] at text ⊢
      obtain ⟨head, tail, form, starts⟩ := Pattern.literalChar_head hi
      have second : (here.skipMany (literalChar lo).length).rest = literalChar hi ++ next :: more := by
        simp [text]
      rw [form] at text
      rw [readItems_character minding text
        (Pattern.ne_of_literalChar_head starts rfl (by decide)),
        readItems_character minding second alone, ← Cursor.skipMany_add, List.length_append]
      rfl

private theorem classRun_starts (run : Char × Char) :
    ∃ head tail, classRun run = head :: tail ∧ (head = '\\' ∨ isMeta head = false) := by
  obtain ⟨lo, hi⟩ := run
  obtain ⟨head, tail, form, starts⟩ := Pattern.literalChar_head lo
  simp only [classRun]
  split
  · exact ⟨head, tail, form, starts⟩
  · exact ⟨head, _, by rw [form]; rfl, starts⟩

/-- What follows a run is the next run or the closing bracket, and never a hyphen. -/
private theorem follows_run (runs : List (Char × Char)) (rest : List Char) :
    ∃ next more, runs.flatMap classRun ++ ']' :: rest = next :: more ∧ next ≠ '-' := by
  cases runs with
  | nil => exact ⟨_, _, rfl, by decide⟩
  | cons run runs =>
    obtain ⟨head, tail, form, starts⟩ := classRun_starts run
    refine ⟨head, _, by rw [List.flatMap_cons, form]; rfl, ?_⟩
    exact Pattern.ne_of_literalChar_head starts rfl (by decide)

/-- All runs up to the closing bracket are read as their items. -/
private theorem readItems_runs {runs : List (Char × Char)} {rest : List Char}
    (minding : ctx.flags.ignoreCase = false) (ordered : ∀ run ∈ runs, run.1 ≤ run.2)
    (text : here.rest = runs.flatMap classRun ++ ']' :: rest) (found : List Item) :
    readItems ctx start false here found =
      (fun leaf => (leaf, here.skipMany (runs.flatMap classRun ++ [']']).length)) <$>
        build ctx start (here.skipMany (runs.flatMap classRun ++ [']']).length) false
          (found.reverse ++ runs.flatMap runItems) := by
  induction runs generalizing here found with
  | nil =>
    rw [readItems_close text]
    simp [Cursor.skipMany]
  | cons run runs ih =>
    obtain ⟨next, more, form, alone⟩ := follows_run runs rest
    rw [List.flatMap_cons, List.append_assoc] at text
    have behind : (here.skipMany (classRun run).length).rest = runs.flatMap classRun ++ ']' :: rest := by
      simp [text]
    rw [form] at text
    rw [readItems_run minding (ordered run List.mem_cons_self) text alone,
      ih (fun other member => ordered other (List.mem_cons_of_mem _ member)) behind,
      ← Cursor.skipMany_add]
    simp

/-- A printed class that is not empty is read from its first run on. -/
private theorem read_runs {runs : List (Char × Char)} {rest : List Char}
    (minding : ctx.flags.ignoreCase = false) (some : runs ≠ [])
    (ordered : ∀ run ∈ runs, run.1 ≤ run.2)
    (text : start.rest = '[' :: runs.flatMap classRun ++ [']'] ++ rest) :
    ClassSet.read ctx start =
      (fun leaf => (leaf, start.skipMany ('[' :: runs.flatMap classRun ++ [']']).length)) <$>
        build ctx start (start.skipMany ('[' :: runs.flatMap classRun ++ [']']).length) false
          (runs.flatMap runItems) := by
  obtain ⟨head, tail, form, starts⟩ : ∃ head tail, runs.flatMap classRun = head :: tail ∧
      (head = '\\' ∨ isMeta head = false) := by
    cases runs with
    | nil => exact absurd rfl some
    | cons run runs =>
      obtain ⟨head, tail, form, starts⟩ := classRun_starts run
      exact ⟨head, _, by rw [List.flatMap_cons, form]; rfl, starts⟩
  have inside : start.skip.rest = runs.flatMap classRun ++ ']' :: rest := by simp [text]
  have first : start.skip.rest = head :: (tail ++ ']' :: rest) := by rw [inside, form]; rfl
  have unmarked : isNegated start = false := by
    have notCaret := @Pattern.ne_of_literalChar_head _ '^' starts rfl (by decide)
    simp only [isNegated, first, List.head?_cons, Option.some.injEq, notCaret, decide_false]
  have opening : firstItem start = start.skip := by simp [firstItem, unmarked]
  have notHyphen := @Pattern.ne_of_literalChar_head _ '-' starts rfl (by decide)
  have notBracket := @Pattern.ne_of_literalChar_head _ ']' starts rfl (by decide)
  have stays : start.skip.skipWhile (· = '-') = start.skip := by
    rw [Cursor.skipWhile, first, List.takeWhile_cons_of_neg (by simpa using notHyphen)]
    rfl
  have going : start.skip.atEnd = false := by rw [Cursor.atEnd, first]; rfl
  have hyphens : readHyphens start start.skip = .ok ([], start.skip) := by
    simp [readHyphens, stays, going, Cursor.charsTo]
  unfold ClassSet.read
  rw [opening, unmarked]
  simp only [hyphens]
  rw [going, if_neg (by simp), if_neg (by rw [first]; simp [notBracket]),
    readItems_runs minding ordered inside]
  rfl

/-- The items of a run are ranges in order between its ends. -/
private theorem range_of_mem_runItems {run : Char × Char} {item : Item} (ordered : run.1 ≤ run.2)
    (member : item ∈ runItems run) :
    ∃ lo hi, item = .range lo hi ∧ lo ≤ hi ∧
      (run.1 ≤ lo ∧ lo ≤ run.2) ∧ run.1 ≤ hi ∧ hi ≤ run.2 := by
  have first : run.1 ≤ run.1 ∧ run.1 ≤ run.2 := ⟨Char.le_refl _, ordered⟩
  have last : run.1 ≤ run.2 ∧ run.2 ≤ run.2 := ⟨ordered, Char.le_refl _⟩
  unfold runItems at member
  split at member
  · obtain rfl := List.mem_singleton.mp member
    exact ⟨_, _, rfl, Char.le_refl _, first, first⟩
  · split at member
    · obtain rfl := List.mem_singleton.mp member
      exact ⟨_, _, rfl, ordered, first, last⟩
    · rcases List.mem_cons.mp member with rfl | member
      · exact ⟨_, _, rfl, Char.le_refl _, first, first⟩
      · obtain rfl := List.mem_singleton.mp member
        exact ⟨_, _, rfl, Char.le_refl _, last, last⟩

private theorem has_runItems {run : Char × Char} (ordered : run.1 ≤ run.2) (c : Char) :
    (∃ item ∈ runItems run, item.Has c) ↔ run.1 ≤ c ∧ c ≤ run.2 := by
  have codes : ∀ a b : Char, a ≤ b ↔ a.toNat ≤ b.toNat := fun a b => Iff.rfl
  unfold runItems
  split
  · rename_i single
    simp [Item.Has, ← single]
  · rename_i several
    rw [← Char.toNat_inj] at several
    split
    · simp [Item.Has]
    · simp only [List.mem_cons, List.not_mem_nil, or_false, exists_eq_or_imp, exists_eq_left,
        Item.Has, codes] at ordered ⊢
      omega

/-- The items of the runs of a set are built into that set. -/
private theorem build_runs {set : CharSet} {after : Cursor} (minding : ctx.flags.ignoreCase = false)
    (same : set.domain = ctx.settings.domain)
    (some : ∃ c, set.contains c = true) :
    build ctx start after false (set.runs.flatMap runItems) = .ok (.oneOf (.of set false)) := by
  have ranges : ∀ item ∈ set.runs.flatMap runItems, ∃ lo hi, item = .range lo hi ∧ lo ≤ hi ∧
      set.contains lo = true ∧ set.contains hi = true := by
    intro item member
    obtain ⟨run, isRun, isItem⟩ := List.mem_flatMap.mp member
    obtain ⟨lo, hi, rfl, ordered, low, high⟩ :=
      range_of_mem_runItems (CharSet.ordered_of_mem_runs isRun) isItem
    exact ⟨lo, hi, rfl, ordered, CharSet.inRun_runs.mp ⟨run, isRun, low⟩,
      CharSet.inRun_runs.mp ⟨run, isRun, high⟩⟩
  have ordered : ∀ item ∈ set.runs.flatMap runItems, item.Ordered := by
    intro item member
    obtain ⟨lo, hi, rfl, ordered, -⟩ := ranges item member
    exact ordered
  obtain ⟨added, adds⟩ : ∃ added, (set.runs.flatMap runItems).foldlM addItem
      (CharSet.builder ctx.settings.domain) = .ok added := by
    refine (addItems_isOk ordered rfl).mpr fun item member => ?_
    obtain ⟨lo, hi, rfl, -, low, high⟩ := ranges item member
    rw [CharSet.domain_builder, ← same]
    exact ⟨CharSet.contains_domain low, CharSet.contains_domain high⟩
  obtain ⟨domain, contains⟩ := contains_addItems ordered adds
  have members : ∀ c, added.contains c = set.contains c := by
    intro c
    rw [Bool.eq_iff_iff, contains, CharSet.contains_builder, ← CharSet.inRun_runs]
    simp only [Bool.false_eq_true, false_or, CharSet.InRun, List.mem_flatMap]
    constructor
    · rintro ⟨item, ⟨run, isRun, isItem⟩, has⟩
      have ordered := CharSet.ordered_of_mem_runs isRun
      exact ⟨run, isRun, (has_runItems ordered c).mp ⟨item, isItem, has⟩⟩
    · rintro ⟨run, isRun, between⟩
      have ordered := CharSet.ordered_of_mem_runs isRun
      obtain ⟨item, isItem, has⟩ := (has_runItems ordered c).mpr between
      exact ⟨item, ⟨run, isRun, isItem⟩, has⟩
  have equal : added.freeze = set.freeze := by
    refine CharSet.ext (domain.trans same.symm) rfl fun c => ?_
    rw [CharSet.contains_freeze, CharSet.contains_freeze, members]
  have nonempty : (CharClass.of added false).effective.isEmpty = false := by
    obtain ⟨c, member⟩ := some
    refine CharSet.isEmpty_eq_false_iff.mpr ⟨c, ?_⟩
    rw [CharClass.contains_of, members c, member, domain, CharSet.domain_builder, ← same,
      CharSet.contains_domain member]
    rfl
  unfold build
  rw [adds]
  simp only [minding, Bool.false_eq_true, ↓reduceIte]
  rw [Settings.classPattern_eq_ok.mpr ⟨nonempty, rfl⟩]
  simp only [CharClass.of, equal]

end ClassSet

/-- A printed class is read as the class of the characters it allows. -/
theorem Parser.gives_classText {s : Settings} {set : CharSet} (same : set.domain = s.domain)
    (some : ∃ c, set.contains c = true) (depth : Nat) (rest : List Char) :
    Gives s (Pattern.classText set) [] [.oneOf (.of set false)] depth rest := by
  have runs : set.runs ≠ [] := by
    obtain ⟨c, member⟩ := some
    intro none
    obtain ⟨run, isRun, -⟩ := CharSet.inRun_runs.mpr member
    rw [none] at isRun
    cases isRun
  refine gives_of_step fun st flags next => ?_
  have reads := @ClassSet.read_runs (st.context s) st.here _ _ flags.1 runs
    (fun run => CharSet.ordered_of_mem_runs) next
  simp only [step, State.pushRead]
  rw [reads, ClassSet.build_runs flags.1 same some]
  rfl

end PatternForge
