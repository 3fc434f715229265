import PatternForge.Proofs.Reading.ClassDenotation

/-!
A class as the turns of its reader. `ClassSet.opening` takes the bracket and the characters that stand for
themselves only because they come first; each `Turn` takes one item, and `Turns` says which items a run of
them takes and where it ends. `read_eq_ok` puts the reader together again: an opening, turns up to a closing
bracket, and the class that is built of all items.
-/
namespace PatternForge.ClassSet

open Escape (Context)

variable {ctx : Context} {start here after close : Cursor} {one : Item} {items : List Item}
  {negated : Bool} {leaf : Pattern}

/-! ### One item -/

theorem asChar_of_asChar {position : Nat} {leaf : Pattern} {c : Char} (read : asChar position leaf = .ok c)
    (other : Nat) : asChar other leaf = .ok c := by
  unfold asChar at read ⊢
  split at read
  · split at read <;> cases read
    simp only [*]
  · cases read

theorem asItem_of_asItem {position : Nat} (read : asItem position leaf = .ok one) (other : Nat) :
    asItem other leaf = .ok one := by
  unfold asItem at read ⊢
  split at read
  · exact read
  · obtain ⟨c, isChar, rfl⟩ := map_eq_ok read
    rw [asChar_of_asChar isChar]
    rfl
  · cases read

theorem asRange_of_asRange {position : Nat} {first second : Pattern}
    (read : asRange position first second = .ok one) (other : Nat) :
    asRange other first second = .ok one := by
  obtain ⟨lo, hi, isLo, isHi, ordered, rfl⟩ := asRange_eq_ok.mp read
  exact asRange_eq_ok.mpr
    ⟨lo, hi, asChar_of_asChar isLo other, asChar_of_asChar isHi other, ordered, rfl⟩

/-- A leaf in front of something that does not join it to another one is an item. -/
theorem item_of_alone {first : Pattern} {next : Cursor} (isFirst : primitive ctx here = .ok (first, next))
    (alone : Alone next.rest) :
    item ctx start here = (fun single => (single, next)) <$> asItem here.offset first := by
  obtain ⟨c, rest, behind, marks⟩ := alone
  unfold item
  rw [isFirst]
  dsimp only
  rw [behind]
  by_cases isHyphen : c = '-'
  · subst isHyphen
    cases rest with
    | nil => simp at marks
    | cons d rest => exact if_pos (by simpa using marks)
  · simp only [List.cons.injEq, isHyphen, false_and, imp_self, implies_true]

/-- Two leaves that a hyphen joins are a range. -/
theorem item_of_joins {first second : Pattern} {next : Cursor}
    (isFirst : primitive ctx here = .ok (first, next)) (joins : Joins next.rest)
    (isSecond : primitive ctx next.skip = .ok (second, after)) :
    item ctx start here = (fun range => (range, after)) <$> asRange here.offset first second := by
  obtain ⟨c, rest, behind, notBracket, notHyphen⟩ := joins
  have unmarked : ¬(c = ']' ∨ c = '-') := by simp [notBracket, notHyphen]
  unfold item
  rw [isFirst]
  dsimp only
  rw [behind]
  refine (if_neg unmarked).trans ?_
  rw [isSecond]

/-- An item is a leaf that stands alone, or two that a hyphen joins. -/
theorem item_eq_ok : item ctx start here = .ok (one, after) ↔
    ∃ first next, primitive ctx here = .ok (first, next) ∧
      (Alone next.rest ∧ asItem here.offset first = .ok one ∧ after = next ∨
        Joins next.rest ∧ ∃ second, primitive ctx next.skip = .ok (second, after) ∧
          asRange here.offset first second = .ok one) := by
  constructor
  · intro read
    cases isFirst : primitive ctx here with
    | error failure =>
      rw [item, isFirst] at read
      cases read
    | ok found =>
      obtain ⟨first, next⟩ := found
      refine ⟨first, next, rfl, ?_⟩
      by_cases alone : Alone next.rest
      · rw [item_of_alone isFirst alone] at read
        obtain ⟨one', isItem, same⟩ := map_eq_ok read
        cases same
        exact .inl ⟨alone, isItem, rfl⟩
      · refine .inr ?_
        unfold item at read
        rw [isFirst] at read
        dsimp only at read
        split at read
        · cases read
        · cases read
        · rename_i c rest behind
          split at read
          · rename_i mark
            exact absurd ⟨'-', c :: rest, behind, fun _ => by simpa using mark⟩ alone
          · rename_i unmarked
            obtain ⟨notBracket, notHyphen⟩ := not_or.mp unmarked
            refine ⟨⟨c, rest, behind, notBracket, notHyphen⟩, ?_⟩
            split at read
            · cases read
            · rename_i second stop isSecond
              obtain ⟨one', isRange, same⟩ := map_eq_ok read
              cases same
              exact ⟨second, isSecond, isRange⟩
        · rename_i some notLast notJoined
          refine absurd ?_ alone
          cases behind : next.rest with
          | nil => exact absurd behind some
          | cons c rest =>
            refine ⟨c, rest, rfl, fun isHyphen => ?_⟩
            subst isHyphen
            cases rest with
            | nil => exact absurd behind notLast
            | cons d rest => exact absurd behind (notJoined d rest)
  · rintro ⟨first, next, isFirst, ⟨alone, isItem, rfl⟩ | ⟨joins, second, isSecond, isRange⟩⟩
    · rw [item_of_alone isFirst alone, isItem]
      rfl
    · rw [item_of_joins isFirst joins isSecond, isRange]
      rfl

/-! ### Turns -/

/-- One turn of the reader of a class: a POSIX class, or another item. -/
inductive Turn (ctx : Context) (start : Cursor) (here : Cursor) : Item → Cursor → Prop
  | posix {set : CharSet} {after : Cursor} {rest : List Char} (next : here.rest = '[' :: rest)
    (shown : posix? ctx here = some (set, after)) : Turn ctx start here (.set set) after
  | item {one : Item} {after : Cursor} {c : Char} {rest : List Char} (next : here.rest = c :: rest)
    (bracket : c ≠ '[' ∧ c ≠ ']') (operator : ¬(isSetOperator c = true ∧ rest.head? = some c))
    (single : item ctx start here = .ok (one, after)) : Turn ctx start here one after

/-- The items of some turns, one after another. -/
inductive Turns (ctx : Context) (start : Cursor) : Cursor → List Item → Cursor → Prop
  | nil (here : Cursor) : Turns ctx start here [] here
  | cons {here next after : Cursor} {one : Item} {others : List Item} (turn : Turn ctx start here one next)
    (turns : Turns ctx start next others after) : Turns ctx start here (one :: others) after

theorem Turn.reaches (turn : Turn ctx start here one after) : here.skip.Reaches after := by
  cases turn with
  | posix next shown => exact reaches_posix shown
  | item next bracket operator single => exact reaches_item single

theorem Turn.length_lt (turn : Turn ctx start here one after) : after.rest.length < here.rest.length := by
  cases turn with
  | posix next shown => exact Cursor.Reaches.length_lt next (reaches_posix shown)
  | item next bracket operator single => exact Cursor.Reaches.length_lt next (reaches_item single)

theorem Turns.reaches (turns : Turns ctx start here items after) : here.Reaches after := by
  induction turns with
  | nil here => exact Cursor.Reaches.refl here
  | cons turn turns ih => exact (Cursor.reaches_skip _).trans (turn.reaches.trans ih)

theorem Turns.append {between : Cursor} {others : List Item} (turns : Turns ctx start here items between)
    (turns' : Turns ctx start between others after) : Turns ctx start here (items ++ others) after := by
  induction turns with
  | nil => exact turns'
  | cons turn _ ih => exact .cons turn (ih turns')

theorem Turn.ordered (turn : Turn ctx start here one after) : one.Ordered := by
  cases turn with
  | posix next shown => exact trivial
  | item next bracket operator single =>
    obtain ⟨first, next, isFirst, ⟨-, isItem, -⟩ | ⟨-, second, -, isRange⟩⟩ := item_eq_ok.mp single
    · unfold asItem at isItem
      split at isItem
      · cases isItem
        exact trivial
      · obtain ⟨c, -, rfl⟩ := map_eq_ok isItem
        exact Char.le_refl c
      · cases isItem
    · obtain ⟨lo, hi, -, -, ordered, rfl⟩ := asRange_eq_ok.mp isRange
      exact ordered

theorem Turns.ordered (turns : Turns ctx start here items after) : ∀ item ∈ items, item.Ordered := by
  induction turns with
  | nil => exact nofun
  | cons turn _ ih => exact List.forall_mem_cons.mpr ⟨turn.ordered, ih⟩

/-- The text decides what a turn takes. -/
theorem Turn.unique {one' : Item} {after' : Cursor} (turn : Turn ctx start here one after)
    (turn' : Turn ctx start here one' after') : one = one' ∧ after = after' := by
  cases turn with
  | posix next shown =>
    cases turn' with
    | posix next' shown' =>
      cases shown.symm.trans shown'
      exact ⟨rfl, rfl⟩
    | item next' bracket =>
      cases next.symm.trans next'
      exact absurd rfl bracket.1
  | item next bracket operator single =>
    cases turn' with
    | posix next' =>
      cases next.symm.trans next'
      exact absurd rfl bracket.1
    | item next' bracket' operator' single' =>
      cases single.symm.trans single'
      exact ⟨rfl, rfl⟩

/-- No turn is taken at a closing bracket. -/
theorem Turn.not_close {rest : List Char} (closes : here.rest = ']' :: rest) :
    ¬Turn ctx start here one after := by
  rintro (⟨next, -⟩ | ⟨next, bracket, -⟩)
  · cases closes.symm.trans next
  · cases closes.symm.trans next
    exact bracket.2 rfl

/-- Turns that lead to the closing bracket pass through wherever turns from the same place lead. -/
theorem Turns.split {rest : List Char} {first : Cursor} {earlier : List Item}
    (turns : Turns ctx start first items close) (closes : close.rest = ']' :: rest)
    (onway : Turns ctx start first earlier here) :
    ∃ others, items = earlier ++ others ∧ Turns ctx start here others close := by
  induction onway generalizing items with
  | nil => exact ⟨items, rfl, turns⟩
  | cons turn _ ih =>
    cases turns with
    | nil => exact absurd turn (Turn.not_close closes)
    | cons turn' turns =>
      obtain ⟨rfl, rfl⟩ := turn.unique turn'
      obtain ⟨others, rfl, onwards⟩ := ih turns
      exact ⟨others, rfl, onwards⟩

/-! ### The whole class -/

/-- The reader goes on from where turns lead. -/
theorem readItems_turns (turns : Turns ctx start here items after) (found : List Item) :
    readItems ctx start negated here found = readItems ctx start negated after (items.reverse ++ found) := by
  induction turns generalizing found with
  | nil => rfl
  | @cons here next after one others turn _ ih =>
    rw [List.reverse_cons, List.append_assoc, List.singleton_append, ← ih]
    cases turn with
    | posix next shown => exact readItems_posix next shown negated found
    | item next bracket operator single => exact readItems_item next bracket operator single negated found

/-- What is found before the closing bracket is found in turns. -/
theorem readItems_eq_ok {found : List Item} :
    readItems ctx start negated here found = .ok (leaf, after) ↔
      ∃ items close rest, Turns ctx start here items close ∧ close.rest = ']' :: rest ∧
        build ctx start close.skip negated (found.reverse ++ items) = .ok leaf ∧ after = close.skip := by
  constructor
  · intro read
    fun_induction readItems ctx start negated here found with
    | case1 => cases read
    | case2 here found rest set next shown isOpen ih =>
      obtain ⟨items, close, others, turns, closes, built, same⟩ := ih read
      refine ⟨.set set :: items, close, others, .cons (.posix isOpen shown) turns, closes, ?_, same⟩
      simpa using built
    | case3 => cases read
    | case4 here found rest next notOpen =>
      obtain ⟨leaf', built, same⟩ := map_eq_ok read
      cases same
      exact ⟨[], here, rest, .nil here, next, by simpa using built, rfl⟩
    | case5 => cases read
    | case6 => cases read
    | case7 here found c rest next notOpen notClose notOperator one stop single ih =>
      obtain ⟨items, close, others, turns, closes, built, same⟩ := ih read
      refine ⟨one :: items, close, others,
        .cons (.item next ⟨notOpen, notClose⟩ notOperator single) turns, closes, ?_, same⟩
      simpa using built
  · rintro ⟨items, close, rest, turns, closes, built, rfl⟩
    rw [readItems_turns turns, readItems_close closes, List.reverse_append, List.reverse_reverse, built]
    rfl

/-- The characters that open a class and stand for themselves, as items, latest first. -/
def opening (start : Cursor) : Except Failure (List Item × Cursor) :=
  let first := firstItem start
  if first.atEnd then
    .error (.malformed start.offset
      (if isNegated start then .classUnclosedAfterNegation else .classUnclosed))
  else
    match readHyphens start first with
    | .error failure => .error failure
    | .ok (hyphens, here) =>
      if hyphens.isEmpty ∧ here.rest.head? = some ']' then
        if here.skip.atEnd then .error (.malformed start.offset .classUnclosedAfterBracket)
        else .ok ([.range ']' ']'], here.skip)
      else .ok (hyphens, here)

/-- How the characters behind the bracket and a caret are taken, in front of a text. -/
inductive Leads : List Char → List Item → List Char → Prop
  | hyphens {n : Nat} {text : List Char} (first : text.head? ≠ some '-')
    (bare : n = 0 → text.head? ≠ some ']') :
    Leads (List.replicate n '-') (List.replicate n (.range '-' '-')) text
  | bracket {text : List Char} : Leads [']'] [.range ']' ']'] text

private theorem firstItem_eq (start : Cursor) :
    firstItem start = start.skip.skipMany (caret (isNegated start)).length := by
  unfold firstItem caret
  split <;> rfl

private theorem skipWhile_hyphens {n : Nat} {text : List Char}
    (next : here.rest = List.replicate n '-' ++ text) (first : text.head? ≠ some '-') :
    here.skipWhile (· = '-') = here.skipMany n := by
  have taken : here.rest.takeWhile (· = '-') = List.replicate n '-' := by
    rw [next, List.takeWhile_append_of_pos (by simp)]
    cases text with
    | nil => simp
    | cons c text => rw [List.takeWhile_cons_of_neg (by simpa using first), List.append_nil]
  rw [Cursor.skipWhile, taken, List.length_replicate]

/-- The hyphens that come first are those up to another character, which has to be there. -/
private theorem readHyphens_eq_ok {hyphens : List Item} :
    readHyphens start here = .ok (hyphens, after) ↔
      ∃ n, here.rest = List.replicate n '-' ++ after.rest ∧ after = here.skipMany n ∧
        after.rest.head? ≠ some '-' ∧ (after.rest = [] → n = 0) ∧
          hyphens = List.replicate n (.range '-' '-') := by
  have chars (n : Nat) : here.charsTo (here.skipMany n) = here.rest.take n := by
    simp only [Cursor.charsTo, Cursor.rest_skipMany, List.length_drop]
    by_cases within : n ≤ here.rest.length
    · rw [Nat.sub_sub_self within]
    · rw [List.take_of_length_le (by omega), List.take_of_length_le (by omega)]
  constructor
  · intro read
    obtain ⟨leading, behind⟩ := hyphens_append here.rest
    unfold readHyphens at read
    dsimp only at read
    split at read
    · cases read
    · rename_i more
      cases read
      rw [Cursor.charsTo_skipWhile]
      rw [Cursor.rest_of_atEnd] at more
      rw [Cursor.rest_skipWhile] at more ⊢
      refine ⟨_, leading, rfl, behind, fun none => ?_, rfl⟩
      rw [none, List.append_nil] at leading
      cases isNone : (here.rest.takeWhile (· = '-')).length with
      | zero => rfl
      | succ n =>
        rw [isNone, List.replicate_succ] at leading
        exact absurd ⟨none, by rw [leading]; rfl⟩ more
  · rintro ⟨n, next, rfl, first, more, rfl⟩
    unfold readHyphens
    dsimp only
    rw [skipWhile_hyphens next first, chars, next, List.take_left' List.length_replicate,
      List.length_replicate]
    refine if_neg ?_
    rintro ⟨atEnd, head⟩
    rw [Cursor.rest_of_atEnd] at atEnd
    rw [more atEnd, List.replicate_zero, List.nil_append] at head
    exact first (by rwa [more atEnd])

/-- What opens a class, and where its first other item begins. -/
theorem opening_eq_ok {found : List Item} : opening start = .ok (found, after) ↔
    ∃ lead, start.skip.rest = caret (isNegated start) ++ lead ++ after.rest ∧
      after = start.skip.skipMany (caret (isNegated start) ++ lead).length ∧ after.rest ≠ [] ∧
        Leads lead found after.rest := by
  have marks : start.skip.rest = caret (isNegated start) ++ (firstItem start).rest := by
    simpa only [isNegated, firstItem, decide_eq_true_eq] using caret_append start.skip
  have first := firstItem_eq start
  have behind (lead : List Char) : start.skip.skipMany (caret (isNegated start) ++ lead).length =
      (firstItem start).skipMany lead.length := by
    rw [List.length_append, Cursor.skipMany_add, first]
  simp only [behind, List.append_assoc, marks, List.append_cancel_left_eq]
  unfold opening
  dsimp only
  constructor
  · intro opens
    split at opens
    · cases opens
    · rename_i more
      split at opens
      · cases opens
      · rename_i hyphens here isHyphens
        obtain ⟨n, next, rfl, notHyphen, atEnd, rfl⟩ := readHyphens_eq_ok.mp isHyphens
        split at opens
        · rename_i bracket
          split at opens
          · cases opens
          · rename_i more
            cases opens
            obtain ⟨isNone, head⟩ := bracket
            obtain rfl : n = 0 := by simpa using isNone
            obtain ⟨rest, isBracket⟩ := List.head?_eq_some_iff.mp head
            refine ⟨[']'], ?_, rfl, mt Cursor.rest_of_atEnd.mpr more, .bracket⟩
            rw [next, isBracket, Cursor.rest_skip, isBracket]
            rfl
        · rename_i notBracket
          cases opens
          refine ⟨_, next, by rw [List.length_replicate], fun none => more (Cursor.rest_of_atEnd.mpr ?_),
            .hyphens notHyphen fun isNone head => notBracket ⟨by simp [isNone], head⟩⟩
          rw [next, none, atEnd none]
          rfl
  · rintro ⟨lead, next, rfl, more, leads⟩
    have going : ¬(firstItem start).atEnd = true := by
      rw [Cursor.rest_of_atEnd, next]
      exact List.append_ne_nil_of_right_ne_nil lead more
    rw [if_neg going]
    cases leads with
    | @hyphens n _ notHyphen bare =>
      rw [List.length_replicate] at next notHyphen bare more ⊢
      rw [readHyphens_eq_ok.mpr ⟨n, next, rfl, notHyphen, fun none => absurd none more, rfl⟩]
      refine if_neg ?_
      rintro ⟨isNone, head⟩
      exact bare (by simpa using isNone) head
    | bracket =>
      have head : (firstItem start).rest.head? = some ']' := by rw [next]; rfl
      have none : readHyphens start (firstItem start) = .ok ([], firstItem start) :=
        readHyphens_eq_ok.mpr ⟨0, rfl, rfl, by simp [head], fun _ => rfl, rfl⟩
      rw [none]
      dsimp only
      rw [if_pos ⟨rfl, head⟩]
      exact if_neg (mt Cursor.rest_of_atEnd.mp more)

/-- The reader of the class that opens at `start` comes, with what opened it, to a place between two items. -/
def Passes (ctx : Context) (start : Cursor) (found items : List Item) (here : Cursor) : Prop :=
  ∃ first, opening start = .ok (found, first) ∧ Turns ctx start first items here

/-- A class is read on from its opening. -/
theorem read_opening (ctx : Context) (start : Cursor) :
    read ctx start =
      match opening start with
      | .error failure => .error failure
      | .ok (found, here) => readItems ctx start (isNegated start) here found := by
  unfold read opening
  dsimp only
  split
  · rfl
  · cases readHyphens start (firstItem start) with
    | error failure => rfl
    | ok found =>
      dsimp only
      split
      · split <;> rfl
      · rfl

/-- **A class is its opening and its turns**, up to a closing bracket. -/
theorem read_eq_ok : read ctx start = .ok (leaf, after) ↔
    ∃ found items close rest, Passes ctx start found items close ∧ close.rest = ']' :: rest ∧
      build ctx start close.skip (isNegated start) (found.reverse ++ items) = .ok leaf ∧ after = close.skip := by
  rw [read_opening]
  constructor
  · intro read'
    split at read'
    · cases read'
    · rename_i found first opens
      obtain ⟨items, close, rest, turns, closes, built, same⟩ := readItems_eq_ok.mp read'
      exact ⟨found, items, close, rest, ⟨first, opens, turns⟩, closes, built, same⟩
  · rintro ⟨found, items, close, rest, ⟨first, opens, turns⟩, closes, built, same⟩
    rw [opens]
    exact readItems_eq_ok.mpr ⟨items, close, rest, turns, closes, built, same⟩

theorem Passes.reaches {found : List Item} (passes : Passes ctx start found items here) :
    start.skip.Reaches here := by
  obtain ⟨first, opens, turns⟩ := passes
  obtain ⟨lead, -, rfl, -⟩ := opening_eq_ok.mp opens
  exact (Cursor.reaches_skipMany _ _).trans turns.reaches

/-- The reader comes to the closing bracket through every place between two items. -/
theorem Passes.split {found found' earlier : List Item} {rest : List Char}
    (passes : Passes ctx start found items close) (closes : close.rest = ']' :: rest)
    (onway : Passes ctx start found' earlier here) :
    found = found' ∧ ∃ others, items = earlier ++ others ∧ Turns ctx start here others close := by
  obtain ⟨first, opens, turns⟩ := passes
  obtain ⟨first', opens', onway⟩ := onway
  cases opens.symm.trans opens'
  exact ⟨rfl, turns.split closes onway⟩

/-- A class is read on from a place between two items with another turn, unless it is over. -/
theorem exists_turn {found : List Item} (read' : read ctx start = .ok (leaf, after))
    (passes : Passes ctx start found items here) (notClose : here.rest.head? ≠ some ']') :
    ∃ one next others close rest, Turn ctx start here one next ∧ Turns ctx start next others close ∧
      close.rest = ']' :: rest ∧ after = close.skip ∧
        build ctx start close.skip (isNegated start) (found.reverse ++ items ++ one :: others) = .ok leaf := by
  obtain ⟨found', all, close, rest, whole, closes, built, rfl⟩ := read_eq_ok.mp read'
  obtain ⟨rfl, others, rfl, turns⟩ := whole.split closes passes
  cases turns with
  | nil =>
    rw [closes] at notClose
    exact absurd rfl notClose
  | @cons _ next _ one others turn turns =>
    rw [← List.append_assoc] at built
    exact ⟨one, next, others, close, rest, turn, turns, closes, rfl, built⟩

/-- What opens a class and what its turns take are ranges in order, and sets. -/
theorem Passes.ordered {found : List Item} (passes : Passes ctx start found items here) :
    ∀ item ∈ found.reverse ++ items, item.Ordered := by
  obtain ⟨first, opens, turns⟩ := passes
  obtain ⟨lead, -, -, -, leads⟩ := opening_eq_ok.mp opens
  intro item member
  rcases List.mem_append.mp member with member | member
  · cases leads with
    | hyphens =>
      rw [List.mem_reverse] at member
      rw [List.eq_of_mem_replicate member]
      exact Char.le_refl '-'
    | bracket =>
      obtain rfl := List.mem_singleton.mp member
      exact Char.le_refl ']'
  · exact turns.ordered item member

/-- What the reader of a class refuses between two items, it refuses in the class. -/
theorem read_of_refused {found : List Item} {failure : Failure} {c : Char} {rest : List Char}
    (passes : Passes ctx start found items here) (next : here.rest = c :: rest) (bracket : c ≠ '[' ∧ c ≠ ']')
    (operator : ¬(isSetOperator c = true ∧ rest.head? = some c)) (refused : item ctx start here = .error failure) :
    read ctx start = .error failure := by
  obtain ⟨first, opens, turns⟩ := passes
  rw [read_opening, opens]
  dsimp only
  rw [readItems_turns turns, readItems_more next, if_neg bracket.1, if_neg bracket.2, if_neg operator, refused]

end PatternForge.ClassSet
