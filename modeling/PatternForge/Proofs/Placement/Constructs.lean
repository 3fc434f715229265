import PatternForge.Proofs.Placement.Places
import PatternForge.Reading.ClassSet

/-!
Escape sequences and classes inside a longer text. Each reader is carried over (`Carried`): a construct
that ends within its text ends there at the same place, because no reader looks past a closing
parenthesis for more of it.
-/
namespace PatternForge

variable {n : Nat} {more : List Char}

open Cursor (rest_inside_of_cons skip_inside_of_cons skipWhile_inside skipWhile_inside_of_cons)

/-- A class is carried along as it is. -/
theorem Settings.carried_classPattern (start after : Cursor) (set : CharSet) (negated : Bool) :
    Carried n more id (classPattern start after set negated)
      (classPattern (start.inside n more) (after.inside n more) set negated) := by
  unfold classPattern
  dsimp only
  split
  · exact carried_unsupported fun _ => rfl
  · rfl

/-- Settings with another limit on nesting and other flags at the start of a pattern. -/
def Settings.adjusted (s : Settings) (limit : Nat) (initial : Flags) : Settings :=
  { s with nestLimit := limit, flags := initial }

@[simp] theorem Settings.domain_adjusted (s : Settings) (limit : Nat) (initial : Flags) :
    (s.adjusted limit initial).domain = s.domain := rfl

@[simp] theorem Settings.data_adjusted (s : Settings) (limit : Nat) (initial : Flags) :
    (s.adjusted limit initial).data = s.data := rfl

/-- The groups that are closed at a place of a text are closed inside a longer text too. There may be others,
but then there is more text behind. -/
structure Grows (more : List Char) (closed closed' : List Nat) : Prop where
  keeps : ∀ index ∈ closed, index ∈ closed'
  same : more = [] → closed' = closed

theorem Grows.refl (more : List Char) (closed : List Nat) : Grows more closed closed :=
  ⟨fun _ member => member, fun _ => rfl⟩

namespace Escape

/-- What an escape sequence or a class depends on, inside a longer text. -/
def Context.placed (ctx : Context) (limit : Nat) (initial : Flags) (closed : List Nat) : Context :=
  { settings := ctx.settings.adjusted limit initial, flags := ctx.flags, closed }

section

variable (ctx : Context) (limit : Nat) (initial : Flags) (closed : List Nat)

@[simp] theorem Context.settings_placed :
    (ctx.placed limit initial closed).settings = ctx.settings.adjusted limit initial := rfl

@[simp] theorem Context.flags_placed : (ctx.placed limit initial closed).flags = ctx.flags := rfl

@[simp] theorem Context.closed_placed : (ctx.placed limit initial closed).closed = closed := rfl

end

variable {ctx : Context} {limit : Nat} {initial : Flags} {closed : List Nat} {start here : Cursor}
  {c : Char} {rest : List Char}

theorem carried_backreference (grows : Grows more ctx.closed closed) (next : here.rest = c :: rest) :
    Carried n more (carry n more) (backreference ctx start here c)
      (backreference (ctx.placed limit initial closed) (start.inside n more) (here.inside n more) c) := by
  simp only [backreference, List.contains_eq_mem, decide_eq_true_eq, Context.closed_placed,
    skip_inside_of_cons next]
  split
  · rename_i isClosed
    rw [if_pos (grows.keeps _ isClosed)]
    rfl
  · rename_i isOpen
    intro none
    rw [if_neg (by rwa [grows.same none])]
    rfl

theorem carried_namedProperty (after : Cursor) (name : List Char) (negated : Bool) :
    Carried n more (carry n more) (namedProperty ctx start after name negated)
      (namedProperty (ctx.placed limit initial closed) (start.inside n more) (after.inside n more) name
        negated) := by
  simp only [namedProperty, Context.settings_placed, Context.flags_placed, Settings.data_adjusted,
    Settings.domain_adjusted]
  split
  · exact carried_unsupported fun _ => rfl
  · refine (Settings.carried_classPattern start after _ negated).elim (fun leaf _ => rfl)
      fun failure there failed none => ?_
    rw [failed none]

theorem carried_propertyClass (next : here.rest = c :: rest) (negated : Bool) :
    Carried n more (carry n more) (propertyClass ctx start here negated)
      (propertyClass (ctx.placed limit initial closed) (start.inside n more) (here.inside n more)
        negated) := by
  unfold propertyClass
  rw [skip_inside_of_cons next, Cursor.rest_inside]
  cases following : here.skip.rest with
  | nil => exact fun none => by rw [none]; rfl
  | cons d others =>
    rw [List.cons_append, skip_inside_of_cons following]
    by_cases isBrace : d = '\x7b'
    · subst isBrace
      dsimp only
      cases ended : (here.skip.skip.skipWhile (· ≠ '\x7d')).rest with
      | nil =>
        rw [if_pos (Cursor.rest_of_atEnd.mpr ended)]
        intro none
        subst none
        rw [skipWhile_inside (.inr rfl), Cursor.atEnd_inside_nil, if_pos (Cursor.rest_of_atEnd.mpr ended)]
        rfl
      | cons e others' =>
        rw [skipWhile_inside_of_cons ended, skip_inside_of_cons ended, Cursor.charsTo_inside,
          Cursor.atEnd_of_cons ended, Cursor.atEnd_inside_of_cons ended]
        exact carried_namedProperty _ _ negated
    · simp only
      exact carried_namedProperty _ _ negated

theorem carried_bracedHex (start here : Cursor) :
    Carried n more (carry n more) (bracedHex start here)
      (bracedHex (start.inside n more) (here.inside n more)) := by
  unfold bracedHex
  dsimp only
  cases ended : (here.skipWhile isHexDigit).rest with
  | nil =>
    intro none
    rw [skipWhile_inside (.inr none), Cursor.rest_inside, ended, none]
    rfl
  | cons d others =>
    rw [skipWhile_inside_of_cons ended, Cursor.rest_inside, ended, List.cons_append,
      skip_inside_of_cons ended, Cursor.charsTo_inside]
    by_cases isBrace : d = '\x7d'
    · subst isBrace
      simp only
      split
      · exact fun _ => rfl
      · split
        · rfl
        · exact fun _ => rfl
    · simp only [List.cons.injEq, isBrace, false_and, imp_self, implies_true]
      exact fun _ => rfl

theorem carried_fixedHex (start here : Cursor) (count : Nat) :
    Carried n more (carry n more) (fixedHex start here count)
      (fixedHex (start.inside n more) (here.inside n more) count) := by
  unfold fixedHex
  dsimp only
  by_cases enough : count ≤ here.rest.length
  · rw [Cursor.rest_inside, List.take_append_of_le_length enough]
    generalize isDigits : (here.rest.take count).takeWhile isHexDigit = digits
    have within : digits.length ≤ here.rest.length := by
      rw [← isDigits]
      exact Nat.le_trans (List.takeWhile_prefix _).length_le (List.length_take_le' _ _)
    rw [Cursor.skipMany_inside (.inl within)]
    split
    · rw [← apply_ite Except.error]
      intro none
      subst none
      rw [Cursor.atEnd_inside_nil]
      split <;> rfl
    · split
      · rfl
      · exact fun _ => rfl
  · have short : ((here.rest.take count).takeWhile isHexDigit).length < count :=
      Nat.lt_of_le_of_lt
        (Nat.le_trans (List.takeWhile_prefix _).length_le (List.length_take_le' _ _)) (by omega)
    rw [if_pos short, ← apply_ite Except.error]
    intro none
    subst none
    rw [Cursor.rest_inside, List.append_nil, if_pos short, Cursor.skipMany_inside (.inr rfl),
      Cursor.atEnd_inside_nil]
    split <;> rfl

theorem carried_hex (next : here.rest = c :: rest) (count : Nat) :
    Carried n more (carry n more) (hex start here count)
      (hex (start.inside n more) (here.inside n more) count) := by
  unfold hex
  rw [skip_inside_of_cons next, Cursor.rest_inside]
  cases following : here.skip.rest with
  | nil => exact fun none => by rw [none]; rfl
  | cons d others =>
    rw [List.cons_append, skip_inside_of_cons following]
    by_cases isBrace : d = '\x7b'
    · subst isBrace
      exact carried_bracedHex start _
    · simp only [List.cons.injEq, isBrace, false_and, imp_self, implies_true]
      exact carried_fixedHex start _ count

theorem carried_hexLeaf (next : here.rest = c :: rest) (count : Nat) :
    Carried n more (carry n more) (hexLeaf ctx start here count)
      (hexLeaf (ctx.placed limit initial closed) (start.inside n more) (here.inside n more) count) := by
  unfold hexLeaf
  refine (carried_hex next count).elim (fun found _ => rfl) fun failure there failed none => ?_
  rw [failed none]

theorem carried_perlClass (next : here.rest = c :: rest) (holds : Char → Bool) (negated : Bool) :
    Carried n more (carry n more) (perlClass ctx start here holds negated)
      (perlClass (ctx.placed limit initial closed) (start.inside n more) (here.inside n more) holds
        negated) := by
  unfold perlClass
  rw [skip_inside_of_cons next]
  refine (Settings.carried_classPattern start here.skip _ negated).elim (fun leaf _ => rfl)
    fun failure there failed none => ?_
  rw [failed none]

theorem carried_single (next : here.rest = c :: rest) :
    Carried n more (carry n more) (single ctx start here c)
      (single (ctx.placed limit initial closed) (start.inside n more) (here.inside n more) c) := by
  unfold single
  rw [skip_inside_of_cons next]
  split
  · rfl
  · split
    · rfl
    · rfl
    · exact fun _ => rfl

/-- **An escape sequence** is read inside a longer text as it is read alone. -/
theorem carried_read (grows : Grows more ctx.closed closed) (start here : Cursor) :
    Carried n more (carry n more) (read ctx start here)
      (read (ctx.placed limit initial closed) (start.inside n more) (here.inside n more)) := by
  unfold read
  rw [Cursor.rest_inside]
  cases next : here.rest with
  | nil => exact fun none => by rw [none]; rfl
  | cons c rest =>
    have refused (none : more = []) : (here.inside n more).skip.skip = here.skip.skip.inside n more := by
      rw [Cursor.skip_inside (.inr none), Cursor.skip_inside (.inr none)]
    rw [List.cons_append]
    dsimp only
    split
    · exact carried_propertyClass next false
    · exact carried_propertyClass next true
    · exact carried_hexLeaf next 2
    · exact carried_hexLeaf next 4
    · exact carried_hexLeaf next 8
    · exact carried_perlClass next _ false
    · exact carried_perlClass next _ true
    · exact carried_perlClass next _ false
    · exact carried_perlClass next _ true
    · exact carried_perlClass next _ false
    · exact carried_perlClass next _ true
    · exact carried_unsupported fun _ => skip_inside_of_cons next
    · exact carried_unsupported refused
    · exact carried_unsupported refused
    · split
      · exact carried_backreference grows next
      · exact carried_single next

end Escape

namespace ClassSet

open Escape (Context)

variable {ctx : Context} {limit : Nat} {initial : Flags} {closed : List Nat}

/-- The place behind a mark that may come next is carried along. -/
theorem behindMark_inside (closes : Closes more) {mark : Char} (other : mark ≠ ')') (a : Cursor) :
    (if (a.inside n more).rest.head? = some mark then (a.inside n more).skip else a.inside n more) =
      (if a.rest.head? = some mark then a.skip else a).inside n more := by
  simp only [Cursor.head_inside closes other]
  split
  · rename_i isMark
    obtain ⟨rest, next⟩ := List.head?_eq_some_iff.mp isMark
    exact skip_inside_of_cons next
  · rfl

/-- A POSIX class is found inside a longer text where it was found. If none was found, that may be due to
the end of the text. -/
theorem posix_inside (closes : Closes more) {here : Cursor}
    (known : posix? ctx here ≠ none ∨ more = []) :
    posix? (ctx.placed limit initial closed) (here.inside n more) = (posix? ctx here).map (carry n more) := by
  unfold posix? at known ⊢
  rw [Cursor.afterText_inside closes (by decide)]
  cases isOpened : here.afterText? ['[', ':'] with
  | none => rfl
  | some opened =>
    rw [isOpened] at known
    simp only [Option.map_some, behindMark_inside closes (show '^' ≠ ')' by decide)]
    simp only [Cursor.head_inside closes (show '^' ≠ ')' by decide)]
    dsimp only at known
    generalize (if opened.rest.head? = some '^' then opened.skip else opened) = nameStart at known ⊢
    have going : (nameStart.skipWhile (· ≠ ':')).rest ≠ [] ∨ more = [] := by
      refine known.imp_left fun some none => some ?_
      rw [Cursor.afterText?, none]
      rfl
    rw [skipWhile_inside going, Cursor.afterText_inside closes (by decide), Cursor.textTo_inside]
    cases (nameStart.skipWhile (· ≠ ':')).afterText? [':', ']'] with
    | none => rfl
    | some after =>
      cases posixRanges? (nameStart.textTo (nameStart.skipWhile (· ≠ ':'))) with
      | none => rfl
      | some ranges => rfl

theorem carried_primitive (grows : Grows more ctx.closed closed) (here : Cursor) :
    Carried n more (carry n more) (primitive ctx here)
      (primitive (ctx.placed limit initial closed) (here.inside n more)) := by
  unfold primitive
  rw [Cursor.rest_inside]
  cases next : here.rest with
  | nil => exact fun none => by rw [none]; rfl
  | cons c rest =>
    rw [List.cons_append, skip_inside_of_cons next]
    by_cases isBackslash : c = '\\'
    · subst isBackslash
      exact Escape.carried_read grows here here.skip
    · simp only
      rfl

theorem carried_asChar (position : Nat) (leaf : Pattern) :
    Carried n more id (asChar position leaf) (asChar (position + n) leaf) := by
  unfold asChar
  split
  · split
    · rfl
    · exact fun _ => rfl
  · exact fun _ => rfl

theorem carried_asItem (position : Nat) (leaf : Pattern) :
    Carried n more id (asItem position leaf) (asItem (position + n) leaf) := by
  unfold asItem
  split
  · rfl
  · exact (carried_asChar position _).map fun _ _ => rfl
  · exact fun _ => rfl

theorem carried_asRange (position : Nat) (first second : Pattern) :
    Carried n more id (asRange position first second) (asRange (position + n) first second) := by
  unfold asRange
  refine (carried_asChar position first).bind fun lo _ =>
    (carried_asChar position second).bind fun hi _ => ?_
  dsimp only [id]
  split
  · exact fun _ => rfl
  · rfl

/-- An item of a class, with the place behind it. -/
theorem carried_item (grows : Grows more ctx.closed closed) (start here : Cursor) :
    Carried n more (carry n more) (item ctx start here)
      (item (ctx.placed limit initial closed) (start.inside n more) (here.inside n more)) := by
  unfold item
  refine (carried_primitive grows here).elim (fun found _ => ?_) fun failure there failed none => by
    rw [failed none]
  obtain ⟨first, after⟩ := found
  have alone : Carried n more (carry n more) ((fun single => (single, after)) <$> asItem here.offset first)
      ((fun single => (single, after.inside n more)) <$> asItem (here.offset + n) first) :=
    (carried_asItem here.offset first).map fun _ _ => rfl
  rw [carry_mk]
  dsimp only
  rw [Cursor.rest_inside]
  cases following : after.rest with
  | nil => exact fun none => by rw [none]; rfl
  | cons c others =>
    rw [List.cons_append]
    by_cases isHyphen : c = '-'
    · subst isHyphen
      cases others with
      | nil => exact fun none => by rw [none]; rfl
      | cons next others =>
        simp only [List.cons_append]
        split
        · exact alone
        · rw [skip_inside_of_cons following]
          refine (carried_primitive grows after.skip).elim (fun found' _ => ?_)
            fun failure there failed none => by rw [failed none]
          exact (carried_asRange here.offset first found'.1).map fun _ _ => rfl
    · simp only [List.cons.injEq, isHyphen, false_and, imp_self, implies_true]
      exact alone

theorem carried_build (start after : Cursor) (negated : Bool) (items : List Item) :
    Carried n more id (build ctx start after negated items)
      (build (ctx.placed limit initial closed) (start.inside n more) (after.inside n more) negated
        items) := by
  simp only [build, Context.settings_placed, Context.flags_placed, Settings.domain_adjusted]
  split
  · exact carried_unsupported fun _ => rfl
  · exact Settings.carried_classPattern start after _ negated

/-- The items of a class up to the closing bracket: induction on the run over them. -/
theorem carried_readItems (closes : Closes more) (grows : Grows more ctx.closed closed) (start : Cursor)
    (negated : Bool) (here : Cursor) (found : List Item) :
    Carried n more (carry n more) (readItems ctx start negated here found)
      (readItems (ctx.placed limit initial closed) (start.inside n more) negated (here.inside n more)
        found) := by
  have stillNone {c : Char} {rest : List Char} (notOperator : ¬(isSetOperator c ∧ rest.head? = some c)) :
      ¬(isSetOperator c ∧ (rest ++ more).head? = some c) := by
    rintro ⟨isOperator, twice⟩
    have other : c ≠ ')' := by
      rintro rfl
      simp [isSetOperator] at isOperator
    have alone := (Cursor.head_inside (a := ⟨0, rest⟩) (n := n) closes other).mp twice
    exact notOperator ⟨isOperator, alone⟩
  have again (here : Cursor) : Carried n more (carry n more) (item ctx start here)
      (item (ctx.placed limit initial closed) (start.inside n more) (here.inside n more)) :=
    carried_item grows start here
  fun_induction readItems ctx start negated here found with
  | case1 here found none =>
    intro isLast
    subst isLast
    rw [readItems_atEnd (by rw [Cursor.rest_inside, none, List.append_nil])]
    rfl
  | case2 here found rest set after nested next ih =>
    rw [readItems_more (rest_inside_of_cons next), if_pos rfl,
      posix_inside closes (.inl (by rw [nested]; exact Option.some_ne_none _)), nested]
    exact ih
  | case3 here found rest none next =>
    intro isLast
    rw [readItems_more (rest_inside_of_cons next), if_pos rfl, posix_inside closes (.inr isLast), none,
      skip_inside_of_cons next, Cursor.textTo_inside]
    rfl
  | case4 here found rest next notOpen =>
    rw [readItems_more (rest_inside_of_cons next), if_neg notOpen, if_pos rfl, skip_inside_of_cons next]
    exact (carried_build start here.skip negated found.reverse).map fun _ _ => rfl
  | case5 here found c rest next notOpen notClose twice =>
    intro isLast
    subst isLast
    rw [readItems_more (rest_inside_of_cons next), if_neg notOpen, if_neg notClose, List.append_nil,
      if_pos twice, Cursor.skip_inside (.inr rfl), Cursor.skip_inside (.inr rfl), Cursor.textTo_inside]
    rfl
  | case6 here found c rest next notOpen notClose notOperator failure refused =>
    have again := again here
    rw [refused] at again
    intro isLast
    rw [readItems_more (rest_inside_of_cons next), if_neg notOpen, if_neg notClose,
      if_neg (stillNone notOperator), again isLast]
  | case7 here found c rest next notOpen notClose notOperator one after single ih =>
    have again := again here
    rw [single] at again
    rw [readItems_more (rest_inside_of_cons next), if_neg notOpen, if_neg notClose,
      if_neg (stillNone notOperator), again]
    exact ih

variable {start : Cursor} {c : Char} {rest : List Char}

theorem isNegated_inside (closes : Closes more) (next : start.rest = c :: rest) :
    isNegated (start.inside n more) = isNegated start := by
  unfold isNegated
  rw [skip_inside_of_cons next]
  simp only [Cursor.head_inside closes (show '^' ≠ ')' by decide)]

theorem firstItem_inside (closes : Closes more) (next : start.rest = c :: rest) :
    firstItem (start.inside n more) = (firstItem start).inside n more := by
  simp only [firstItem, isNegated, decide_eq_true_eq, skip_inside_of_cons next]
  exact behindMark_inside closes (by decide) _

/-- The hyphens that open a class, which does not end with its text. -/
theorem carried_readHyphens (start : Cursor) {here : Cursor} {c : Char} {rest : List Char}
    (next : here.rest = c :: rest) :
    Carried n more (carry n more) (readHyphens start here)
      (readHyphens (start.inside n more) (here.inside n more)) := by
  unfold readHyphens
  dsimp only
  cases ended : (here.skipWhile (· = '-')).rest with
  | nil =>
    have isHyphen : here.rest.head? = some '-' := by
      rw [Cursor.rest_skipWhile, next] at ended
      by_cases same : c = '-'
      · rw [next, same]
        rfl
      · rw [List.dropWhile_cons_of_neg (by simpa using same)] at ended
        cases ended
    rw [if_pos ⟨Cursor.rest_of_atEnd.mpr ended, isHyphen⟩]
    intro none
    subst none
    rw [skipWhile_inside (.inr rfl), Cursor.atEnd_inside_nil, Cursor.rest_inside, List.append_nil,
      if_pos ⟨Cursor.rest_of_atEnd.mpr ended, isHyphen⟩]
    rfl
  | cons d others =>
    rw [skipWhile_inside_of_cons ended, Cursor.atEnd_of_cons ended, Cursor.atEnd_inside_of_cons ended,
      Cursor.charsTo_inside]
    simp only [Bool.false_eq_true, false_and, ↓reduceIte]
    rfl

/-- **A class** is read inside a longer text as it is read alone. -/
theorem carried_read (closes : Closes more) (grows : Grows more ctx.closed closed)
    (next : start.rest = c :: rest) :
    Carried n more (carry n more) (read ctx start)
      (read (ctx.placed limit initial closed) (start.inside n more)) := by
  unfold read
  rw [isNegated_inside closes next, firstItem_inside closes next]
  dsimp only
  cases first : (firstItem start).rest with
  | nil =>
    rw [if_pos (Cursor.rest_of_atEnd.mpr first)]
    intro none
    subst none
    rw [Cursor.atEnd_inside_nil, if_pos (Cursor.rest_of_atEnd.mpr first)]
    rfl
  | cons d others =>
    rw [Cursor.atEnd_of_cons first, Cursor.atEnd_inside_of_cons first]
    simp only [Bool.false_eq_true, ↓reduceIte]
    refine (carried_readHyphens start first).elim (fun found _ => ?_) fun failure there failed none => by
      rw [failed none]
    obtain ⟨hyphens, here⟩ := found
    rw [carry_mk]
    simp only [Cursor.head_inside closes (show ']' ≠ ')' by decide)]
    split
    · rename_i bracket
      obtain ⟨others, isBracket⟩ := List.head?_eq_some_iff.mp bracket.2
      rw [skip_inside_of_cons isBracket]
      cases following : here.skip.rest with
      | nil =>
        rw [if_pos (Cursor.rest_of_atEnd.mpr following)]
        intro none
        subst none
        rw [Cursor.atEnd_inside_nil, if_pos (Cursor.rest_of_atEnd.mpr following)]
        rfl
      | cons e others =>
        rw [Cursor.atEnd_of_cons following, Cursor.atEnd_inside_of_cons following]
        exact carried_readItems closes grows start (isNegated start) here.skip _
    · exact carried_readItems closes grows start (isNegated start) here hyphens

end ClassSet

end PatternForge
