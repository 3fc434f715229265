import PatternForge.Proofs.Placement.Constructs
import PatternForge.Proofs.Reading.ClassTurns
import PatternForge.Proofs.Replacing.Places

/-!
Escape sequences and classes in front of another text. One lemma for each reader: what it reads in front of
`t` it reads in front of `t'` (`Alike`). An escape sequence is over with its last character. A class ends at
its bracket, and so does each item of it, but for a look at the two characters behind the item.
-/
namespace PatternForge

open Cursor (cons_of_skip cons_of_skipWhile exists_inside rest_inside_of_cons skip_inside_of_cons
  skipWhile_inside_of_cons)

variable {t t' : List Char} {ctx : Escape.Context} {start start' a : Cursor} {c : Char} {rest : List Char}

/-! ### Escape sequences -/

namespace Escape

theorem alike_namedProperty (b : Cursor) (name : List Char) (negated : Bool) :
    Alike t t' (namedProperty ctx start (b.inside 0 t) name negated)
      (namedProperty ctx start' (b.inside 0 t') name negated) := by
  unfold namedProperty
  cases ctx.settings.data.property ctx.flags.ignoreCase (String.ofList name) with
  | none => exact .of_error rfl
  | some holds =>
    dsimp only
    cases made : Settings.classPattern start (b.inside 0 t) (.ofPredicate ctx.settings.domain holds) negated with
    | error failure => exact .of_error rfl
    | ok leaf =>
      rw [Settings.classPattern_eq_ok.mpr (Settings.classPattern_eq_ok.mp made)]
      exact .of_ok b

private theorem behind_perlClass {here e : Cursor} {leaf : Pattern} {holds : Char → Bool} {negated : Bool}
    (read : perlClass ctx start here holds negated = .ok (leaf, e)) : here.skip.Reaches e := by
  unfold perlClass at read
  split at read <;> cases read
  exact Cursor.Reaches.refl _

theorem alike_perlClass (next : a.rest = c :: rest) (holds : Char → Bool) (negated : Bool) :
    Alike t t' (perlClass ctx start (a.inside 0 t) holds negated)
      (perlClass ctx start' (a.inside 0 t') holds negated) := by
  unfold perlClass
  rw [skip_inside_of_cons next, skip_inside_of_cons next]
  cases made : Settings.classPattern start (a.skip.inside 0 t)
      (.ofPredicate ctx.settings.domain holds) negated with
  | error failure => exact .of_error rfl
  | ok leaf =>
    rw [Settings.classPattern_eq_ok.mpr (Settings.classPattern_eq_ok.mp made)]
    exact .of_ok a.skip

/-- Behind the letter of a property class stands a character of it at least. -/
private theorem reaches_property {here e : Cursor} {negated : Bool} {leaf : Pattern}
    (read : propertyClass ctx start here negated = .ok (leaf, e)) : here.skip.skip.Reaches e := by
  unfold propertyClass at read
  split at read
  · cases read
  · dsimp only at read
    split at read
    · cases read
    · rw [reaches_namedProperty read]
      exact (Cursor.reaches_skipWhile _ _).trans (Cursor.reaches_skip _)
  · rw [reaches_namedProperty read]
    exact Cursor.Reaches.refl _

theorem alike_propertyClass (some : t ≠ []) (next : a.rest = c :: rest) (negated : Bool) :
    Alike t t' (propertyClass ctx start (a.inside 0 t) negated)
      (propertyClass ctx start' (a.inside 0 t') negated) := by
  intro leaf e read before
  have moved := reaches_property read
  rw [skip_inside_of_cons next] at moved
  obtain ⟨d, others, following⟩ := cons_of_skip some (Nat.le_trans before moved.length_le)
  unfold propertyClass at read ⊢
  rw [skip_inside_of_cons next, rest_inside_of_cons following, skip_inside_of_cons following] at read ⊢
  by_cases isBrace : d = '\x7b'
  · subst isBrace
    simp only at read ⊢
    split at read
    · cases read
    · have past := before
      rw [reaches_namedProperty read] at past
      obtain ⟨f, others', ended⟩ := cons_of_skipWhile some past
      rw [skipWhile_inside_of_cons ended, skip_inside_of_cons ended, Cursor.charsTo_inside] at read ⊢
      rw [Cursor.atEnd_inside_of_cons ended]
      exact alike_namedProperty _ _ negated leaf e read before
  · simp only at read ⊢
    exact alike_namedProperty _ _ negated leaf e read before

/-- Behind the letter of a character by its number stands a character of the number at least. -/
private theorem reaches_behind_hex {here e : Cursor} {count : Nat} {d : Char} (positive : 0 < count)
    (read : hex start here count = .ok (d, e)) : here.skip.skip.Reaches e := by
  unfold hex at read
  split at read
  · cases read
  · exact reaches_bracedHex read
  · unfold fixedHex at read
    dsimp only at read
    split at read
    · split at read <;> cases read
    · rename_i enough
      split at read <;> cases read
      have one : 0 < (List.takeWhile isHexDigit (List.take count here.skip.rest)).length := by omega
      obtain ⟨more, same⟩ := Nat.exists_eq_add_of_lt one
      rw [same, Nat.zero_add, Nat.add_comm, Cursor.skipMany_add]
      exact Cursor.reaches_skipMany _ _

theorem alike_bracedHex (some : t ≠ []) (a : Cursor) :
    Alike t t' (bracedHex start (a.inside 0 t)) (bracedHex start' (a.inside 0 t')) := by
  intro d e read before
  unfold bracedHex at read ⊢
  dsimp only at read ⊢
  split at read
  · cases read
  · rename_i others closed
    split at read
    · cases read
    · rename_i nonempty
      split at read
      · rename_i code
        cases read
        obtain ⟨f, others', ended⟩ := cons_of_skipWhile some before
        rw [skipWhile_inside_of_cons ended] at closed nonempty code ⊢
        rw [rest_inside_of_cons ended] at closed
        cases closed
        rw [Cursor.charsTo_inside] at nonempty code
        refine ⟨_, skip_inside_of_cons ended, ?_⟩
        rw [skipWhile_inside_of_cons ended, rest_inside_of_cons ended, skip_inside_of_cons ended,
          Cursor.charsTo_inside]
        simp only [nonempty, code]
        rfl
      · cases read
  · cases read

theorem alike_fixedHex (a : Cursor) (count : Nat) :
    Alike t t' (fixedHex start (a.inside 0 t) count) (fixedHex start' (a.inside 0 t') count) := by
  intro d e read before
  unfold fixedHex at read ⊢
  dsimp only at read ⊢
  split at read
  · split at read <;> cases read
  · rename_i enough
    split at read
    · rename_i code
      cases read
      have long : ((a.inside 0 t).rest.take count).length ≤ count := List.length_take_le _ _
      have within : count ≤ a.rest.length := by
        have all := (List.takeWhile_prefix isHexDigit (l := (a.inside 0 t).rest.take count)).length_le
        rw [Cursor.rest_skipMany, List.length_drop, Cursor.rest_inside, List.length_append] at before
        simp only [Cursor.rest_inside, List.length_take, List.length_append] at all long enough before
        omega
      have same (more : List Char) : (a.inside 0 more).rest.take count = a.rest.take count := by
        rw [Cursor.rest_inside, List.take_append_of_le_length within]
      rw [same] at enough code ⊢
      rw [same, if_neg enough, code]
      have short : ((a.rest.take count).takeWhile isHexDigit).length ≤ a.rest.length :=
        Nat.le_trans (List.takeWhile_prefix _).length_le (List.length_take_le' _ _)
      exact ⟨_, Cursor.skipMany_inside (.inl short), by rw [Cursor.skipMany_inside (.inl short)]⟩
    · cases read

theorem alike_hex (some : t ≠ []) (next : a.rest = c :: rest) {count : Nat} (positive : 0 < count) :
    Alike t t' (hex start (a.inside 0 t) count) (hex start' (a.inside 0 t') count) := by
  intro d e read before
  have moved := reaches_behind_hex positive read
  rw [skip_inside_of_cons next] at moved
  obtain ⟨f, others, following⟩ := cons_of_skip some (Nat.le_trans before moved.length_le)
  unfold hex at read ⊢
  rw [skip_inside_of_cons next, rest_inside_of_cons following, skip_inside_of_cons following] at read ⊢
  by_cases isBrace : f = '\x7b'
  · subst isBrace
    exact alike_bracedHex some _ d e read before
  · simp only [List.cons.injEq, isBrace, false_and, imp_self, implies_true] at read ⊢
    exact alike_fixedHex _ count d e read before

private theorem behind_hexLeaf {here e : Cursor} {leaf : Pattern} {count : Nat} (positive : 0 < count)
    (read : hexLeaf ctx start here count = .ok (leaf, e)) : here.skip.Reaches e := by
  unfold hexLeaf at read
  split at read
  · cases read
  · rename_i isHex
    cases read
    exact (Cursor.reaches_skip _).trans (reaches_behind_hex positive isHex)

theorem alike_hexLeaf (some : t ≠ []) (next : a.rest = c :: rest) {count : Nat} (positive : 0 < count) :
    Alike t t' (hexLeaf ctx start (a.inside 0 t) count) (hexLeaf ctx start' (a.inside 0 t') count) := by
  intro leaf e read before
  unfold hexLeaf at read ⊢
  split at read
  · cases read
  · rename_i d after isHex
    cases read
    obtain ⟨b, place, again⟩ := alike_hex some next positive d e isHex before
    exact ⟨b, place, by rw [again]⟩

theorem alike_backreference (next : a.rest = c :: rest) (digit : Char) :
    Alike t t' (backreference ctx start (a.inside 0 t) digit)
      (backreference ctx start' (a.inside 0 t') digit) := by
  unfold backreference
  rw [skip_inside_of_cons next, skip_inside_of_cons next]
  dsimp only
  split
  · exact .of_ok a.skip
  · exact .of_error rfl

theorem alike_single (next : a.rest = c :: rest) (d : Char) :
    Alike t t' (single ctx start (a.inside 0 t) d) (single ctx start' (a.inside 0 t') d) := by
  unfold single
  rw [skip_inside_of_cons next, skip_inside_of_cons next]
  split
  · exact .of_ok a.skip
  · split
    · exact .of_ok a.skip
    · exact .of_ok a.skip
    · exact .of_error rfl

/-- An escape sequence takes the character behind the backslash. -/
private theorem behind_read {here e : Cursor} {leaf : Pattern} (read' : read ctx start here = .ok (leaf, e)) :
    here.skip.Reaches e := by
  unfold read at read'
  split at read'
  · cases read'
  · have skipped : here.skip.Reaches here.skip.skip := Cursor.reaches_skip _
    dsimp only at read'
    split at read'
    · exact skipped.trans (reaches_property read')
    · exact skipped.trans (reaches_property read')
    · exact behind_hexLeaf (by decide) read'
    · exact behind_hexLeaf (by decide) read'
    · exact behind_hexLeaf (by decide) read'
    · exact behind_perlClass read'
    · exact behind_perlClass read'
    · exact behind_perlClass read'
    · exact behind_perlClass read'
    · exact behind_perlClass read'
    · exact behind_perlClass read'
    · cases read'
    · cases read'
    · cases read'
    · split at read'
      · unfold backreference at read'
        dsimp only at read'
        split at read' <;> cases read'
        exact Cursor.Reaches.refl _
      · unfold single at read'
        split at read'
        · cases read'
          exact Cursor.Reaches.refl _
        · split at read' <;> cases read' <;> exact Cursor.Reaches.refl _

/-- **An escape sequence.** -/
theorem alike_read (some : t ≠ []) (a : Cursor) :
    Alike t t' (read ctx start (a.inside 0 t)) (read ctx start' (a.inside 0 t')) := by
  intro leaf e read' before
  obtain ⟨c, rest, next⟩ := cons_of_skip some (Nat.le_trans before (behind_read read').length_le)
  revert leaf e
  change Alike t t' _ _
  unfold read
  rw [rest_inside_of_cons next, rest_inside_of_cons next]
  dsimp only
  split
  · exact alike_propertyClass some next false
  · exact alike_propertyClass some next true
  · exact alike_hexLeaf some next (by decide)
  · exact alike_hexLeaf some next (by decide)
  · exact alike_hexLeaf some next (by decide)
  · exact alike_perlClass next _ false
  · exact alike_perlClass next _ true
  · exact alike_perlClass next _ false
  · exact alike_perlClass next _ true
  · exact alike_perlClass next _ false
  · exact alike_perlClass next _ true
  · exact .of_error rfl
  · exact .of_error rfl
  · exact .of_error rfl
  · split
    · exact alike_backreference next _
    · exact alike_single next _

end Escape

/-! ### Classes -/

namespace ClassSet

variable {one : Item} {items found : List Item} {e : Cursor}

theorem alike_primitive (some : t ≠ []) (a : Cursor) (t' : List Char) :
    Alike t t' (primitive ctx (a.inside 0 t)) (primitive ctx (a.inside 0 t')) := by
  intro leaf e read before
  obtain ⟨c, rest, next⟩ := cons_of_skip some (Nat.le_trans before (reaches_primitive read).length_le)
  unfold primitive at read ⊢
  rw [rest_inside_of_cons next, skip_inside_of_cons next] at read ⊢
  by_cases isBackslash : c = '\\'
  · subst isBackslash
    exact Escape.alike_read some a.skip leaf e read before
  · simp only at read ⊢
    exact Alike.of_ok a.skip leaf e read before

/-- The mark of a negation that comes next. -/
private theorem behindMark_inside_of_cons {n : Nat} {more : List Char} (next : a.rest = c :: rest) (mark : Char) :
    (if (a.inside n more).rest.head? = some mark then (a.inside n more).skip else a.inside n more) =
      (if a.rest.head? = some mark then a.skip else a).inside n more := by
  rw [rest_inside_of_cons next, skip_inside_of_cons next, next, List.head?_cons, List.head?_cons]
  split <;> rfl

/-- A POSIX class that ends in front of `t`. -/
theorem posix_alike {set : CharSet} (notEmpty : t ≠ []) (shown : posix? ctx (a.inside 0 t) = some (set, e))
    (before : t.length ≤ e.rest.length) (t' : List Char) :
    ∃ b : Cursor, e = b.inside 0 t ∧ posix? ctx (a.inside 0 t') = some (set, b.inside 0 t') := by
  unfold posix? at shown ⊢
  split at shown
  · cases shown
  · rename_i opened isOpened
    dsimp only at shown
    split at shown
    · rename_i after ranges isAfter known
      cases shown
      have toName : opened.Reaches (if opened.rest.head? = some '^' then opened.skip else opened) := by
        split
        · exact Cursor.reaches_skip opened
        · exact Cursor.Reaches.refl opened
      have toEnd := toName.trans (Cursor.reaches_skipWhile (· ≠ ':') _)
      have marks := congrArg List.length (Cursor.afterText_eq_some.mp isAfter).1
      rw [List.length_append, List.length_cons, List.length_singleton] at marks
      have far := toEnd.length_le
      obtain ⟨o, rfl, again⟩ := Cursor.afterText_alike isOpened (by omega) t'
      obtain ⟨c, rest, next⟩ : ∃ c rest, o.rest = c :: rest := by
        refine List.exists_cons_of_ne_nil fun none => ?_
        have length : (o.inside 0 t).rest.length = t.length := by rw [Cursor.rest_inside, none, List.nil_append]
        omega
      rw [behindMark_inside_of_cons next] at isAfter known marks
      generalize isName : (if o.rest.head? = some '^' then o.skip else o) = name at isAfter known marks
      have short : t.length ≤ ((name.inside 0 t).skipWhile (· ≠ ':')).skip.rest.length := by
        rw [Cursor.rest_skip, List.length_tail]
        omega
      obtain ⟨d, others, ended⟩ := cons_of_skipWhile notEmpty short
      rw [skipWhile_inside_of_cons ended] at isAfter known
      obtain ⟨b, rfl, again'⟩ := Cursor.afterText_alike isAfter before t'
      rw [Cursor.textTo_inside] at known
      refine ⟨b, rfl, ?_⟩
      rw [again]
      dsimp only
      rw [behindMark_inside_of_cons next, isName, skipWhile_inside_of_cons ended, again', Cursor.textTo_inside,
        known]
      simp only [rest_inside_of_cons next, List.head?_cons]
    · cases shown

/-- What the reader of a class looks for behind an item stands in `t'` only if it stands in `t`: a hyphen not at
all, an operator to double, and the closing bracket just where it does in `t`. -/
structure Apart (t t' : List Char) : Prop where
  notEmpty : t ≠ []
  notEmpty' : t' ≠ []
  notHyphen : t'.head? ≠ some '-'
  operators : ∀ c, isSetOperator c = true → t'.head? = some c → t.head? = some c
  closes : t.head? = some ']' ↔ t'.head? = some ']'

private theorem Apart.alone (apart : Apart t t') {text : List Char} (alone : Alone (text ++ t))
    (notLast : text = ['-'] → t.head? ≠ some '-') : Alone (text ++ t') := by
  cases text with
  | nil =>
    obtain ⟨c, rest, head⟩ := List.exists_cons_of_ne_nil apart.notEmpty'
    refine ⟨c, rest, head, fun isHyphen => absurd ?_ apart.notHyphen⟩
    rw [head, isHyphen, List.head?_cons]
  | cons c text =>
    obtain ⟨c', rest, same, marks⟩ := alone
    cases same
    refine ⟨c, text ++ t', rfl, fun isHyphen => ?_⟩
    cases text with
    | nil =>
      subst isHyphen
      exact .inl (apart.closes.mp ((marks rfl).resolve_right (notLast rfl)))
    | cons d text => exact marks isHyphen

/-- One turn in front of `t`. -/
theorem Turn.alike (start' : Cursor) (apart : Apart t t') (turn : Turn ctx start (a.inside 0 t) one e)
    (before : t.length ≤ e.rest.length) (notLast : e.rest = '-' :: t → t.head? ≠ some '-') :
    ∃ b : Cursor, e = b.inside 0 t ∧ Turn ctx start' (a.inside 0 t') one (b.inside 0 t') := by
  obtain ⟨c, rest, next⟩ := cons_of_skip apart.notEmpty (Nat.le_trans before turn.reaches.length_le)
  cases turn with
  | posix next' shown =>
    cases (rest_inside_of_cons next).symm.trans next'
    obtain ⟨b, rfl, again⟩ := posix_alike apart.notEmpty shown before t'
    exact ⟨b, rfl, .posix (rest_inside_of_cons next) again⟩
  | item next' bracket operator single =>
    cases (rest_inside_of_cons next).symm.trans next'
    have operator' : ¬(isSetOperator c = true ∧ (rest ++ t').head? = some c) := by
      rintro ⟨isOperator, twice⟩
      cases rest with
      | nil => exact operator ⟨isOperator, apart.operators c isOperator twice⟩
      | cons d rest => exact operator ⟨isOperator, twice⟩
    obtain ⟨first, after, isFirst, found⟩ := item_eq_ok.mp single
    have far : after.Reaches e := by
      rcases found with ⟨-, -, rfl⟩ | ⟨-, second, isSecond, -⟩
      · exact Cursor.Reaches.refl _
      · exact (Cursor.reaches_skip _).trans ((Cursor.reaches_skip _).trans (reaches_primitive isSecond))
    obtain ⟨b, rfl, again⟩ := alike_primitive apart.notEmpty a t' first after isFirst
      (Nat.le_trans before far.length_le)
    rcases found with ⟨alone, isItem, rfl⟩ | ⟨joins, second, isSecond, isRange⟩
    · refine ⟨b, rfl, .item (rest_inside_of_cons next) bracket operator'
        (item_eq_ok.mpr ⟨first, _, again, .inl ⟨apart.alone alone fun last => notLast ?_, isItem, rfl⟩⟩)⟩
      rw [Cursor.rest_inside, last, List.singleton_append]
    · obtain ⟨d, others, following⟩ := cons_of_skip apart.notEmpty (Nat.le_trans before
        ((Cursor.reaches_skip _).trans (reaches_primitive isSecond)).length_le)
      rw [skip_inside_of_cons following] at isSecond
      obtain ⟨f, others', following'⟩ := cons_of_skip apart.notEmpty
        (Nat.le_trans before (reaches_primitive isSecond).length_le)
      obtain ⟨b', rfl, again'⟩ := alike_primitive apart.notEmpty b.skip t' second e isSecond before
      refine ⟨b', rfl, .item (rest_inside_of_cons next) bracket operator'
        (item_eq_ok.mpr ⟨first, _, again, .inr ⟨?_, second, ?_, isRange⟩⟩)⟩
      · rw [Cursor.rest_skip, following, List.tail_cons] at following'
        subst following'
        rw [rest_inside_of_cons following] at joins ⊢
        obtain ⟨g, text, same, marks⟩ := joins
        cases same
        exact ⟨f, others' ++ t', rfl, marks⟩
      · rw [skip_inside_of_cons following]
        exact again'

/-- **The turns** that lead to `t` lead to `t'`: induction on the turns. -/
theorem Turns.alike (start' : Cursor) (apart : Apart t t') (turns : Turns ctx start (a.inside 0 t) items e)
    (ends : e.rest = t) :
    ∃ b : Cursor, b.rest = [] ∧ e = b.inside 0 t ∧ Turns ctx start' (a.inside 0 t') items (b.inside 0 t') := by
  generalize isPlace : a.inside 0 t = place at turns
  induction turns generalizing a with
  | nil =>
    subst isPlace
    exact ⟨a, by simpa using ends, rfl, .nil _⟩
  | cons turn turns ih =>
    subst isPlace
    have before := turns.reaches.length_le
    rw [ends] at before
    obtain ⟨b, rfl, turn'⟩ := turn.alike start' apart before fun last isHyphen => by
      cases turns with
      | nil =>
        rw [last] at ends
        exact absurd (congrArg List.length ends) (by simp)
      | cons next _ =>
        cases next with
        | posix next => cases last.symm.trans next
        | item next bracket operator single =>
          cases last.symm.trans next
          exact operator ⟨rfl, isHyphen⟩
    obtain ⟨b', none, rfl, turns'⟩ := ih ends rfl
    exact ⟨b', none, rfl, .cons turn' turns'⟩

/-- Whether a class is negated is seen from its caret, if that is in front of `t`. -/
theorem isNegated_alike (next : a.rest = c :: rest) (unmarked : t'.head? = some '^' → t.head? = some '^')
    (marks : caret (isNegated (a.inside 0 t)) <+: a.skip.rest) :
    isNegated (a.inside 0 t') = isNegated (a.inside 0 t) := by
  cases following : a.skip.rest with
  | cons d others =>
    unfold isNegated
    rw [skip_inside_of_cons next, skip_inside_of_cons next, rest_inside_of_cons following,
      rest_inside_of_cons following]
    rfl
  | nil =>
    rw [following, List.prefix_nil] at marks
    have unmarked' : isNegated (a.inside 0 t) = false := by
      cases negated : isNegated (a.inside 0 t) with
      | false => rfl
      | true =>
        rw [negated] at marks
        cases marks
    rw [unmarked']
    unfold isNegated at unmarked' ⊢
    rw [skip_inside_of_cons next, Cursor.rest_inside, following, List.nil_append] at unmarked' ⊢
    rw [decide_eq_false_iff_not] at unmarked' ⊢
    exact mt unmarked unmarked'

/-- **What opens a class** in front of `t`, which goes on like `t'` or with something that opens nothing. -/
theorem opening_alike (next : a.rest = c :: rest) (apart : Apart t t')
    (unmarked : t'.head? = some '^' → t.head? = some '^')
    (opens : opening (a.inside 0 t) = .ok (found, e)) (before : t.length ≤ e.rest.length) :
    ∃ b : Cursor, e = b.inside 0 t ∧ opening (a.inside 0 t') = .ok (found, b.inside 0 t') ∧
      isNegated (a.inside 0 t') = isNegated (a.inside 0 t) := by
  obtain ⟨lead, split, rfl, more, leads⟩ := opening_eq_ok.mp opens
  rw [skip_inside_of_cons next] at split before leads ⊢
  have within : (caret (isNegated (a.inside 0 t)) ++ lead).length ≤ a.skip.rest.length := by
    have total := congrArg List.length split
    rw [Cursor.rest_inside, List.length_append, List.length_append] at total
    omega
  rw [Cursor.skipMany_inside (.inl within)] at split leads ⊢
  generalize isBehind : a.skip.skipMany (caret (isNegated (a.inside 0 t)) ++ lead).length = b at split leads
  rw [Cursor.rest_inside, Cursor.rest_inside, ← List.append_assoc, List.append_cancel_right_eq] at split
  have same := isNegated_alike next unmarked ⟨_, (split.trans (List.append_assoc _ _ _)).symm⟩
  refine ⟨b, rfl, opening_eq_ok.mpr ⟨lead, ?_, ?_, ?_, ?_⟩, same⟩
  · rw [skip_inside_of_cons next, same, Cursor.rest_inside, split, Cursor.rest_inside, List.append_assoc]
  · rw [skip_inside_of_cons next, same, Cursor.skipMany_inside (.inl within), isBehind]
  · exact List.append_ne_nil_of_right_ne_nil _ apart.notEmpty'
  · rw [Cursor.rest_inside] at leads ⊢
    cases leads with
    | hyphens first bare =>
      cases following : b.rest with
      | nil =>
        rw [following] at bare
        exact .hyphens apart.notHyphen fun none closes => bare none (apart.closes.mpr closes)
      | cons d others =>
        rw [following] at first bare
        exact .hyphens first bare
    | bracket => exact .bracket

theorem build_of_build {start after : Cursor} {negated : Bool} {leaf : Pattern}
    (built : build ctx start after negated items = .ok leaf) (start' after' : Cursor) :
    build ctx start' after' negated items = .ok leaf := by
  unfold build at built ⊢
  split at built
  · cases built
  · exact Settings.classPattern_eq_ok.mpr (Settings.classPattern_eq_ok.mp built)

/-- **The way to a place** between two items of a class, in front of which nothing changes. -/
theorem passes_alike {here : Cursor} (next : a.rest = c :: rest) (apart : Apart t t')
    (unmarked : t'.head? = some '^' → t.head? = some '^')
    (passes : Passes ctx (a.inside 0 t) found items here) (place : here.rest = t) :
    Passes ctx (a.inside 0 t') found items ⟨here.offset, t'⟩ ∧
      isNegated (a.inside 0 t') = isNegated (a.inside 0 t) := by
  obtain ⟨first, opens, turns⟩ := passes
  obtain ⟨f, rfl, opens', same⟩ := opening_alike next apart unmarked opens (place ▸ turns.reaches.length_le)
  obtain ⟨b, none, rfl, turns'⟩ := turns.alike (a.inside 0 t') apart place
  refine ⟨⟨f.inside 0 t', opens', ?_⟩, same⟩
  have there : b.inside 0 t' = ⟨(b.inside 0 t).offset, t'⟩ := by
    simp only [Cursor.inside, none, List.nil_append]
  rwa [← there]

/-- The same text, cut between two items of a class instead of further behind. -/
theorem Passes.recut {here : Cursor} (next : a.rest = c :: rest)
    (passes : Passes ctx (a.inside 0 t) found items here) (before : t.length ≤ here.rest.length) :
    ∃ (q : Cursor) (front : List Char), here = q.inside 0 t ∧
      ∀ more, a.inside 0 more = (Cursor.mk a.offset (c :: front)).inside 0 (q.rest ++ more) := by
  have reaches := passes.reaches
  rw [skip_inside_of_cons next] at reaches
  obtain ⟨q, rfl, onwards⟩ := exists_inside reaches before
  obtain ⟨front, taken⟩ := onwards.exists_append
  rw [Cursor.rest_skip, next, List.tail_cons] at taken
  refine ⟨q, front, rfl, fun more => ?_⟩
  simp only [Cursor.inside, next, taken, List.cons_append, List.append_assoc]

/-- **A class** that ends in front of `t`. Its turns lead to its closing bracket, in front of which nothing
changes. -/
theorem alike_read (notEmpty : t ≠ []) (next : a.rest = c :: rest) :
    Alike t t' (read ctx (a.inside 0 t)) (read ctx (a.inside 0 t')) := by
  intro leaf e read' before
  obtain ⟨found, items, close, others, passes, closes, built, rfl⟩ := read_eq_ok.mp read'
  obtain ⟨q, front, rfl, recut⟩ := passes.recut next (Nat.le_trans before (Cursor.length_skip_le close))
  obtain ⟨d, u, atClose⟩ := cons_of_skip notEmpty before
  obtain rfl : d = ']' := by
    rw [rest_inside_of_cons atClose] at closes
    exact (List.cons.inj closes).1
  have apart : Apart (q.rest ++ t) (q.rest ++ t') := by
    rw [atClose]
    exact ⟨by simp, by simp, by simp, by simp, by simp⟩
  rw [recut] at passes built ⊢
  obtain ⟨passes', same⟩ := passes_alike rfl apart (by rw [atClose]; exact nofun) passes rfl
  refine ⟨q.skip, skip_inside_of_cons atClose, read_eq_ok.mpr ⟨found, items, q.inside 0 t', u ++ t', passes',
    rest_inside_of_cons atClose, ?_, (skip_inside_of_cons atClose).symm⟩⟩
  rw [same]
  exact build_of_build built _ _

end ClassSet

end PatternForge
