import PatternForge.Proofs.Replacing.Constructs

/-!
One item of a class replaced by another. The turns behind an item depend on the text from there on only
(`Turns.moved`), so a class whose opening and turns lead to another item, and go on behind it as they did,
is built of the same items but for that one (`read_of_passes`). A character and the class of its cases are
interchangeable where case is ignored (`exchanges_cases`).
-/
namespace PatternForge.ClassSet

open Escape (Context)

variable {ctx : Context} {start start' here here' close a a' e : Cursor} {one one' : Item}
  {items items' others found' : List Item} {negated : Bool} {leaf : Pattern}

/-! ### Behind the item -/

/-- A place as one of a text of its own. -/
private theorem inside_nil (a : Cursor) : (Cursor.mk 0 a.rest).inside a.offset [] = a := by
  simp [Cursor.inside]

theorem primitive_moved (read : primitive ctx a = .ok (leaf, e)) (same : a'.rest = a.rest) :
    ∃ e', e'.rest = e.rest ∧ primitive ctx a' = .ok (leaf, e') := by
  have carried (n : Nat) : Carried n [] (carry n []) (primitive ctx ⟨0, a.rest⟩)
      (primitive ctx ((Cursor.mk 0 a.rest).inside n [])) :=
    @carried_primitive n [] ctx ctx.settings.nestLimit ctx.settings.flags ctx.closed (.refl [] _) ⟨0, a.rest⟩
  have here := carried a.offset
  have there := carried a'.offset
  rw [inside_nil] at here
  rw [← same, inside_nil, same] at there
  cases isRead : primitive ctx ⟨0, a.rest⟩ with
  | error failure =>
    rw [isRead] at here
    rw [here rfl] at read
    cases read
  | ok found =>
    obtain ⟨leaf', b⟩ := found
    rw [isRead] at here there
    cases here.symm.trans read
    exact ⟨b.inside a'.offset [], rfl, there⟩

private theorem posix_moved {set : CharSet} (shown : posix? ctx a = some (set, e)) (same : a'.rest = a.rest) :
    ∃ e', e'.rest = e.rest ∧ posix? ctx a' = some (set, e') := by
  have carried (n : Nat) : posix? ctx ((Cursor.mk 0 a.rest).inside n []) =
      (posix? ctx ⟨0, a.rest⟩).map (carry n []) :=
    @posix_inside n [] ctx ctx.settings.nestLimit ctx.settings.flags ctx.closed .none ⟨0, a.rest⟩ (.inr rfl)
  have here := carried a.offset
  have there := carried a'.offset
  rw [inside_nil, shown] at here
  rw [← same, inside_nil, same] at there
  obtain ⟨⟨set', b⟩, isFound, place⟩ := Option.map_eq_some_iff.mp here.symm
  cases place
  rw [isFound] at there
  exact ⟨b.inside a'.offset [], rfl, there⟩

/-- Whether a leaf is an item, and which, depends on the leaf and on what follows. -/
theorem Turn.moved (turn : Turn ctx start a one e) (same : a'.rest = a.rest) :
    ∃ e', e'.rest = e.rest ∧ Turn ctx start' a' one e' := by
  cases turn with
  | posix next shown =>
    obtain ⟨e', rest, again⟩ := posix_moved shown same
    exact ⟨e', rest, .posix (same.trans next) again⟩
  | item next bracket operator single =>
    obtain ⟨first, after, isFirst, found⟩ := item_eq_ok.mp single
    obtain ⟨after', behind, again⟩ := primitive_moved isFirst same
    rcases found with ⟨alone, isItem, rfl⟩ | ⟨joins, second, isSecond, isRange⟩
    · exact ⟨after', behind, .item (same.trans next) bracket operator (item_eq_ok.mpr ⟨first, after', again,
        .inl ⟨behind ▸ alone, asItem_of_asItem isItem _, rfl⟩⟩)⟩
    · obtain ⟨e', rest, again'⟩ := @primitive_moved _ _ after'.skip _ _ isSecond
        (by rw [Cursor.rest_skip, Cursor.rest_skip, behind])
      exact ⟨e', rest, .item (same.trans next) bracket operator (item_eq_ok.mpr ⟨first, after', again,
        .inr ⟨behind ▸ joins, second, again', asRange_of_asRange isRange _⟩⟩)⟩

/-- **The turns behind an item**: induction on the turns. -/
theorem Turns.moved (turns : Turns ctx start a items e) (start' : Cursor) (same : a'.rest = a.rest) :
    ∃ e', e'.rest = e.rest ∧ Turns ctx start' a' items e' := by
  induction turns generalizing a' with
  | nil => exact ⟨a', same, .nil a'⟩
  | cons turn _ ih =>
    obtain ⟨b, behind, turn'⟩ := turn.moved same
    obtain ⟨e', rest, turns'⟩ := ih behind
    exact ⟨e', rest, .cons turn' turns'⟩

/-! ### Interchangeable items -/

/-- A class that is built with one item is built just the same with another one in its place. -/
def Exchanges (ctx : Context) (one one' : Item) : Prop :=
  ∀ (start after start' after' : Cursor) (negated : Bool) (before behind : List Item) (leaf : Pattern),
    (∀ item ∈ before ++ behind, item.Ordered) →
      build ctx start after negated (before ++ one :: behind) = .ok leaf →
        build ctx start' after' negated (before ++ one' :: behind) = .ok leaf

theorem Exchanges.refl (ctx : Context) (one : Item) : Exchanges ctx one one :=
  fun _ _ _ _ _ _ _ _ _ built => build_of_build built _ _

/-- Two items that widen alike are interchangeable where case is ignored. -/
private theorem exchanges_of_widens (ignoring : ctx.flags.ignoreCase = true) (ordered : one.Ordered)
    (ordered' : one'.Ordered) (fits : one.Fits ctx.settings.domain → one'.Fits ctx.settings.domain)
    (widens : one.Fits ctx.settings.domain → ∀ c, ctx.settings.domain.contains c = true →
      (Widens ctx one.Has c ↔ Widens ctx one'.Has c)) : Exchanges ctx one one' := by
  intro start after start' after' negated before behind leaf others built
  have all (item : Item) (isOrdered : item.Ordered) : ∀ other ∈ before ++ item :: behind, other.Ordered := by
    intro other member
    rcases List.mem_append.mp member with member | member
    · exact others other (List.mem_append_left _ member)
    · rcases List.mem_cons.mp member with rfl | member
      · exact isOrdered
      · exact others other (List.mem_append_right _ member)
  unfold build at built ⊢
  split at built
  · cases built
  · rename_i set adds
    have fitting := (addItems_isOk (all one ordered) rfl).mp ⟨set, adds⟩
    have here : one.Fits ctx.settings.domain := fitting one (by simp)
    obtain ⟨set', adds'⟩ := (addItems_isOk (all one' ordered') rfl).mpr fun item member => by
      rcases List.mem_append.mp member with member | member
      · exact fitting item (List.mem_append_left _ member)
      · rcases List.mem_cons.mp member with rfl | member
        · exact fits here
        · exact fitting item (List.mem_append_right _ (List.mem_cons_of_mem _ member))
    have contains := (contains_addItems (all one ordered) adds).2
    have contains' := (contains_addItems (all one' ordered') adds').2
    have same : ctx.settings.foldCase set' = ctx.settings.foldCase set := by
      refine CharSet.ext rfl rfl fun c => ?_
      rw [Bool.eq_iff_iff, Settings.contains_foldCase, Settings.contains_foldCase]
      refine and_congr_right fun known => ?_
      have here := widens here c known
      simp only [Widens, ignoring, ↓reduceIte] at here
      have through {x y : Item} (into : (∃ d ∈ ctx.settings.data.variants c, x.Has d) →
            ∃ d ∈ ctx.settings.data.variants c, y.Has d)
          (found : ∃ d ∈ ctx.settings.data.variants c, ∃ item ∈ before ++ x :: behind, item.Has d) :
          ∃ d ∈ ctx.settings.data.variants c, ∃ item ∈ before ++ y :: behind, item.Has d := by
        obtain ⟨d, variant, item, member, has⟩ := found
        rcases List.mem_append.mp member with member | member
        · exact ⟨d, variant, item, List.mem_append_left _ member, has⟩
        · rcases List.mem_cons.mp member with rfl | member
          · obtain ⟨d', variant', has'⟩ := into ⟨d, variant, has⟩
            exact ⟨d', variant', y, List.mem_append_right _ List.mem_cons_self, has'⟩
          · exact ⟨d, variant, item, List.mem_append_right _ (List.mem_cons_of_mem _ member), has⟩
      simp only [contains, contains', CharSet.contains_builder, Bool.false_eq_true, false_or]
      exact ⟨through here.mpr, through here.mp⟩
    rw [adds']
    simp only [ignoring, ↓reduceIte] at built ⊢
    rw [same]
    exact Settings.classPattern_eq_ok.mpr (Settings.classPattern_eq_ok.mp built)

/-- **A character and the class of its cases** are interchangeable where case is ignored. -/
theorem exchanges_cases (variants : Equivalence fun c d => d ∈ ctx.settings.data.variants c)
    (ignoring : ctx.flags.ignoreCase = true) (c : Char) :
    Exchanges ctx (.range c c)
      (.set (CharClass.of (ctx.settings.setOf (ctx.settings.data.variants c)) false).effective) := by
  refine exchanges_of_widens ignoring (Char.le_refl c) trivial (fun _ => ?_) fun fits d known => ?_
  · exact (Settings.domain_setOf _ _).symm
  · simp only [Widens, ignoring, ↓reduceIte, Item.Has, CharClass.contains_of, Bool.false_xor,
      Settings.domain_setOf, Bool.and_eq_true, Settings.contains_setOf]
    constructor
    · rintro ⟨e, variant, low, high⟩
      obtain rfl := Char.le_antisymm low high
      exact ⟨c, variant, fits.1, fits.1, variants.refl c⟩
    · rintro ⟨e, variant, -, -, variant'⟩
      exact ⟨c, variants.trans variant (variants.symm variant'), Char.le_refl c, Char.le_refl c⟩

/-! ### The whole class -/

/-- **One item is replaced.** Where the reader comes to another item that can take the place of one, and the text
behind it is the same, the class is built as it was. -/
theorem read_of_passes {one one' : Item} {items' found' : List Item} {rest : List Char}
    (turns : Turns ctx start here others close) (closes : close.rest = ']' :: rest)
    (built : build ctx start close.skip (isNegated start) (found'.reverse ++ items' ++ one :: others) = .ok leaf)
    (passes : Passes ctx start' found' items' a') (negated : isNegated start' = isNegated start)
    (turn : Turn ctx start' a' one' here') (place : here'.rest = here.rest) (exchanges : Exchanges ctx one one') :
    ∃ e, e.rest = close.skip.rest ∧ read ctx start' = .ok (leaf, e) := by
  obtain ⟨close', behind, turns'⟩ := turns.moved start' place
  obtain ⟨first', opens, onway⟩ := id passes
  refine ⟨close'.skip, by rw [Cursor.rest_skip, Cursor.rest_skip, behind], read_eq_ok.mpr
    ⟨found', items' ++ one' :: others, close', rest, ⟨first', opens, onway.append (.cons turn turns')⟩,
      behind.trans closes, ?_, rfl⟩⟩
  rw [negated, ← List.append_assoc]
  refine exchanges _ _ _ _ _ _ _ _ (fun item member => ?_) built
  exact (List.mem_append.mp member).elim (passes.ordered item) (turns.ordered item)

/-- The same for a turn that the class takes. -/
theorem read_replaced {t t' : List Char} {c : Char} {rest : List Char} {items found : List Item}
    (next : a.rest = c :: rest) (apart : Apart t t') (unmarked : t'.head? = some '^' → t.head? = some '^')
    (passes : Passes ctx (a.inside 0 t) found items here) (place : here.rest = t) (notClose : t.head? ≠ some ']')
    (replaces : ∀ one after, Turn ctx (a.inside 0 t) here one after → ∃ one' after',
      Turn ctx (a.inside 0 t') ⟨here.offset, t'⟩ one' after' ∧ after'.rest = after.rest ∧ Exchanges ctx one one')
    (read' : read ctx (a.inside 0 t) = .ok (leaf, e)) :
    ∃ e', e'.rest = e.rest ∧ read ctx (a.inside 0 t') = .ok (leaf, e') := by
  obtain ⟨one, after, others, close, rest', turn, turns, closes, rfl, built⟩ :=
    exists_turn read' passes (place ▸ notClose)
  obtain ⟨passes', negated⟩ := passes_alike next apart unmarked passes place
  obtain ⟨one', after', turn', behind, exchanges⟩ := replaces one after turn
  exact read_of_passes turns closes built passes' negated turn' behind exchanges

end PatternForge.ClassSet
