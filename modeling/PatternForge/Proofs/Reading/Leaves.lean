import PatternForge.Proofs.CharSet.Membership
import PatternForge.Reading.Settings

/-! The sets and leaves that characters are read as, by the characters they allow. -/
namespace PatternForge

theorem CharClass.domain_effective (cls : CharClass) : cls.effective.domain = cls.set.domain := by
  unfold effective
  split <;> rfl

theorem CharClass.contains_of (set : CharSet) (negated : Bool) (c : Char) :
    (CharClass.of set negated).effective.contains c =
      (set.domain.contains c && (negated ^^ set.contains c)) := by
  unfold CharClass.of CharClass.effective
  cases negated with
  | true => simp
  | false =>
    by_cases member : set.contains c = true
    · simp [member, CharSet.contains_domain member]
    · simp [member]

theorem CharClass.contains_negate_effective (cls : CharClass) (c : Char) :
    cls.negate.effective.contains c =
      (cls.set.domain.contains c && !cls.effective.contains c) := by
  unfold negate CharClass.of effective
  cases cls.negated with
  | false => simp
  | true =>
    by_cases member : cls.set.contains c = true
    · simp [member, CharSet.contains_domain member]
    · simp [member]

namespace CharSet

@[simp] theorem domain_withKnown (set : CharSet) (c : Char) :
    (set.withKnown c).domain = set.domain := by
  unfold withKnown
  split <;> rfl

theorem contains_withKnown (set : CharSet) (c d : Char) :
    (set.withKnown d).contains c = true ↔
      set.contains c = true ∨ (set.domain.contains c = true ∧ c = d) := by
  unfold withKnown
  by_cases inside : set.domain.contains d = true
  · rw [Universe.offset_of_contains inside]
    simp only [contains_withPlaces, Bool.or_eq_true, Bool.and_eq_true, decide_eq_true_eq]
    refine or_congr_right (and_congr_right fun inside' => ⟨fun ⟨low, high⟩ => ?_, fun same => ?_⟩)
    · have bounds := Universe.contains_iff.mp inside
      have bounds' := Universe.contains_iff.mp inside'
      exact Char.toNat_inj.mp (by omega)
    · subst same
      exact ⟨Nat.le_refl _, Nat.le_refl _⟩
  · rw [Universe.offset_eq_none.mpr (by simpa using inside)]
    refine (or_iff_left ?_).symm
    rintro ⟨inside', same⟩
    exact inside (same ▸ inside')

end CharSet

namespace Settings

@[simp] theorem domain_setOf (s : Settings) (chars : List Char) :
    (s.setOf chars).domain = s.domain := by
  unfold setOf
  have general : ∀ set : CharSet, (chars.foldl CharSet.withKnown set).domain = set.domain := by
    induction chars with
    | nil => intro set; rfl
    | cons d rest ih => intro set; rw [List.foldl_cons, ih, CharSet.domain_withKnown]
  exact general _

theorem contains_setOf (s : Settings) (chars : List Char) (c : Char) :
    (s.setOf chars).contains c = true ↔ s.domain.contains c = true ∧ c ∈ chars := by
  have general : ∀ set : CharSet, (chars.foldl CharSet.withKnown set).contains c = true ↔
      set.contains c = true ∨ (set.domain.contains c = true ∧ c ∈ chars) := by
    induction chars with
    | nil => simp
    | cons d rest ih =>
      intro set
      rw [List.foldl_cons, ih, CharSet.contains_withKnown, CharSet.domain_withKnown,
        List.mem_cons, and_or_left, or_assoc]
  simpa [setOf] using general (CharSet.empty s.domain)

theorem contains_foldCase (s : Settings) (set : CharSet) (c : Char) :
    (s.foldCase set).contains c = true ↔
      s.domain.contains c = true ∧ ∃ d ∈ s.data.variants c, set.contains d = true := by
  rw [foldCase, CharSet.contains_ofPredicate, Bool.and_eq_true, List.any_eq_true]

theorem classPattern_eq_ok {start after : Cursor} {set : CharSet} {negated : Bool} {leaf : Pattern} :
    classPattern start after set negated = .ok leaf ↔
      (CharClass.of set negated).effective.isEmpty = false ∧ leaf = .oneOf (.of set negated) := by
  unfold classPattern
  by_cases none : (CharClass.of set negated).effective.isEmpty = true
  · simp only [none, ↓reduceIte, reduceCtorEq, Bool.true_eq_false, false_and]
  · simp only [none, ↓reduceIte, Bool.false_eq_true, Except.ok.injEq, true_and]
    exact eq_comm


end Settings

end PatternForge
