import PatternForge.CharSet

/-! Sets of characters by their members. `contains` decides a set (`CharSet.ext`), and each operation
has one equation for `contains`. -/
namespace PatternForge

namespace Universe

/-- Every number in the range is the code of a character. -/
theorem toNat_charAt (u : Universe) {place : Nat} (inside : place < u.size) :
    (u.charAt place).toNat = u.first.toNat + place := by
  have low := u.first.valid
  have high := u.last.valid
  have ordered := u.ordered
  have unbroken := u.unbroken
  have valid : (u.first.toNat + place).isValidChar := by
    simp only [UInt32.isValidChar, Nat.isValidChar] at *
    simp only [size, Char.toNat] at *
    omega
  unfold charAt Char.ofNat
  rw [dif_pos valid]
  rfl

theorem contains_charAt (u : Universe) {place : Nat} (inside : place < u.size) :
    u.contains (u.charAt place) = true := by
  rw [contains_iff, toNat_charAt u inside]
  have ordered := u.ordered
  unfold size at inside
  omega

theorem charAt_sub {u : Universe} {c : Char} (inside : u.contains c = true) :
    u.charAt (c.toNat - u.first.toNat) = c := by
  have bounds := contains_iff.mp inside
  have code : u.first.toNat + (c.toNat - u.first.toNat) = c.toNat := by omega
  rw [charAt, code, Char.ofNat_toNat]

theorem offset_of_contains {u : Universe} {c : Char} (inside : u.contains c = true) :
    u.offset? c = some ⟨c.toNat - u.first.toNat, sub_lt_size inside⟩ := by
  simp [offset?, inside]

theorem offset_eq_none {u : Universe} {c : Char} : u.offset? c = none ↔ u.contains c = false := by
  simp [offset?]

theorem contains_first (u : Universe) : u.contains u.first = true :=
  contains_iff.mpr ⟨Nat.le_refl _, u.ordered⟩

theorem contains_last (u : Universe) : u.contains u.last = true :=
  contains_iff.mpr ⟨u.ordered, Nat.le_refl _⟩

end Universe

namespace CharSet

theorem contains_eq (s : CharSet) (c : Char) :
    s.contains c = (s.domain.contains c && bitAt s.words (c.toNat - s.domain.first.toNat)) := by
  unfold contains Universe.offset?
  by_cases inside : s.domain.contains c = true <;> simp [inside]

theorem contains_domain {s : CharSet} {c : Char} (member : s.contains c = true) :
    s.domain.contains c = true := by
  rw [contains_eq, Bool.and_eq_true] at member
  exact member.1

theorem contains_charAt (s : CharSet) {place : Nat} (inside : place < s.domain.size) :
    s.contains (s.domain.charAt place) = bitAt s.words place := by
  rw [contains_eq, Universe.contains_charAt _ inside, Universe.toNat_charAt _ inside,
    Nat.add_sub_cancel_left, Bool.true_and]

/-- A set is determined by its universe, its members and whether it is open. -/
theorem ext {s t : CharSet} (domain : s.domain = t.domain) (frozen : s.frozen = t.frozen)
    (same : ∀ c, s.contains c = t.contains c) : s = t := by
  have words : s.words = t.words := by
    apply words_ext (by rw [s.width, t.width, domain])
    intro place
    by_cases inside : place < s.domain.size
    · rw [← contains_charAt s inside, same, domain, contains_charAt t (domain ▸ inside)]
    · rw [s.bounded place (by omega), t.bounded place (by rw [← domain]; omega)]
  cases s
  cases t
  simp_all

/-! ### One equation for each operation -/

@[simp] theorem domain_ofPredicate (u : Universe) (holds : Char → Bool) :
    (ofPredicate u holds).domain = u := rfl

@[simp] theorem domain_empty (u : Universe) : (empty u).domain = u := rfl

@[simp] theorem domain_builder (u : Universe) : (builder u).domain = u := rfl

@[simp] theorem domain_freeze (s : CharSet) : s.freeze.domain = s.domain := rfl

@[simp] theorem domain_complement (s : CharSet) : s.complement.domain = s.domain := rfl

@[simp] theorem domain_withPlaces (s : CharSet) (lo hi : Fin s.domain.size) :
    (s.withPlaces lo hi).domain = s.domain := rfl

theorem contains_ofPredicate (u : Universe) (holds : Char → Bool) (c : Char) :
    (ofPredicate u holds).contains c = (u.contains c && holds c) := by
  rw [contains_eq, domain_ofPredicate]
  by_cases inside : u.contains c = true
  · have place := Universe.sub_lt_size inside
    rw [inside, Bool.true_and, Bool.true_and, ofPredicate,
      bitAt_map_wordOf u.wordCount fun place => place < u.size && holds (u.charAt place),
      Universe.charAt_sub inside, decide_eq_true place, decide_eq_true (lt_wordCount place),
      Bool.true_and, Bool.true_and]
  · simp [inside]

@[simp] theorem contains_empty (u : Universe) (c : Char) : (empty u).contains c = false := by
  rw [contains_eq, empty, bitAt_replicate_zero, Bool.and_false]

/-- Whether a set is open has no bearing on its members. -/
theorem contains_congr {s t : CharSet} (domain : s.domain = t.domain) (words : s.words = t.words)
    (c : Char) : s.contains c = t.contains c := by
  rw [contains_eq, contains_eq, domain, words]

@[simp] theorem contains_builder (u : Universe) (c : Char) : (builder u).contains c = false :=
  (@contains_congr (builder u) (empty u) rfl rfl c).trans (contains_empty u c)

@[simp] theorem contains_freeze (s : CharSet) (c : Char) : s.freeze.contains c = s.contains c :=
  @contains_congr s.freeze s rfl rfl c

@[simp] theorem contains_complement (s : CharSet) (c : Char) :
    s.complement.contains c = (s.domain.contains c && !s.contains c) := by
  rw [contains_eq, contains_eq, domain_complement]
  by_cases inside : s.domain.contains c = true
  · have place := Universe.sub_lt_size inside
    have exist := lt_wordCount place
    have low : (c.toNat - s.domain.first.toNat) % 64 < 64 := Nat.mod_lt _ (by decide)
    rw [← s.width] at exist
    rw [complement, bitAt_trimmed (by simp [s.width]), decide_eq_true place, bitAt_of_lt (by simpa using exist),
      bitAt_of_lt exist, List.getElem_map, bitOf_not _ low]
    simp [inside]
  · simp [inside]

theorem contains_withPlaces (s : CharSet) (lo hi : Fin s.domain.size) (c : Char) :
    (s.withPlaces lo hi).contains c =
      (s.contains c || (s.domain.contains c &&
        (decide (lo.val ≤ c.toNat - s.domain.first.toNat) &&
          decide (c.toNat - s.domain.first.toNat ≤ hi.val)))) := by
  rw [contains_eq, contains_eq, domain_withPlaces]
  by_cases inside : s.domain.contains c = true
  · have exist := lt_wordCount (Universe.sub_lt_size inside)
    rw [← s.width] at exist
    simp [inside, withPlaces, bitAt_filled, exist]
  · simp [inside]

theorem placeOf_of_contains {s : CharSet} {c : Char} (inside : s.domain.contains c = true) :
    s.placeOf c = .ok ⟨c.toNat - s.domain.first.toNat, Universe.sub_lt_size inside⟩ := by
  simp [placeOf, Universe.offset_of_contains inside]

theorem placeOf_of_not_contains {s : CharSet} {c : Char} (outside : s.domain.contains c = false) :
    s.placeOf c = .error (.outOfUniverse s.domain c) := by
  simp [placeOf, Universe.offset_eq_none.mpr outside]

/-- Adding a range succeeds exactly where the set is open and both ends are in the universe. -/
theorem insertRange_eq_ok {s t : CharSet} {lo hi : Char} (ordered : lo ≤ hi) :
    s.insertRange lo hi = .ok t ↔
      s.frozen = false ∧ ∃ (low : s.domain.contains lo = true) (high : s.domain.contains hi = true),
        t = s.withPlaces ⟨lo.toNat - s.domain.first.toNat, Universe.sub_lt_size low⟩
          ⟨hi.toNat - s.domain.first.toNat, Universe.sub_lt_size high⟩ := by
  simp only [insertRange, checkOpen, ordered, ↓reduceIte, bind, Except.bind, pure, Except.pure]
  cases s.frozen with
  | true => simp
  | false =>
    by_cases low : s.domain.contains lo = true
    · by_cases high : s.domain.contains hi = true
      · simp [placeOf_of_contains low, placeOf_of_contains high, low, high, eq_comm]
      · simp [placeOf_of_contains low, placeOf_of_not_contains (Bool.eq_false_iff.mpr high), high]
    · simp [placeOf_of_not_contains (Bool.eq_false_iff.mpr low), low]

/-- The ends of a range may come in either order. -/
theorem insertRange_swap (s : CharSet) (a b : Char) : s.insertRange a b = s.insertRange b a := by
  by_cases ordered : a ≤ b
  · by_cases equal : b ≤ a
    · rw [Char.le_antisymm ordered equal]
    · simp [insertRange, ordered, equal]
  · have reversed := (Char.le_total a b).resolve_left ordered
    simp [insertRange, ordered, reversed]

theorem contains_insertRange {s t : CharSet} {lo hi : Char} (ordered : lo ≤ hi)
    (inserted : s.insertRange lo hi = .ok t) (c : Char) :
    t.contains c = (s.contains c || (decide (lo ≤ c) && decide (c ≤ hi))) := by
  obtain ⟨-, low, high, rfl⟩ := (insertRange_eq_ok ordered).mp inserted
  rw [contains_withPlaces, Universe.contains]
  rw [Universe.contains_iff] at low high
  have codes : ∀ a b : Char, a ≤ b ↔ a.toNat ≤ b.toNat := fun a b => Iff.rfl
  congr 1
  rw [Bool.eq_iff_iff]
  simp only [codes, Bool.and_eq_true, decide_eq_true_eq]
  omega

section Combined
variable {op : UInt64 → UInt64 → UInt64} {f : Bool → Bool → Bool} {s t r : CharSet}
  {clean : ∀ v w j, j < 64 → bitOf v j = false → bitOf w j = false → bitOf (op v w) j = false}

theorem domain_of_combine (combined : combine op clean s t = .ok r) :
    s.domain = t.domain ∧ r.domain = s.domain ∧ r.words = List.zipWith op s.words t.words := by
  unfold combine at combined
  split at combined
  · rename_i same
    cases combined
    exact ⟨same, rfl, rfl⟩
  · cases combined

/-- A bitwise operation on words acts on members as the operation on truth values it stands for. -/
theorem contains_combine
    (bitwise : ∀ v w j, j < 64 → bitOf (op v w) j = f (bitOf v j) (bitOf w j))
    (neither : f false false = false) (combined : combine op clean s t = .ok r) (c : Char) :
    r.contains c = f (s.contains c) (t.contains c) := by
  obtain ⟨same, domain, words⟩ := domain_of_combine combined
  have width : s.words.length = t.words.length := by rw [s.width, t.width, same]
  rw [contains_eq, contains_eq s, contains_eq t, domain, words, ← same,
    bitAt_zipWith bitwise neither width]
  by_cases inside : s.domain.contains c = true <;> simp [inside, neither]

end Combined

/-- Adding a set succeeds exactly where the receiver is open and the universes are the same. -/
theorem insertAll_isOk {s t : CharSet} :
    (∃ r, s.insertAll t = .ok r) ↔ s.frozen = false ∧ s.domain = t.domain := by
  unfold insertAll checkOpen union combine
  cases s.frozen with
  | true => simp [bind, Except.bind]
  | false =>
    by_cases same : s.domain = t.domain <;> simp [bind, Except.bind, pure, Except.pure, same]

private theorem union_of_insertAll {s t r : CharSet} (inserted : s.insertAll t = .ok r) :
    ∃ u, s.union t = .ok u ∧ r = { u with frozen := false } := by
  unfold insertAll checkOpen at inserted
  simp only [bind, Except.bind, pure, Except.pure] at inserted
  cases open' : s.frozen with
  | true => simp [open'] at inserted
  | false =>
    cases united : s.union t with
    | error failure => simp [open', united] at inserted
    | ok u =>
      simp only [open', united, Bool.false_eq_true, ↓reduceIte, Except.ok.injEq] at inserted
      exact ⟨u, rfl, inserted.symm⟩

theorem domain_of_insertAll {s t r : CharSet} (inserted : s.insertAll t = .ok r) :
    r.domain = s.domain ∧ r.frozen = false := by
  obtain ⟨u, united, rfl⟩ := union_of_insertAll inserted
  exact ⟨(domain_of_combine united).2.1, rfl⟩

theorem contains_insertAll {s t r : CharSet} (inserted : s.insertAll t = .ok r) (c : Char) :
    r.contains c = (s.contains c || t.contains c) := by
  obtain ⟨u, united, rfl⟩ := union_of_insertAll inserted
  rw [← contains_combine (fun v w _ => bitOf_or v w) rfl united c]
  exact @contains_congr { u with frozen := false } u rfl rfl c

end CharSet

end PatternForge
