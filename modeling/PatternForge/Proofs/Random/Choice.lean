import PatternForge.Random.Source

/-! What choices by widening multiplication give. A choice never leaves its range, whatever the
source plays and however often a draw is refused; and every member of the range is the choice of
some scripted word, which is used up by it. -/
namespace PatternForge.Source

/-! ### A choice stays in its range -/

theorem scaled_lt {width range : Nat} {draw : Source → Nat × Source}
    (bounded : ∀ source, (draw source).1 < 1 <<< width) (positive : 0 < range) (tries : Nat)
    (source : Source) : (scaled width draw range tries source).1 < range := by
  have taken : ∀ source, ((draw source).1 * range) >>> width < range := by
    intro source
    rw [Nat.shiftRight_eq_div_pow]
    apply Nat.div_lt_of_lt_mul
    have below := bounded source
    rw [Nat.one_shiftLeft] at below
    exact Nat.mul_lt_mul_of_pos_right below positive
  induction tries generalizing source with
  | zero => exact taken source
  | succ tries ih =>
    simp only [scaled]
    split
    · exact taken source
    · exact ih _

private theorem draw64_lt (source : Source) : source.next64.1.toNat < 1 <<< 64 :=
  source.next64.1.toNat_lt

private theorem draw32_lt (source : Source) : source.next32.1.toNat < 1 <<< 32 :=
  source.next32.1.toNat_lt

theorem below_lt (source : Source) {n : Nat} (positive : 0 < n) : (source.below n).1 < n :=
  scaled_lt draw64_lt positive patience source

private theorem toNat_width {lo hi : UInt32} (ordered : lo ≤ hi) :
    (hi - lo + 1).toNat = (hi.toNat - lo.toNat + 1) % 4294967296 := by
  rw [UInt32.toNat_add, UInt32.toNat_sub_of_le _ _ ordered]
  rfl

private theorem full_width {lo hi : UInt32} (ordered : lo ≤ hi) (full : hi - lo + 1 = 0) :
    lo.toNat = 0 ∧ hi.toNat = 4294967295 := by
  have width := toNat_width ordered
  rw [full] at width
  have low := lo.toNat_lt
  have high := hi.toNat_lt
  simp only [UInt32.toNat_zero] at width
  omega

private theorem partial_width {lo hi : UInt32} (ordered : lo ≤ hi) (partly : hi - lo + 1 ≠ 0) :
    (hi - lo + 1).toNat = hi.toNat - lo.toNat + 1 := by
  have width := toNat_width ordered
  have positive : (hi - lo + 1).toNat ≠ 0 := fun zero => partly (UInt32.toNat_inj.mp zero)
  have high := hi.toNat_lt
  omega

private theorem toNat_offset {lo hi : UInt32} {offset : Nat} (ordered : lo ≤ hi)
    (small : offset ≤ hi.toNat - lo.toNat) : (lo + offset.toUInt32).toNat = lo.toNat + offset := by
  have le : lo.toNat ≤ hi.toNat := ordered
  have high := hi.toNat_lt
  have fits : offset.toUInt32.toNat = offset := by
    rw [Nat.toUInt32, UInt32.toNat_ofNat']
    omega
  rw [UInt32.toNat_add, fits]
  omega

theorem between_mem (source : Source) {lo hi : UInt32} (ordered : lo ≤ hi) :
    lo ≤ (source.between lo hi).1 ∧ (source.between lo hi).1 ≤ hi := by
  have le : lo.toNat ≤ hi.toNat := ordered
  simp only [UInt32.le_iff_toNat_le, between]
  split
  · rename_i full
    obtain ⟨low, high⟩ := full_width ordered full
    have bound := source.next32.1.toNat_lt
    omega
  · rename_i partly
    have width := partial_width ordered partly
    have small := @scaled_lt 32 _ (fun source => (source.next32.1.toNat, source.next32.2))
      draw32_lt (by omega : 0 < (hi - lo + 1).toNat) patience source
    rw [width] at small
    rw [toNat_offset ordered (by rw [width]; omega), width]
    omega

/-! ### Every member is some choice -/

/-- The least draw that is scaled to a member lands within one range above an exact multiple of the
width, so it is never refused. -/
private theorem exists_draw {width range i : Nat} (member : i < range)
    (fits : range ≤ 1 <<< width) :
    ∃ v, v < 1 <<< width ∧ accepts width range v = true ∧ (v * range) >>> width = i := by
  rw [Nat.one_shiftLeft] at fits ⊢
  have positive : 0 < range := Nat.zero_lt_of_lt member
  obtain ⟨v, low, high⟩ : ∃ v, i * 2 ^ width ≤ v * range ∧ v * range < i * 2 ^ width + range := by
    have split := Nat.div_add_mod' (i * 2 ^ width + (range - 1)) range
    have rest := Nat.mod_lt (i * 2 ^ width + (range - 1)) positive
    exact ⟨(i * 2 ^ width + (range - 1)) / range, by omega, by omega⟩
  have next : (i + 1) * 2 ^ width ≤ range * 2 ^ width := Nat.mul_le_mul_right _ member
  rw [Nat.succ_mul] at next
  refine ⟨v, ?_, ?_, ?_⟩
  · apply Nat.lt_of_mul_lt_mul_right (a := range)
    rw [Nat.mul_comm (2 ^ width)]
    omega
  · obtain ⟨rest, total⟩ := Nat.exists_eq_add_of_le low
    have remainder : (v * range) % 2 ^ width = rest := by
      rw [total, Nat.mul_add_mod_self_right, Nat.mod_eq_of_lt (by omega)]
    have zone : range ≤ range <<< (width - (range.log2 + 1)) := by
      rw [Nat.shiftLeft_eq]
      exact Nat.le_mul_of_pos_right _ (Nat.two_pow_pos _)
    rw [accepts, decide_eq_true_eq, Nat.one_shiftLeft, remainder]
    omega
  · rw [Nat.shiftRight_eq_div_pow]
    exact Nat.div_eq_of_lt_le low (by rw [Nat.succ_mul]; omega)

private theorem scaled_of_accepted {width range : Nat} {draw : Source → Nat × Source}
    {source : Source} (accepted : accepts width range (draw source).1 = true) (tries : Nat) :
    scaled width draw range tries source =
      (((draw source).1 * range) >>> width, (draw source).2) := by
  cases tries with
  | zero => rfl
  | succ tries => simp [scaled, accepted]

/-- Every number below a bound is chosen by some word. -/
theorem exists_word_below {n i : Nat} (member : i < n) (fits : n ≤ 1 <<< 64) :
    ∃ word, ∀ rest counter,
      (scripted (word :: rest) counter).below n = (i, scripted rest counter) := by
  obtain ⟨v, small, accepted, hit⟩ := exists_draw member fits
  refine ⟨v.toUInt64, fun rest counter => ?_⟩
  have code : v.toUInt64.toNat = v := by
    rw [Nat.toUInt64, UInt64.toNat_ofNat']
    exact Nat.mod_eq_of_lt small
  rw [below, scaled_of_accepted (by simpa only [next64, code] using accepted)]
  simp only [next64, code, hit]

/-- Every number between two bounds is chosen by some word. -/
theorem exists_word_between {lo hi n : UInt32} (low : lo ≤ n) (high : n ≤ hi) :
    ∃ word, ∀ rest counter,
      (scripted (word :: rest) counter).between lo hi = (n, scripted rest counter) := by
  have ordered : lo ≤ hi := UInt32.le_trans low high
  simp only [UInt32.le_iff_toNat_le] at low high
  by_cases full : hi - lo + 1 = 0
  · refine ⟨n.toUInt64, fun rest counter => ?_⟩
    simp [between, full, next32, next64]
  · have width := partial_width ordered full
    have bound := hi.toNat_lt
    have fits : (hi - lo + 1).toNat ≤ 1 <<< 32 := Nat.le_of_lt (hi - lo + 1).toNat_lt
    obtain ⟨v, small, accepted, hit⟩ :=
      exists_draw (by omega : n.toNat - lo.toNat < (hi - lo + 1).toNat) fits
    refine ⟨v.toUInt64, fun rest counter => ?_⟩
    have code : v.toUInt64.toUInt32.toNat = v := by
      rw [UInt64.toNat_toUInt32, Nat.toUInt64, UInt64.toNat_ofNat']
      omega
    rw [between, if_neg full,
      scaled_of_accepted (by simpa only [next32, next64, code] using accepted)]
    simp only [next32, next64, code, hit]
    congr 1
    apply UInt32.toNat_inj.mp
    rw [toNat_offset ordered (by omega)]
    omega

end PatternForge.Source
