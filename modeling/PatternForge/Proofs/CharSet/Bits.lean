import Mathlib.Algebra.Group.Nat.Defs
import Mathlib.Data.List.Sort
import PatternForge.CharSet.Walks

/-! What the operations on words do to the places of a word. A word that is not zero ends in a one and
zeros (`low_part`), and taking one from it turns these around; so its places are the lowest one and those
of the word with that one cleared (`bitsOf_eq_cons`). -/
namespace PatternForge

theorem toBitVec_ne_zero {word : UInt64} (nonzero : word ≠ 0) : word.toBitVec ≠ 0#64 :=
  fun zero => nonzero (UInt64.toBitVec_inj.mp zero)

theorem trailingZeros_lt {word : UInt64} (nonzero : word ≠ 0) : trailingZeros word < 64 := by
  have less := BitVec.ctz_lt_iff_ne_zero.mpr (toBitVec_ne_zero nonzero)
  exact BitVec.lt_def.mp less

theorem leadingZeros_lt {word : UInt64} (nonzero : word ≠ 0) : leadingZeros word < 64 := by
  have less := BitVec.clz_lt_iff_ne_zero.mpr (toBitVec_ne_zero nonzero)
  exact BitVec.lt_def.mp less

/-- The bit behind the trailing zeros is set. -/
theorem bitOf_trailingZeros {word : UInt64} (nonzero : word ≠ 0) :
    bitOf word (trailingZeros word) = true := by
  rw [bitOf_eq_getLsbD _ (trailingZeros_lt nonzero)]
  exact BitVec.getLsbD_true_ctz_of_ne_zero (toBitVec_ne_zero nonzero)

theorem bitOf_below {word : UInt64} {j : Nat} (low : j < 64) (below : j < trailingZeros word) :
    bitOf word j = false := by
  rw [bitOf_eq_getLsbD _ low]
  exact BitVec.getLsbD_false_of_lt_ctz below

/-- The bit before the leading zeros is set. -/
theorem bitOf_leadingZeros {word : UInt64} (nonzero : word ≠ 0) :
    bitOf word (63 - leadingZeros word) = true := by
  rw [bitOf_eq_getLsbD _ (by omega)]
  exact BitVec.getLsbD_true_clz_of_ne_zero (by decide) (toBitVec_ne_zero nonzero)

theorem bitOf_above {word : UInt64} {j : Nat} (low : j < 64) (above : 63 - leadingZeros word < j) :
    bitOf word j = false := by
  have turned : 63 - j < word.toBitVec.reverse.ctz.toNat := by
    rw [← BitVec.clz_eq_reverse_ctz]
    unfold leadingZeros at above
    omega
  have mirrored : 63 - (63 - j) = j := by omega
  have zero := BitVec.getLsbD_false_of_lt_ctz turned
  rw [BitVec.getLsbD_reverse, BitVec.getMsbD_eq_getLsbD, decide_eq_true (by omega), Bool.true_and] at zero
  rw [bitOf_eq_getLsbD _ low]
  simpa only [Nat.add_one_sub_one, mirrored] using zero

/-- Below and at its lowest bit a word is a one and zeros. -/
theorem low_part {word : UInt64} (nonzero : word ≠ 0) :
    word.toNat % 2 ^ (trailingZeros word + 1) = 2 ^ trailingZeros word := by
  apply Nat.eq_of_testBit_eq
  intro j
  rw [Nat.testBit_mod_two_pow, Nat.testBit_two_pow]
  have short := trailingZeros_lt nonzero
  rcases Nat.lt_trichotomy j (trailingZeros word) with below | here | above
  · have zero := bitOf_below (show j < 64 by omega) below
    rw [bitOf_eq_getLsbD _ (by omega), ← BitVec.testBit_toNat, UInt64.toNat_toBitVec] at zero
    simp only [zero, Bool.and_false]
    exact (decide_eq_false (by omega)).symm
  · have one := bitOf_trailingZeros nonzero
    rw [bitOf_eq_getLsbD _ short, ← BitVec.testBit_toNat, UInt64.toNat_toBitVec] at one
    simp [here, one]
  · rw [decide_eq_false (by omega), decide_eq_false (by omega), Bool.false_and]

/-- Taking one from a word turns around its lowest bit and the zeros below and keeps what is above. -/
theorem bitOf_sub_one {word : UInt64} (nonzero : word ≠ 0) {j : Nat} (low : j < 64) :
    bitOf (word - 1) j =
      if j < trailingZeros word then true else j ≠ trailingZeros word && bitOf word j := by
  have positive : 1 ≤ word.toNat := Nat.pos_of_ne_zero fun zero => nonzero (UInt64.toNat_inj.mp zero)
  have lessOne : (word - 1).toNat = word.toNat - 1 := UInt64.toNat_sub_of_le _ _ positive
  have power : 1 ≤ 2 ^ trailingZeros word := Nat.one_le_two_pow
  have small : 2 ^ trailingZeros word - 1 < 2 ^ (trailingZeros word + 1) := by
    rw [Nat.pow_succ]
    omega
  have whole := Nat.div_add_mod word.toNat (2 ^ (trailingZeros word + 1))
  rw [low_part nonzero] at whole
  have split : (word - 1).toNat = 2 ^ (trailingZeros word + 1) *
      (word.toNat / 2 ^ (trailingZeros word + 1)) + (2 ^ trailingZeros word - 1) := by omega
  rw [bitOf_eq_getLsbD _ low, bitOf_eq_getLsbD _ low, ← BitVec.testBit_toNat, ← BitVec.testBit_toNat,
    UInt64.toNat_toBitVec, UInt64.toNat_toBitVec, split, Nat.testBit_two_pow_mul_add _ small,
    Nat.testBit_two_pow_sub_one]
  rcases Nat.lt_trichotomy j (trailingZeros word) with below | here | above
  · rw [if_pos (by omega), if_pos below, decide_eq_true below]
  · rw [if_pos (by omega), if_neg (by omega), decide_eq_false (by omega)]
    simp [here]
  · rw [if_neg (by omega), if_neg (by omega), Nat.testBit_div_two_pow, decide_eq_true (by omega),
      Bool.true_and, Nat.sub_add_cancel above]

theorem bitOf_clearLowest {word : UInt64} (nonzero : word ≠ 0) {j : Nat} (low : j < 64) :
    bitOf (word &&& (word - 1)) j = (j ≠ trailingZeros word && bitOf word j) := by
  rw [bitOf_and _ _ low, bitOf_sub_one nonzero low]
  split
  · rename_i below
    rw [bitOf_below low below, Bool.and_false, Bool.false_and]
  · rw [Bool.and_left_comm, Bool.and_self]

/-- The places of a word are its lowest bit and the places of the word with that bit cleared. -/
theorem bitsOf_eq_cons {word : UInt64} (nonzero : word ≠ 0) :
    bitsOf word = trailingZeros word :: bitsOf (word &&& (word - 1)) := by
  refine List.Pairwise.eq_of_mem_iff (bitsOf_pairwise word)
    (List.pairwise_cons.mpr ⟨fun j member => ?_, bitsOf_pairwise _⟩) fun j => ?_
  · obtain ⟨low, set⟩ := mem_bitsOf.mp member
    rw [bitOf_clearLowest nonzero low, Bool.and_eq_true, decide_eq_true_eq] at set
    refine Nat.lt_of_le_of_ne (Nat.le_of_not_lt fun below => ?_) (Ne.symm set.1)
    rw [bitOf_below low below] at set
    cases set.2
  · rw [List.mem_cons, mem_bitsOf, mem_bitsOf]
    constructor
    · rintro ⟨low, set⟩
      by_cases here : j = trailingZeros word
      · exact .inl here
      · refine .inr ⟨low, ?_⟩
        rw [bitOf_clearLowest nonzero low, set, Bool.and_true, decide_eq_true here]
    · rintro (rfl | ⟨low, set⟩)
      · exact ⟨trailingZeros_lt nonzero, bitOf_trailingZeros nonzero⟩
      · rw [bitOf_clearLowest nonzero low, Bool.and_eq_true] at set
        exact ⟨low, set.2⟩

/-- The highest place of a word. -/
theorem getLast_bitsOf {word : UInt64} (nonzero : word ≠ 0) :
    (bitsOf word).getLast? = some (63 - leadingZeros word) := by
  have listed : 63 - leadingZeros word ∈ bitsOf word :=
    mem_bitsOf.mpr ⟨by omega, bitOf_leadingZeros nonzero⟩
  obtain ⟨before, after, split⟩ := List.append_of_mem listed
  have sorted := bitsOf_pairwise word
  rw [split] at sorted ⊢
  cases after with
  | nil => exact List.getLast?_concat
  | cons j rest =>
    -- a place behind the highest would be a bit among the leading zeros
    have above := (List.pairwise_cons.mp (List.pairwise_append.mp sorted).2.1).1 j List.mem_cons_self
    obtain ⟨low, set⟩ := mem_bitsOf.mp (show j ∈ bitsOf word by rw [split]; simp)
    rw [bitOf_above low above] at set
    cases set

/-- The ones are counted one place at a time. -/
theorem cpopNatRec_eq (word : UInt64) {n : Nat} (short : n ≤ 64) (counted : Nat) :
    word.toBitVec.cpopNatRec n counted = (List.range n).countP (bitOf word) + counted := by
  induction n generalizing counted with
  | zero => simp
  | succ n ih =>
    rw [BitVec.cpopNatRec_succ, ih (by omega), ← bitOf_eq_getLsbD _ (by omega), List.range_succ,
      List.countP_append, List.countP_singleton, Nat.add_assoc, Nat.add_comm counted]
    cases bitOf word n <;> rfl

theorem countOnes_eq (word : UInt64) : countOnes word = (bitsOf word).length := by
  rw [countOnes, BitVec.toNat_cpop, cpopNatRec_eq word (Nat.le_refl 64), Nat.add_zero]
  unfold bitsOf
  split
  · rename_i zero
    simp [zero]
  · exact List.countP_eq_length_filter

theorem countOnes_ne_zero {word : UInt64} {n : Nat} (some : n < countOnes word) : word ≠ 0 := by
  rintro rfl
  simp [countOnes_eq, bitsOf] at some

/-- Clearing the lowest bits drops places off the front, and does not fail as long as there are as many. -/
theorem clearLowestTimes_eq {word : UInt64} {n : Nat} (enough : n < countOnes word) :
    ∃ left, clearLowestTimes n word = .ok left ∧ left ≠ 0 ∧ bitsOf left = (bitsOf word).drop n := by
  induction n generalizing word with
  | zero => exact ⟨word, rfl, countOnes_ne_zero enough, rfl⟩
  | succ n ih =>
    have nonzero := countOnes_ne_zero enough
    have places := bitsOf_eq_cons nonzero
    rw [countOnes_eq, places, List.length_cons, Nat.add_lt_add_iff_right, ← countOnes_eq] at enough
    obtain ⟨left, cleared, some, dropped⟩ := ih enough
    refine ⟨left, ?_, some, by rw [dropped, places, List.drop_succ_cons]⟩
    rw [clearLowestTimes, clearLowest, if_neg nonzero]
    exact cleared

end PatternForge
