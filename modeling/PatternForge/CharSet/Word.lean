import PatternForge.Universe

/-!
Words of 64 bits as sets of places, and lists of words as longer ones. `bitOf` decides a word
(`word_ext`), the operations on words act on each bit alone, and `bitsOf` lists the places that are
set in ascending order. `bitAt` reads a list of words, `trimmed` clears what lies past the end of a
universe.
-/
namespace PatternForge

/-- Whether bit `j` of a word is set. -/
def bitOf (word : UInt64) (j : Nat) : Bool := (word >>> j.toUInt64) &&& 1 == 1

/-- The word whose bit `j` is set exactly when `wanted j`. -/
def wordOf (wanted : Nat → Bool) : UInt64 :=
  (List.range 64).foldl
    (fun word j => if wanted j then word ||| ((1 : UInt64) <<< j.toUInt64) else word) 0

/-- The places of the bits that are set, ascending. -/
def bitsOf (word : UInt64) : List Nat :=
  if word = 0 then [] else (List.range 64).filter (bitOf word)

/-- How many bits are set. -/
def bitCount (word : UInt64) : Nat :=
  if word = 0 then 0 else (List.range 64).countP (bitOf word)

/-- The number of words that hold one bit for each character. -/
def Universe.wordCount (u : Universe) : Nat := (u.size + 63) / 64

/-- Whether the bit of a place is set: bit `place % 64` of word `place / 64`. -/
def bitAt (words : List UInt64) (place : Nat) : Bool :=
  bitOf (words.getD (place / 64) 0) (place % 64)

/-- Clears the bits past the end of the universe. They are in the last word, if any. -/
def trimmed (u : Universe) (words : List UInt64) : List UInt64 :=
  let used := u.size % 64
  if used = 0 then words
  else words.modify (words.length - 1) (· &&& ((1 : UInt64) <<< used.toUInt64 - 1))

/-- Sets the bits from place `lo` to place `hi`. -/
def filled (lo hi : Nat) (words : List UInt64) : List UInt64 :=
  words.mapIdx fun i word =>
    if hi < 64 * i ∨ 64 * i + 63 < lo then word
    else word ||| wordOf fun j => lo ≤ 64 * i + j && 64 * i + j ≤ hi

theorem bitOf_eq_getLsbD (word : UInt64) {j : Nat} (low : j < 64) :
    bitOf word j = word.toBitVec.getLsbD j := by
  have small : j % 64 = j := Nat.mod_eq_of_lt low
  unfold bitOf
  rw [Bool.eq_iff_iff, beq_iff_eq, ← UInt64.toNat_inj]
  simp [small, UInt64.toNat_and, UInt64.toNat_shiftRight, Nat.testBit, Nat.and_comm,
    ← BitVec.testBit_toNat]

/-- A word is determined by its bits. -/
theorem word_ext {v w : UInt64} (same : ∀ j, j < 64 → bitOf v j = bitOf w j) : v = w := by
  apply UInt64.toBitVec_inj.mp
  apply BitVec.eq_of_getLsbD_eq
  intro j low
  rw [← bitOf_eq_getLsbD v low, ← bitOf_eq_getLsbD w low, same j low]

theorem bitOf_or (v w : UInt64) {j : Nat} (low : j < 64) :
    bitOf (v ||| w) j = (bitOf v j || bitOf w j) := by
  simp [bitOf_eq_getLsbD _ low]

theorem bitOf_and (v w : UInt64) {j : Nat} (low : j < 64) :
    bitOf (v &&& w) j = (bitOf v j && bitOf w j) := by
  simp [bitOf_eq_getLsbD _ low]

theorem bitOf_not (w : UInt64) {j : Nat} (low : j < 64) : bitOf (~~~w) j = !bitOf w j := by
  simp [bitOf_eq_getLsbD _ low, low]

@[simp] theorem bitOf_zero (j : Nat) : bitOf 0 j = false := by
  simp [bitOf]

theorem bitOf_single {i j : Nat} (low : i < 64) (low' : j < 64) :
    bitOf ((1 : UInt64) <<< i.toUInt64) j = decide (i = j) := by
  have small : i % 64 = i := Nat.mod_eq_of_lt low
  rw [Bool.eq_iff_iff]
  simp [bitOf_eq_getLsbD _ low', small, low']
  omega

/-- One less than a power of two has the bits below it. -/
theorem bitOf_lowMask {used j : Nat} (few : used < 64) (low : j < 64) :
    bitOf ((1 : UInt64) <<< used.toUInt64 - 1) j = decide (j < used) := by
  have value : ((1 : UInt64) <<< used.toUInt64 - 1).toNat = 2 ^ used - 1 := by
    have small : used % 64 = used := Nat.mod_eq_of_lt few
    have below : 2 ^ used < 2 ^ 64 := Nat.pow_lt_pow_right (by decide) few
    have positive : 0 < 2 ^ used := Nat.two_pow_pos used
    simp [UInt64.toNat_sub, UInt64.toNat_shiftLeft, small, Nat.shiftLeft_eq]
    omega
  rw [bitOf_eq_getLsbD _ low, ← BitVec.testBit_toNat, UInt64.toNat_toBitVec, value,
    Nat.testBit_two_pow_sub_one]

private theorem bitOf_foldl (wanted : Nat → Bool) (word : UInt64) {j : Nat} (low : j < 64) (n : Nat)
    (bound : n ≤ 64) :
    bitOf ((List.range n).foldl
        (fun word i => if wanted i then word ||| ((1 : UInt64) <<< i.toUInt64) else word) word) j =
      (bitOf word j || (decide (j < n) && wanted j)) := by
  induction n with
  | zero => simp
  | succ n ih =>
    have earlier := ih (by omega)
    rw [List.range_succ, List.foldl_append, List.foldl_cons, List.foldl_nil]
    split
    · rw [bitOf_or _ _ low, earlier, bitOf_single (by omega) low]
      grind
    · rw [earlier]
      grind

theorem bitOf_wordOf (wanted : Nat → Bool) {j : Nat} (low : j < 64) :
    bitOf (wordOf wanted) j = wanted j := by
  rw [wordOf, bitOf_foldl wanted 0 low 64 (Nat.le_refl _), bitOf_zero]
  simp [low]

theorem mem_bitsOf {word : UInt64} {j : Nat} : j ∈ bitsOf word ↔ j < 64 ∧ bitOf word j = true := by
  unfold bitsOf
  split
  · rename_i isZero
    simp [isZero]
  · simp

theorem bitsOf_pairwise (word : UInt64) : (bitsOf word).Pairwise (· < ·) := by
  unfold bitsOf
  split
  · exact List.Pairwise.nil
  · exact List.pairwise_lt_range.filter _

theorem bitCount_eq_length (word : UInt64) : bitCount word = (bitsOf word).length := by
  unfold bitCount bitsOf
  split
  · rfl
  · exact List.countP_eq_length_filter

theorem bitsOf_eq_nil {word : UInt64} : bitsOf word = [] ↔ word = 0 := by
  constructor
  · intro none
    apply word_ext
    intro j low
    rw [bitOf_zero, Bool.eq_false_iff]
    intro set
    have member := mem_bitsOf.mpr ⟨low, set⟩
    rw [none] at member
    exact absurd member List.not_mem_nil
  · intro isZero
    simp [bitsOf, isZero]

theorem words_ext {v w : List UInt64} (width : v.length = w.length)
    (same : ∀ place, bitAt v place = bitAt w place) : v = w := by
  apply List.ext_getElem width
  intro i below below'
  apply word_ext
  intro j low
  have place := same (64 * i + j)
  have quotient : (64 * i + j) / 64 = i := by omega
  have remainder : (64 * i + j) % 64 = j := by omega
  simpa [bitAt, quotient, remainder, below, below'] using place

/-- Past the last word no bit is set. -/
theorem bitAt_of_le {words : List UInt64} {place : Nat} (past : words.length ≤ place / 64) :
    bitAt words place = false := by
  simp [bitAt, List.getD_eq_getElem?_getD, past]

theorem bitAt_of_lt {words : List UInt64} {place : Nat} (exist : place / 64 < words.length) :
    bitAt words place = bitOf words[place / 64] (place % 64) := by
  simp [bitAt, List.getD_eq_getElem?_getD, exist]

@[simp] theorem length_trimmed (u : Universe) (words : List UInt64) :
    (trimmed u words).length = words.length := by
  rw [trimmed]
  split
  · rfl
  · exact List.length_modify ..

/-- Trimming keeps in every word the bits of the universe. -/
theorem trimmed_eq_mapIdx {u : Universe} {words : List UInt64} (width : words.length = u.wordCount) :
    trimmed u words = words.mapIdx fun i word => word &&& wordOf fun j => 64 * i + j < u.size := by
  unfold Universe.wordCount at width
  refine List.ext_getElem (by simp) fun i below below' => ?_
  rw [List.getElem_mapIdx]
  refine word_ext fun j low => ?_
  rw [bitOf_and _ _ low, bitOf_wordOf _ low]
  simp only [trimmed]
  split
  · -- All words are full.
    have inside : 64 * i + j < u.size := by rw [length_trimmed] at below; omega
    rw [decide_eq_true inside, Bool.and_true]
  · rw [List.getElem_modify]
    rw [length_trimmed] at below
    split
    · have place : j < u.size % 64 ↔ 64 * i + j < u.size := by omega
      rw [bitOf_and _ _ low, bitOf_lowMask (Nat.mod_lt _ (by decide)) low, decide_eq_decide.mpr place]
    · have inside : 64 * i + j < u.size := by omega
      rw [decide_eq_true inside, Bool.and_true]

theorem bitAt_trimmed {u : Universe} {words : List UInt64} (width : words.length = u.wordCount)
    (place : Nat) : bitAt (trimmed u words) place = (decide (place < u.size) && bitAt words place) := by
  rw [trimmed_eq_mapIdx width]
  by_cases exist : place / 64 < words.length
  · have low : place % 64 < 64 := Nat.mod_lt _ (by decide)
    have whole : 64 * (place / 64) + place % 64 = place := Nat.div_add_mod _ _
    rw [bitAt_of_lt exist, bitAt_of_lt (by simpa using exist), List.getElem_mapIdx, bitOf_and _ _ low,
      bitOf_wordOf _ low, whole, Bool.and_comm]
  · have past : words.length ≤ place / 64 := Nat.le_of_not_lt exist
    rw [bitAt_of_le past, bitAt_of_le (by simpa using past), Bool.and_false]

@[simp] theorem length_filled (lo hi : Nat) (words : List UInt64) :
    (filled lo hi words).length = words.length := by
  simp [filled]

theorem bitAt_filled (lo hi : Nat) (words : List UInt64) (place : Nat) :
    bitAt (filled lo hi words) place =
      (bitAt words place || (decide (place / 64 < words.length) &&
        (decide (lo ≤ place) && decide (place ≤ hi)))) := by
  by_cases exist : place / 64 < words.length
  · have low : place % 64 < 64 := Nat.mod_lt _ (by decide)
    have whole : 64 * (place / 64) + place % 64 = place := Nat.div_add_mod _ _
    rw [bitAt_of_lt exist, bitAt_of_lt (by simpa using exist), decide_eq_true exist, Bool.true_and]
    simp only [filled, List.getElem_mapIdx]
    split
    · have apart : ¬(lo ≤ place ∧ place ≤ hi) := by omega
      simp only [← Bool.decide_and, apart, decide_false, Bool.or_false]
    · rw [bitOf_or _ _ low, bitOf_wordOf _ low, whole]
  · have past : words.length ≤ place / 64 := Nat.le_of_not_lt exist
    rw [bitAt_of_le past, bitAt_of_le (by simpa using past), decide_eq_false exist, Bool.false_and,
      Bool.or_false]

theorem bitAt_replicate_zero (n place : Nat) : bitAt (List.replicate n 0) place = false := by
  by_cases exist : place / 64 < n <;> simp [bitAt, List.getD_eq_getElem?_getD, exist]

theorem bitAt_map_wordOf (n : Nat) (wanted : Nat → Bool) (place : Nat) :
    bitAt ((List.range n).map fun i => wordOf fun j => wanted (64 * i + j)) place =
      (decide (place / 64 < n) && wanted place) := by
  by_cases exist : place / 64 < n
  · have low : place % 64 < 64 := Nat.mod_lt _ (by decide)
    have whole : 64 * (place / 64) + place % 64 = place := Nat.div_add_mod _ _
    simp [bitAt_of_lt, exist, bitOf_wordOf _ low, whole]
  · rw [bitAt_of_le (by simpa using exist), decide_eq_false exist, Bool.false_and]

/-- An operation that acts on bits as `f` acts on places as `f`. -/
theorem bitAt_zipWith {op : UInt64 → UInt64 → UInt64} {f : Bool → Bool → Bool}
    (bitwise : ∀ v w j, j < 64 → bitOf (op v w) j = f (bitOf v j) (bitOf w j))
    (neither : f false false = false) {v w : List UInt64} (width : v.length = w.length)
    (place : Nat) : bitAt (List.zipWith op v w) place = f (bitAt v place) (bitAt w place) := by
  have both : (List.zipWith op v w).length = v.length := by simp [← width]
  by_cases exist : place / 64 < v.length
  · rw [bitAt_of_lt exist, bitAt_of_lt (show place / 64 < w.length by omega), bitAt_of_lt (both ▸ exist),
      List.getElem_zipWith, bitwise _ _ _ (Nat.mod_lt _ (by decide))]
  · rw [bitAt_of_le (show v.length ≤ place / 64 by omega),
      bitAt_of_le (show w.length ≤ place / 64 by omega), bitAt_of_le (by omega), neither]

theorem bitAt_zipWith_eq_false {op : UInt64 → UInt64 → UInt64}
    (clean : ∀ v w j, j < 64 → bitOf v j = false → bitOf w j = false → bitOf (op v w) j = false)
    {v w : List UInt64} {place : Nat} (left : bitAt v place = false) (right : bitAt w place = false) :
    bitAt (List.zipWith op v w) place = false := by
  by_cases exist : place / 64 < (List.zipWith op v w).length
  · rw [List.length_zipWith] at exist
    rw [bitAt_of_lt (by omega)] at left right
    rw [bitAt_of_lt (by simpa using exist), List.getElem_zipWith]
    exact clean _ _ _ (Nat.mod_lt _ (by decide)) left right
  · exact bitAt_of_le (Nat.le_of_not_lt exist)

theorem lt_wordCount {u : Universe} {place : Nat} (inside : place < u.size) :
    place / 64 < u.wordCount := by
  unfold Universe.wordCount
  omega

end PatternForge
