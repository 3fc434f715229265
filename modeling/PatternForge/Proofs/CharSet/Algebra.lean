import Mathlib.Algebra.Order.Floor.Div
import Mathlib.Data.Char
import Mathlib.Order.Interval.Set.UnorderedInterval
import PatternForge.Proofs.CharSet.Order

/-!
Sets of characters as the sets that their operations stand for. `Builds` follows a series of operations
and says which characters it should give, in terms of union, intersection, difference and complement; no
word and no bit occurs in it. Each operation passes on that the members are those characters
(`Represents`), and the words are then known to the last bit, so equality and intersection, which look at
whole words, are those of the sets.
-/
namespace PatternForge

/-- The characters of a universe. -/
def Universe.chars (u : Universe) : Set Char := {c | u.contains c = true}

namespace CharSet

/-- A set can be built over a universe, and should then have the given members. Operations that fail
build nothing. -/
inductive Builds : Universe → CharSet → Set Char → Prop
  | empty (u : Universe) : Builds u (empty u) ∅
  | full (u : Universe) : Builds u (full u) u.chars
  | builder (u : Universe) : Builds u (builder u) ∅
  | ofChars {u : Universe} {text : List Char} {s : CharSet} (made : ofChars u text = .ok s) :
    Builds u s {c | c ∈ text}
  | ofRange {u : Universe} {a b : Char} {s : CharSet} (made : ofRange u a b = .ok s) :
    Builds u s (Set.uIcc a b)
  | freeze {u : Universe} {s : CharSet} {m : Set Char} (built : Builds u s m) : Builds u s.freeze m
  | insert {u : Universe} {s t : CharSet} {m : Set Char} {c : Char} (built : Builds u s m)
    (added : s.insert c = .ok t) : Builds u t (m ∪ {c})
  | insertRange {u : Universe} {s t : CharSet} {m : Set Char} {a b : Char} (built : Builds u s m)
    (added : s.insertRange a b = .ok t) : Builds u t (m ∪ Set.uIcc a b)
  | insertAll {u u' : Universe} {s t r : CharSet} {m m' : Set Char} (built : Builds u s m)
    (built' : Builds u' t m') (added : s.insertAll t = .ok r) : Builds u r (m ∪ m')
  | union {u u' : Universe} {s t r : CharSet} {m m' : Set Char} (built : Builds u s m)
    (built' : Builds u' t m') (united : s.union t = .ok r) : Builds u r (m ∪ m')
  | intersection {u u' : Universe} {s t r : CharSet} {m m' : Set Char} (built : Builds u s m)
    (built' : Builds u' t m') (met : s.intersection t = .ok r) : Builds u r (m ∩ m')
  | difference {u u' : Universe} {s t r : CharSet} {m m' : Set Char} (built : Builds u s m)
    (built' : Builds u' t m') (left : s.difference t = .ok r) : Builds u r (m \ m')
  | complement {u : Universe} {s : CharSet} {m : Set Char} (built : Builds u s m) :
    Builds u s.complement (u.chars \ m)

/-- A set over a universe has the given members. -/
structure Represents (u : Universe) (s : CharSet) (m : Set Char) : Prop where
  domain : s.domain = u
  contains : ∀ c, s.contains c = true ↔ c ∈ m

/-! ### One step for each operation -/

section Steps
variable {u u' : Universe} {s t r : CharSet} {m m' : Set Char}

theorem represents_empty (u : Universe) : Represents u (empty u) ∅ := ⟨rfl, by simp⟩

theorem represents_builder (u : Universe) : Represents u (builder u) ∅ := ⟨rfl, by simp⟩

theorem Represents.freeze (same : Represents u s m) : Represents u s.freeze m :=
  ⟨same.domain, fun c => by rw [contains_freeze, same.contains]⟩

theorem Represents.complement (same : Represents u s m) : Represents u s.complement (u.chars \ m) := by
  refine ⟨same.domain, fun c => ?_⟩
  rw [contains_complement, same.domain, Bool.and_eq_true, Bool.not_eq_true', ← Bool.not_eq_true,
    same.contains]
  exact Iff.rfl

theorem Represents.insertRange (same : Represents u s m) {a b : Char} (added : s.insertRange a b = .ok t) :
    Represents u t (m ∪ Set.uIcc a b) := by
  have ordered {lo hi : Char} (ordered : lo ≤ hi) (added : s.insertRange lo hi = .ok t) :
      Represents u t (m ∪ Set.Icc lo hi) := by
    refine ⟨?_, fun c => ?_⟩
    · obtain ⟨-, low, high, rfl⟩ := (insertRange_eq_ok ordered).mp added
      exact same.domain
    · rw [contains_insertRange ordered added, Bool.or_eq_true, same.contains, Bool.and_eq_true,
        decide_eq_true_eq, decide_eq_true_eq]
      exact Iff.rfl
  rcases le_total a b with upwards | downwards
  · rw [Set.uIcc_of_le upwards]
    exact ordered upwards added
  · rw [Set.uIcc_of_ge downwards]
    exact ordered downwards (by rw [insertRange_swap, added])

theorem Represents.insert (same : Represents u s m) {c : Char} (added : s.insert c = .ok t) :
    Represents u t (m ∪ {c}) := by
  rw [← Set.uIcc_self]
  exact same.insertRange added

theorem Represents.insertChars (same : Represents u s m) {text : List Char}
    (added : text.foldlM CharSet.insert s = .ok t) : Represents u t (m ∪ {c | c ∈ text}) := by
  induction text generalizing s m with
  | nil =>
    cases added
    simpa using same
  | cons c rest ih =>
    rw [List.foldlM_cons] at added
    cases first : s.insert c with
    | error failure => rw [first] at added; cases added
    | ok between =>
      rw [first] at added
      have whole := ih (same.insert first) added
      have split : m ∪ {d | d ∈ c :: rest} = m ∪ {c} ∪ {d | d ∈ rest} := by
        ext d
        simp only [Set.mem_union, Set.mem_ofPred_eq, Set.mem_singleton_iff, List.mem_cons, or_assoc]
      rwa [split]

private theorem Represents.combine {op : UInt64 → UInt64 → UInt64} {f : Bool → Bool → Bool}
    {clean : ∀ v w j, j < 64 → bitOf v j = false → bitOf w j = false → bitOf (op v w) j = false}
    {joined : Set Char} (same : Represents u s m)
    (bitwise : ∀ v w j, j < 64 → bitOf (op v w) j = f (bitOf v j) (bitOf w j))
    (neither : f false false = false) (combined : combine op clean s t = .ok r)
    (joins : ∀ c, f (s.contains c) (t.contains c) = true ↔ c ∈ joined) : Represents u r joined :=
  ⟨(domain_of_combine combined).2.1.trans same.domain,
    fun c => by rw [contains_combine bitwise neither combined, joins]⟩

theorem Represents.union (same : Represents u s m) (same' : Represents u' t m')
    (united : s.union t = .ok r) : Represents u r (m ∪ m') :=
  same.combine (fun v w _ => bitOf_or v w) rfl united fun c => by
    rw [Bool.or_eq_true, same.contains, same'.contains]
    exact Iff.rfl

theorem Represents.intersection (same : Represents u s m) (same' : Represents u' t m')
    (met : s.intersection t = .ok r) : Represents u r (m ∩ m') :=
  same.combine (fun v w _ => bitOf_and v w) rfl met fun c => by
    rw [Bool.and_eq_true, same.contains, same'.contains]
    exact Iff.rfl

theorem Represents.difference (same : Represents u s m) (same' : Represents u' t m')
    (left : s.difference t = .ok r) : Represents u r (m \ m') := by
  have bitwise (v w : UInt64) (j : Nat) (low : j < 64) :
      bitOf (v &&& ~~~w) j = (bitOf v j && !bitOf w j) := by
    rw [bitOf_and v _ low, bitOf_not w low]
  refine same.combine (f := fun x y => x && !y) bitwise rfl left fun c => ?_
  rw [Bool.and_eq_true, Bool.not_eq_true', ← Bool.not_eq_true, same.contains, same'.contains]
  exact Iff.rfl

theorem Represents.insertAll (same : Represents u s m) (same' : Represents u' t m')
    (added : s.insertAll t = .ok r) : Represents u r (m ∪ m') := by
  refine ⟨(domain_of_insertAll added).1.trans same.domain, fun c => ?_⟩
  rw [contains_insertAll added, Bool.or_eq_true, same.contains, same'.contains]
  exact Iff.rfl

end Steps

private theorem map_freeze_eq_ok {made : Except Failure CharSet} {s : CharSet}
    (frozen : freeze <$> made = .ok s) : ∃ t, made = .ok t ∧ s = t.freeze := by
  cases made with
  | error failure => cases frozen
  | ok t => cases frozen; exact ⟨t, rfl, rfl⟩

/-- Whatever is built has the members that it should have. -/
theorem represents_of_builds {u : Universe} {s : CharSet} {m : Set Char} (built : Builds u s m) :
    Represents u s m := by
  induction built with
  | empty u => exact represents_empty u
  | full u =>
    rw [← Set.sdiff_empty (s := u.chars)]
    exact (represents_empty u).complement
  | builder u => exact represents_builder u
  | ofChars made =>
    obtain ⟨t, filled, rfl⟩ := map_freeze_eq_ok made
    rw [← Set.empty_union {c | c ∈ _}]
    exact ((represents_builder _).insertChars filled).freeze
  | ofRange made =>
    obtain ⟨t, filled, rfl⟩ := map_freeze_eq_ok made
    rw [← Set.empty_union (Set.uIcc _ _)]
    exact ((represents_builder _).insertRange filled).freeze
  | freeze _ same => exact same.freeze
  | insert _ added same => exact same.insert added
  | insertRange _ added same => exact same.insertRange added
  | insertAll _ _ added same same' => exact same.insertAll same' added
  | union _ _ united same same' => exact same.union same' united
  | intersection _ _ met same same' => exact same.intersection same' met
  | difference _ _ left same same' => exact same.difference same' left
  | complement _ same => exact same.complement

/-! ### What is read off whole words -/

section Words
variable {u : Universe} {s t : CharSet} {m m' : Set Char}

/-- The bit of each place is known, also of the places past the end. -/
theorem bitAt_of_represents (same : Represents u s m) (place : Nat) :
    bitAt s.words place = true ↔ place < u.size ∧ u.charAt place ∈ m := by
  obtain ⟨rfl, contains⟩ := same
  by_cases inside : place < s.domain.size
  · rw [← contains_charAt s inside, contains]
    simp [inside]
  · rw [s.bounded place (Nat.le_of_not_lt inside)]
    simp [inside]

theorem beq_iff_words {s t : CharSet} :
    (s == t) = true ↔ s.domain = t.domain ∧ s.words = t.words := by
  change (decide (s.domain = t.domain) && s.words == t.words) = true ↔ _
  rw [Bool.and_eq_true, decide_eq_true_eq, beq_iff_eq]

/-- Sets are equal if they have the same members, whether they are frozen or not. -/
theorem beq_of_represents (same : Represents u s m) (same' : Represents u t m') :
    (s == t) = true ↔ m = m' := by
  rw [beq_iff_words]
  constructor
  · rintro ⟨domain, words⟩
    ext c
    rw [← same.contains, ← same'.contains, contains_congr domain words]
  · rintro rfl
    have domain := same.domain.trans same'.domain.symm
    refine ⟨domain, words_ext (by rw [s.width, t.width, domain]) fun place => ?_⟩
    rw [Bool.eq_iff_iff, bitAt_of_represents same, bitAt_of_represents same']

/-- Looking for a common member word by word answers as the intersection would. -/
theorem intersects_of_represents (same : Represents u s m) (same' : Represents u t m') :
    ∃ met both, s.intersects t = .ok met ∧ s.intersection t = .ok both ∧
      (met = true ↔ both.isEmpty = false) ∧ (met = true ↔ (m ∩ m').Nonempty) := by
  have domain := same.domain.trans same'.domain.symm
  obtain ⟨both, meets⟩ : ∃ both, s.intersection t = .ok both := by
    unfold intersection combine
    rw [dif_pos domain]
    exact ⟨_, rfl⟩
  have looks : s.intersects t = .ok (!both.isEmpty) := by
    unfold intersects checkUniverse
    rw [if_pos domain, isEmpty, (domain_of_combine meets).2.2, List.all_eq_not_any_not, Bool.not_not]
    simp [bind, Except.bind, pure, Except.pure]
  have members := (same.intersection same' meets).contains
  refine ⟨_, both, looks, meets, by rw [Bool.not_eq_true'], ?_⟩
  rw [Bool.not_eq_true', isEmpty_eq_false_iff]
  exact exists_congr members

end Words

/-- **What can be built is the set it stands for, down to the bits.** There are as many words as the
universe needs, and a bit is set exactly for a member, so none is set past the end; asking for a character,
comparing two sets over a universe and looking for a common member all answer as for the sets of
characters. -/
theorem exact_of_builds {u : Universe} {s t : CharSet} {m m' : Set Char} (built : Builds u s m)
    (built' : Builds u t m') :
    s.words.length = u.size ⌈/⌉ 64 ∧
      (∀ place, bitAt s.words place = true ↔ place < u.size ∧ u.charAt place ∈ m) ∧
      (∀ c, s.contains c = true ↔ c ∈ m) ∧ m ⊆ u.chars ∧
      ((s == t) = true ↔ m = m') ∧
      ∃ met both, s.intersects t = .ok met ∧ s.intersection t = .ok both ∧
        (met = true ↔ both.isEmpty = false) ∧ (met = true ↔ (m ∩ m').Nonempty) := by
  have same := represents_of_builds built
  have same' := represents_of_builds built'
  refine ⟨?_, bitAt_of_represents same, same.contains, fun c member => ?_, beq_of_represents same same',
    intersects_of_represents same same'⟩
  · rw [s.width, same.domain, Nat.ceilDiv_eq_add_pred_div]
    rfl
  · have inside := contains_domain ((same.contains c).mpr member)
    rwa [same.domain] at inside

/-- The small letters. -/
def smallLetters : Universe := { first := 'a', last := 'z' }

/-- All small letters but those from b to y, given backwards, are the letters a and z. -/
theorem exact_of_builds_firstAndLast :
    ∃ middle ends, (builder smallLetters).insertRange 'y' 'b' = .ok middle ∧
      ofChars smallLetters ['z', 'a', 'z'] = .ok ends ∧
      Builds smallLetters middle.complement (smallLetters.chars \ (∅ ∪ Set.uIcc 'y' 'b')) ∧
      Builds smallLetters ends {c | c ∈ ['z', 'a', 'z']} ∧
      ((middle.complement == ends) = true ↔
        smallLetters.chars \ (∅ ∪ Set.uIcc 'y' 'b') = {c | c ∈ ['z', 'a', 'z']}) := by
  obtain ⟨middle, added⟩ : ∃ middle, (builder smallLetters).insertRange 'y' 'b' = .ok middle := ⟨_, rfl⟩
  obtain ⟨ends, made⟩ : ∃ ends, ofChars smallLetters ['z', 'a', 'z'] = .ok ends := ⟨_, rfl⟩
  have built := ((Builds.builder smallLetters).insertRange added).complement
  have built' := Builds.ofChars made
  exact ⟨middle, ends, added, made, built, built', (exact_of_builds built built').2.2.2.2.1⟩

end CharSet

end PatternForge
