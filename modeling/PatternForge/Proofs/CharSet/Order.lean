import PatternForge.Proofs.CharSet.Membership

/-! The members of a set in ascending order. `placesFrom` lists the places whose bit is set; the
members, their number and the member at a position are all read off this one list, so drawing a
position below the size can give every member and nothing else. -/
namespace PatternForge.CharSet

/-- The places of the bits set in some words, the first of which is word `i`. -/
def placesFrom (i : Nat) : List UInt64 → List Nat
  | [] => []
  | word :: rest => (bitsOf word).map (64 * i + ·) ++ placesFrom (i + 1) rest

theorem mem_placesFrom {words : List UInt64} {i place : Nat} :
    place ∈ placesFrom i words ↔
      64 * i ≤ place ∧ bitOf (words.getD (place / 64 - i) 0) (place % 64) = true := by
  induction words generalizing i with
  | nil => simp [placesFrom]
  | cons word rest ih =>
    simp only [placesFrom, List.mem_append, List.mem_map, mem_bitsOf, ih]
    constructor
    · rintro (⟨j, ⟨low, set⟩, rfl⟩ | ⟨later, set⟩)
      · have quotient : (64 * i + j) / 64 - i = 0 := by omega
        have remainder : (64 * i + j) % 64 = j := by omega
        simp [quotient, remainder, set]
      · have next : place / 64 - i = place / 64 - (i + 1) + 1 := by omega
        exact ⟨by omega, by rw [next, List.getD_cons_succ]; exact set⟩
    · rintro ⟨later, set⟩
      by_cases here : place / 64 = i
      · left
        refine ⟨place % 64, ⟨Nat.mod_lt _ (by decide), ?_⟩, by omega⟩
        simpa [here] using set
      · right
        have next : place / 64 - i = place / 64 - (i + 1) + 1 := by omega
        rw [next, List.getD_cons_succ] at set
        exact ⟨by omega, set⟩

theorem placesFrom_pairwise (words : List UInt64) (i : Nat) :
    (placesFrom i words).Pairwise (· < ·) := by
  induction words generalizing i with
  | nil => exact List.Pairwise.nil
  | cons word rest ih =>
    refine List.pairwise_append.mpr ⟨?_, ih (i + 1), ?_⟩
    · exact (bitsOf_pairwise word).map _ fun _ _ less => Nat.add_lt_add_left less _
    · intro early inWord late inRest
      obtain ⟨j, member, rfl⟩ := List.mem_map.mp inWord
      have low := (mem_bitsOf.mp member).1
      have bound := (mem_placesFrom.mp inRest).1
      omega

theorem mem_places {s : CharSet} {place : Nat} :
    place ∈ placesFrom 0 s.words ↔ bitAt s.words place = true := by
  simp [mem_placesFrom, bitAt]

theorem members_eq_map (s : CharSet) :
    s.members = (placesFrom 0 s.words).map s.domain.charAt := by
  have general : ∀ (words : List UInt64) (i : Nat),
      (words.mapIdx fun k => membersOfWord s.domain (i + k)).flatten =
        (placesFrom i words).map s.domain.charAt := by
    intro words
    induction words with
    | nil => intro i; rfl
    | cons word rest ih =>
      intro i
      have shift : (fun k => membersOfWord s.domain (i + (k + 1))) =
          fun k => membersOfWord s.domain (i + 1 + k) := by
        funext k
        rw [Nat.add_right_comm, Nat.add_assoc]
      rw [List.mapIdx_cons, List.flatten_cons, shift, ih (i + 1)]
      simp [placesFrom, membersOfWord, Function.comp_def]
  simpa [members] using general s.words 0

theorem nthFrom_eq (words : List UInt64) (i n : Nat) :
    nthFrom i n words = (placesFrom i words)[n]? := by
  induction words generalizing i n with
  | nil => rfl
  | cons word rest ih =>
    simp only [nthFrom, placesFrom, bitCount_eq_length]
    split
    · rename_i early
      rw [List.getElem?_append_left (by simpa using early), List.getElem?_map]
    · rename_i late
      rw [List.getElem?_append_right (by simpa using late), ih, List.length_map]

/-- The member with `n` smaller ones is the one at position `n` of the list. -/
theorem nth_eq (s : CharSet) (n : Nat) : s.nth n = s.members[n]? := by
  rw [nth, nthFrom_eq, members_eq_map, List.getElem?_map]

theorem size_eq (s : CharSet) : s.size = s.members.length := by
  have general : ∀ (words : List UInt64) (i : Nat),
      words.foldr (fun word n => bitCount word + n) 0 = (placesFrom i words).length := by
    intro words
    induction words with
    | nil => intro i; rfl
    | cons word rest ih =>
      intro i
      rw [List.foldr_cons, ih (i + 1), placesFrom, List.length_append, List.length_map,
        bitCount_eq_length]
  rw [size, general s.words 0, members_eq_map, List.length_map]

theorem isEmpty_iff {s : CharSet} : s.isEmpty = true ↔ s.members = [] := by
  have general : ∀ (words : List UInt64) (i : Nat),
      words.all (· = 0) = true ↔ placesFrom i words = [] := by
    intro words
    induction words with
    | nil => intro i; simp [placesFrom]
    | cons word rest ih =>
      intro i
      simp only [List.all_cons, Bool.and_eq_true, decide_eq_true_eq, ih (i + 1), placesFrom,
        List.append_eq_nil_iff, List.map_eq_nil_iff, bitsOf_eq_nil]
  rw [isEmpty, general s.words 0, members_eq_map, List.map_eq_nil_iff]

theorem place_lt {s : CharSet} {place : Nat} (member : place ∈ placesFrom 0 s.words) :
    place < s.domain.size := by
  apply Nat.lt_of_not_le
  intro past
  rw [mem_places, s.bounded place past] at member
  cases member

theorem mem_members {s : CharSet} {c : Char} : c ∈ s.members ↔ s.contains c = true := by
  rw [members_eq_map, List.mem_map]
  constructor
  · rintro ⟨place, member, rfl⟩
    rw [contains_charAt s (place_lt member)]
    exact mem_places.mp member
  · intro member
    have inside := contains_domain member
    refine ⟨c.toNat - s.domain.first.toNat, ?_, Universe.charAt_sub inside⟩
    rw [contains_eq, Bool.and_eq_true] at member
    exact mem_places.mpr member.2

/-- A set of at most one character has no two different ones. -/
theorem eq_of_size_le_one {s : CharSet} {c d : Char} (small : s.size ≤ 1) (member : s.contains c = true)
    (member' : s.contains d = true) : c = d := by
  rw [size_eq] at small
  rw [← mem_members] at member member'
  obtain ⟨one, alone⟩ : ∃ one, s.members = [one] :=
    List.length_eq_one_iff.mp (Nat.le_antisymm small (List.length_pos_of_mem member))
  rw [alone, List.mem_singleton] at member member'
  rw [member, member']

/-- The members are listed in strictly ascending order. -/
theorem members_pairwise (s : CharSet) : s.members.Pairwise fun a b => a.toNat < b.toNat := by
  rw [members_eq_map]
  refine List.pairwise_map.mpr ((placesFrom_pairwise s.words 0).imp_of_mem ?_)
  intro early late inEarly inLate less
  rw [Universe.toNat_charAt _ (place_lt inEarly), Universe.toNat_charAt _ (place_lt inLate)]
  omega

theorem isEmpty_eq_false_iff {s : CharSet} : s.isEmpty = false ↔ ∃ c, s.contains c = true := by
  rw [← Bool.not_eq_true, isEmpty_iff]
  constructor
  · intro some
    obtain ⟨c, member⟩ := List.exists_mem_of_ne_nil _ some
    exact ⟨c, mem_members.mp member⟩
  · rintro ⟨c, member⟩ none
    have listed := mem_members.mpr member
    rw [none] at listed
    exact absurd listed List.not_mem_nil

theorem isEmpty_eq_size {s : CharSet} : s.isEmpty = false ↔ 0 < s.size := by
  rw [← Bool.not_eq_true, isEmpty_iff, size_eq]
  exact List.length_pos_iff.symm

/-- There are far fewer characters than words of 64 bits. -/
theorem size_le_words (s : CharSet) : s.size ≤ 1 <<< 64 := by
  have counted : ∀ words : List UInt64,
      words.foldr (fun word n => bitCount word + n) 0 ≤ 64 * words.length := by
    intro words
    induction words with
    | nil => exact Nat.le_refl 0
    | cons word rest ih =>
      have few : bitCount word ≤ 64 := by
        unfold bitCount
        split
        · exact Nat.zero_le _
        · exact Nat.le_trans List.countP_le_length (by simp)
      rw [List.foldr_cons, List.length_cons]
      omega
  have all := counted s.words
  have last := s.domain.last.valid
  rw [s.width, Universe.wordCount, Universe.size] at all
  simp only [UInt32.isValidChar, Nat.isValidChar, Char.toNat] at all last
  rw [size]
  omega

end PatternForge.CharSet
