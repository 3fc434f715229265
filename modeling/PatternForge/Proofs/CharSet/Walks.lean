import Mathlib.Data.List.Induction
import PatternForge.Proofs.CharSet.Bits
import PatternForge.Proofs.CharSet.Order

/-! The walks over a set against the list of its members. A resumable walk is known by the places it has
still to come to (`Iter.remaining`): a call takes the first of them and leaves the others, and since all
of them lie in the universe no call stops with a slip. The other walks look for one place among those of
the words from a given one on, and are followed along the words. -/
namespace PatternForge

/-- No place of a universe is the code of a surrogate or lies past the last character. -/
theorem Universe.checkedCharAt_eq (u : Universe) {place : Nat} (inside : place < u.size) :
    u.checkedCharAt place = .ok (u.charAt place) := by
  have valid : (u.first.toNat + place).isValidChar := by
    rw [← u.toNat_charAt inside]
    exact (u.charAt place).valid
  unfold Universe.checkedCharAt Universe.charAt Char.ofNat
  rw [dif_pos valid, dif_pos valid]

namespace CharSet

/-! ### The walk that can be resumed -/

namespace Iter

/-- The places that a walk has still to come to. -/
def remaining (walk : Iter) : List Nat :=
  (bitsOf walk.left).map (64 * walk.word + ·) ++
    placesFrom (walk.word + 1) (walk.set.words.drop (walk.word + 1))

theorem remaining_start (s : CharSet) : (start s).remaining = placesFrom 0 s.words := by
  cases words : s.words with
  | nil => simp [remaining, start, words, placesFrom, bitsOf]
  | cons word rest => simp [remaining, start, words, placesFrom]

/-- Passing over words without a bit passes over no place, and stops behind the last word only. -/
theorem seek_spec (words : List UInt64) (i : Nat) (left : UInt64) :
    (bitsOf (seek words i left).2).map (64 * (seek words i left).1 + ·) ++
          placesFrom ((seek words i left).1 + 1) (words.drop ((seek words i left).1 + 1)) =
        (bitsOf left).map (64 * i + ·) ++ placesFrom (i + 1) (words.drop (i + 1)) ∧
      ((seek words i left).2 = 0 → words.length ≤ (seek words i left).1) := by
  fun_induction seek words i left with
  | case1 i left nonzero => exact ⟨rfl, fun zero => absurd zero nonzero⟩
  | case2 i left isZero past =>
    have ended : words.length ≤ i + 1 := List.getElem?_eq_none_iff.mp past
    have zero : left = 0 := Decidable.of_not_not isZero
    refine ⟨?_, fun _ => ended⟩
    rw [zero, List.drop_of_length_le (by omega), List.drop_of_length_le ended]
    simp [placesFrom, bitsOf]
  | case3 i left isZero word within ih =>
    have zero : left = 0 := Decidable.of_not_not isZero
    obtain ⟨below, here⟩ := List.getElem?_eq_some_iff.mp within
    refine ⟨ih.1.trans ?_, ih.2⟩
    rw [zero, List.drop_eq_getElem_cons below, here]
    simp [placesFrom, bitsOf]

/-- A call comes to the first of the remaining places and leaves the others. -/
theorem next_eq (walk : Iter) (inside : ∀ place ∈ walk.remaining, place < walk.set.domain.size) :
    ∃ later, walk.next = .ok (walk.remaining.head?.map walk.set.domain.charAt, later) ∧
      later.set = walk.set ∧ later.remaining = walk.remaining.tail := by
  obtain ⟨kept, ended⟩ := seek_spec walk.set.words walk.word walk.left
  simp only [next]
  generalize seek walk.set.words walk.word walk.left = found at kept ended ⊢
  obtain ⟨word, left⟩ := found
  change _ = walk.remaining at kept
  split
  · rename_i zero
    obtain rfl : left = 0 := zero
    have none : walk.remaining = [] := by
      rw [← kept, List.drop_of_length_le (Nat.le_succ_of_le (ended rfl))]
      simp [placesFrom, bitsOf]
    refine ⟨{ walk with word, left := 0 }, by rw [none]; rfl, rfl, ?_⟩
    exact kept.trans (by rw [none]; rfl)
  · rename_i nonzero
    have places : walk.remaining = (64 * word + trailingZeros left) ::
        ({ walk with word, left := left &&& (left - 1) } : Iter).remaining := by
      rw [← kept, bitsOf_eq_cons nonzero]
      rfl
    have first := inside (64 * word + trailingZeros left) (by rw [places]; exact List.mem_cons_self)
    refine ⟨{ walk with word, left := left &&& (left - 1) }, ?_, rfl, by rw [places]; rfl⟩
    rw [places, clearLowest, if_neg nonzero, Universe.checkedCharAt_eq _ first]
    rfl

/-- The answers of a walk are the remaining members in their order, and none after the last. -/
theorem answers_eq (n : Nat) (walk : Iter)
    (inside : ∀ place ∈ walk.remaining, place < walk.set.domain.size) :
    answers n walk =
      .ok ((List.range n).map fun k => (walk.remaining.map walk.set.domain.charAt)[k]?) := by
  induction n generalizing walk with
  | zero => rfl
  | succ n ih =>
    obtain ⟨later, called, set, remaining⟩ := next_eq walk inside
    have inside' : ∀ place ∈ later.remaining, place < later.set.domain.size := by
      rw [set, remaining]
      exact fun place member => inside place (List.mem_of_mem_tail member)
    have others := ih later inside'
    rw [set, remaining] at others
    rw [List.range_succ_eq_map, List.map_cons, List.map_map, answers, called]
    simp [bind, Except.bind, pure, Except.pure, others, List.head?_eq_getElem?, Function.comp_def]

end Iter

/-- Every call of a walk over a set gives the member at its position. -/
theorem answers_start (s : CharSet) (n : Nat) :
    Iter.answers n (.start s) = .ok ((List.range n).map fun k => s.members[k]?) := by
  have remaining := Iter.remaining_start s
  rw [Iter.answers_eq n (.start s) fun place member => place_lt (remaining ▸ member), remaining,
    members_eq_map]
  rfl

/-! ### The walks for one member -/

theorem walkedSize_eq (s : CharSet) : s.walkedSize = s.size := by
  unfold walkedSize size
  induction s.words with
  | nil => rfl
  | cons word rest ih => rw [List.foldr_cons, ih, List.foldr_cons, countOnes_eq, bitCount_eq_length]

theorem walkedNthFrom_eq (u : Universe) (words : List UInt64) (i n : Nat)
    (inside : ∀ place ∈ placesFrom i words, place < u.size) :
    walkedNthFrom u i n words = .ok ((placesFrom i words)[n]?.map u.charAt) := by
  induction words generalizing i n with
  | nil => rfl
  | cons word rest ih =>
    rw [placesFrom, List.forall_mem_append] at inside
    rw [walkedNthFrom, placesFrom]
    split
    · rename_i late
      rw [List.getElem?_append_right (by simpa [← countOnes_eq] using late), ih _ _ inside.2,
        List.length_map, countOnes_eq]
    · rename_i early
      obtain ⟨left, cleared, nonzero, dropped⟩ := clearLowestTimes_eq (Nat.lt_of_not_le early)
      rw [bitsOf_eq_cons nonzero] at dropped
      have here : (bitsOf word)[n]? = some (trailingZeros left) := by
        rw [← List.head?_drop, ← dropped]
        rfl
      have within := inside.1 (64 * i + trailingZeros left)
        (List.mem_map_of_mem (List.mem_of_getElem? here))
      rw [List.getElem?_append_left (by simpa [← countOnes_eq] using early), List.getElem?_map, here,
        cleared]
      simp [bind, Except.bind, pure, Except.pure, Universe.checkedCharAt_eq u within]

theorem walkedNth_eq (s : CharSet) (n : Nat) : s.walkedNth n = .ok (s.nth n) := by
  rw [walkedNth, walkedNthFrom_eq s.domain s.words 0 n fun place member => place_lt member, nth, nthFrom_eq]

theorem first_eq_head (s : CharSet) : s.first? = s.members.head? := by
  rw [first?, nth_eq, List.head?_eq_getElem?]

theorem walkedFirst_eq (s : CharSet) : s.walkedFirst = .ok s.first? := by
  have remaining := Iter.remaining_start s
  obtain ⟨later, called, -, -⟩ :=
    Iter.next_eq (.start s) fun place member => place_lt (remaining ▸ member)
  rw [walkedFirst, called, remaining, first_eq_head, members_eq_map, List.head?_map]
  rfl

theorem last_eq_getLast (s : CharSet) : s.last? = s.members.getLast? := by
  rw [last?, List.getLast?_eq_getElem?, size_eq]
  cases counted : s.members.length with
  | zero => simp [List.length_eq_zero_iff.mp counted]
  | succ n => exact nth_eq s n

theorem placesFrom_concat (words : List UInt64) (word : UInt64) (i : Nat) :
    placesFrom i (words ++ [word]) =
      placesFrom i words ++ (bitsOf word).map (64 * (i + words.length) + ·) := by
  induction words generalizing i with
  | nil => simp [placesFrom]
  | cons other rest ih =>
    rw [List.cons_append, placesFrom, ih, placesFrom, List.append_assoc, List.length_cons, Nat.add_assoc i,
      Nat.add_comm 1]

/-- The last word that has a bit holds the last place. -/
theorem getLast_placesFrom (words : List UInt64) :
    (placesFrom 0 words).getLast? =
      (words.zipIdx.reverse.find? fun indexed => indexed.1 ≠ 0).map
        fun indexed => 64 * indexed.2 + 63 - leadingZeros indexed.1 := by
  induction words using List.reverseRecOn with
  | nil => rfl
  | append_singleton words word ih =>
    rw [placesFrom_concat, List.zipIdx_append, List.reverse_append, List.find?_append, List.getLast?_append,
      List.getLast?_map, ih, List.zipIdx_singleton, List.reverse_singleton]
    by_cases zero : word = 0
    · simp [zero, bitsOf]
    · have short := leadingZeros_lt zero
      simp [zero, getLast_bitsOf zero]
      omega

theorem walkedLast_eq (s : CharSet) : s.walkedLast = .ok s.last? := by
  have last := getLast_placesFrom s.words
  rw [last_eq_getLast, members_eq_map, List.getLast?_map, walkedLast]
  split
  · rename_i none
    rw [last, none]
    rfl
  · rename_i word i found
    rw [found, Option.map_some] at last
    rw [last, Universe.checkedCharAt_eq _ (place_lt (List.mem_of_getLast? last))]
    rfl

/-! ### What the walks agree on -/

/-- The head of an ordered list is what nothing in the list comes before. -/
private theorem head_eq_some_iff {α : Type} {before : α → α → Prop} {l : List α} {a : α}
    (ordered : l.Pairwise before) (asymm : ∀ x y, before x y → ¬before y x) :
    l.head? = some a ↔ a ∈ l ∧ ∀ b ∈ l, ¬before b a := by
  cases l with
  | nil => simp
  | cons first rest =>
    have ahead := (List.pairwise_cons.mp ordered).1
    rw [List.head?_cons, Option.some_inj]
    constructor
    · rintro rfl
      refine ⟨List.mem_cons_self, List.forall_mem_cons.mpr ⟨fun same => asymm _ _ same same, fun b later => ?_⟩⟩
      exact asymm _ _ (ahead b later)
    · rintro ⟨here, least⟩
      rcases List.mem_cons.mp here with same | later
      · exact same.symm
      · exact absurd (ahead a later) (least first List.mem_cons_self)

theorem first_eq_some_iff {s : CharSet} {c : Char} :
    s.first? = some c ↔ s.contains c = true ∧ ∀ d, s.contains d = true → c.toNat ≤ d.toNat := by
  rw [first_eq_head, head_eq_some_iff s.members_pairwise fun _ _ less => Nat.lt_asymm less]
  simp only [mem_members, Nat.not_lt]

theorem last_eq_some_iff {s : CharSet} {c : Char} :
    s.last? = some c ↔ s.contains c = true ∧ ∀ d, s.contains d = true → d.toNat ≤ c.toNat := by
  rw [last_eq_getLast, ← List.head?_reverse,
    head_eq_some_iff (List.pairwise_reverse.mpr s.members_pairwise) fun _ _ more => Nat.lt_asymm more]
  simp only [List.mem_reverse, mem_members, Nat.not_lt]

/-- **All walks over a set tell of one sequence.** It is strictly ascending and has the members, each
once. The walk that can be resumed gives it from the first to the last and nothing afterwards, the ones in
the words count it, and the other walks give the member at a position, the smallest, and the largest, or
none where there is none. No walk takes one from zero, and none comes to a number that is no character:
what they end with is never a slip. -/
theorem walks_agree (s : CharSet) :
    (s.members.Pairwise fun a b => a.toNat < b.toNat) ∧
      (∀ c, c ∈ s.members ↔ s.contains c = true) ∧
      (∀ n, Iter.answers n (.start s) = .ok ((List.range n).map fun k => s.members[k]?)) ∧
      (s.walkedSize = s.members.length ∧ s.size = s.members.length) ∧
      (∀ n, s.walkedNth n = .ok (s.nth n) ∧ s.nth n = s.members[n]? ∧ (s.nth n = none ↔ s.size ≤ n)) ∧
      (s.walkedFirst = .ok s.first? ∧ (s.first? = none ↔ s.isEmpty = true) ∧
        ∀ c, s.first? = some c ↔ s.contains c = true ∧ ∀ d, s.contains d = true → c.toNat ≤ d.toNat) ∧
      (s.walkedLast = .ok s.last? ∧ (s.last? = none ↔ s.isEmpty = true) ∧
        ∀ c, s.last? = some c ↔ s.contains c = true ∧ ∀ d, s.contains d = true → d.toNat ≤ c.toNat) := by
  refine ⟨s.members_pairwise, fun c => mem_members, s.answers_start, ⟨?_, s.size_eq⟩, fun n => ?_,
    ⟨s.walkedFirst_eq, ?_, fun c => first_eq_some_iff⟩, ⟨s.walkedLast_eq, ?_, fun c => last_eq_some_iff⟩⟩
  · rw [walkedSize_eq, size_eq]
  · refine ⟨s.walkedNth_eq n, s.nth_eq n, ?_⟩
    rw [nth_eq, size_eq, List.getElem?_eq_none_iff]
  · rw [first_eq_head, List.head?_eq_none_iff, isEmpty_iff]
  · rw [last_eq_getLast, List.getLast?_eq_none_iff, isEmpty_iff]

end CharSet

end PatternForge
