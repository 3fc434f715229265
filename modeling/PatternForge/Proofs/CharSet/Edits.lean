import Mathlib.Data.Char
import Mathlib.Order.Interval.Set.UnorderedInterval
import PatternForge.CharSet.Edit
import PatternForge.Proofs.CharSet.Membership

/-!
What edits of a set come to. Every check of an edit stands before the first word that is written, so an edit
leaves behind what the operation makes of the set, and where the operation fails nothing was written
(`Edit.run_store`). `Refuses` says which edits fail and with what cause, without a word about the order of the
checks.
-/
namespace PatternForge.CharSet

/-! ### What each part of an edit does to a store -/

namespace Change

theorem run_bind {α β : Type} (first : Change α) (next : α → Change β) (own : Store) :
    (first >>= next).run.run own =
      match first.run.run own with
      | some (.ok a, after) => (next a).run.run after
      | some (.error failure, after) => some (.error failure, after)
      | none => none := by
  change Option.bind (first.run.run own) _ = _
  cases first.run.run own with
  | none => rfl
  | some ended => rcases ended with ⟨_ | _, _⟩ <;> rfl

theorem run_get (own : Store) : (get : Change Store).run.run own = some (.ok own, own) := rfl

section Checks
variable (s t : CharSet)

theorem run_checkOpen : checkOpen.run.run s.store = some (s.checkOpen, s.store) := by
  rw [checkOpen, run_bind, run_get, CharSet.checkOpen]
  cases closed : s.frozen <;> simp only [store, closed] <;> rfl

theorem run_checkUniverse : (checkUniverse t.store).run.run s.store = some (s.checkUniverse t, s.store) := by
  rw [checkUniverse, run_bind, run_get, CharSet.checkUniverse]
  by_cases same : s.domain = t.domain <;> simp only [store, same, ne_eq, not_true_eq_false, not_false_eq_true,
    ↓reduceIte] <;> rfl

theorem run_placeOf (c : Char) :
    (placeOf c).run.run s.store = some ((s.placeOf c).map Fin.val, s.store) := by
  rw [placeOf, run_bind, run_get, CharSet.placeOf]
  dsimp only [store]
  cases s.domain.offset? c <;> rfl

end Checks

theorem run_setBits (i : Nat) (bits : UInt64) (own : Store) :
    (setBits i bits).run.run own =
      own.words[i]?.map fun word => (.ok (), { own with words := own.words.set i (word ||| bits) }) := by
  rw [setBits, run_bind, run_get]
  dsimp only
  rw [run_bind]
  cases own.words[i]? <;> rfl

private theorem bitAt_set {words : List UInt64} {i : Nat} {word : UInt64} (bits : UInt64)
    (there : words[i]? = some word) (place : Nat) :
    bitAt (words.set i (word ||| bits)) place =
      (bitAt words place || (decide (place / 64 = i) && bitOf bits (place % 64))) := by
  have low : place % 64 < 64 := Nat.mod_lt _ (by decide)
  by_cases here : place / 64 = i
  · subst here
    obtain ⟨inside, rfl⟩ := List.getElem?_eq_some_iff.mp there
    rw [bitAt_of_lt inside, bitAt_of_lt (by simpa using inside), List.getElem_set_self, bitOf_or _ _ low]
    simp
  · have elsewhere : (words.set i (word ||| bits))[place / 64]? = words[place / 64]? :=
      List.getElem?_set_ne (Ne.symm here)
    simp [bitAt, List.getD_eq_getElem?_getD, elsewhere, here]

private theorem bitAt_cons (word : UInt64) (rest : List UInt64) (place : Nat) :
    bitAt (word :: rest) place = if place < 64 then bitOf word place else bitAt rest (place - 64) := by
  unfold bitAt
  split
  · rename_i first
    rw [Nat.div_eq_of_lt first, Nat.mod_eq_of_lt first, List.getD_cons_zero]
  · have later : place / 64 = (place - 64) / 64 + 1 := by omega
    have same : place % 64 = (place - 64) % 64 := by omega
    rw [later, same, List.getD_cons_succ]

/-- Places that have a word are set, and no others. -/
theorem run_setPlaces (own : Store) (place n : Nat) (room : place + n ≤ 64 * own.words.length) :
    ∃ words, (setPlaces place n).run.run own = some (.ok (), { own with words }) ∧
      words.length = own.words.length ∧
      ∀ p, bitAt words p = (bitAt own.words p || (decide (place ≤ p) && decide (p < place + n))) := by
  induction n generalizing place own with
  | zero =>
    refine ⟨own.words, rfl, rfl, fun p => ?_⟩
    have none : ¬(place ≤ p ∧ p < place + 0) := by omega
    rw [← Bool.decide_and, decide_eq_false none, Bool.or_false]
  | succ n ih =>
    have inside : place / 64 < own.words.length := by omega
    have there := List.getElem?_eq_getElem inside
    let written := own.words.set (place / 64) (own.words[place / 64] ||| 1 <<< (place % 64).toUInt64)
    have room' : place + 1 + n ≤ 64 * written.length := by
      rw [List.length_set]
      omega
    obtain ⟨words, ran, width, bits⟩ := ih { own with words := written } (place + 1) room'
    refine ⟨words, ?_, width.trans List.length_set, fun p => ?_⟩
    · rw [setPlaces, run_bind, run_setBits, there]
      exact ran
    · have low : place % 64 < 64 := Nat.mod_lt _ (by decide)
      have low' : p % 64 < 64 := Nat.mod_lt _ (by decide)
      have single : (decide (p / 64 = place / 64) && decide (place % 64 = p % 64)) = decide (p = place) := by
        rw [← Bool.decide_and]
        exact decide_eq_decide.mpr (by omega)
      rw [bits, bitAt_set _ there, bitOf_single low low', single, Bool.or_assoc]
      congr 1
      rw [← Bool.decide_and, ← Bool.decide_and, ← Bool.decide_or]
      exact decide_eq_decide.mpr (by omega)

/-- Words are joined to those from word `i` on, as far as there are any. -/
theorem run_setWords (own : Store) (i : Nat) (more : List UInt64) :
    ∃ words, (setWords i more).run.run own = some (.ok (), { own with words }) ∧
      words.length = own.words.length ∧
      ∀ p, bitAt words p = (bitAt own.words p ||
        (decide (64 * i ≤ p) && decide (p < 64 * own.words.length) && bitAt more (p - 64 * i))) := by
  induction more generalizing i own with
  | nil =>
    refine ⟨own.words, rfl, rfl, fun p => ?_⟩
    simp [bitAt]
  | cons bits rest ih =>
    rw [setWords]
    by_cases inside : i < own.words.length
    · have there := List.getElem?_eq_getElem inside
      let written := own.words.set i (own.words[i] ||| bits)
      obtain ⟨words, ran, width, joined⟩ := ih { own with words := written } (i + 1)
      refine ⟨words, ?_, width.trans List.length_set, fun p => ?_⟩
      · rw [run_bind, run_get]
        dsimp only
        rw [if_pos inside, run_bind, run_setBits, there]
        exact ran
      · rw [joined, bitAt_set _ there, Bool.or_assoc, List.length_set, bitAt_cons]
        congr 1
        -- The place is in a word that was passed before, in this one, or in one further on.
        rcases Nat.lt_trichotomy (p / 64) i with earlier | rfl | later
        · have before : ¬64 * i ≤ p ∧ ¬64 * (i + 1) ≤ p ∧ p / 64 ≠ i := by omega
          simp [before]
        · have here : 64 * (p / 64) ≤ p ∧ ¬64 * (p / 64 + 1) ≤ p ∧ p < 64 * own.words.length ∧
              p - 64 * (p / 64) = p % 64 ∧ p % 64 < 64 := by omega
          simp [here]
        · have past : 64 * i ≤ p ∧ 64 * (i + 1) ≤ p ∧ p / 64 ≠ i ∧ ¬p - 64 * i < 64 ∧
              p - 64 * i - 64 = p - 64 * (i + 1) := by omega
          simp [past]
    · refine ⟨own.words, ?_, rfl, fun p => ?_⟩
      · rw [run_bind, run_get]
        dsimp only
        rw [if_neg inside]
        rfl
      · have past : ¬(64 * i ≤ p ∧ p < 64 * own.words.length) := by omega
        rw [← Bool.decide_and, decide_eq_false past, Bool.false_and, Bool.or_false]

/-- Setting the bits of a range one after another fills the words between them. -/
theorem run_setPlaces_store (s : CharSet) (lo hi : Fin s.domain.size) :
    (setPlaces lo (hi + 1 - lo)).run.run s.store = some (.ok (), (s.withPlaces lo hi).store) := by
  have first := lo.isLt
  have last := hi.isLt
  have width : s.store.words.length = (s.domain.size + 63) / 64 := s.width
  obtain ⟨words, ran, width', bits⟩ := run_setPlaces s.store lo.val (hi + 1 - lo) (by omega)
  have same : words = filled lo hi s.words := by
    refine words_ext (by rw [width', length_filled]; rfl) fun p => ?_
    have inside : lo.val ≤ p ∧ p < lo.val + (hi + 1 - lo) ↔
        p / 64 < s.store.words.length ∧ lo.val ≤ p ∧ p ≤ hi.val := by omega
    rw [bits, bitAt_filled]
    congr 1
    simp only [← Bool.decide_and]
    exact decide_eq_decide.mpr inside
  rw [ran, same]
  rfl

/-- Joining the words of a set over the same universe one after another gives the words of the union. -/
theorem run_setWords_store {s t r : CharSet} (united : s.union t = .ok r) :
    (setWords 0 t.words).run.run s.store = some (.ok (), { s.store with words := r.words }) := by
  obtain ⟨domain, domain', zipped⟩ := domain_of_combine united
  have width : s.words.length = t.words.length := by rw [s.width, t.width, domain]
  obtain ⟨words, ran, width', bits⟩ := run_setWords s.store 0 t.words
  have same : words = r.words := by
    refine words_ext (by rw [width', r.width, domain', ← s.width]; rfl) fun p => ?_
    rw [bits, zipped, bitAt_zipWith (fun v w _ => bitOf_or v w) rfl width, Nat.mul_zero, Nat.sub_zero]
    congr 1
    by_cases inside : p < 64 * s.store.words.length
    · simp [inside]
    · have past : t.words.length ≤ p / 64 := by
        rw [← width]
        have same : s.store.words.length = s.words.length := rfl
        omega
      rw [bitAt_of_le past, Bool.and_false]
  rw [ran, same]

end Change

/-! ### What an edit comes to -/

/-- A failure that an edit of a set has to end with. A frozen set refuses every edit; an open one refuses a
character outside its universe, of two the smaller if that is outside, and a set over another universe. -/
inductive Refuses (s : CharSet) : Edit → Failure → Prop where
  | frozen {edit : Edit} (closed : s.frozen = true) : Refuses s edit (.illegalState .setFrozen)
  | add {c : Char} (opened : s.frozen = false) (outside : s.domain.contains c = false) :
    Refuses s (.add c) (.outOfUniverse s.domain c)
  | smaller {a b : Char} (opened : s.frozen = false) (outside : s.domain.contains (min a b) = false) :
    Refuses s (.addRange a b) (.outOfUniverse s.domain (min a b))
  | larger {a b : Char} (opened : s.frozen = false) (inside : s.domain.contains (min a b) = true)
    (outside : s.domain.contains (max a b) = false) :
    Refuses s (.addRange a b) (.outOfUniverse s.domain (max a b))
  | addSet {t : CharSet} (opened : s.frozen = false) (apart : s.domain ≠ t.domain) :
    Refuses s (.addSet t) (.differentUniverses s.domain t.domain)

namespace Edit

/-- The characters that an edit adds. -/
def added : Edit → Set Char
  | add c => {c}
  | addRange a b => Set.uIcc a b
  | addSet t => {c | t.contains c = true}

/-- What the operation of an edit makes of a set. -/
def applied : Edit → CharSet → Except Failure CharSet
  | add c, s => s.insert c
  | addRange a b, s => s.insertRange a b
  | addSet t, s => s.insertAll t

/-- The end of an operation, and the store behind it. -/
def ended (s : CharSet) : Except Failure CharSet → Except Failure Unit × Store
  | .ok t => (.ok (), t.store)
  | .error failure => (.error failure, s.store)

theorem run_addingRange (s : CharSet) (a b : Char) :
    (addingRange a b).run.run s.store = some (ended s (s.insertRange a b)) := by
  have ordered : (if a ≤ b then (a, b) else (b, a)) =
      (if a ≤ b then a else b, if a ≤ b then b else a) := by
    split <;> rfl
  rw [addingRange, ordered, insertRange]
  generalize (if a ≤ b then a else b) = lo
  generalize (if a ≤ b then b else a) = hi
  rw [Change.run_bind, Change.run_checkOpen]
  cases s.checkOpen with
  | error failure => rfl
  | ok =>
    dsimp only
    rw [Change.run_bind, Change.run_placeOf]
    cases s.placeOf lo with
    | error failure => rfl
    | ok first =>
      dsimp only [Except.map]
      rw [Change.run_bind, Change.run_placeOf]
      cases s.placeOf hi with
      | error failure => rfl
      | ok last => exact Change.run_setPlaces_store s first last

theorem run_addingSet (s t : CharSet) : (addSet t).run s.store = some (ended s (s.insertAll t)) := by
  rw [run, change, Change.run_bind, Change.run_checkOpen, insertAll]
  cases closed : s.frozen with
  | true =>
    rw [show s.checkOpen = .error (.illegalState .setFrozen) by rw [checkOpen, if_pos closed]]
    rfl
  | false =>
    rw [show s.checkOpen = .ok () by rw [checkOpen, closed]; rfl]
    dsimp only
    rw [Change.run_bind, Change.run_checkUniverse, checkUniverse]
    by_cases same : s.domain = t.domain
    · obtain ⟨r, united⟩ : ∃ r, s.union t = .ok r := ⟨_, dif_pos same⟩
      rw [if_pos same, united]
      dsimp only
      rw [Change.run_setWords_store united]
      have domain := (domain_of_combine united).2.1
      have store' : { s.store with words := r.words } = ({ r with frozen := false } : CharSet).store := by
        simp only [store, domain, closed]
      rw [store']
      rfl
    · have refused : s.union t = .error (.differentUniverses s.domain t.domain) := dif_neg same
      rw [if_neg same, refused]
      rfl

/-- An edit in place leaves what the operation makes of the set, and the set as it was where that fails. -/
theorem run_store (s : CharSet) (edit : Edit) : edit.run s.store = some (ended s (edit.applied s)) := by
  cases edit with
  | add c => exact run_addingRange s c c
  | addRange a b => exact run_addingRange s a b
  | addSet t => exact run_addingSet s t

end Edit

/-! ### Which edits and operations fail -/

section Failing
variable {s t : CharSet} {failure : Failure}

theorem insertRange_sorted (s : CharSet) (a b : Char) :
    s.insertRange a b = s.insertRange (min a b) (max a b) := by
  rcases le_total a b with upwards | downwards
  · rw [min_eq_left upwards, max_eq_right upwards]
  · rw [min_eq_right downwards, max_eq_left downwards, insertRange_swap]

theorem insertRange_eq_error {lo hi : Char} (ordered : lo ≤ hi) :
    s.insertRange lo hi = .error failure ↔
      (s.frozen = true ∧ failure = .illegalState .setFrozen) ∨
        (s.frozen = false ∧ s.domain.contains lo = false ∧ failure = .outOfUniverse s.domain lo) ∨
        (s.frozen = false ∧ s.domain.contains lo = true ∧ s.domain.contains hi = false ∧
          failure = .outOfUniverse s.domain hi) := by
  simp only [insertRange, checkOpen, ordered, ↓reduceIte, bind, Except.bind, pure, Except.pure]
  cases s.frozen with
  | true => simp [@eq_comm _ failure]
  | false =>
    cases low : s.domain.contains lo with
    | false => simp [placeOf_of_not_contains low, @eq_comm _ failure]
    | true =>
      cases high : s.domain.contains hi with
      | false => simp [placeOf_of_contains low, placeOf_of_not_contains high, @eq_comm _ failure]
      | true => simp [placeOf_of_contains low, placeOf_of_contains high]

theorem combine_eq_error {op : UInt64 → UInt64 → UInt64}
    {clean : ∀ v w j, j < 64 → bitOf v j = false → bitOf w j = false → bitOf (op v w) j = false} :
    combine op clean s t = .error failure ↔
      s.domain ≠ t.domain ∧ failure = .differentUniverses s.domain t.domain := by
  unfold combine
  by_cases same : s.domain = t.domain <;> simp [same, @eq_comm _ failure]

theorem union_eq_error :
    s.union t = .error failure ↔
      s.domain ≠ t.domain ∧ failure = .differentUniverses s.domain t.domain :=
  combine_eq_error

theorem intersects_eq_error :
    s.intersects t = .error failure ↔
      s.domain ≠ t.domain ∧ failure = .differentUniverses s.domain t.domain := by
  unfold intersects checkUniverse
  by_cases same : s.domain = t.domain <;>
    simp [same, bind, Except.bind, pure, Except.pure, @eq_comm _ failure]

theorem insertAll_eq_error :
    s.insertAll t = .error failure ↔
      (s.frozen = true ∧ failure = .illegalState .setFrozen) ∨
        (s.frozen = false ∧ s.domain ≠ t.domain ∧ failure = .differentUniverses s.domain t.domain) := by
  rw [← union_eq_error]
  unfold insertAll checkOpen
  cases s.frozen with
  | true => simp [bind, Except.bind, @eq_comm _ failure]
  | false => cases s.union t <;> simp [bind, Except.bind, pure, Except.pure]

/-- The operation of an edit fails exactly with what the set has to refuse. -/
theorem applied_eq_error {edit : Edit} : edit.applied s = .error failure ↔ Refuses s edit failure := by
  cases edit with
  | add c =>
    refine (insertRange_eq_error (le_refl c)).trans ⟨?_, ?_⟩
    · rintro (⟨closed, rfl⟩ | ⟨opened, outside, rfl⟩ | ⟨-, inside, outside, -⟩)
      · exact .frozen closed
      · exact .add opened outside
      · rw [inside] at outside
        cases outside
    · rintro (closed | ⟨opened, outside⟩)
      · exact .inl ⟨closed, rfl⟩
      · exact .inr (.inl ⟨opened, outside, rfl⟩)
  | addRange a b =>
    rw [Edit.applied, insertRange_sorted]
    refine (insertRange_eq_error min_le_max).trans ⟨?_, ?_⟩
    · rintro (⟨closed, rfl⟩ | ⟨opened, outside, rfl⟩ | ⟨opened, inside, outside, rfl⟩)
      · exact .frozen closed
      · exact .smaller opened outside
      · exact .larger opened inside outside
    · rintro (closed | _ | ⟨opened, outside⟩ | ⟨opened, inside, outside⟩)
      · exact .inl ⟨closed, rfl⟩
      · exact .inr (.inl ⟨opened, outside, rfl⟩)
      · exact .inr (.inr ⟨opened, inside, outside, rfl⟩)
  | addSet t =>
    refine insertAll_eq_error.trans ⟨?_, ?_⟩
    · rintro (⟨closed, rfl⟩ | ⟨opened, apart, rfl⟩)
      · exact .frozen closed
      · exact .addSet opened apart
    · rintro (closed | _ | _ | _ | ⟨opened, apart⟩)
      · exact .inl ⟨closed, rfl⟩
      · exact .inr ⟨opened, apart, rfl⟩

/-- An edit that succeeds adds its characters and nothing else. -/
theorem of_applied {edit : Edit} {r : CharSet} (done : edit.applied s = .ok r) :
    r.domain = s.domain ∧ r.frozen = s.frozen ∧
      ∀ c, r.contains c = true ↔ s.contains c = true ∨ c ∈ edit.added := by
  have ranged {lo hi : Char} (ordered : lo ≤ hi) (done : s.insertRange lo hi = .ok r) :
      r.domain = s.domain ∧ r.frozen = s.frozen ∧
        ∀ c, r.contains c = true ↔ s.contains c = true ∨ c ∈ Set.Icc lo hi := by
    refine ⟨?_, ?_, fun c => ?_⟩
    · obtain ⟨-, _, _, rfl⟩ := (insertRange_eq_ok ordered).mp done
      rfl
    · obtain ⟨-, _, _, rfl⟩ := (insertRange_eq_ok ordered).mp done
      rfl
    · rw [contains_insertRange ordered done, Bool.or_eq_true, Bool.and_eq_true, decide_eq_true_eq,
        decide_eq_true_eq]
      exact Iff.rfl
  cases edit with
  | add c =>
    rw [Edit.added, ← Set.Icc_self]
    exact ranged (le_refl c) done
  | addRange a b =>
    rw [Edit.applied, insertRange_sorted] at done
    exact ranged min_le_max done
  | addSet t =>
    have opened := (insertAll_isOk.mp ⟨r, done⟩).1
    obtain ⟨domain, opened'⟩ := domain_of_insertAll done
    refine ⟨domain, opened'.trans opened.symm, fun c => ?_⟩
    rw [contains_insertAll done, Bool.or_eq_true]
    exact Iff.rfl

theorem frozen_of_combine {op : UInt64 → UInt64 → UInt64} {r : CharSet}
    {clean : ∀ v w j, j < 64 → bitOf v j = false → bitOf w j = false → bitOf (op v w) j = false}
    (combined : combine op clean s t = .ok r) : r.frozen = true := by
  unfold combine at combined
  split at combined <;> cases combined
  rfl

theorem frozen_of_map_freeze {made : Except Failure CharSet} {r : CharSet}
    (closed : freeze <$> made = .ok r) : r.frozen = true := by
  cases made <;> cases closed
  rfl

end Failing

/-- A series of edits, of which some may fail, leaves a set over the same universe, as open as before. -/
theorem runAll_store (s : CharSet) (edits : List Edit) :
    ∃ s' : CharSet, Edit.runAll edits s.store = some s'.store ∧ s'.domain = s.domain ∧
      s'.frozen = s.frozen := by
  induction edits generalizing s with
  | nil => exact ⟨s, rfl, rfl, rfl⟩
  | cons edit rest ih =>
    rw [Edit.runAll, Edit.run_store]
    cases done : edit.applied s with
    | error failure => exact ih s
    | ok r =>
      obtain ⟨s', ran, domain, frozen⟩ := ih r
      obtain ⟨domain', frozen', -⟩ := of_applied done
      exact ⟨s', ran, domain.trans domain', frozen.trans frozen'⟩

/-- **Edits fail exactly when they should, and then change nothing.** Every edit in place has an outcome. It
fails with what the set has to refuse and leaves the very same set, or it adds its characters; universe and
mode stay. So does every series of edits. Operations on two sets fail exactly where the universes differ, and
what they, complement and the checked constructors give is frozen. -/
theorem edit_exact (s t : CharSet) :
    (∀ edit : Edit, ∃ (result : Except Failure Unit) (s' : CharSet),
        edit.run s.store = some (result, s'.store) ∧
          s'.domain = s.domain ∧ s'.frozen = s.frozen ∧
          (∀ failure, result = .error failure ↔ Refuses s edit failure) ∧
          (∀ failure, result = .error failure → s' = s) ∧
          (result = .ok () → ∀ c, s'.contains c = true ↔ s.contains c = true ∨ c ∈ edit.added)) ∧
      (∀ edits : List Edit, ∃ s' : CharSet, Edit.runAll edits s.store = some s'.store ∧
        s'.domain = s.domain ∧ s'.frozen = s.frozen) ∧
      (∀ failure,
        let apart := s.domain ≠ t.domain ∧ failure = .differentUniverses s.domain t.domain
        (s.union t = .error failure ↔ apart) ∧ (s.intersection t = .error failure ↔ apart) ∧
          (s.difference t = .error failure ↔ apart) ∧ (s.intersects t = .error failure ↔ apart)) ∧
      (∀ r, s.union t = .ok r ∨ s.intersection t = .ok r ∨ s.difference t = .ok r → r.frozen = true) ∧
      s.complement.frozen = true ∧
      ∀ u r, (∀ text, ofChars u text = .ok r → r.frozen = true) ∧
        ∀ a b, ofRange u a b = .ok r → r.frozen = true := by
  refine ⟨fun edit => ?_, runAll_store s, fun failure => ?_, ?_, rfl, fun u r =>
    ⟨fun text => frozen_of_map_freeze, fun a b => frozen_of_map_freeze⟩⟩
  · rw [Edit.run_store]
    simp only [← applied_eq_error]
    cases done : edit.applied s with
    | error failure => exact ⟨.error failure, s, rfl, rfl, rfl, by simp, fun _ _ => rfl, nofun⟩
    | ok r =>
      obtain ⟨domain, frozen, members⟩ := of_applied done
      exact ⟨.ok (), r, rfl, domain, frozen, by simp, nofun, fun _ => members⟩
  · exact ⟨combine_eq_error, combine_eq_error, combine_eq_error, intersects_eq_error⟩
  · rintro r (united | met | left)
    · exact frozen_of_combine united
    · exact frozen_of_combine met
    · exact frozen_of_combine left

end PatternForge.CharSet
