import PatternForge.Proofs.Placement.Places

/-!
Two texts that are the same up to a place. `a.inside 0 t` and `a.inside 0 t'` are the same place of two texts
that go on differently, with `t` and with `t'`, behind what is left at `a`. What a reader reads in front of `t`
it reads in front of `t'` (`Alike`), because it takes one character after the other: a place that is not
behind the start of `t` was reached through characters that both texts have.
-/
namespace PatternForge

namespace Cursor

variable {n : Nat} {t : List Char} {a m : Cursor} {holds : Char → Bool}

/-- A place that is reached and lies in front of `t` is one of the text in front of it. -/
theorem exists_inside (reaches : (a.inside n t).Reaches m) (before : t.length ≤ m.rest.length) :
    ∃ b, m = b.inside n t ∧ a.Reaches b := by
  obtain ⟨k, rfl⟩ := reaches
  refine ⟨a.skipMany k, skipMany_inside ?_, reaches_skipMany a k⟩
  by_cases within : k ≤ a.rest.length
  · exact .inl within
  · rw [rest_skipMany, rest_inside, List.length_drop, List.length_append] at before
    exact .inr (List.eq_nil_of_length_eq_zero (by omega))

/-- A character that is taken in front of `t` is one of the text in front of it. -/
theorem cons_of_skip (some : t ≠ []) (before : t.length ≤ (a.inside n t).skip.rest.length) :
    ∃ c rest, a.rest = c :: rest := by
  cases next : a.rest with
  | nil =>
    have positive := List.length_pos_iff.mpr some
    rw [rest_skip, rest_inside, next, List.nil_append, List.length_tail] at before
    omega
  | cons c rest => exact ⟨c, rest, rfl⟩

/-- The same behind characters that satisfy a condition: one of the text in front of `t` does not. -/
theorem cons_of_skipWhile (some : t ≠ [])
    (before : t.length ≤ ((a.inside n t).skipWhile holds).skip.rest.length) :
    ∃ c rest, (a.skipWhile holds).rest = c :: rest := by
  cases ended : (a.skipWhile holds).rest with
  | nil =>
    rw [rest_skipWhile] at ended
    have positive := List.length_pos_iff.mpr some
    have shorter := (List.dropWhile_suffix (l := t) holds).length_le
    rw [rest_skip, rest_skipWhile, rest_inside, List.dropWhile_append, ended, List.isEmpty_nil, if_pos rfl,
      List.length_tail] at before
    omega
  | cons c rest => exact ⟨c, rest, rfl⟩

/-- A text that comes next in front of `t` comes next in front of any other. -/
theorem afterText_alike {text : List Char} (found : (a.inside n t).afterText? text = Option.some m)
    (before : t.length ≤ m.rest.length) (t' : List Char) :
    ∃ b : Cursor, m = b.inside n t ∧ (a.inside n t').afterText? text = Option.some (b.inside n t') := by
  obtain ⟨next, rfl⟩ := afterText_eq_some.mp found
  have within : text.length ≤ a.rest.length := by
    have total := congrArg List.length next
    simp only [rest_inside, List.length_append] at total
    omega
  rw [skipMany_inside (.inl within)] at next ⊢
  refine ⟨a.skipMany text.length, rfl, afterText_eq_some.mpr ⟨?_, (skipMany_inside (.inl within)).symm⟩⟩
  rw [rest_inside, rest_inside, ← List.append_assoc, List.append_cancel_right_eq] at next
  rw [rest_inside, rest_inside, ← List.append_assoc, ← next]

end Cursor

/-- What is read up to a place in front of `t` is read up to the same place in front of `t'`. -/
def Alike {α : Type} (t t' : List Char) (x y : Except Failure (α × Cursor)) : Prop :=
  ∀ found e, x = .ok (found, e) → t.length ≤ e.rest.length →
    ∃ b : Cursor, e = b.inside 0 t ∧ y = .ok (found, b.inside 0 t')

namespace Alike

variable {α : Type} {t t' : List Char} {x y : Except Failure (α × Cursor)}

theorem of_error {failure : Failure} (failed : x = .error failure) : Alike t t' x y := by
  intro found e read
  rw [failed] at read
  cases read

theorem of_ok {found : α} (b : Cursor) : Alike t t' (.ok (found, b.inside 0 t)) (.ok (found, b.inside 0 t')) := by
  rintro _ _ ⟨⟩ _
  exact ⟨b, rfl, rfl⟩

/-- A reader that goes on, from there or further on, with another one. -/
theorem bind {β : Type} {f g : α × Cursor → Except Failure (β × Cursor)} (alike : Alike t t' x y)
    (onward : ∀ found e found' e', f (found, e) = .ok (found', e') → e'.rest.length ≤ e.rest.length)
    (next : ∀ found (b : Cursor), Alike t t' (f (found, b.inside 0 t)) (g (found, b.inside 0 t'))) :
    Alike t t' (x >>= f) (y >>= g) := by
  intro found' e' read before
  cases isRead : x with
  | error failure => rw [isRead] at read; cases read
  | ok pair =>
    obtain ⟨found, e⟩ := pair
    rw [isRead] at read
    obtain ⟨b, rfl, again⟩ := alike found e isRead (Nat.le_trans before (onward found e found' e' read))
    rw [again]
    exact next found b found' e' read before

end Alike

end PatternForge
