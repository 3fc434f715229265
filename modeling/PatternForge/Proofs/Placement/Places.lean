import PatternForge.Failure
import PatternForge.Proofs.Reading.Places

/-!
The same text elsewhere. `Cursor.inside` is a place of a text after that text was put into a longer one.
`Carried` says how reading goes on there: what was read is read again, further on, and where nothing was
put behind the text, a failure is met again, at an offset that is larger by what was put in front. It
passes from the steps of a reader to the reader (`Carried.bind`).
-/
namespace PatternForge

/-- The same failure, `n` bytes further on. -/
def Failure.moved (n : Nat) : Failure → Failure
  | malformed position reason => malformed (position + n) reason
  | unsupported position token => unsupported (position + n) token
  | danglingReference position index => danglingReference (position + n) index
  | failure => failure

/-- What may stand behind a text, so that no construct of the text takes it for its own: nothing, or the
end of a group. -/
def Closes (more : List Char) : Prop := more = [] ∨ ∃ rest, more = ')' :: rest

theorem Closes.none : Closes [] := .inl rfl

theorem Closes.parenthesis (rest : List Char) : Closes (')' :: rest) := .inr ⟨rest, rfl⟩

theorem Closes.head {more : List Char} (closes : Closes more) {c : Char} (other : c ≠ ')') :
    more.head? ≠ some c := by
  rcases closes with rfl | ⟨rest, rfl⟩
  · exact nofun
  · exact fun same => other (Option.some.inj same).symm

namespace Cursor

/-- The same place, after `n` bytes were put in front of the text and `more` was put behind it. -/
def inside (n : Nat) (more : List Char) (a : Cursor) : Cursor := ⟨a.offset + n, a.rest ++ more⟩

variable {n : Nat} {more : List Char} {a b : Cursor}

@[simp] theorem offset_inside : (a.inside n more).offset = a.offset + n := rfl

@[simp] theorem rest_inside : (a.inside n more).rest = a.rest ++ more := rfl

theorem rest_inside_of_cons {c : Char} {rest : List Char} (next : a.rest = c :: rest) :
    (a.inside n more).rest = c :: (rest ++ more) := by
  rw [rest_inside, next, List.cons_append]

theorem skip_inside (going : a.rest ≠ [] ∨ more = []) :
    (a.inside n more).skip = a.skip.inside n more := by
  obtain ⟨offset, rest⟩ := a
  cases rest with
  | nil =>
    obtain rfl : more = [] := going.resolve_left (fun some => some rfl)
    rfl
  | cons c rest => simp only [skip, inside, List.cons_append, Nat.add_right_comm]

theorem skip_inside_of_cons {c : Char} {rest : List Char} (next : a.rest = c :: rest) :
    (a.inside n more).skip = a.skip.inside n more :=
  skip_inside (.inl (by rw [next]; exact List.cons_ne_nil _ _))

theorem skipMany_inside {k : Nat} (going : k ≤ a.rest.length ∨ more = []) :
    (a.inside n more).skipMany k = (a.skipMany k).inside n more := by
  induction k generalizing a with
  | zero => rfl
  | succ k ih =>
    rw [skipMany, skipMany, skip_inside, ih]
    · refine going.imp_left fun enough => ?_
      rw [rest_skip, List.length_tail]
      omega
    · exact going.imp_left fun enough => List.ne_nil_of_length_pos (by omega)

/-- A condition that ends within the text ends at the same place. -/
theorem skipWhile_inside {holds : Char → Bool} (stops : (a.skipWhile holds).rest ≠ [] ∨ more = []) :
    (a.inside n more).skipWhile holds = (a.skipWhile holds).inside n more := by
  rw [rest_skipWhile] at stops
  have same : (a.rest ++ more).takeWhile holds = a.rest.takeWhile holds := by
    rcases stops with stops | rfl
    · exact (while_append stops more).1
    · rw [List.append_nil]
  rw [skipWhile, rest_inside, same]
  exact skipMany_inside (.inl (List.takeWhile_prefix _).length_le)

theorem skipWhile_inside_of_cons {holds : Char → Bool} {c : Char} {rest : List Char}
    (ended : (a.skipWhile holds).rest = c :: rest) :
    (a.inside n more).skipWhile holds = (a.skipWhile holds).inside n more :=
  skipWhile_inside (.inl (by rw [ended]; exact List.cons_ne_nil _ _))

theorem atEnd_inside_of_cons {c : Char} {rest : List Char} (next : a.rest = c :: rest) :
    (a.inside n more).atEnd = false :=
  atEnd_of_cons (by rw [rest_inside, next]; rfl)

theorem atEnd_inside_nil : (a.inside n []).atEnd = a.atEnd := by
  rw [atEnd, rest_inside, List.append_nil, atEnd]

@[simp] theorem charsTo_inside : (a.inside n more).charsTo (b.inside n more) = a.charsTo b := by
  simp only [charsTo, rest_inside, List.length_append, Nat.add_sub_add_right]
  exact List.take_append_of_le_length (Nat.sub_le _ _)

@[simp] theorem textTo_inside : (a.inside n more).textTo (b.inside n more) = a.textTo b := by
  rw [textTo, charsTo_inside, textTo]

/-- The next character is the one that was next, or none of those that may not follow the text. -/
theorem head_inside {c : Char} (closes : Closes more) (other : c ≠ ')') :
    (a.inside n more).rest.head? = some c ↔ a.rest.head? = some c := by
  rw [rest_inside]
  cases a.rest with
  | nil => simpa using closes.head other
  | cons d rest => rfl

/-- A text that comes next came next before, if it cannot begin within the text and end behind it. -/
theorem isPrefixOf_inside (closes : Closes more) {text : List Char} (plain : ')' ∉ text)
    (rest : List Char) : text.isPrefixOf (rest ++ more) = text.isPrefixOf rest := by
  induction text generalizing rest with
  | nil => rfl
  | cons c text ih =>
    cases rest with
    | nil =>
      have other : c ≠ ')' := fun same => plain (by simp [same])
      have apart := closes.head other
      cases more with
      | nil => rfl
      | cons d more =>
        have different : (c == d) = false := beq_false_of_ne fun same => apart (by simp [same])
        simp [List.isPrefixOf, different]
    | cons d rest =>
      rw [List.cons_append, List.isPrefixOf, List.isPrefixOf,
        ih (fun member => plain (List.mem_cons_of_mem _ member))]

theorem afterText_inside (closes : Closes more) {text : List Char} (plain : ')' ∉ text) :
    (a.inside n more).afterText? text = (a.afterText? text).map (inside n more) := by
  unfold afterText?
  rw [rest_inside, isPrefixOf_inside closes plain]
  split
  · rename_i isPrefix
    rw [Option.map_some, skipMany_inside (.inl (List.isPrefixOf_iff_prefix.mp isPrefix).length_le)]
  · rfl

theorem findSome_afterText_inside (closes : Closes more) {marks : List (List Char)}
    (plain : ∀ mark ∈ marks, ')' ∉ mark) :
    marks.findSome? (a.inside n more).afterText? =
      (marks.findSome? a.afterText?).map (inside n more) := by
  induction marks with
  | nil => rfl
  | cons mark marks ih =>
    rw [List.findSome?_cons, List.findSome?_cons, afterText_inside closes (plain mark List.mem_cons_self),
      ih fun other member => plain other (List.mem_cons_of_mem _ member)]
    cases a.afterText? mark <;> rfl

end Cursor

/-! ### Readers -/

/-- What reading gives inside a longer text, where `move` tells how what was read is carried there. A
failure may be due to the end of the text, so it is met again only if nothing was put behind it. -/
def Carried {α : Type} (n : Nat) (more : List Char) (move : α → α)
    (here there : Except Failure α) : Prop :=
  match here with
  | .ok found => there = .ok (move found)
  | .error failure => more = [] → there = .error (failure.moved n)

/-- What was found and the place after it, carried along. -/
def carry {α : Type} (n : Nat) (more : List Char) (found : α × Cursor) : α × Cursor :=
  (found.1, found.2.inside n more)

theorem carry_mk {α : Type} (n : Nat) (more : List Char) (found : α) (after : Cursor) :
    carry n more (found, after) = (found, after.inside n more) := rfl

namespace Carried

variable {α β : Type} {n : Nat} {more : List Char} {move : α → α} {move' : β → β}

/-- What is carried over was found, and is found again, or failed. -/
@[elab_as_elim]
theorem elim {here there : Except Failure α} {motive : Except Failure α → Except Failure α → Prop}
    (carried : Carried n more move here there)
    (ok : ∀ found, here = .ok found → motive (.ok found) (.ok (move found)))
    (error : ∀ failure there, (more = [] → there = .error (failure.moved n)) →
      motive (.error failure) there) : motive here there := by
  cases here with
  | ok found =>
    obtain rfl : there = .ok (move found) := carried
    exact ok found rfl
  | error failure => exact error failure there carried

/-- A reader that goes on with another one is carried over if both are. -/
theorem bind {here there : Except Failure α} {next next' : α → Except Failure β}
    (first : Carried n more move here there)
    (others : ∀ found, here = .ok found → Carried n more move' (next found) (next' (move found))) :
    Carried n more move' (here >>= next) (there >>= next') := by
  refine first.elim others fun failure there failed none => ?_
  rw [failed none]
  rfl

theorem map {here there : Except Failure α} {give give' : α → β} (first : Carried n more move here there)
    (same : ∀ found, here = .ok found → give' (move found) = move' (give found)) :
    Carried n more move' (give <$> here) (give' <$> there) := by
  refine first.elim (fun found read => ?_) fun failure there failed none => ?_
  · exact congrArg Except.ok (same found read)
  · rw [failed none]
    rfl

end Carried

/-- A construct that is not supported, up to a place that is carried along. -/
theorem carried_unsupported {α : Type} {n : Nat} {more : List Char} {start after after' : Cursor}
    {move : α → α}
    (same : more = [] → after' = after.inside n more) :
    Carried n more move (.error (.unsupported start.offset (start.textTo after)))
      (.error (.unsupported (start.inside n more).offset ((start.inside n more).textTo after'))) := by
  intro none
  rw [same none, Cursor.textTo_inside]
  rfl

end PatternForge
