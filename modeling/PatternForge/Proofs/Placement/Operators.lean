import PatternForge.Proofs.Placement.Places
import PatternForge.Proofs.Reading.Operators

/-!
Repetition operators and the prefixes of groups inside a longer text. A number takes the white space behind
it, so it is carried over only if something of its own text follows; where nothing does, no count is
complete (`carried_decimal_bind`).
-/
namespace PatternForge

open Cursor (rest_inside_of_cons skip_inside_of_cons skipWhile_inside)

variable {n : Nat} {more : List Char}

namespace Repeat

variable {data : CharacterData} {flags : Flags} {start last : Cursor} {c : Char} {rest : List Char}

/-- The place behind a number and the white space around it. -/
private def behindDecimal (data : CharacterData) (here : Cursor) : Cursor :=
  ((here.skipWhile data.space).skipWhile Char.isDigit).skipWhile data.space

private theorem eq_behindDecimal {here after : Cursor} {value : UInt32}
    (read : decimal data here = .ok (value, after)) : after = behindDecimal data here := by
  unfold decimal at read
  dsimp only at read
  split at read
  · cases read
  · split at read <;> cases read
    rfl

private theorem decimal_inside {here : Cursor} (going : (behindDecimal data here).rest ≠ [] ∨ more = []) :
    Carried n more (carry n more) (decimal data here) (decimal data (here.inside n more)) := by
  have digits : ((here.skipWhile data.space).skipWhile Char.isDigit).rest ≠ [] ∨ more = [] :=
    going.imp_left fun some => by
      rw [behindDecimal, Cursor.rest_skipWhile] at some
      exact Cursor.ne_nil_of_dropWhile some
  have blanks : (here.skipWhile data.space).rest ≠ [] ∨ more = [] :=
    digits.imp_left fun some => by
      rw [Cursor.rest_skipWhile] at some
      exact Cursor.ne_nil_of_dropWhile some
  unfold decimal
  dsimp only
  rw [skipWhile_inside blanks, skipWhile_inside digits, skipWhile_inside going, Cursor.charsTo_inside]
  split
  · exact fun _ => rfl
  · split
    · rfl
    · exact fun _ => rfl

/-- A reader that needs more text behind a number is carried over if what it goes on with is. -/
theorem carried_decimal_bind {β : Type} {move : β → β} {here : Cursor}
    {next next' : UInt32 × Cursor → Except Failure β}
    (incomplete : ∀ value after, after.rest = [] → ∃ failure, next (value, after) = .error failure)
    (others : ∀ value after,
      Carried n more move (next (value, after)) (next' (value, after.inside n more))) :
    Carried n more move (decimal data here >>= next) (decimal data (here.inside n more) >>= next') := by
  by_cases going : (behindDecimal data here).rest ≠ [] ∨ more = []
  · exact (decimal_inside going).bind fun found _ => others found.1 found.2
  · obtain ⟨none, some⟩ := not_or.mp going
    have fails : ∃ failure, (decimal data here >>= next) = .error failure := by
      cases read : decimal data here with
      | error failure => exact ⟨failure, rfl⟩
      | ok found =>
        obtain ⟨value, after⟩ := found
        rw [← eq_behindDecimal read] at none
        exact incomplete value after (Decidable.not_not.mp none)
    obtain ⟨failure, fails⟩ := fails
    rw [fails]
    exact fun isLast => absurd isLast some

/-- The bounds of a count with the place of its closing brace, carried along. -/
private def carryCount (n : Nat) (more : List Char) (found : UInt32 × Option UInt32 × Cursor) :
    UInt32 × Option UInt32 × Cursor :=
  (found.1, found.2.1, found.2.2.inside n more)

/-- What follows the larger number of a count must be the closing brace. -/
private theorem carried_close (start after : Cursor) (least most : UInt32) :
    Carried n more (carryCount n more)
      (match after.rest with
        | [] => throw (.malformed start.offset .unclosedCountMaximum)
        | '\x7d' :: _ => pure (least, some most, after)
        | _ => throw (.malformed after.offset .invalidCount))
      (match (after.inside n more).rest with
        | [] => throw (.malformed (start.inside n more).offset .unclosedCountMaximum)
        | '\x7d' :: _ => pure (least, some most, after.inside n more)
        | _ => throw (.malformed (after.inside n more).offset .invalidCount)) := by
  rw [Cursor.rest_inside]
  cases next : after.rest with
  | nil => exact fun none => by rw [none]; rfl
  | cons c rest =>
    rw [List.cons_append]
    by_cases isBrace : c = '\x7d'
    · subst isBrace
      simp only
      rfl
    · simp only [List.cons.injEq, isBrace, false_and, imp_self, implies_true]
      exact fun _ => rfl

/-- The bounds between braces, with the place of the closing brace. -/
private theorem carried_count (data : CharacterData) (next : start.rest = c :: rest) :
    Carried n more (carryCount n more) (count data start)
      (count data (start.inside n more)) := by
  unfold count
  rw [skip_inside_of_cons next]
  cases following : start.skip.rest with
  | nil =>
    rw [if_pos (Cursor.rest_of_atEnd.mpr following)]
    intro none
    subst none
    rw [Cursor.atEnd_inside_nil, if_pos (Cursor.rest_of_atEnd.mpr following)]
    rfl
  | cons d others =>
    rw [Cursor.atEnd_of_cons following, Cursor.atEnd_inside_of_cons following]
    refine carried_decimal_bind (fun value after none => ?_) fun least after => ?_
    · dsimp only
      rw [none]
      exact ⟨_, rfl⟩
    dsimp only
    rw [Cursor.rest_inside]
    cases behind : after.rest with
    | nil => exact fun none => by rw [none]; rfl
    | cons e others =>
      rw [List.cons_append, skip_inside_of_cons behind]
      by_cases isComma : e = ','
      · subst isComma
        cases others with
        | nil => exact fun none => by rw [none]; rfl
        | cons f others =>
          simp only [List.cons_append, List.isEmpty_cons, Bool.false_eq_true, ↓reduceIte, List.head?_cons,
            Option.some.injEq]
          split
          · rfl
          · refine carried_decimal_bind (fun value after none => ?_) fun most after => ?_
            · dsimp only
              rw [none]
              exact ⟨_, rfl⟩
            exact carried_close start after least most
      · by_cases isBrace : e = '\x7d'
        · subst isBrace
          simp only
          rfl
        · simp only [List.cons.injEq, isComma, isBrace, false_and, imp_self, implies_true]
          exact fun _ => rfl

theorem carried_greediness (closes : Closes more) (flags : Flags) (start : Cursor)
    (next : last.rest = c :: rest) :
    Carried n more (carry n more) (greediness flags start last)
      (greediness flags (start.inside n more) (last.inside n more)) := by
  unfold greediness
  rw [skip_inside_of_cons next, Cursor.rest_inside]
  cases following : last.skip.rest with
  | nil =>
    rw [List.nil_append]
    rcases closes with rfl | ⟨others, rfl⟩
    · rfl
    · simp only [List.cons.injEq, Char.reduceEq, false_and, imp_self, implies_true]
      rfl
  | cons d others =>
    rw [List.cons_append, skip_inside_of_cons following]
    by_cases isLazy : d = '?'
    · subst isLazy
      simp only
      rfl
    · by_cases isPossessive : d = '+'
      · subst isPossessive
        simp only
        exact carried_unsupported fun _ => rfl
      · simp only [List.cons.injEq, isLazy, isPossessive, false_and, imp_self, implies_true]
        rfl

theorem carried_counted (closes : Closes more) (data : CharacterData) (flags : Flags)
    (next : start.rest = c :: rest) :
    Carried n more (carry n more) (counted data flags start)
      (counted data flags (start.inside n more)) := by
  unfold counted
  refine (carried_count data next).bind fun found isCount => ?_
  obtain ⟨least, most, close⟩ := found
  obtain ⟨others, atBrace⟩ := brace_of_count isCount
  refine (carried_greediness closes flags start atBrace).bind fun mark _ => ?_
  dsimp only [carryCount, carry]
  cases most with
  | none => rfl
  | some bound =>
    dsimp only
    split
    · exact fun _ => rfl
    · rfl

theorem carried_plain (closes : Closes more) (flags : Flags) (next : start.rest = c :: rest)
    (least : UInt32) (most : Option UInt32) :
    Carried n more (carry n more) (plain flags start least most)
      (plain flags (start.inside n more) least most) := by
  unfold plain
  exact (carried_greediness closes flags start next).bind fun _ _ => rfl

/-- **An operator** is read inside a longer text as it is read alone. -/
theorem carried_read (closes : Closes more) (data : CharacterData) (flags : Flags)
    (next : start.rest = c :: rest) (sign : Char) :
    Carried n more (carry n more) (read data flags start sign)
      (read data flags (start.inside n more) sign) := by
  unfold read
  split
  · exact carried_plain closes flags next 0 (some 1)
  · exact carried_plain closes flags next 0 none
  · exact carried_plain closes flags next 1 none
  · exact carried_counted closes data flags next

end Repeat

namespace GroupPrefix

variable {data : CharacterData} {start here : Cursor} {c : Char} {rest : List Char}

theorem carried_name (data : CharacterData) (taken : List String) (start : Cursor) :
    Carried n more (carry n more) (name data taken start) (name data taken (start.inside n more)) := by
  unfold name
  dsimp only
  cases ended : (start.skipMany (nameChars data start.rest).length).rest with
  | nil =>
    intro none
    subst none
    rw [Cursor.rest_inside, List.append_nil, Cursor.skipMany_inside (.inr rfl), Cursor.rest_inside, ended]
    simp only [List.append_nil]
    split <;> rfl
  | cons c others =>
    have within : (nameChars data start.rest).length ≤ start.rest.length := by
      have some := congrArg List.length ended
      rw [Cursor.rest_skipMany, List.length_drop, List.length_cons] at some
      omega
    rw [Cursor.rest_inside, nameChars_append (by rw [← Cursor.rest_skipMany, ended]; simp),
      Cursor.skipMany_inside (.inl within), Cursor.rest_inside, ended, List.cons_append,
      skip_inside_of_cons ended]
    dsimp only
    split
    · exact fun _ => rfl
    · split
      · exact fun _ => rfl
      · split
        · exact fun _ => rfl
        · rfl

theorem carried_flagStep (state : FlagState) (here : Cursor) (c : Char) :
    Carried n more id (flagStep state here c) (flagStep state (here.inside n more) c) := by
  unfold flagStep
  split
  · split
    · exact fun _ => rfl
    · rfl
  · split
    · exact fun _ => rfl
    · split
      · exact fun _ => rfl
      · rfl

/-- A list of flags up to the colon or the parenthesis that ends it: induction on the run over its
characters. -/
theorem carried_flagList (state : FlagState) (here : Cursor) :
    Carried n more (carry n more) (flagList state here) (flagList state (here.inside n more)) := by
  fun_induction flagList state here with
  | case1 state here none =>
    intro isLast
    subst isLast
    rw [flagList_atEnd state (by rw [Cursor.rest_inside, none, List.append_nil])]
    rfl
  | case2 state here c rest next ends dangling =>
    rw [flagList_more state (rest_inside_of_cons next), if_pos ends, if_pos dangling]
    exact fun _ => rfl
  | case3 state here c rest next ends complete =>
    rw [flagList_more state (rest_inside_of_cons next), if_pos ends, if_neg complete]
    rfl
  | case4 state here c rest next going failure refused =>
    have again : Carried n more id _ _ := carried_flagStep state here c
    rw [refused] at again
    intro isLast
    rw [flagList_more state (rest_inside_of_cons next), if_neg going, again isLast]
  | case5 state here c rest next going state' stepped ih =>
    have again : Carried n more id _ _ := carried_flagStep state here c
    rw [stepped] at again
    rw [flagList_more state (rest_inside_of_cons next), if_neg going, again, skip_inside_of_cons next]
    exact ih

theorem carried_readFlags (flags : Flags) (start here : Cursor) :
    Carried n more (carry n more) (readFlags flags start here)
      (readFlags flags (start.inside n more) (here.inside n more)) := by
  unfold readFlags
  cases next : here.rest with
  | nil =>
    rw [if_pos (Cursor.rest_of_atEnd.mpr next)]
    intro none
    subst none
    rw [Cursor.atEnd_inside_nil, if_pos (Cursor.rest_of_atEnd.mpr next)]
    rfl
  | cons c rest =>
    rw [Cursor.atEnd_of_cons next, Cursor.atEnd_inside_of_cons next]
    simp only [Bool.false_eq_true, ↓reduceIte]
    refine (carried_flagList { flags } here).elim (fun found isFlags => ?_)
      fun failure there failed none => by rw [failed none]
    obtain ⟨flags', stop⟩ := found
    obtain ⟨d, others, atStop, -⟩ := stop_of_flagList isFlags
    rw [carry_mk]
    dsimp only
    rw [Cursor.rest_inside, atStop, List.cons_append, List.head?_cons, List.head?_cons,
      skip_inside_of_cons atStop]
    split
    · simp only [Cursor.offset_inside, Nat.add_right_cancel_iff]
      split
      · exact fun _ => rfl
      · rfl
    · rfl

theorem lookAround_inside (closes : Closes more) :
    lookAround? (here.inside n more) = (lookAround? here).map (Cursor.inside n more) :=
  Cursor.findSome_afterText_inside closes (by decide)

theorem nameOpening_inside (closes : Closes more) :
    nameOpening? (here.inside n more) = (nameOpening? here).map (Cursor.inside n more) :=
  Cursor.findSome_afterText_inside closes (by decide)

/-- **The prefix of a group** is read inside a longer text as it is read alone. -/
theorem carried_read (closes : Closes more) (data : CharacterData) (flags : Flags) (taken : List String)
    (next : start.rest = c :: rest) :
    Carried n more (carry n more) (read data flags taken start)
      (read data flags taken (start.inside n more)) := by
  unfold read
  dsimp only
  rw [skip_inside_of_cons next, lookAround_inside closes, nameOpening_inside closes]
  cases lookAround? start.skip with
  | some after => exact carried_unsupported fun _ => rfl
  | none =>
    cases nameOpening? start.skip with
    | some nameStart => exact (carried_name data taken nameStart).map fun _ _ => rfl
    | none =>
      simp only [Option.map_none, Cursor.head_inside closes (show '?' ≠ ')' by decide)]
      split
      · rename_i isQuestion
        obtain ⟨others, following⟩ := List.head?_eq_some_iff.mp isQuestion
        rw [skip_inside_of_cons following]
        exact carried_readFlags flags start start.skip.skip
      · rfl

end GroupPrefix

end PatternForge
