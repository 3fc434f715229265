import PatternForge.Proofs.RoundTrip.Moves

/-!
Printed characters. A character is printed as itself, behind a backslash, or by its code, and each
form is read as that character again, by the reader as well as inside a class.
-/
namespace PatternForge

open Pattern (isMeta literalChar)

/-- The three forms in which a character is printed. -/
theorem Pattern.literalChar_cases (c : Char) :
    (isMeta c = true ∧ literalChar c = ['\\', c]) ∨
      (Text.isControl c = true ∧ literalChar c = '\\' :: 'x' :: Text.hexCapital c.toNat 2) ∨
        (isMeta c = false ∧ literalChar c = [c]) := by
  unfold literalChar Text.Shown.chars
  by_cases special : isMeta c = true
  · exact .inl ⟨special, by simp [special]⟩
  · by_cases control : Text.isControl c = true
    · exact .inr (.inl ⟨control, by simp [special, control]⟩)
    · exact .inr (.inr ⟨by simpa using special, by simp [special, control]⟩)

/-- Whether a code is printed by two digits that are read as this code. -/
private def isReadBack (code : Nat) : Bool :=
  match Text.hexCapital code 2 with
  | [d, e] =>
    Escape.isHexDigit d && Escape.isHexDigit e && d != '\x7b' &&
      Escape.charOfHex? [d, e] == some (Char.ofNat code)
  | _ => false

private theorem isReadBack_control : ∀ code < 160, isReadBack code = true := by decide +kernel

/-- A control character is printed by two digits, which are its code. -/
theorem Text.hexCapital_control {c : Char} (control : isControl c = true) :
    ∃ d e, hexCapital c.toNat 2 = [d, e] ∧ Escape.isHexDigit d = true ∧
      Escape.isHexDigit e = true ∧ d ≠ '\x7b' ∧ Escape.charOfHex? [d, e] = some c := by
  have small : c.toNat < 160 := by
    simp only [isControl, Bool.or_eq_true, Bool.and_eq_true, decide_eq_true_eq] at control
    omega
  have readBack := isReadBack_control c.toNat small
  unfold isReadBack at readBack
  split at readBack
  · rename_i d e digits
    rw [Char.ofNat_toNat] at readBack
    simp only [Bool.and_eq_true, bne_iff_ne, beq_iff_eq] at readBack
    obtain ⟨⟨⟨isHex, isHex'⟩, brace⟩, code⟩ := readBack
    exact ⟨d, e, digits, isHex, isHex', brace, code⟩
  · cases readBack

namespace Escape
variable {ctx : Context}

theorem charPattern_minding (minding : ctx.flags.ignoreCase = false) (c : Char) :
    ctx.settings.charPattern ctx.flags c = .literal c.toString := by
  simp [Settings.charPattern, minding]

/-- A special character behind a backslash stands for itself. -/
theorem read_meta {start here : Cursor} {c : Char} {rest : List Char} (special : isMeta c = true)
    (next : here.rest = c :: rest) :
    read ctx start here = .ok (ctx.settings.charPattern ctx.flags c, here.skip) := by
  unfold read
  rw [next]
  simp only [isMeta, List.contains_eq_mem, decide_eq_true_eq, List.mem_cons, List.not_mem_nil,
    or_false] at special
  rcases special with rfl | rfl | rfl | rfl | rfl | rfl | rfl | rfl | rfl | rfl | rfl | rfl | rfl |
    rfl | rfl | rfl | rfl | rfl <;> rfl

/-- Two digits behind the letter for them stand for the character with that code. -/
theorem read_control {start here : Cursor} {c : Char} {rest : List Char}
    (control : Text.isControl c = true)
    (next : here.rest = 'x' :: Text.hexCapital c.toNat 2 ++ rest) :
    read ctx start here = .ok (ctx.settings.charPattern ctx.flags c, here.skipMany 3) := by
  obtain ⟨d, e, digits, isHex, isHex', brace, code⟩ := Text.hexCapital_control control
  rw [digits] at next
  have behind : here.skip.rest = d :: e :: rest := by rw [Cursor.rest_skip, next]; rfl
  have fixed : hex start here 2 = .ok (c, here.skipMany 3) := by
    unfold hex
    rw [behind]
    split
    · rename_i none
      cases none
    · rename_i same
      cases same
      exact absurd rfl brace
    · simp [fixedHex, next, isHex, isHex', code, Cursor.skipMany]
  unfold read
  rw [next]
  simp [hexLeaf, fixed]

end Escape

/-- A printed character is read as that character inside a class. -/
theorem ClassSet.primitive_literalChar {ctx : Escape.Context} {here : Cursor} {c : Char}
    {rest : List Char} (minding : ctx.flags.ignoreCase = false)
    (next : here.rest = literalChar c ++ rest) :
    primitive ctx here = .ok (.literal c.toString, here.skipMany (literalChar c).length) := by
  rcases Pattern.literalChar_cases c with ⟨special, form⟩ | ⟨control, form⟩ | ⟨plain, form⟩
  · rw [form] at next ⊢
    have behind : here.skip.rest = c :: rest := by rw [Cursor.rest_skip, next]; rfl
    unfold primitive
    rw [next]
    simp only [List.cons_append]
    rw [Escape.read_meta special behind, Escape.charPattern_minding minding]
    rfl
  · rw [form] at next ⊢
    have behind : here.skip.rest = 'x' :: Text.hexCapital c.toNat 2 ++ rest := by
      rw [Cursor.rest_skip, next]
      rfl
    obtain ⟨d, e, digits, -⟩ := Text.hexCapital_control control
    unfold primitive
    rw [next]
    simp only [List.cons_append]
    rw [Escape.read_control control behind, Escape.charPattern_minding minding, digits]
    rfl
  · rw [form] at next ⊢
    unfold primitive
    rw [next]
    simp only [List.cons_append, List.nil_append]
    split
    · rename_i none
      cases none
    · rename_i same
      cases same
      cases plain
    · rename_i same
      cases same
      rfl

namespace Parser
variable {s : Settings}

private theorem step_plain {st : State} {c : Char} (plain : isMeta c = false) :
    step s st c = .ok (st.push (s.charPattern st.flags c) st.here.skip) := by
  unfold step
  split
  case h_13 => rfl
  all_goals cases plain

/-- A printed character is read as that character. -/
theorem gives_literalChar (c : Char) (depth : Nat) (rest : List Char) :
    Gives s (literalChar c) [] [.literal c.toString] depth rest := by
  rcases Pattern.literalChar_cases c with ⟨special, form⟩ | ⟨control, form⟩ | ⟨plain, form⟩
  · rw [form]
    refine gives_of_step fun st flags next => ?_
    have behind : st.here.skip.rest = c :: rest := by rw [Cursor.rest_skip, next]; rfl
    simp only [step, State.pushRead]
    rw [Escape.read_meta special behind, Escape.charPattern_minding flags.1]
    rfl
  · rw [form]
    refine gives_of_step fun st flags next => ?_
    have behind : st.here.skip.rest = 'x' :: Text.hexCapital c.toNat 2 ++ rest := by
      rw [Cursor.rest_skip, next]
      rfl
    obtain ⟨d, e, digits, -⟩ := Text.hexCapital_control control
    simp only [step, State.pushRead]
    rw [Escape.read_control control behind, Escape.charPattern_minding flags.1, digits]
    rfl
  · rw [form]
    refine gives_of_step fun st flags next => ?_
    rw [step_plain plain]
    simp [Settings.charPattern, flags.1, Cursor.skipMany]

/-- A printed text is read character by character. -/
theorem gives_literalChars (chars : List Char) (depth : Nat) (rest : List Char) :
    Gives s (chars.flatMap literalChar) [] (chars.map fun c => .literal c.toString) depth rest := by
  induction chars with
  | nil => exact Gives.nil depth rest
  | cons c others ih => exact (gives_literalChar c depth _).append ih

end Parser

end PatternForge
