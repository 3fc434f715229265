import PatternForge.Proofs.Replacing.Members
import PatternForge.Proofs.Replacing.Runs

/-!
The escape sequence of a character, and what a class makes of it. The number of a character in braces is read as
the character (`Escape.read_codes`). In a class it takes the place of a character that stands for itself
(`ClassSet.Stands`), unless that is an end of a range and case is ignored: a character with another case is then
the class of its cases, and no class is an end of a range (`ClassSet.read_numbered`).
-/
namespace PatternForge

/-! ### The escape sequence of a character -/

namespace Escape

/-- Some hexadecimal digits are the number of a character. -/
structure Codes (digits : List Char) (c : Char) : Prop where
  notEmpty : digits ≠ []
  hex : ∀ d ∈ digits, isHexDigit d = true
  code : charOfHex? digits = some c

/-- A character by its number in braces. -/
def numbered (digits : List Char) : List Char := '\\' :: 'x' :: '\x7b' :: digits ++ ['\x7d']

variable {ctx : Context} {start here : Cursor} {digits behind : List Char} {c : Char}

private theorem bracedHex_codes (codes : Codes digits c) (next : here.rest = digits ++ '\x7d' :: behind) :
    ∃ e, e.rest = behind ∧ bracedHex start here = .ok (c, e) := by
  have stops : isHexDigit '\x7d' = false := by decide
  have taken : here.rest.takeWhile isHexDigit = digits := by
    rw [next, List.takeWhile_append_of_pos codes.hex, List.takeWhile_cons_of_neg (by simp [stops]),
      List.append_nil]
  have stop : (here.skipWhile isHexDigit).rest = '\x7d' :: behind := by
    rw [Cursor.rest_skipWhile, next, List.dropWhile_append_of_pos codes.hex,
      List.dropWhile_cons_of_neg (by simp [stops])]
  refine ⟨(here.skipWhile isHexDigit).skip, by rw [Cursor.rest_skip, stop, List.tail_cons], ?_⟩
  have some : digits.isEmpty = false := by simpa using codes.notEmpty
  unfold bracedHex
  dsimp only
  rw [stop, Cursor.charsTo_skipWhile, taken]
  simp only [some, Bool.false_eq_true, ↓reduceIte, codes.code]

/-- **The number of a character** in braces is read as the character itself. -/
theorem read_codes (codes : Codes digits c) (start : Cursor)
    (next : here.rest = 'x' :: '\x7b' :: digits ++ '\x7d' :: behind) :
    ∃ e, e.rest = behind ∧ read ctx start here = .ok (ctx.settings.charPattern ctx.flags c, e) := by
  have opened : here.skip.rest = '\x7b' :: (digits ++ '\x7d' :: behind) := by
    rw [Cursor.rest_skip, next]
    rfl
  obtain ⟨e, rest, isHex⟩ := @bracedHex_codes start here.skip.skip digits behind c codes
    (by rw [Cursor.rest_skip, opened, List.tail_cons])
  refine ⟨e, rest, ?_⟩
  have isHex' : hex start here 2 = .ok (c, e) := by
    unfold hex
    rw [opened]
    exact isHex
  unfold read
  rw [next]
  simp only [List.cons_append, hexLeaf, isHex']

private theorem capital_hex : ∀ d < 16, isHexDigit (Nat.digitChar d).toUpper = true ∧
    Unicode.hexDigitValue (Nat.digitChar d).toUpper = d := by decide

private theorem hex_toDigits (n : Nat) :
    (∀ d ∈ (Nat.toDigits 16 n).map Char.toUpper, isHexDigit d = true) ∧
      ((Nat.toDigits 16 n).map Char.toUpper).foldl (fun n c => 16 * n + Unicode.hexDigitValue c) 0 = n := by
  induction n using Nat.strongRecOn with
  | ind n ih =>
    rw [Nat.toDigits_eq_if (by decide)]
    split
    · rename_i small
      obtain ⟨isHex, value⟩ := capital_hex n small
      simpa using ⟨isHex, value⟩
    · rename_i large
      obtain ⟨isHex, value⟩ := capital_hex (n % 16) (Nat.mod_lt n (by decide))
      obtain ⟨others, number⟩ := ih (n / 16) (by omega)
      rw [List.map_append, List.foldl_append, number]
      refine ⟨fun d member => ?_, ?_⟩
      · rcases List.mem_append.mp member with member | member
        · exact others d member
        · simp only [List.map_cons, List.map_nil, List.mem_singleton] at member
          rw [member, isHex]
      · simp only [List.map_cons, List.map_nil, List.foldl_cons, List.foldl_nil, value]
        exact Nat.div_add_mod n 16

/-- Every character has a number: the digits that its code is printed with. -/
theorem codes_hexCapital (c : Char) (width : Nat) : Codes (Text.hexCapital c.toNat width) c := by
  obtain ⟨isHex, value⟩ := hex_toDigits c.toNat
  have zeros (n : Nat) (others : List Char) :
      (List.replicate n '0' ++ others).foldl (fun n c => 16 * n + Unicode.hexDigitValue c) 0 =
        others.foldl (fun n c => 16 * n + Unicode.hexDigitValue c) 0 := by
    induction n with
    | zero => rfl
    | succ n ih => rw [List.replicate_succ, List.cons_append, List.foldl_cons, ← ih]; rfl
  unfold Text.hexCapital
  refine ⟨by simp, fun d member => ?_, ?_⟩
  · rcases List.mem_append.mp member with member | member
    · rw [List.eq_of_mem_replicate member]
      decide
    · exact isHex d member
  · have valid : c.toNat < 0xD800 ∨ 0xDFFF < c.toNat ∧ c.toNat ≤ 0x10FFFF := by
      rcases c.valid with low | ⟨above, below⟩
      · exact .inl low
      · exact .inr ⟨above, Nat.le_of_lt_succ below⟩
    unfold charOfHex?
    rw [zeros, value]
    simp only [valid, ↓reduceIte, Char.ofNat_toNat]

end Escape

namespace Settings

/-- Case is ignored and the character has another case in the universe. -/
def Folds (s : Settings) (flags : Flags) (c : Char) : Prop :=
  flags.ignoreCase = true ∧ 1 < (s.setOf (s.data.variants c)).size

variable {s : Settings} {flags : Flags} {c : Char}

theorem charPattern_of_folds (folds : s.Folds flags c) :
    s.charPattern flags c = .oneOf (.of (s.setOf (s.data.variants c)) false) := by
  unfold charPattern
  rw [if_pos folds.1]
  exact if_pos folds.2

theorem charPattern_of_not_folds (single : ¬s.Folds flags c) : s.charPattern flags c = .literal c.toString := by
  unfold charPattern
  by_cases ignoring : flags.ignoreCase = true
  · rw [if_pos ignoring]
    exact if_neg fun several => single ⟨ignoring, several⟩
  · exact if_neg ignoring

end Settings

/-! ### Inside of a class -/

namespace ClassSet

open Escape (Context Codes numbered)
open Cursor (cons_of_skip rest_inside_of_cons skip_inside_of_cons)

variable {ctx : Context} {start here a e : Cursor} {c : Char} {digits behind rest : List Char}
  {one : Item} {items found : List Item} {leaf : Pattern}

private theorem primitive_plain (next : here.rest = c :: behind) (plain : c ≠ '\\') :
    primitive ctx here = .ok (.literal c.toString, here.skip) := by
  unfold primitive
  rw [next]
  split
  · rename_i none
    cases none
  · rename_i same
    cases same
    exact absurd rfl plain
  · rename_i same
    cases same
    rfl

private theorem primitive_codes (codes : Codes digits c) (next : here.rest = numbered digits ++ behind) :
    ∃ after, after.rest = behind ∧
      primitive ctx here = .ok (ctx.settings.charPattern ctx.flags c, after) := by
  have text : here.skip.rest = 'x' :: '\x7b' :: digits ++ '\x7d' :: behind := by
    rw [Cursor.rest_skip, next]
    simp [numbered]
  obtain ⟨after, rest, read⟩ := @Escape.read_codes ctx here.skip digits behind c codes here text
  refine ⟨after, rest, ?_⟩
  unfold primitive
  rw [next]
  exact read

/-- What stands for the text of a class does not look for more than the class does. -/
private theorem apart_numbered (notClose : c ≠ ']') : Apart (c :: behind) (numbered digits ++ behind) := by
  refine ⟨List.cons_ne_nil _ _, by simp [numbered], by simp [numbered], fun d isOperator head => ?_, ?_⟩
  · obtain rfl : '\\' = d := Option.some.inj head
    cases isOperator
  · simp [numbered, notClose]

/-- A turn at a character that stands for itself takes it alone, or up to the other end of a range. -/
private theorem turn_plain {after : Cursor} (turn : Turn ctx start here one after)
    (place : here.rest = c :: behind) (plain : c ≠ '[' ∧ c ≠ ']' ∧ c ≠ '\\') :
    Alone behind ∧ one = .range c c ∧ after = here.skip ∨
      Joins behind ∧ ∃ second, primitive ctx here.skip.skip = .ok (second, after) ∧
        asRange here.offset (.literal c.toString) second = .ok one := by
  cases turn with
  | posix next =>
    cases place.symm.trans next
    exact absurd rfl plain.1
  | item next bracket operator single =>
    obtain ⟨first, after', isFirst, found⟩ := item_eq_ok.mp single
    cases (primitive_plain place plain.2.2).symm.trans isFirst
    rw [Cursor.rest_skip, place, List.tail_cons] at found
    refine found.imp_left fun ⟨alone, isItem, same⟩ => ⟨alone, ?_, same⟩
    have isItem' : asItem here.offset (.literal c.toString) = .ok (.range c c) := by
      simp [asItem, asChar, Char.toString, Functor.map, Except.map]
    cases isItem'.symm.trans isItem
    rfl

/-- A turn at the number of a character. -/
private theorem turn_numbered {after : Cursor} (next : here.rest = numbered digits ++ behind)
    (single : item ctx start here = .ok (one, after)) : Turn ctx start here one after := by
  refine .item next ⟨by decide, by decide⟩ ?_ single
  rintro ⟨isOperator, -⟩
  cases isOperator

/-- The number of a character, where it stands alone, is the character or the class of its cases. -/
private theorem asItem_charPattern (variants : Equivalence fun c d => d ∈ ctx.settings.data.variants c)
    (position : Nat) (c : Char) :
    ∃ one, asItem position (ctx.settings.charPattern ctx.flags c) = .ok one ∧ Exchanges ctx (.range c c) one := by
  by_cases folds : ctx.settings.Folds ctx.flags c
  · rw [Settings.charPattern_of_folds folds]
    exact ⟨_, rfl, exchanges_cases variants folds.1 c⟩
  · rw [Settings.charPattern_of_not_folds folds]
    refine ⟨.range c c, ?_, .refl ctx _⟩
    simp [asItem, asChar, Char.toString, Functor.map, Except.map]

/-- **A member of a class**, by its number. -/
private theorem read_member (variants : Equivalence fun c d => d ∈ ctx.settings.data.variants c)
    (codes : Codes digits c) (next : a.rest = '[' :: rest)
    (passes : Passes ctx (a.inside 0 (c :: behind)) found items here) (place : here.rest = c :: behind)
    (plain : c ≠ '[' ∧ c ≠ ']' ∧ c ≠ '\\') (alone : Alone behind)
    (read' : read ctx (a.inside 0 (c :: behind)) = .ok (leaf, e)) :
    ∃ e', e'.rest = e.rest ∧ read ctx (a.inside 0 (numbered digits ++ behind)) = .ok (leaf, e') := by
  refine read_replaced next (apart_numbered plain.2.1) (by simp [numbered]) passes place
    (fun head => plain.2.1 (Option.some.inj head)) (fun one after turn => ?_) read'
  obtain ⟨-, rfl, rfl⟩ | ⟨joins, -⟩ := turn_plain turn place plain
  · obtain ⟨after', rest', isNumber⟩ :=
      @primitive_codes ctx ⟨here.offset, numbered digits ++ behind⟩ c digits behind codes rfl
    obtain ⟨one', isItem, exchanges⟩ := asItem_charPattern variants here.offset c
    refine ⟨one', after', turn_numbered rfl (item_eq_ok.mpr ⟨_, after', isNumber, .inl ⟨?_, isItem, rfl⟩⟩), ?_,
      exchanges⟩
    · rw [rest']
      exact alone
    · rw [rest', Cursor.rest_skip, place, List.tail_cons]
  · exact absurd joins alone.not_joins

/-- **The lower end of a range**, by its number, where it is no class. -/
private theorem read_lower (codes : Codes digits c) (single : ¬ctx.settings.Folds ctx.flags c)
    (next : a.rest = '[' :: rest) (passes : Passes ctx (a.inside 0 (c :: behind)) found items here)
    (place : here.rest = c :: behind) (plain : c ≠ '[' ∧ c ≠ ']' ∧ c ≠ '\\') (joins : Joins behind)
    (read' : read ctx (a.inside 0 (c :: behind)) = .ok (leaf, e)) :
    ∃ e', e'.rest = e.rest ∧ read ctx (a.inside 0 (numbered digits ++ behind)) = .ok (leaf, e') := by
  refine read_replaced next (apart_numbered plain.2.1) (by simp [numbered]) passes place
    (fun head => plain.2.1 (Option.some.inj head)) (fun one after turn => ?_) read'
  obtain ⟨alone, -⟩ | ⟨-, second, isSecond, isRange⟩ := turn_plain turn place plain
  · exact absurd joins alone.not_joins
  · obtain ⟨after', rest', isNumber⟩ :=
      @primitive_codes ctx ⟨here.offset, numbered digits ++ behind⟩ c digits behind codes rfl
    rw [Settings.charPattern_of_not_folds single] at isNumber
    obtain ⟨stop, rest'', isSecond'⟩ := @primitive_moved ctx _ after'.skip _ _ isSecond
      (by rw [Cursor.rest_skip, rest', Cursor.rest_skip, Cursor.rest_skip, place, List.tail_cons])
    refine ⟨one, stop, turn_numbered rfl (item_eq_ok.mpr ⟨_, after', isNumber, .inr ⟨?_, second, isSecond',
      isRange⟩⟩), rest'', .refl ctx one⟩
    rw [rest']
    exact joins

/-- A class is no end of a range. -/
private theorem read_lower_refused (codes : Codes digits c) (folds : ctx.settings.Folds ctx.flags c)
    (next : a.rest = '[' :: rest) (passes : Passes ctx (a.inside 0 (c :: behind)) found items here)
    (place : here.rest = c :: behind) (plain : c ≠ '[' ∧ c ≠ ']' ∧ c ≠ '\\') (joins : Joins behind)
    (read' : read ctx (a.inside 0 (c :: behind)) = .ok (leaf, e)) :
    read ctx (a.inside 0 (numbered digits ++ behind)) =
      .error (.malformed here.offset .classRangeNotCharacter) := by
  obtain ⟨passes', -⟩ := passes_alike next (apart_numbered plain.2.1) (by simp [numbered]) passes place
  obtain ⟨one, after, -, -, -, turn, -⟩ :=
    exists_turn read' passes (place ▸ fun head => plain.2.1 (Option.some.inj head))
  obtain ⟨alone, -⟩ | ⟨-, second, isSecond, -⟩ := turn_plain turn place plain
  · exact absurd joins alone.not_joins
  · obtain ⟨after', rest', isNumber⟩ :=
      @primitive_codes ctx ⟨here.offset, numbered digits ++ behind⟩ c digits behind codes rfl
    obtain ⟨stop, -, isSecond'⟩ := @primitive_moved ctx _ after'.skip _ _ isSecond
      (by rw [Cursor.rest_skip, rest', Cursor.rest_skip, Cursor.rest_skip, place, List.tail_cons])
    rw [Settings.charPattern_of_folds folds] at isNumber
    refine read_of_refused passes' rfl ⟨by decide, by decide⟩ (fun twice => nomatch twice.1) ?_
    rw [item_of_joins isNumber (rest' ▸ joins) isSecond']
    rfl

/-- A turn at a leaf with a hyphen behind it takes both ends of a range. -/
private theorem turn_upper {d : Char} {others : List Char} {first : Pattern} {after stop : Cursor}
    (turn : Turn ctx start here one stop) (place : here.rest = d :: others) (notOpen : d ≠ '[')
    (isFirst : primitive ctx here = .ok (first, after)) (joined : after.rest = '-' :: c :: behind)
    (plain : c ≠ ']' ∧ c ≠ '-' ∧ c ≠ '\\') :
    ¬(isSetOperator d = true ∧ others.head? = some d) ∧ stop.rest = behind ∧
      asRange here.offset first (.literal c.toString) = .ok one := by
  have upper : after.skip.rest = c :: behind := by rw [Cursor.rest_skip, joined, List.tail_cons]
  cases turn with
  | posix next =>
    cases place.symm.trans next
    exact absurd rfl notOpen
  | item next bracket operator single =>
    cases place.symm.trans next
    obtain ⟨first', after', isFirst', found⟩ := item_eq_ok.mp single
    cases isFirst.symm.trans isFirst'
    rcases found with ⟨alone, -⟩ | ⟨-, second, isSecond, isRange⟩
    · exact absurd ⟨c, behind, joined, plain.1, plain.2.1⟩ alone.not_joins
    · cases (primitive_plain upper plain.2.2).symm.trans isSecond
      exact ⟨operator, by rw [Cursor.rest_skip, upper, List.tail_cons], isRange⟩

/-- A range does not end with a class. -/
private theorem asRange_upper_class {position : Nat} {first second : Pattern}
    (isRange : asRange position first second = .ok one) (cls : CharClass) :
    asRange position first (.oneOf cls) = .error (.malformed position .classRangeNotCharacter) := by
  obtain ⟨lo, -, isLo, -⟩ := asRange_eq_ok.mp isRange
  unfold asRange
  rw [isLo]
  rfl

/-- The lower end of a range is read in front of another upper end. -/
private theorem primitive_lower {first : Pattern} {after : Cursor}
    (isFirst : primitive ctx (a.inside 0 (c :: behind)) = .ok (first, after))
    (joined : after.rest = '-' :: c :: behind) (t' : List Char) :
    ∃ after', after'.rest = '-' :: t' ∧ primitive ctx (a.inside 0 t') = .ok (first, after') := by
  obtain ⟨b, rfl, again⟩ := alike_primitive (List.cons_ne_nil _ _) a t' first after isFirst
    (by rw [joined]; exact Nat.le_succ _)
  have hyphen : b.rest = ['-'] := List.append_cancel_right (joined : _ = ['-'] ++ c :: behind)
  exact ⟨_, by rw [Cursor.rest_inside, hyphen]; rfl, again⟩

/-- **The upper end of a range**, by its number: it is one where it is no class. -/
private theorem read_upper {d : Char} {others : List Char} {first : Pattern} {after : Cursor}
    (codes : Codes digits c) (next : a.rest = '[' :: rest)
    (passes : Passes ctx (a.inside 0 (c :: behind)) found items here) (place : here.rest = d :: others)
    (bracket : d ≠ '[' ∧ d ≠ ']') (isFirst : primitive ctx here = .ok (first, after))
    (joined : after.rest = '-' :: c :: behind) (plain : c ≠ ']' ∧ c ≠ '-' ∧ c ≠ '\\')
    (read' : read ctx (a.inside 0 (c :: behind)) = .ok (leaf, e)) :
    (¬ctx.settings.Folds ctx.flags c →
        ∃ e', e'.rest = e.rest ∧ read ctx (a.inside 0 (numbered digits ++ behind)) = .ok (leaf, e')) ∧
      (ctx.settings.Folds ctx.flags c →
        read ctx (a.inside 0 (numbered digits ++ behind)) =
          .error (.malformed here.offset .classRangeNotCharacter)) := by
  have notClose : here.rest.head? ≠ some ']' := place ▸ fun head => bracket.2 (Option.some.inj head)
  obtain ⟨one, stop, -, -, -, turn, -⟩ := exists_turn read' passes notClose
  obtain ⟨operator, -, isRange⟩ := turn_upper turn place bracket.1 isFirst joined plain
  have notHyphen : d ≠ '-' := by
    rintro rfl
    cases (primitive_plain place (by decide)).symm.trans isFirst
    rw [Cursor.rest_skip, place, List.tail_cons] at joined
    exact operator ⟨rfl, by rw [joined]; rfl⟩
  -- The same text, cut at the lower end instead of at the upper one.
  have farther := (reaches_primitive isFirst).length_le
  have before : (c :: behind).length ≤ after.rest.length := by rw [joined]; exact Nat.le_succ _
  obtain ⟨q, front, rfl, recut⟩ :=
    passes.recut next (Nat.le_trans before (Nat.le_trans farther (Cursor.length_skip_le here)))
  obtain ⟨d', others', isItem⟩ := cons_of_skip (List.cons_ne_nil _ _) (Nat.le_trans before farther)
  cases (rest_inside_of_cons isItem).symm.trans place
  have apart : Apart (q.rest ++ c :: behind) (q.rest ++ (numbered digits ++ behind)) := by
    rw [isItem]
    exact ⟨by simp, by simp, by simpa using notHyphen, by simp, by simp⟩
  have unmarked : (q.rest ++ (numbered digits ++ behind)).head? = some '^' →
      (q.rest ++ c :: behind).head? = some '^' := by
    rw [isItem]
    exact id
  have operator' : ¬(isSetOperator d = true ∧ (others' ++ (numbered digits ++ behind)).head? = some d) := by
    cases others' with
    | nil =>
      rw [Cursor.rest_skip, place, List.tail_cons, joined] at farther
      exact absurd farther (by simp)
    | cons f others' => exact operator
  -- The number of the upper end, behind the lower end and the hyphen.
  obtain ⟨after', joined', again⟩ := primitive_lower isFirst joined (numbered digits ++ behind)
  have joins' : Joins after'.rest := ⟨'\\', _, joined', by decide, by decide⟩
  obtain ⟨stop', rest', isNumber⟩ := @primitive_codes ctx after'.skip c digits behind codes
    (by rw [Cursor.rest_skip, joined', List.tail_cons])
  rw [recut] at passes read' ⊢
  constructor
  · intro single
    rw [Settings.charPattern_of_not_folds single] at isNumber
    refine read_replaced rfl apart unmarked passes rfl notClose (fun one stop turn => ?_) read'
    obtain ⟨-, rest'', isRange⟩ := turn_upper turn place bracket.1 isFirst joined plain
    exact ⟨one, stop', .item (rest_inside_of_cons isItem) bracket operator'
      (item_eq_ok.mpr ⟨first, _, again, .inr ⟨joins', _, isNumber, isRange⟩⟩), rest'.trans rest''.symm,
      .refl ctx one⟩
  · intro folds
    obtain ⟨passes', -⟩ := passes_alike rfl apart unmarked passes rfl
    rw [Settings.charPattern_of_folds folds] at isNumber
    have refused : item ctx ((Cursor.mk a.offset ('[' :: front)).inside 0 (q.rest ++ (numbered digits ++ behind)))
        (q.inside 0 (numbered digits ++ behind)) = .error (.malformed q.offset .classRangeNotCharacter) := by
      rw [item_of_joins again joins' isNumber]
      exact congrArg _ (asRange_upper_class (asRange_of_asRange isRange q.offset) _)
    exact read_of_refused passes' (rest_inside_of_cons isItem) bracket operator' refused

/-- The last of the characters that open a class is behind hyphens only. -/
private theorem leads_cons {lead text : List Char} (leads : Leads lead (.range c c :: found) text) :
    ∃ n, lead = List.replicate n '-' ++ [c] ∧ found = List.replicate n (.range '-' '-') := by
  generalize isFound : (Item.range c c :: found) = all at leads
  cases leads with
  | @hyphens n text first bare =>
    cases n with
    | zero => cases isFound
    | succ n =>
      rw [List.replicate_succ] at isFound
      cases isFound
      exact ⟨n, List.replicate_succ', rfl⟩
  | bracket =>
    cases isFound
    exact ⟨0, rfl, rfl⟩

/-- **A character that comes first** and stands for itself only there, by its number. -/
private theorem read_leading (variants : Equivalence fun c d => d ∈ ctx.settings.data.variants c)
    (codes : Codes digits c) (next : a.rest = '[' :: rest)
    (opens : opening (a.inside 0 (c :: behind)) = .ok (.range c c :: found, here)) (place : here.rest = behind)
    (alone : Alone behind) (read' : read ctx (a.inside 0 (c :: behind)) = .ok (leaf, e)) :
    ∃ e', e'.rest = e.rest ∧ read ctx (a.inside 0 (numbered digits ++ behind)) = .ok (leaf, e') := by
  obtain ⟨all, items, close, rest', ⟨first, opens', turns⟩, closes, built, rfl⟩ := read_eq_ok.mp read'
  cases opens.symm.trans opens'
  obtain ⟨lead, split, -, -, leads⟩ := opening_eq_ok.mp opens
  obtain ⟨n, rfl, rfl⟩ := leads_cons leads
  have past (more : List Char) : (a.inside 0 more).skip.rest = rest ++ more := by
    rw [skip_inside_of_cons next, Cursor.rest_inside, Cursor.rest_skip, next, List.tail_cons]
  have front : rest = caret (isNegated (a.inside 0 (c :: behind))) ++ List.replicate n '-' := by
    refine (List.append_left_inj (c :: behind)).mp ?_
    rw [← past, split, place]
    simp
  have same : isNegated (a.inside 0 (numbered digits ++ behind)) = isNegated (a.inside 0 (c :: behind)) :=
    isNegated_alike next (by simp [numbered]) ⟨_, by rw [Cursor.rest_skip, next, List.tail_cons, ← front]⟩
  generalize isPlace : (a.inside 0 (numbered digits ++ behind)).skip.skipMany
    (caret (isNegated (a.inside 0 (numbered digits ++ behind))) ++ List.replicate n '-').length = there
  have text : there.rest = numbered digits ++ behind := by
    rw [← isPlace, Cursor.rest_skipMany, past, same, front, List.drop_left]
  have passes : Passes ctx (a.inside 0 (numbered digits ++ behind)) (List.replicate n (.range '-' '-')) []
      there := by
    refine ⟨there, opening_eq_ok.mpr ⟨_, ?_, isPlace.symm, ?_, .hyphens ?_ fun _ => ?_⟩, .nil there⟩
    · rw [past, same, front, text]
    · rw [text]
      exact List.cons_ne_nil _ _
    · rw [text]
      simp [numbered]
    · rw [text]
      simp [numbered]
  obtain ⟨after', rest', isNumber⟩ := @primitive_codes ctx there c digits behind codes text
  obtain ⟨one', isItem, exchanges⟩ := asItem_charPattern variants there.offset c
  refine read_of_passes turns closes ?_ passes same
    (turn_numbered text (item_eq_ok.mpr ⟨_, after', isNumber, .inl ⟨rest' ▸ alone, isItem, rfl⟩⟩))
    (rest'.trans place.symm) exchanges
  simpa using built

/-- In the class that opens at `start`, a character in front of `behind` stands for itself: alone, or, as the flag
says, as an end of a range. A hyphen or bracket that opens the class stands for itself only because it comes
first. Of these, the last one counts, and only if no hyphen follows that would join anything else to what is
behind it: the hyphens in front of the last one are left out, and so are the openings of `[--a]` and `[]-a]`. -/
inductive Stands (ctx : Context) (start : Cursor) (c : Char) (behind : List Char) : Bool → Prop
  | leading {found : List Item} {first : Cursor} (opens : opening start = .ok (.range c c :: found, first))
    (place : first.rest = behind) (alone : Alone behind) : Stands ctx start c behind false
  | member {found items : List Item} {here : Cursor} (passes : Passes ctx start found items here)
    (place : here.rest = c :: behind) (plain : c ≠ '[' ∧ c ≠ ']' ∧ c ≠ '\\') (alone : Alone behind) :
    Stands ctx start c behind false
  | lower {found items : List Item} {here : Cursor} (passes : Passes ctx start found items here)
    (place : here.rest = c :: behind) (plain : c ≠ '[' ∧ c ≠ ']' ∧ c ≠ '\\') (joins : Joins behind) :
    Stands ctx start c behind true
  | upper {found items : List Item} {here after : Cursor} {d : Char} {others : List Char} {first : Pattern}
    (passes : Passes ctx start found items here) (place : here.rest = d :: others) (bracket : d ≠ '[' ∧ d ≠ ']')
    (lower : primitive ctx here = .ok (first, after)) (joined : after.rest = '-' :: c :: behind)
    (plain : c ≠ ']' ∧ c ≠ '-' ∧ c ≠ '\\') : Stands ctx start c behind true

/-- A character that stands for itself in a class stands behind the bracket. -/
theorem Stands.exists_front {isEnd : Bool} (stands : Stands ctx start c behind isEnd) :
    ∃ front, start.skip.rest = front ++ c :: behind := by
  cases stands with
  | leading opens place alone =>
    obtain ⟨lead, split, -, -, leads⟩ := opening_eq_ok.mp opens
    obtain ⟨n, rfl, -⟩ := leads_cons leads
    exact ⟨caret (isNegated start) ++ List.replicate n '-', by rw [split, place]; simp⟩
  | member passes place | lower passes place =>
    obtain ⟨front, split⟩ := passes.reaches.exists_append
    exact ⟨front, by rw [split, place]⟩
  | upper passes place bracket lower joined =>
    obtain ⟨front, split⟩ := (passes.reaches.trans ((Cursor.reaches_skip _).trans
      (reaches_primitive lower))).exists_append
    exact ⟨front ++ ['-'], by rw [split, joined]; simp⟩

/-- **A character of a class by its number** is read for what the character is read for, unless it is an end of a
range and has another case that counts. Then the class is refused. -/
theorem read_numbered {isEnd : Bool} (variants : Equivalence fun c d => d ∈ ctx.settings.data.variants c)
    (codes : Codes digits c) (next : a.rest = '[' :: rest)
    (stands : Stands ctx (a.inside 0 (c :: behind)) c behind isEnd)
    (read' : read ctx (a.inside 0 (c :: behind)) = .ok (leaf, e)) :
    (¬(isEnd = true ∧ ctx.settings.Folds ctx.flags c) →
        ∃ e', e'.rest = e.rest ∧ read ctx (a.inside 0 (numbered digits ++ behind)) = .ok (leaf, e')) ∧
      (isEnd = true ∧ ctx.settings.Folds ctx.flags c → ∃ position,
        read ctx (a.inside 0 (numbered digits ++ behind)) =
          .error (.malformed position .classRangeNotCharacter)) := by
  cases stands with
  | leading opens place alone =>
    exact ⟨fun _ => read_leading variants codes next opens place alone read', nofun⟩
  | member passes place plain alone =>
    exact ⟨fun _ => read_member variants codes next passes place plain alone read', nofun⟩
  | lower passes place plain joins =>
    exact ⟨fun single => read_lower codes (fun folds => single ⟨rfl, folds⟩) next passes place plain joins read',
      fun folds => ⟨_, read_lower_refused codes folds.2 next passes place plain joins read'⟩⟩
  | upper passes place bracket lower joined plain =>
    obtain ⟨replaced, refused⟩ := read_upper codes next passes place bracket lower joined plain read'
    exact ⟨fun single => replaced fun folds => single ⟨rfl, folds⟩, fun folds => ⟨_, refused folds.2⟩⟩

end ClassSet

end PatternForge
