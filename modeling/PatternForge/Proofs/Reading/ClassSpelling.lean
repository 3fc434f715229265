import PatternForge.Proofs.Reading.Leaves
import PatternForge.Proofs.Reading.Places
import PatternForge.Reading.ClassSet

/-!
How bracketed classes are spelled. `SpellsClass` relates the text of a class to what its author wrote:
whether the class is negated and its items one by one, each with its own negation. No set of
characters occurs in it, and the reader is not used to define it.
-/
namespace PatternForge.ClassSet

open Escape (Context)

/-- One item of a class as it is written. -/
inductive Written where
  /-- A character, by itself or by an escape sequence. -/
  | character (c : Char)
  /-- The characters between two. -/
  | range (lo hi : Char)
  /-- A Perl class or a property class with the characters it names. -/
  | named (holds : Char → Bool) (negated : Bool)
  /-- A POSIX class with the table of its name. -/
  | posix (ranges : List (Char × Char)) (negated : Bool)

/-- The characters of an escape sequence for one character, behind the backslash. -/
inductive SpellsEscape : List Char → Char → List Char → Prop
  | mark {c : Char} {rest : List Char} (escapable : Escape.isEscapable c = true) :
    SpellsEscape (c :: rest) c rest
  | control {letter c : Char} {rest : List Char} (named : Escape.controlChar? letter = some c) :
    SpellsEscape (letter :: rest) c rest
  | fixed {letter c : Char} {count : Nat} {digits rest : List Char}
    (announced : (letter, count) ∈ [('x', 2), ('u', 4), ('U', 8)]) (all : digits.length = count)
    (hexadecimal : ∀ d ∈ digits, Escape.isHexDigit d = true)
    (code : Escape.charOfHex? digits = some c) : SpellsEscape (letter :: digits ++ rest) c rest
  | braced {letter c : Char} {digits rest : List Char} (announced : letter ∈ ['x', 'u', 'U'])
    (nonempty : digits ≠ []) (hexadecimal : ∀ d ∈ digits, Escape.isHexDigit d = true)
    (code : Escape.charOfHex? digits = some c) :
    SpellsEscape (letter :: '\x7b' :: digits ++ '\x7d' :: rest) c rest

/-- The Perl classes by their letters, each with the characters it names and its negation. -/
def perlClasses (data : CharacterData) : List (Char × (Char → Bool) × Bool) :=
  [('d', data.digit, false), ('D', data.digit, true), ('s', data.space, false),
    ('S', data.space, true), ('w', data.word, false), ('W', data.word, true)]

/-- The characters of a Perl class or a property class, behind the backslash. -/
inductive SpellsNamed (ctx : Context) : List Char → (Char → Bool) → Bool → List Char → Prop
  | perl {letter : Char} {holds : Char → Bool} {negated : Bool} {rest : List Char}
    (listed : (letter, holds, negated) ∈ perlClasses ctx.settings.data) :
    SpellsNamed ctx (letter :: rest) holds negated rest
  | letter {mark name : Char} {holds : Char → Bool} {negated : Bool} {rest : List Char}
    (announced : (mark, negated) ∈ [('p', false), ('P', true)]) (notBrace : name ≠ '\x7b')
    (known : ctx.settings.data.property ctx.flags.ignoreCase (String.ofList [name]) = some holds) :
    SpellsNamed ctx (mark :: name :: rest) holds negated rest
  | braced {mark : Char} {name : List Char} {holds : Char → Bool} {negated : Bool}
    {rest : List Char} (announced : (mark, negated) ∈ [('p', false), ('P', true)])
    (notBrace : '\x7d' ∉ name)
    (known : ctx.settings.data.property ctx.flags.ignoreCase (String.ofList name) = some holds) :
    SpellsNamed ctx (mark :: '\x7b' :: name ++ '\x7d' :: rest) holds negated rest

/-- A character or a named class, by itself or as an end of a range. -/
inductive SpellsUnit (ctx : Context) : List Char → Written → List Char → Prop
  | plain {c : Char} {rest : List Char} (notEscape : c ≠ '\\') :
    SpellsUnit ctx (c :: rest) (.character c) rest
  | escaped {text rest : List Char} {c : Char} (spelled : SpellsEscape text c rest) :
    SpellsUnit ctx ('\\' :: text) (.character c) rest
  | named {text rest : List Char} {holds : Char → Bool} {negated : Bool}
    (spelled : SpellsNamed ctx text holds negated rest) :
    SpellsUnit ctx ('\\' :: text) (.named holds negated) rest

/-- The caret of a negation. -/
def caret (negated : Bool) : List Char := if negated then ['^'] else []

/-- A hyphen here joins two characters: it is neither the last character of the class nor followed
by another hyphen. -/
def Joins (text : List Char) : Prop :=
  ∃ next rest, text = '-' :: next :: rest ∧ next ≠ ']' ∧ next ≠ '-'

/-- The items up to and including the closing bracket. -/
inductive SpellsItems (ctx : Context) : List Char → List Written → List Char → Prop
  | close {rest : List Char} : SpellsItems ctx (']' :: rest) [] rest
  | posix {name text rest : List Char} {ranges : List (Char × Char)} {negated : Bool}
    {others : List Written} (plain : ':' ∉ name) (bare : negated = false → name.head? ≠ some '^')
    (known : posixRanges? (String.ofList name) = some ranges)
    (spelled : SpellsItems ctx text others rest) :
    SpellsItems ctx ('[' :: ':' :: caret negated ++ name ++ ':' :: ']' :: text)
      (.posix ranges negated :: others) rest
  | single {text more rest : List Char} {one : Written} {others : List Written}
    (bracket : text.head? ≠ some '[' ∧ text.head? ≠ some ']') (unit : SpellsUnit ctx text one more)
    (alone : ¬Joins more) (spelled : SpellsItems ctx more others rest) :
    SpellsItems ctx text (one :: others) rest
  | range {text second more rest : List Char} {lo hi : Char} {others : List Written}
    (bracket : text.head? ≠ some '[' ∧ text.head? ≠ some ']')
    (first : SpellsUnit ctx text (.character lo) ('-' :: second)) (joins : Joins ('-' :: second))
    (last : SpellsUnit ctx second (.character hi) more) (ordered : lo ≤ hi)
    (spelled : SpellsItems ctx more others rest) :
    SpellsItems ctx text (.range lo hi :: others) rest

/-- A whole class behind its opening bracket. Hyphens at the start stand for themselves, and so does a
closing bracket. -/
inductive SpellsClass (ctx : Context) : List Char → Bool → List Written → List Char → Prop
  | hyphens {negated : Bool} {n : Nat} {text rest : List Char} {others : List Written}
    (first : text.head? ≠ some '-') (bare : n = 0 → text.head? ≠ some ']')
    (unmarked : negated = false → n = 0 → text.head? ≠ some '^')
    (spelled : SpellsItems ctx text others rest) :
    SpellsClass ctx (caret negated ++ List.replicate n '-' ++ text) negated
      (List.replicate n (.character '-') ++ others) rest
  | bracket {negated : Bool} {text rest : List Char} {others : List Written}
    (spelled : SpellsItems ctx text others rest) :
    SpellsClass ctx (caret negated ++ ']' :: text) negated (.character ']' :: others) rest

/-! ### One equation for each turn of the loop over items -/

theorem readItems_close {ctx : Context} {start here : Cursor} {rest : List Char}
    (next : here.rest = ']' :: rest) (negated : Bool) (found : List Item) :
    readItems ctx start negated here found =
      (fun leaf => (leaf, here.skip)) <$> build ctx start here.skip negated found.reverse := by
  rw [readItems_more next, if_neg (by decide), if_pos rfl]

theorem readItems_posix {ctx : Context} {start here after : Cursor} {rest : List Char}
    {set : CharSet} (next : here.rest = '[' :: rest) (shown : posix? ctx here = some (set, after))
    (negated : Bool) (found : List Item) :
    readItems ctx start negated here found =
      readItems ctx start negated after (.set set :: found) := by
  rw [readItems_more next, if_pos rfl, shown]

theorem readItems_item {ctx : Context} {start here after : Cursor} {c : Char} {rest : List Char}
    {one : Item} (next : here.rest = c :: rest) (bracket : c ≠ '[' ∧ c ≠ ']')
    (operator : ¬(isSetOperator c = true ∧ rest.head? = some c))
    (single : item ctx start here = .ok (one, after)) (negated : Bool) (found : List Item) :
    readItems ctx start negated here found = readItems ctx start negated after (one :: found) := by
  rw [readItems_more next, if_neg bracket.1, if_neg bracket.2, if_neg operator, single]

/-! ### What the readers accept is spelled -/

private theorem namedProperty_eq_ok {ctx : Context} {start after stop : Cursor} {name : List Char}
    {negated : Bool} {leaf : Pattern}
    (read : Escape.namedProperty ctx start after name negated = .ok (leaf, stop)) :
    stop = after ∧ ∃ holds,
      ctx.settings.data.property ctx.flags.ignoreCase (String.ofList name) = some holds ∧
        leaf = .oneOf (.of (.ofPredicate ctx.settings.domain holds) negated) := by
  unfold Escape.namedProperty at read
  split at read
  · cases read
  · rename_i holds known
    split at read
    · cases read
    · rename_i leaf' isLeaf
      cases read
      exact ⟨rfl, holds, known, (Settings.classPattern_eq_ok.mp isLeaf).2⟩

private theorem spells_of_propertyClass {ctx : Context} {start here after : Cursor}
    {negated : Bool} {leaf : Pattern} {mark : Char} {rest : List Char}
    (announced : (mark, negated) ∈ [('p', false), ('P', true)]) (next : here.rest = mark :: rest)
    (read : Escape.propertyClass ctx start here negated = .ok (leaf, after)) :
    ∃ holds, SpellsNamed ctx here.rest holds negated after.rest ∧
      leaf = .oneOf (.of (.ofPredicate ctx.settings.domain holds) negated) := by
  unfold Escape.propertyClass at read
  rw [Cursor.rest_skip, next, List.tail_cons] at read
  split at read
  · cases read
  · rename_i inside
    dsimp only at read
    split at read
    · cases read
    · rename_i closed
      obtain ⟨rfl, holds, known, rfl⟩ := namedProperty_eq_ok read
      refine ⟨holds, ?_, rfl⟩
      rw [Cursor.rest_of_atEnd] at closed
      simp only [Cursor.rest_skip, Cursor.rest_skipWhile, Cursor.charsTo_skipWhile, next,
        List.tail_cons] at closed known ⊢
      obtain ⟨name, others, rfl, absent, taken, dropped⟩ :=
        Cursor.takeWhile_ne_of_dropWhile closed
      rw [taken] at known
      rw [dropped]
      exact .braced announced absent known
  · rename_i c others notBrace
    obtain ⟨rfl, holds, known, rfl⟩ := namedProperty_eq_ok read
    refine ⟨holds, ?_, rfl⟩
    simp only [Cursor.rest_skip, next, List.tail_cons]
    exact .letter announced notBrace known

private theorem spells_of_hex {start here after : Cursor} {letter c : Char}
    {count : Nat} {rest : List Char} (announced : (letter, count) ∈ [('x', 2), ('u', 4), ('U', 8)])
    (next : here.rest = letter :: rest) (read : Escape.hex start here count = .ok (c, after)) :
    SpellsEscape here.rest c after.rest := by
  unfold Escape.hex at read
  rw [Cursor.rest_skip, next, List.tail_cons] at read
  rw [next]
  split at read
  · cases read
  · rename_i inside
    unfold Escape.bracedHex at read
    dsimp only at read
    split at read
    · cases read
    · rename_i others closed
      split at read
      · cases read
      · rename_i nonempty
        split at read
        · rename_i code
          cases read
          simp only [Cursor.rest_skip, Cursor.rest_skipWhile, Cursor.charsTo_skipWhile, next,
            List.tail_cons] at closed nonempty code ⊢
          have parts := List.takeWhile_append_dropWhile (p := Escape.isHexDigit) (l := inside)
          rw [closed] at parts
          rw [closed, List.tail_cons, ← parts]
          refine .braced ?_ (by simpa using nonempty) ?_ code
          · exact List.mem_map_of_mem (f := Prod.fst) announced
          · exact List.all_eq_true.mp List.all_takeWhile
        · cases read
    · cases read
  · unfold Escape.fixedHex at read
    dsimp only at read
    split at read
    · split at read <;> cases read
    · rename_i long
      split at read
      · rename_i code
        cases read
        simp only [Cursor.rest_skip, Cursor.rest_skipMany, next, List.tail_cons] at long code ⊢
        have isPrefix := (List.takeWhile_prefix Escape.isHexDigit).trans (List.take_prefix count rest)
        have within := (List.takeWhile_prefix Escape.isHexDigit (l := rest.take count)).length_le
        obtain ⟨others, split⟩ := isPrefix
        generalize digitsAre : (rest.take count).takeWhile Escape.isHexDigit = digits at *
        rw [List.length_take] at within
        rw [← split, List.drop_left]
        refine .fixed announced (by omega) ?_ code
        rw [← digitsAre]
        exact List.all_eq_true.mp List.all_takeWhile
      · cases read

/-- What an escape sequence was read as, by the leaf that it gave. -/
inductive ReadsEscape (ctx : Context) (text : List Char) : Pattern → List Char → Prop
  | character {c : Char} {rest : List Char} (spelled : SpellsEscape text c rest) :
    ReadsEscape ctx text (ctx.settings.charPattern ctx.flags c) rest
  | named {holds : Char → Bool} {negated : Bool} {rest : List Char}
    (spelled : SpellsNamed ctx text holds negated rest) :
    ReadsEscape ctx text (.oneOf (.of (.ofPredicate ctx.settings.domain holds) negated)) rest
  | anchor {kind : Anchor} {rest : List Char} : ReadsEscape ctx text (.anchor kind) rest
  | reference {index : Nat} {rest : List Char} (closed : index ∈ ctx.closed)
    (digit : 1 ≤ index ∧ index ≤ 9) :
    ReadsEscape ctx text (.backreference index) rest

private theorem reads_of_hexLeaf {ctx : Context} {start here after : Cursor} {letter : Char}
    {count : Nat} {leaf : Pattern} {rest : List Char}
    (announced : (letter, count) ∈ [('x', 2), ('u', 4), ('U', 8)])
    (next : here.rest = letter :: rest)
    (read : Escape.hexLeaf ctx start here count = .ok (leaf, after)) :
    ReadsEscape ctx here.rest leaf after.rest := by
  unfold Escape.hexLeaf at read
  split at read
  · cases read
  · rename_i isHex
    cases read
    exact .character (spells_of_hex announced next isHex)

private theorem reads_of_perlClass {ctx : Context} {start here after : Cursor} {letter : Char}
    {holds : Char → Bool} {negated : Bool} {leaf : Pattern} {rest : List Char}
    (listed : (letter, holds, negated) ∈ perlClasses ctx.settings.data)
    (next : here.rest = letter :: rest)
    (read : Escape.perlClass ctx start here holds negated = .ok (leaf, after)) :
    ReadsEscape ctx here.rest leaf after.rest := by
  unfold Escape.perlClass at read
  split at read
  · cases read
  · rename_i isLeaf
    cases read
    rw [(Settings.classPattern_eq_ok.mp isLeaf).2, Cursor.rest_skip, next, List.tail_cons]
    exact .named (.perl listed)

private theorem reads_of_propertyClass {ctx : Context} {start here after : Cursor} {mark : Char}
    {negated : Bool} {leaf : Pattern} {rest : List Char}
    (announced : (mark, negated) ∈ [('p', false), ('P', true)]) (next : here.rest = mark :: rest)
    (read : Escape.propertyClass ctx start here negated = .ok (leaf, after)) :
    ReadsEscape ctx here.rest leaf after.rest := by
  obtain ⟨holds, spelled, rfl⟩ := spells_of_propertyClass announced next read
  exact .named spelled

private theorem reads_of_single {ctx : Context} {start here after : Cursor} {c : Char}
    {leaf : Pattern} {rest : List Char} (next : here.rest = c :: rest)
    (read : Escape.single ctx start here c = .ok (leaf, after)) :
    ReadsEscape ctx here.rest leaf after.rest := by
  unfold Escape.single at read
  split at read
  · rename_i escapable
    cases read
    rw [Cursor.rest_skip, next, List.tail_cons]
    exact .character (.mark escapable)
  · split at read
    · rename_i named
      cases read
      rw [Cursor.rest_skip, next, List.tail_cons]
      exact .character (.control named)
    · cases read
      exact .anchor
    · cases read

/-- Every accepted escape sequence is spelled as one of the known kinds. -/
theorem reads_of_escape {ctx : Context} {start here after : Cursor} {leaf : Pattern}
    (read : Escape.read ctx start here = .ok (leaf, after)) :
    ReadsEscape ctx here.rest leaf after.rest := by
  unfold Escape.read at read
  split at read
  · cases read
  · rename_i c rest next
    dsimp only at read
    split at read
    case h_1 => exact reads_of_propertyClass (by simp) next read
    case h_2 => exact reads_of_propertyClass (by simp) next read
    case h_3 => exact reads_of_hexLeaf (by simp) next read
    case h_4 => exact reads_of_hexLeaf (by simp) next read
    case h_5 => exact reads_of_hexLeaf (by simp) next read
    case h_6 => exact reads_of_perlClass (by simp [perlClasses]) next read
    case h_7 => exact reads_of_perlClass (by simp [perlClasses]) next read
    case h_8 => exact reads_of_perlClass (by simp [perlClasses]) next read
    case h_9 => exact reads_of_perlClass (by simp [perlClasses]) next read
    case h_10 => exact reads_of_perlClass (by simp [perlClasses]) next read
    case h_11 => exact reads_of_perlClass (by simp [perlClasses]) next read
    case h_12 => cases read
    case h_13 => cases read
    case h_14 => cases read
    case h_15 =>
      split at read
      · rename_i digit
        unfold Escape.backreference at read
        dsimp only at read
        split at read
        · rename_i closed
          cases read
          refine .reference (by simpa using closed) ?_
          have low : '1'.toNat ≤ c.toNat := digit.1
          have high : c.toNat ≤ '9'.toNat := digit.2
          have codes : '0'.toNat = 48 ∧ '1'.toNat = 49 ∧ '9'.toNat = 57 := by decide
          omega
        · cases read
      · exact reads_of_single next read

/-- What the reader makes of a written item. Where case is ignored, a character that was written by
an escape sequence is the class of its cases already. -/
inductive Resolves (ctx : Context) : Written → Item → Prop
  | character (c : Char) : Resolves ctx (.character c) (.range c c)
  | cases (c : Char) (ignoring : ctx.flags.ignoreCase = true) :
    Resolves ctx (.character c)
      (.set (CharClass.of (ctx.settings.setOf (ctx.settings.data.variants c)) false).effective)
  | range {lo hi : Char} (ordered : lo ≤ hi) : Resolves ctx (.range lo hi) (.range lo hi)
  | named {text rest : List Char} {holds : Char → Bool} {negated : Bool}
    (spelled : SpellsNamed ctx text holds negated rest) :
    Resolves ctx (.named holds negated)
      (.set (CharClass.of (.ofPredicate ctx.settings.domain holds) negated).effective)
  | posix (ranges : List (Char × Char)) (negated : Bool) :
    Resolves ctx (.posix ranges negated)
      (.set (if negated then (setOfRanges ctx.settings ranges).complement
        else setOfRanges ctx.settings ranges))

/-- What a character or an escape sequence inside a class was read as. -/
private inductive ReadsUnit (ctx : Context) : List Char → Pattern → List Char → Prop
  | plain {c : Char} {rest : List Char} (notEscape : c ≠ '\\') :
    ReadsUnit ctx (c :: rest) (.literal c.toString) rest
  | escape {text rest : List Char} {leaf : Pattern} (read : ReadsEscape ctx text leaf rest) :
    ReadsUnit ctx ('\\' :: text) leaf rest

private theorem reads_of_primitive {ctx : Context} {here after : Cursor} {leaf : Pattern}
    (read : primitive ctx here = .ok (leaf, after)) :
    ReadsUnit ctx here.rest leaf after.rest := by
  unfold primitive at read
  split at read
  · cases read
  · rename_i text next
    have inside := reads_of_escape read
    rw [Cursor.rest_skip, next, List.tail_cons] at inside
    rw [next]
    exact .escape inside
  · rename_i c text notEscape next
    cases read
    rw [Cursor.rest_skip, next, List.tail_cons]
    exact .plain notEscape

private theorem asChar_literal {position : Nat} {c d : Char}
    (read : asChar position (.literal c.toString) = .ok d) : c = d := by
  simpa [asChar, Char.toString] using read

/-- An end of a range is a character that was written, also where case is ignored. -/
private theorem spells_of_asChar {ctx : Context} {text rest : List Char} {leaf : Pattern}
    {position : Nat} {c : Char} (unit : ReadsUnit ctx text leaf rest)
    (read : asChar position leaf = .ok c) : SpellsUnit ctx text (.character c) rest := by
  cases unit with
  | plain notEscape =>
    obtain rfl := asChar_literal read
    exact .plain notEscape
  | escape inside =>
    cases inside with
    | character spelled =>
      unfold Settings.charPattern at read
      dsimp only at read
      repeat' split at read
      · cases read
      · obtain rfl := asChar_literal read
        exact .escaped spelled
      · obtain rfl := asChar_literal read
        exact .escaped spelled
    | named => cases read
    | anchor => cases read
    | reference => cases read

private theorem asItem_literal {position : Nat} {c : Char} {item : Item}
    (read : asItem position (.literal c.toString) = .ok item) : item = .range c c := by
  have single : asItem position (.literal c.toString) = .ok (.range c c) := by
    simp [asItem, asChar, Char.toString, Functor.map, Except.map]
  rw [single] at read
  cases read
  rfl

private theorem spells_of_asItem {ctx : Context} {text rest : List Char} {leaf : Pattern}
    {position : Nat} {item : Item} (unit : ReadsUnit ctx text leaf rest)
    (read : asItem position leaf = .ok item) :
    ∃ one, SpellsUnit ctx text one rest ∧ Resolves ctx one item := by
  cases unit with
  | plain notEscape =>
    rw [asItem_literal read]
    exact ⟨_, .plain notEscape, .character _⟩
  | escape inside =>
    cases inside with
    | @character c _ spelled =>
      unfold Settings.charPattern at read
      dsimp only at read
      split at read
      · rename_i ignoring
        split at read
        · cases read
          exact ⟨_, .escaped spelled, .cases c ignoring⟩
        · rw [asItem_literal read]
          exact ⟨_, .escaped spelled, .character c⟩
      · rw [asItem_literal read]
        exact ⟨_, .escaped spelled, .character c⟩
    | named spelled =>
      cases read
      exact ⟨_, .named spelled, .named spelled⟩
    | anchor => cases read
    | reference => cases read

theorem map_eq_ok {α β : Type} {f : α → β} {x : Except Failure α} {y : β}
    (mapped : f <$> x = .ok y) : ∃ a, x = .ok a ∧ f a = y := by
  cases x with
  | error failure => cases mapped
  | ok a => cases mapped; exact ⟨a, rfl, rfl⟩

theorem asRange_eq_ok {position : Nat} {first second : Pattern} {item : Item} :
    asRange position first second = .ok item ↔
      ∃ lo hi, asChar position first = .ok lo ∧ asChar position second = .ok hi ∧ lo ≤ hi ∧
        item = .range lo hi := by
  constructor
  · intro read
    unfold asRange at read
    cases isLo : asChar position first with
    | error failure => rw [isLo] at read; cases read
    | ok lo =>
      cases isHi : asChar position second with
      | error failure => rw [isLo, isHi] at read; cases read
      | ok hi =>
        rw [isLo, isHi] at read
        simp only [bind, Except.bind, pure, Except.pure] at read
        split at read
        · cases read
        · rename_i ordered
          cases read
          exact ⟨lo, hi, rfl, rfl, Char.not_lt.mp ordered, rfl⟩
  · rintro ⟨lo, hi, isLo, isHi, ordered, rfl⟩
    unfold asRange
    rw [isLo, isHi]
    exact if_neg (Char.not_lt.mpr ordered)

/-- What follows does not join an item to another one: it is there, and a hyphen in front of it stands
before a closing bracket or another hyphen. -/
def Alone (text : List Char) : Prop :=
  ∃ c rest, text = c :: rest ∧ (c = '-' → rest.head? = some ']' ∨ rest.head? = some '-')

theorem Alone.not_joins {text : List Char} (alone : Alone text) : ¬Joins text := by
  rintro ⟨next, rest, rfl, notBracket, notHyphen⟩
  obtain ⟨c, others, same, isHyphen⟩ := alone
  cases same
  rcases isHyphen rfl with next | next
  · exact notBracket (Option.some.inj next)
  · exact notHyphen (Option.some.inj next)

/-- An accepted item is a single one that no hyphen joins to the next, or a range. -/
theorem reads_of_item {ctx : Context} {start here after : Cursor} {found : Item}
    (read : item ctx start here = .ok (found, after)) :
    (∃ one, SpellsUnit ctx here.rest one after.rest ∧ Resolves ctx one found ∧ Alone after.rest) ∨
      ∃ lo hi second, found = .range lo hi ∧ lo ≤ hi ∧
        SpellsUnit ctx here.rest (.character lo) ('-' :: second) ∧ Joins ('-' :: second) ∧
          SpellsUnit ctx second (.character hi) after.rest := by
  unfold item at read
  split at read
  · cases read
  · rename_i first next isFirst
    have unit := reads_of_primitive isFirst
    split at read
    · cases read
    · cases read
    · rename_i joined text _ behind
      split at read
      · rename_i last
        obtain ⟨single, isItem, same⟩ := map_eq_ok read
        cases same
        obtain ⟨one, spells, resolves⟩ := spells_of_asItem unit isItem
        exact .inl ⟨one, spells, resolves, _, _, behind, fun _ => by simpa using last⟩
      · rename_i going
        rw [not_or] at going
        split at read
        · cases read
        · rename_i second stop isSecond
          obtain ⟨range, isRange, same⟩ := map_eq_ok read
          cases same
          obtain ⟨lo, hi, isLo, isHi, ordered, rfl⟩ := asRange_eq_ok.mp isRange
          have spellsFirst := spells_of_asChar unit isLo
          have spellsSecond := spells_of_asChar (reads_of_primitive isSecond) isHi
          rw [Cursor.rest_skip, behind, List.tail_cons] at spellsSecond
          rw [behind] at spellsFirst
          exact .inr ⟨lo, hi, _, rfl, ordered, spellsFirst, ⟨_, _, rfl, going⟩, spellsSecond⟩
    · rename_i notLast notLone notHyphen
      obtain ⟨single, isItem, same⟩ := map_eq_ok read
      cases same
      obtain ⟨one, spells, resolves⟩ := spells_of_asItem unit isItem
      refine .inl ⟨one, spells, resolves, ?_⟩
      cases behind : after.rest with
      | nil => exact absurd behind notLast
      | cons c rest =>
        refine ⟨c, rest, rfl, ?_⟩
        rintro rfl
        cases rest with
        | nil => exact absurd behind notLone
        | cons d others => exact absurd behind (notHyphen d others)

private theorem spells_of_item {ctx : Context} {start here after : Cursor} {found : Item}
    {others : List Written} {rest : List Char}
    (bracket : here.rest.head? ≠ some '[' ∧ here.rest.head? ≠ some ']')
    (read : item ctx start here = .ok (found, after))
    (spelled : SpellsItems ctx after.rest others rest) :
    ∃ one, SpellsItems ctx here.rest (one :: others) rest ∧ Resolves ctx one found := by
  rcases reads_of_item read with ⟨one, unit, resolves, alone⟩ |
    ⟨lo, hi, second, rfl, ordered, first, joins, last⟩
  · exact ⟨one, .single bracket unit alone.not_joins spelled, resolves⟩
  · exact ⟨_, .range bracket first joins last ordered spelled, .range ordered⟩

/-- A caret that comes next is the mark of a negation. -/
theorem caret_append (here : Cursor) :
    here.rest = caret (here.rest.head? = some '^') ++
      (if here.rest.head? = some '^' then here.skip else here).rest := by
  cases next : here.rest with
  | nil => simp [caret, next]
  | cons c rest => by_cases marked : c = '^' <;> simp [caret, next, marked]

/-- The text of an accepted POSIX class, and the set it was read as. -/
theorem posix_eq_some {ctx : Context} {here after : Cursor} {set : CharSet}
    (read : posix? ctx here = some (set, after)) :
    ∃ name ranges negated,
      here.rest = '[' :: ':' :: caret negated ++ name ++ ':' :: ']' :: after.rest ∧
        ':' ∉ name ∧ (negated = false → name.head? ≠ some '^') ∧
          posixRanges? (String.ofList name) = some ranges ∧
            Resolves ctx (.posix ranges negated) (.set set) := by
  unfold posix? at read
  split at read
  · cases read
  · rename_i opened isOpened
    dsimp only at read
    split at read
    · rename_i after' ranges isAfter known
      cases read
      have opening := (Cursor.afterText_eq_some.mp isOpened).1
      have marks := caret_append opened
      have closing := (Cursor.afterText_eq_some.mp isAfter).1
      rw [Cursor.rest_skipWhile] at closing
      obtain ⟨name, others, split, absent, taken, dropped⟩ :=
        @Cursor.takeWhile_ne_of_dropWhile _ ':' (by rw [closing]; simp)
      rw [Cursor.textTo, Cursor.charsTo_skipWhile, taken] at known
      rw [dropped, List.cons_append, List.cons.injEq] at closing
      refine ⟨name, ranges, opened.rest.head? = some '^', ?_, absent, ?_, known, ?_⟩
      · rw [split, closing.2] at marks
        rw [opening, List.cons_append, List.cons_append, List.nil_append]
        simpa using marks
      · intro bare
        have unmarked : ¬opened.rest.head? = some '^' := by simpa using bare
        rw [if_neg unmarked] at split
        rw [split] at unmarked
        cases name with
        | nil => simp
        | cons c more => simpa using unmarked
      · by_cases marked : opened.rest.head? = some '^'
        · simpa [marked] using @Resolves.posix ctx ranges true
        · simpa [marked] using @Resolves.posix ctx ranges false
    · cases read

/-- What is read from inside a class is spelled by the items from there on, and the class is built of
what those items were read as, behind the items found before. -/
private theorem spells_of_readItems {ctx : Context} {start here after : Cursor} {negated : Bool}
    {found : List Item} {leaf : Pattern}
    (read : readItems ctx start negated here found = .ok (leaf, after)) :
    ∃ others : List (Written × Item),
      SpellsItems ctx here.rest (others.map Prod.fst) after.rest ∧
        (∀ one ∈ others, Resolves ctx one.1 one.2) ∧
          build ctx start after negated (found.reverse ++ others.map Prod.snd) = .ok leaf := by
  fun_induction readItems ctx start negated here found with
  | case1 => cases read
  | case2 here found rest set next shown isOpen ih =>
    obtain ⟨others, spelled, resolved, built⟩ := ih read
    obtain ⟨name, ranges, itemNegated, same, absent, bare, known, resolves⟩ := posix_eq_some shown
    refine ⟨(.posix ranges itemNegated, .set set) :: others, ?_, ?_, ?_⟩
    · rw [same]
      exact .posix absent bare known spelled
    · simpa using ⟨resolves, fun w i => resolved (w, i)⟩
    · simpa using built
  | case3 => cases read
  | case4 here found rest isClose =>
    obtain ⟨leaf', built, same⟩ := map_eq_ok read
    cases same
    refine ⟨[], ?_, by simp, by simpa using built⟩
    rw [Cursor.rest_skip, isClose, List.tail_cons]
    exact .close
  | case5 => cases read
  | case6 => cases read
  | case7 here found c rest next notOpen notClose notOperator one stop single ih =>
    obtain ⟨others, spelled, resolved, built⟩ := ih read
    obtain ⟨written, spelledAll, resolves⟩ :=
      spells_of_item (by simp [next, notOpen, notClose]) single spelled
    refine ⟨(written, one) :: others, spelledAll, ?_, by simpa using built⟩
    simpa using ⟨resolves, fun w i => resolved (w, i)⟩

/-- The hyphens that come next are all of them. -/
theorem hyphens_append (text : List Char) :
    text = List.replicate (text.takeWhile (· = '-')).length '-' ++ text.dropWhile (· = '-') ∧
      (text.dropWhile (· = '-')).head? ≠ some '-' := by
  constructor
  · have all : text.takeWhile (· = '-') =
        List.replicate (text.takeWhile (· = '-')).length '-' :=
      List.eq_replicate_of_mem fun c member => by
        simpa using List.all_eq_true.mp List.all_takeWhile c member
    rw [← all, List.takeWhile_append_dropWhile]
  · intro head
    have stopped := List.head?_dropWhile_not (· = '-') text
    rw [head] at stopped
    simp at stopped

/-- **An accepted class is spelled.** The class is built of what its written items were read as. -/
theorem spells_of_read {ctx : Context} {start after : Cursor} {leaf : Pattern}
    (read : ClassSet.read ctx start = .ok (leaf, after)) :
    ∃ negated, ∃ items : List (Written × Item),
      SpellsClass ctx start.skip.rest negated (items.map Prod.fst) after.rest ∧
        (∀ one ∈ items, Resolves ctx one.1 one.2) ∧
          build ctx start after negated (items.map Prod.snd) = .ok leaf := by
  have marks : start.skip.rest = caret (isNegated start) ++ (firstItem start).rest := by
    simpa only [isNegated, firstItem, decide_eq_true_eq] using caret_append start.skip
  unfold ClassSet.read at read
  dsimp only at read
  split at read
  · cases read
  · split at read
    · cases read
    · rename_i hyphens here isHyphens
      unfold readHyphens at isHyphens
      dsimp only at isHyphens
      split at isHyphens
      · cases isHyphens
      · cases isHyphens
        obtain ⟨leading, behind⟩ := hyphens_append (firstItem start).rest
        simp only [Cursor.charsTo_skipWhile, Cursor.rest_skipWhile] at read
        generalize ((firstItem start).rest.takeWhile (· = '-')).length = n at *
        split at read
        · rename_i isBracket
          split at read
          · cases read
          · obtain ⟨others, spelled, resolved, built⟩ := spells_of_readItems read
            refine ⟨isNegated start, (.character ']', .range ']' ']') :: others, ?_, ?_, ?_⟩
            · simp only [List.isEmpty_replicate] at isBracket
              obtain ⟨isNone, head⟩ := isBracket
              obtain ⟨body, isBody⟩ := List.head?_eq_some_iff.mp head
              rw [Cursor.rest_skip, Cursor.rest_skipWhile, isBody, List.tail_cons] at spelled
              rw [isBody] at leading
              have none : n = 0 := by simpa using isNone
              rw [none, List.replicate_zero, List.nil_append] at leading
              rw [marks, leading]
              exact .bracket spelled
            · simpa using ⟨.character ']', fun w i => resolved (w, i)⟩
            · simpa using built
        · obtain ⟨others, spelled, resolved, built⟩ := spells_of_readItems read
          refine ⟨isNegated start,
            List.replicate n (.character '-', .range '-' '-') ++ others, ?_, ?_, ?_⟩
          · rename_i notBracket
            rw [Cursor.rest_skipWhile] at spelled
            rw [marks, leading, List.map_append, List.map_replicate, ← List.append_assoc]
            refine .hyphens behind (fun none head => ?_) (fun unmarked none => ?_) spelled
            · exact notBracket ⟨by simp [none], head⟩
            · have first : firstItem start = start.skip := by simp [firstItem, unmarked]
              rw [none, List.replicate_zero, List.nil_append] at leading
              rw [← leading, first]
              simpa [isNegated] using unmarked
          · intro one member
            rcases List.mem_append.mp member with member | member
            · rw [List.eq_of_mem_replicate member]
              exact .character '-'
            · exact resolved one member
          · simpa using built

end PatternForge.ClassSet
