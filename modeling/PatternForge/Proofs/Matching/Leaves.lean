import PatternForge.Matching.Regular.Leaf
import PatternForge.Proofs.Matching.Inclusion
import PatternForge.Proofs.Reading.ClassSpelling

/-!
The leaves that both notations know. Where no flag is set, the finite engine takes each escape sequence
that patterns have for a character, and each Perl class and property class, for the same characters and
up to the same place as the reader of patterns.
-/
namespace PatternForge

/-- A property that excludes every character has no answer. -/
def CharacterData.Consistent (data : CharacterData) : Prop :=
  ∀ ignoringCase name holds, data.property ignoringCase name = some holds →
    data.excludesAll name = false

theorem CharacterData.consistent_standard : CharacterData.standard.Consistent := by
  intro ignoringCase name holds known
  simp only [standard, Unicode.Property.resolve] at known
  simp only [standard, Unicode.Property.excludesAll]
  split at known
  · rename_i query
    rw [query]
  · rename_i query
    rw [query]
  · rename_i query
    rw [query]
    split at known
    · cases known
    · rename_i notAny
      simp [notAny]

namespace ClassSet

/-- What is spelled does not depend on what follows. -/
theorem SpellsEscape.append {text rest : List Char} {c : Char} (spelled : SpellsEscape text c rest)
    (more : List Char) : SpellsEscape (text ++ more) c (rest ++ more) := by
  cases spelled with
  | mark escapable => exact .mark escapable
  | control named => exact .control named
  | fixed announced all hexadecimal code =>
    simpa using SpellsEscape.fixed announced all hexadecimal code
  | braced announced nonempty hexadecimal code =>
    simpa using SpellsEscape.braced announced nonempty hexadecimal code

theorem SpellsNamed.append {ctx : Escape.Context} {text rest : List Char} {holds : Char → Bool}
    {negated : Bool} (spelled : SpellsNamed ctx text holds negated rest) (more : List Char) :
    SpellsNamed ctx (text ++ more) holds negated (rest ++ more) := by
  cases spelled with
  | perl listed => exact .perl listed
  | letter announced notBrace known => exact .letter announced notBrace known
  | braced announced notBrace known => simpa using SpellsNamed.braced announced notBrace known

end ClassSet

namespace Escape

theorem mem_digits {c : Char} (digit : '1' ≤ c ∧ c ≤ '9') :
    c ∈ ['1', '2', '3', '4', '5', '6', '7', '8', '9'] := by
  have low : '1'.toNat ≤ c.toNat := digit.1
  have high : c.toNat ≤ '9'.toNat := digit.2
  have code : c.toNat ∈ (['1', '2', '3', '4', '5', '6', '7', '8', '9'] : List Char).map Char.toNat := by
    have codes : '1'.toNat = 49 ∧ '9'.toNat = 57 := by decide
    have listed : (['1', '2', '3', '4', '5', '6', '7', '8', '9'] : List Char).map Char.toNat =
        [49, 50, 51, 52, 53, 54, 55, 56, 57] := by decide
    rw [listed]
    simp only [List.mem_cons, List.not_mem_nil, or_false]
    omega
  obtain ⟨d, member, same⟩ := List.mem_map.mp code
  exact Char.toNat_inj.mp same ▸ member

/-- Only a digit makes a reference: behind any other character, it does not matter which groups are
closed, so there is none to refer to. -/
theorem digit_of_reference {ctx : Context} {start here after : Cursor} {index : Nat}
    (read : Escape.read ctx start here = .ok (.backreference index, after)) :
    ∃ c rest, here.rest = c :: rest ∧ '1' ≤ c ∧ c ≤ '9' := by
  cases next : here.rest with
  | nil => simp [Escape.read, next] at read
  | cons c rest =>
    refine ⟨c, rest, rfl, Decidable.byContradiction fun notDigit => ?_⟩
    have same : Escape.read ctx start here = Escape.read { ctx with closed := [] } start here := by
      unfold Escape.read
      rw [next]
      dsimp only
      split <;> first | rfl | rw [if_neg notDigit, if_neg notDigit]; rfl
    generalize isLeaf : Pattern.backreference index = leaf at read
    cases ClassSet.reads_of_escape (same ▸ read) with
    | character =>
      unfold Settings.charPattern at isLeaf
      dsimp only at isLeaf
      repeat' split at isLeaf
      all_goals cases isLeaf
    | named | anchor => cases isLeaf
    | reference closed => cases closed

/-- A reference is read from a single digit. -/
theorem number_of_reference {ctx : Context} {start here after : Cursor} {index : Nat}
    (read : Escape.read ctx start here = .ok (.backreference index, after)) :
    ∃ c rest, here.rest = c :: rest ∧ c ∈ ['1', '2', '3', '4', '5', '6', '7', '8', '9'] ∧
      index = c.toNat - '0'.toNat ∧ after = here.skip := by
  obtain ⟨c, rest, next, digit⟩ := digit_of_reference read
  have member := mem_digits digit
  refine ⟨c, rest, next, member, ?_⟩
  have byDigit : Escape.read ctx start here = backreference ctx start here c := by
    simp only [List.mem_cons, List.not_mem_nil, or_false] at member
    rcases member with rfl | rfl | rfl | rfl | rfl | rfl | rfl | rfl | rfl <;>
      simp only [Escape.read, next] <;> rfl
  simp only [byDigit, backreference] at read
  split at read <;> cases read
  exact ⟨rfl, rfl⟩

end Escape

namespace Regular

open ClassSet (SpellsEscape SpellsNamed)

variable {data : CharacterData} {here : Cursor} {text rest : List Char}

/-! ### Moves where blanks are characters -/

@[simp] theorem skipBlanks_plain (data : CharacterData) (here : Cursor) :
    skipBlanks data {} here = here := rfl

@[simp] theorem next_plain (data : CharacterData) (here : Cursor) : next data {} here = here.skip := rfl

@[simp] theorem spelled_plain (data : CharacterData) (holds : Char → Bool) (here : Cursor) :
    spelled data {} holds here = (here.rest.takeWhile holds, here.skipWhile holds) := by
  induction here using Cursor.induct_skip with
  | atEnd here none =>
    rw [spelled]
    simp [none, Cursor.skipWhile_of_atEnd]
  | more here c rest next ih =>
    have shorter : here.skip.rest.length < here.rest.length := Cursor.length_skip_lt next
    rw [spelled]
    simp only [next_plain, shorter, ↓reduceIte, ih]
    cases holding : holds c with
    | true => simp [next, holding, Cursor.skipWhile_of_holds next holding]
    | false => simp [next, holding, Cursor.skipWhile_of_not next holding]

/-- A mark that does not occur in a text ends it. -/
theorem cut_at {mark : Char} {name rest : List Char} (absent : mark ∉ name) :
    (name ++ mark :: rest).takeWhile (· ≠ mark) = name ∧
      (name ++ mark :: rest).dropWhile (· ≠ mark) = mark :: rest := by
  have others : ∀ c ∈ name, decide (c ≠ mark) = true := by
    intro c member
    simpa using fun same : c = mark => absent (same ▸ member)
  constructor
  · rw [List.takeWhile_append_of_pos others, List.takeWhile_cons_of_neg (by simp), List.append_nil]
  · rw [List.dropWhile_append_of_pos others, List.dropWhile_cons_of_neg (by simp)]

variable (data) in
private theorem braced_eq_some {name : List Char} (opens : here.rest = '\x7b' :: name ++ '\x7d' :: rest)
    (absent : '\x7d' ∉ name) :
    ∃ after, braced? data {} here = some (name, after) ∧ after.rest = rest := by
  have inside : here.skip.rest = name ++ '\x7d' :: rest := by simp [opens]
  obtain ⟨taken, dropped⟩ := @cut_at '\x7d' name rest absent
  have stop : (here.skip.skipWhile (· ≠ '\x7d')).rest = '\x7d' :: rest := by
    rw [Cursor.rest_skipWhile, inside, dropped]
  refine ⟨(here.skip.skipWhile (· ≠ '\x7d')).skip, ?_, by rw [Cursor.rest_skip, stop, List.tail_cons]⟩
  simp only [braced?, next_plain, spelled_plain, inside, taken, Cursor.atEnd_of_cons stop]
  rfl

/-! ### Characters -/

variable (data) in
private theorem hexDigits_eq_some {digits : List Char} (next : here.rest = digits ++ rest)
    (hexadecimal : ∀ d ∈ digits, Escape.isHexDigit d = true) :
    ∃ after, hexDigits? data {} digits.length here = some (digits, after) ∧ after.rest = rest := by
  induction digits generalizing here with
  | nil => exact ⟨here, rfl, next⟩
  | cons d digits ih =>
    have behind : here.skip.rest = digits ++ rest := by simp [next]
    obtain ⟨after, found, stop⟩ := ih behind fun c member => hexadecimal c (List.mem_cons_of_mem _ member)
    refine ⟨after, ?_, stop⟩
    rw [List.length_cons, hexDigits?, next, List.cons_append]
    simp only [hexadecimal d List.mem_cons_self, ↓reduceIte, next_plain, found, Option.map_some]

private theorem escape_hex {letter : Char} {count : Nat}
    (announced : (letter, count) ∈ [('x', 2), ('u', 4), ('U', 8)]) (next : here.rest = letter :: rest) :
    escape data {} here = hex data {} here count := by
  simp only [List.mem_cons, Prod.mk.injEq, List.not_mem_nil, or_false] at announced
  unfold escape
  rw [next]
  rcases announced with ⟨rfl, rfl⟩ | ⟨rfl, rfl⟩ | ⟨rfl, rfl⟩ <;> rfl

/-- The letters that do not stand for a character but announce one, or a class. -/
private def announcers : List Char := ['d', 's', 'w', 'D', 'S', 'W', 'p', 'P', 'x', 'u', 'U']

private theorem escape_single {c : Char} (next : here.rest = c :: rest) (plain : c ∉ announcers) :
    escape data {} here = single data {} c here.skip := by
  simp only [announcers, List.mem_cons, List.not_mem_nil, or_false, not_or] at plain
  unfold escape
  rw [next]
  have none : perlClass? data {} c = none := by
    unfold perlClass?
    split <;> simp_all
  simp only [none]
  split <;> simp_all

private theorem not_announcer_of_escapable {c : Char} (escapable : Escape.isEscapable c = true) :
    c ∉ announcers := by
  intro member
  have never : announcers.all (fun d => !Escape.isEscapable d) = true := rfl
  have notEscapable := List.all_eq_true.mp never c member
  rw [escapable] at notEscapable
  cases notEscapable

private theorem control_single {letter c : Char} (named : Escape.controlChar? letter = some c) :
    letter ∉ announcers ∧ Escape.isEscapable letter = false := by
  unfold Escape.controlChar? at named
  split at named
  case h_7 => cases named
  all_goals exact ⟨by decide, by decide⟩

variable (data) in
theorem escape_of_spells {c : Char} (spelled : SpellsEscape text c rest) (next : here.rest = text) :
    ∃ asByte after, escape data {} here = some (.char c asByte, after) ∧ after.rest = rest := by
  cases spelled with
  | mark escapable =>
    refine ⟨false, here.skip, ?_, by simp [next]⟩
    rw [escape_single next (not_announcer_of_escapable escapable)]
    unfold single
    exact if_pos escapable
  | control named =>
    obtain ⟨plain, notMark⟩ := control_single named
    refine ⟨false, here.skip, ?_, by simp [next]⟩
    rw [escape_single next plain]
    unfold single
    simp only [notMark, Bool.false_eq_true, ↓reduceIte, named]
  | @fixed letter _ count digits _ announced all hexadecimal code =>
    have behind : here.skip.rest = digits ++ rest := by simp [next]
    obtain ⟨after, found, stop⟩ := hexDigits_eq_some data behind hexadecimal
    refine ⟨count = 2, after, ?_, stop⟩
    have notBrace : ¬here.skip.rest.head? = some '\x7b' := by
      have several : 0 < digits.length := by
        simp only [List.mem_cons, Prod.mk.injEq, List.not_mem_nil, or_false] at announced
        omega
      cases digits with
      | nil => simp at several
      | cons d others =>
        intro brace
        have isDigit := hexadecimal d List.mem_cons_self
        rw [behind, List.cons_append, List.head?_cons, Option.some.injEq] at brace
        rw [brace] at isDigit
        exact absurd isDigit (by decide)
    rw [escape_hex announced next, hex]
    simp only [next_plain, notBrace, ↓reduceIte, ← all, found, Option.bind_eq_bind, Option.bind_some,
      code]
    rfl
  | @braced letter _ digits _ announced nonempty hexadecimal code =>
    have behind : here.skip.rest = '\x7b' :: digits ++ '\x7d' :: rest := by simp [next]
    have absent : '\x7d' ∉ digits := fun member => absurd (hexadecimal _ member) (by decide)
    obtain ⟨after, found, stop⟩ := braced_eq_some data behind absent
    refine ⟨false, after, ?_, stop⟩
    have brace : here.skip.rest.head? = some '\x7b' := by rw [behind]; rfl
    have all : digits.all Escape.isHexDigit = true := List.all_eq_true.mpr hexadecimal
    obtain ⟨count, announced'⟩ : ∃ count, (letter, count) ∈ [('x', 2), ('u', 4), ('U', 8)] := by
      simp only [List.mem_cons, List.not_mem_nil, or_false] at announced
      rcases announced with rfl | rfl | rfl
      · exact ⟨2, by simp⟩
      · exact ⟨4, by simp⟩
      · exact ⟨8, by simp⟩
    rw [escape_hex announced' next, hex]
    simp only [next_plain, brace, ↓reduceIte, found, Option.bind_eq_bind, Option.bind_some, all, code]
    simp [nonempty]

/-! ### Named classes -/

private theorem property_eq_some {negated : Bool} {name : List Char} {holds : Char → Bool}
    {after : Cursor} (consistent : data.Consistent)
    (named : propertyName? data {} here = some (name, after))
    (known : data.property false (String.ofList name) = some holds) :
    property data {} negated here = some (.oneOf fun c => negated ^^ holds c, after) := by
  have some := consistent _ _ _ known
  unfold property
  simp [named, some, known]

private theorem escape_property {mark : Char} {negated : Bool}
    (announced : (mark, negated) ∈ [('p', false), ('P', true)]) (next : here.rest = mark :: rest) :
    escape data {} here = property data {} negated here := by
  simp only [List.mem_cons, Prod.mk.injEq, List.not_mem_nil, or_false] at announced
  unfold escape
  rw [next]
  rcases announced with ⟨rfl, rfl⟩ | ⟨rfl, rfl⟩ <;> rfl

theorem escape_of_spellsNamed {ctx : Escape.Context} {holds : Char → Bool} {negated : Bool}
    (consistent : ctx.settings.data.Consistent) (minding : ctx.flags.ignoreCase = false)
    (spelled : SpellsNamed ctx text holds negated rest) (next : here.rest = text) :
    ∃ after, escape ctx.settings.data {} here = some (.oneOf fun c => negated ^^ holds c, after) ∧
      after.rest = rest := by
  cases spelled with
  | perl listed =>
    simp only [ClassSet.perlClasses, List.mem_cons, Prod.mk.injEq, List.not_mem_nil, or_false] at listed
    refine ⟨here.skip, ?_, by simp [next]⟩
    unfold escape
    rw [next]
    rcases listed with ⟨rfl, rfl, rfl⟩ | ⟨rfl, rfl, rfl⟩ | ⟨rfl, rfl, rfl⟩ | ⟨rfl, rfl, rfl⟩ |
      ⟨rfl, rfl, rfl⟩ | ⟨rfl, rfl, rfl⟩ <;> simp [perlClass?, negatable, Mode.digit, Mode.space, Mode.word]
  | @letter mark name _ _ _ announced notBrace known =>
    rw [minding] at known
    have named : propertyName? ctx.settings.data {} here = some ([name], here.skip.skip) := by
      unfold propertyName?
      simp only [next_plain, Cursor.rest_skip, next, List.tail_cons]
    refine ⟨here.skip.skip, ?_, by simp [next]⟩
    rw [escape_property announced next]
    exact property_eq_some consistent named known
  | @braced mark name _ _ _ announced absent known =>
    rw [minding] at known
    have behind : here.skip.rest = '\x7b' :: name ++ '\x7d' :: rest := by simp [next]
    obtain ⟨after, found, stop⟩ := braced_eq_some ctx.settings.data behind absent
    have named : propertyName? ctx.settings.data {} here = some (name, after) := by
      unfold propertyName?
      simp only [next_plain, behind, List.cons_append, found]
    refine ⟨after, ?_, stop⟩
    rw [escape_property announced next]
    exact property_eq_some consistent named known

/-! ### References -/

/-- The finite engine has no references. -/
theorem escape_of_digit {c : Char} (next : here.rest = c :: rest) (digit : '1' ≤ c ∧ c ≤ '9') :
    escape data {} here = none := by
  have member := Escape.mem_digits digit
  have plain : c ∉ announcers := by
    have apart : ∀ d ∈ ['1', '2', '3', '4', '5', '6', '7', '8', '9'], d ∉ announcers := by
      simp [announcers]
    exact apart c member
  rw [escape_single next plain]
  simp only [List.mem_cons, List.not_mem_nil, or_false] at member
  rcases member with rfl | rfl | rfl | rfl | rfl | rfl | rfl | rfl | rfl <;> rfl

/-! ### Escape sequences -/

/-- An escape sequence that both notations accept is an expression that matches what the leaf gives, and
ends at the same place. -/
theorem expression_of_read {ctx : Escape.Context} (consistent : ctx.settings.data.Consistent)
    (minding : ctx.flags.ignoreCase = false) {start here here' after : Cursor} {leaf : Pattern}
    {more : List Char} (read : Escape.read ctx start here = .ok (leaf, after))
    (same : here'.rest = here.rest ++ more) (noAnchor : ∀ kind, leaf ≠ .anchor kind) {leaf' : Leaf}
    {after' : Cursor} (read' : escape ctx.settings.data {} here' = some (leaf', after')) :
    after'.rest = after.rest ++ more ∧
      ∃ e, leaf'.expression? ctx.settings.data {} = some e ∧ ∀ cap, leaf.MatchedBy cap e := by
  cases ClassSet.reads_of_escape read with
  | @character c _ spelled =>
    obtain ⟨asByte, stop, found, isStop⟩ := escape_of_spells ctx.settings.data
      (spelled.append more) same
    rw [read'] at found
    cases found
    refine ⟨isStop, .one (({} : Mode).char ctx.settings.data c), ?_, fun cap => ?_⟩
    · cases asByte <;> rfl
    · rw [Settings.charPattern, minding]
      exact Pattern.matchedBy_char (beq_self_eq_true c)
  | @named holds negated _ spelled =>
    obtain ⟨stop, found, isStop⟩ := escape_of_spellsNamed consistent minding (spelled.append more) same
    rw [read'] at found
    cases found
    refine ⟨isStop, _, rfl, fun cap => ?_⟩
    refine Pattern.matchedBy_class fun c allowed => ?_
    rw [CharClass.contains_of, CharSet.domain_ofPredicate, CharSet.contains_ofPredicate] at allowed
    cases within : ctx.settings.domain.contains c with
    | false => simp [within] at allowed
    | true => simpa [within] using allowed
  | anchor => exact absurd rfl (noAnchor _)
  | reference =>
    obtain ⟨c, rest, next, digit⟩ := Escape.digit_of_reference read
    rw [next, List.cons_append] at same
    rw [escape_of_digit same digit] at read'
    cases read'

end Regular

end PatternForge
