import PatternForge.Proofs.Reading.ClassSpelling

/-!
The spelling of a class is unique. No two rules apply at the same place, and each rule says where its
piece of the text ends, so a text spells one list of items only (`SpellsClass.unique`).
-/
namespace PatternForge.ClassSet

open Escape (Context)

/-- A mark cuts a text at its first occurrence. -/
private theorem cut_unique {mark : Char} {first first' rest rest' : List Char} (absent : mark ∉ first)
    (absent' : mark ∉ first') (same : first ++ mark :: rest = first' ++ mark :: rest') :
    first = first' ∧ rest = rest' := by
  have cut : ∀ {chars others : List Char}, mark ∉ chars →
      (chars ++ mark :: others).takeWhile (· ≠ mark) = chars := by
    intro chars others absent
    rw [List.takeWhile_append_of_pos, List.takeWhile_cons_of_neg (by simp), List.append_nil]
    intro c member
    simpa using fun equal : c = mark => absent (equal ▸ member)
  have firsts : first = first' := by rw [← @cut first rest absent, same, cut absent']
  subst firsts
  exact ⟨rfl, (List.cons.inj (List.append_cancel_left same)).2⟩

/-- The letters that announce a class behind a backslash. -/
private def classLetters : List Char := ['d', 'D', 's', 'S', 'w', 'W', 'p', 'P']

private theorem not_escapable_of_announced {letter : Char} (announced : letter ∈ ['x', 'u', 'U']) :
    Escape.isEscapable letter = false ∧ Escape.controlChar? letter = none ∧ letter ∉ classLetters := by
  simp only [List.mem_cons, List.not_mem_nil, or_false] at announced
  rcases announced with rfl | rfl | rfl <;> exact ⟨by decide, by decide, by decide⟩

private theorem not_escapable_of_control {letter c : Char}
    (named : Escape.controlChar? letter = some c) :
    Escape.isEscapable letter = false ∧ letter ∉ classLetters := by
  unfold Escape.controlChar? at named
  split at named
  · exact ⟨by decide, by decide⟩
  · exact ⟨by decide, by decide⟩
  · exact ⟨by decide, by decide⟩
  · exact ⟨by decide, by decide⟩
  · exact ⟨by decide, by decide⟩
  · exact ⟨by decide, by decide⟩
  · cases named

/-- The number of digits is known by the letter. -/
private theorem count_unique {letter : Char} {count count' : Nat}
    (announced : (letter, count) ∈ [('x', 2), ('u', 4), ('U', 8)])
    (announced' : (letter, count') ∈ [('x', 2), ('u', 4), ('U', 8)]) : count = count' := by
  simp only [List.mem_cons, Prod.mk.injEq, List.not_mem_nil, or_false] at announced announced'
  rcases announced with ⟨rfl, rfl⟩ | ⟨rfl, rfl⟩ | ⟨rfl, rfl⟩ <;>
    rcases announced' with ⟨same, rfl⟩ | ⟨same, rfl⟩ | ⟨same, rfl⟩ <;> first | rfl | cases same

private theorem letter_of_count {letter : Char} {count : Nat}
    (announced : (letter, count) ∈ [('x', 2), ('u', 4), ('U', 8)]) :
    letter ∈ ['x', 'u', 'U'] ∧ 0 < count := by
  simp only [List.mem_cons, Prod.mk.injEq, List.not_mem_nil, or_false] at announced
  rcases announced with ⟨rfl, rfl⟩ | ⟨rfl, rfl⟩ | ⟨rfl, rfl⟩ <;> exact ⟨by decide, by decide⟩

/-- No digit is a brace. -/
private theorem brace_not_mem {digits : List Char}
    (hexadecimal : ∀ d ∈ digits, Escape.isHexDigit d = true) : '\x7b' ∉ digits ∧ '\x7d' ∉ digits :=
  ⟨fun member => absurd (hexadecimal _ member) (by decide),
    fun member => absurd (hexadecimal _ member) (by decide)⟩

private theorem SpellsEscape.head {text rest : List Char} {c : Char}
    (spelled : SpellsEscape text c rest) :
    ∃ letter others, text = letter :: others ∧ letter ∉ classLetters := by
  cases spelled with
  | mark escapable =>
    refine ⟨_, _, rfl, fun member => ?_⟩
    simp only [classLetters, List.mem_cons, List.not_mem_nil, or_false] at member
    rcases member with rfl | rfl | rfl | rfl | rfl | rfl | rfl | rfl <;>
      exact absurd escapable (by decide)
  | control named => exact ⟨_, _, rfl, (not_escapable_of_control named).2⟩
  | fixed announced =>
    exact ⟨_, _, rfl, (not_escapable_of_announced (letter_of_count announced).1).2.2⟩
  | braced announced => exact ⟨_, _, rfl, (not_escapable_of_announced announced).2.2⟩

private theorem SpellsEscape.unique {text rest rest' : List Char} {c c' : Char}
    (spelled : SpellsEscape text c rest) (spelled' : SpellsEscape text c' rest') :
    c = c' ∧ rest = rest' := by
  cases spelled with
  | mark escapable =>
    cases spelled' with
    | mark => exact ⟨rfl, rfl⟩
    | control named => exact absurd escapable (by simp [(not_escapable_of_control named).1])
    | fixed announced =>
      have other := not_escapable_of_announced (letter_of_count announced).1
      exact absurd escapable (by simp [other.1])
    | braced announced =>
      exact absurd escapable (by simp [(not_escapable_of_announced announced).1])
  | control named =>
    cases spelled' with
    | mark escapable => exact absurd escapable (by simp [(not_escapable_of_control named).1])
    | control named' => exact ⟨Option.some.inj (named.symm.trans named'), rfl⟩
    | fixed announced =>
      have other := not_escapable_of_announced (letter_of_count announced).1
      exact absurd named (by simp [other.2.1])
    | braced announced =>
      exact absurd named (by simp [(not_escapable_of_announced announced).2.1])
  | fixed announced all hexadecimal code =>
    rename_i letter count digits
    have other := not_escapable_of_announced (letter_of_count announced).1
    generalize form : letter :: digits ++ rest = text at spelled'
    cases spelled' with
    | mark escapable =>
      cases form
      exact absurd escapable (by simp [other.1])
    | control named =>
      cases form
      exact absurd named (by simp [other.2.1])
    | fixed announced' all' hexadecimal' code' =>
      obtain ⟨rfl, same⟩ := List.cons.inj form
      obtain rfl := count_unique announced announced'
      obtain ⟨rfl, rfl⟩ := List.append_inj same (all.trans all'.symm)
      exact ⟨Option.some.inj (code.symm.trans code'), rfl⟩
    | braced announced' =>
      obtain ⟨rfl, same⟩ := List.cons.inj form
      have long := (letter_of_count announced).2
      cases digits with
      | nil => simp [← all] at long
      | cons d digits =>
        obtain ⟨rfl, -⟩ := List.cons.inj same
        exact absurd List.mem_cons_self (brace_not_mem hexadecimal).1
  | braced announced nonempty hexadecimal code =>
    rename_i letter digits
    have other := not_escapable_of_announced announced
    generalize form : letter :: '\x7b' :: digits ++ '\x7d' :: rest = text at spelled'
    cases spelled' with
    | mark escapable =>
      cases form
      exact absurd escapable (by simp [other.1])
    | control named =>
      cases form
      exact absurd named (by simp [other.2.1])
    | fixed announced' all' hexadecimal' code' =>
      rename_i digits'
      obtain ⟨rfl, same⟩ := List.cons.inj form
      have long := (letter_of_count announced').2
      cases digits' with
      | nil => simp [← all'] at long
      | cons d digits' =>
        obtain ⟨rfl, -⟩ := List.cons.inj same
        exact absurd List.mem_cons_self (brace_not_mem hexadecimal').1
    | braced announced' nonempty' hexadecimal' code' =>
      obtain ⟨rfl, same⟩ := List.cons.inj form
      obtain ⟨rfl, rfl⟩ := cut_unique (brace_not_mem hexadecimal).2 (brace_not_mem hexadecimal').2
        (List.cons.inj same).2
      exact ⟨Option.some.inj (code.symm.trans code'), rfl⟩

private theorem SpellsNamed.head {ctx : Context} {text rest : List Char} {holds : Char → Bool}
    {negated : Bool} (spelled : SpellsNamed ctx text holds negated rest) :
    ∃ letter others, text = letter :: others ∧ letter ∈ classLetters := by
  cases spelled with
  | perl listed =>
    refine ⟨_, _, rfl, ?_⟩
    simp only [perlClasses, List.mem_cons, Prod.mk.injEq, List.not_mem_nil, or_false] at listed
    rcases listed with ⟨rfl, -⟩ | ⟨rfl, -⟩ | ⟨rfl, -⟩ | ⟨rfl, -⟩ | ⟨rfl, -⟩ | ⟨rfl, -⟩ <;> decide
  | letter announced | braced announced =>
    refine ⟨_, _, rfl, ?_⟩
    simp only [List.mem_cons, Prod.mk.injEq, List.not_mem_nil, or_false] at announced
    rcases announced with ⟨rfl, -⟩ | ⟨rfl, -⟩ <;> decide

/-- The letter of a Perl class is none of a property class, and it names one class only. -/
private theorem perl_unique {data : CharacterData} {letter : Char} {holds holds' : Char → Bool}
    {negated negated' : Bool} (listed : (letter, holds, negated) ∈ perlClasses data)
    (listed' : (letter, holds', negated') ∈ perlClasses data) :
    holds = holds' ∧ negated = negated' := by
  simp only [perlClasses, List.mem_cons, Prod.mk.injEq, List.not_mem_nil, or_false]
    at listed listed'
  rcases listed with ⟨rfl, rfl, rfl⟩ | ⟨rfl, rfl, rfl⟩ | ⟨rfl, rfl, rfl⟩ | ⟨rfl, rfl, rfl⟩ |
    ⟨rfl, rfl, rfl⟩ | ⟨rfl, rfl, rfl⟩ <;> simpa [eq_comm] using listed'

private theorem not_perl_of_announced {data : CharacterData} {mark : Char} {negated : Bool}
    (announced : (mark, negated) ∈ [('p', false), ('P', true)]) (holds : Char → Bool)
    (negated' : Bool) : (mark, holds, negated') ∉ perlClasses data := by
  simp only [List.mem_cons, Prod.mk.injEq, List.not_mem_nil, or_false] at announced
  rcases announced with ⟨rfl, -⟩ | ⟨rfl, -⟩ <;> simp [perlClasses]

private theorem negation_unique {mark : Char} {negated negated' : Bool}
    (announced : (mark, negated) ∈ [('p', false), ('P', true)])
    (announced' : (mark, negated') ∈ [('p', false), ('P', true)]) : negated = negated' := by
  simp only [List.mem_cons, Prod.mk.injEq, List.not_mem_nil, or_false] at announced announced'
  rcases announced with ⟨rfl, rfl⟩ | ⟨rfl, rfl⟩ <;> simpa [eq_comm] using announced'

private theorem SpellsNamed.unique {ctx : Context} {text rest rest' : List Char}
    {holds holds' : Char → Bool} {negated negated' : Bool}
    (spelled : SpellsNamed ctx text holds negated rest)
    (spelled' : SpellsNamed ctx text holds' negated' rest') :
    holds = holds' ∧ negated = negated' ∧ rest = rest' := by
  cases spelled with
  | perl listed =>
    cases spelled' with
    | perl listed' =>
      obtain ⟨rfl, rfl⟩ := perl_unique listed listed'
      exact ⟨rfl, rfl, rfl⟩
    | letter announced | braced announced =>
      exact absurd listed (not_perl_of_announced announced _ _)
  | letter announced notBrace known =>
    cases spelled' with
    | perl listed => exact absurd listed (not_perl_of_announced announced _ _)
    | letter announced' notBrace' known' =>
      exact ⟨Option.some.inj (known.symm.trans known'), negation_unique announced announced', rfl⟩
    | braced => exact absurd rfl notBrace
  | braced announced notBrace known =>
    rename_i mark name
    generalize form : mark :: '\x7b' :: name ++ '\x7d' :: rest = text at spelled'
    cases spelled' with
    | perl listed =>
      cases form
      exact absurd listed (not_perl_of_announced announced _ _)
    | letter announced' notBrace' =>
      cases form
      exact absurd rfl notBrace'
    | braced announced' notBrace' known' =>
      obtain ⟨rfl, same⟩ := List.cons.inj form
      obtain ⟨rfl, rfl⟩ := cut_unique notBrace notBrace' (List.cons.inj same).2
      exact ⟨Option.some.inj (known.symm.trans known'), negation_unique announced announced', rfl⟩

private theorem SpellsUnit.unique {ctx : Context} {text rest rest' : List Char} {one one' : Written}
    (spelled : SpellsUnit ctx text one rest) (spelled' : SpellsUnit ctx text one' rest') :
    one = one' ∧ rest = rest' := by
  cases spelled with
  | plain notEscape =>
    cases spelled' with
    | plain => exact ⟨rfl, rfl⟩
    | escaped | named => exact absurd rfl notEscape
  | escaped escape =>
    cases spelled' with
    | plain notEscape => exact absurd rfl notEscape
    | escaped escape' =>
      obtain ⟨rfl, rfl⟩ := escape.unique escape'
      exact ⟨rfl, rfl⟩
    | named class' =>
      obtain ⟨letter, others, rfl, absent⟩ := escape.head
      obtain ⟨_, _, same, member⟩ := class'.head
      cases same
      exact absurd member absent
  | named class' =>
    cases spelled' with
    | plain notEscape => exact absurd rfl notEscape
    | escaped escape =>
      obtain ⟨letter, others, rfl, absent⟩ := escape.head
      obtain ⟨_, _, same, member⟩ := class'.head
      cases same
      exact absurd member absent
    | named class'' =>
      obtain ⟨rfl, rfl, rfl⟩ := class'.unique class''
      exact ⟨rfl, rfl⟩

private theorem colon_not_mem {negated : Bool} {name : List Char} (plain : ':' ∉ name) :
    ':' ∉ caret negated ++ name := by
  cases negated <;> simp [caret, plain]

/-- Whether a name is negated is seen at its start. -/
private theorem caret_unique {negated negated' : Bool} {name name' : List Char}
    (bare : negated = false → name.head? ≠ some '^')
    (bare' : negated' = false → name'.head? ≠ some '^')
    (same : caret negated ++ name = caret negated' ++ name') : negated = negated' ∧ name = name' := by
  cases negated <;> cases negated'
  · exact ⟨rfl, same⟩
  · exact absurd (by rw [show name = '^' :: name' from same]; rfl) (bare rfl)
  · exact absurd (by rw [← show '^' :: name = name' from same]; rfl) (bare' rfl)
  · exact ⟨rfl, (List.cons.inj same).2⟩

private theorem SpellsItems.unique {ctx : Context} {text rest rest' : List Char}
    {items items' : List Written} (spelled : SpellsItems ctx text items rest)
    (spelled' : SpellsItems ctx text items' rest') : items = items' ∧ rest = rest' := by
  induction spelled generalizing items' rest' with
  | close =>
    cases spelled' with
    | close => exact ⟨rfl, rfl⟩
    | single bracket | range bracket => exact absurd rfl bracket.2
  | posix plain bare known spelled ih =>
    rename_i name text _ ranges negated others
    generalize form : '[' :: ':' :: caret negated ++ name ++ ':' :: ']' :: text = whole at spelled'
    cases spelled' with
    | close => cases form
    | posix plain' bare' known' others' =>
      have same := (List.cons.inj (List.cons.inj form).2).2
      obtain ⟨names, texts⟩ := cut_unique (colon_not_mem plain) (colon_not_mem plain') same
      obtain ⟨rfl, rfl⟩ := caret_unique bare bare' names
      obtain rfl := Option.some.inj (known.symm.trans known')
      obtain rfl := (List.cons.inj texts).2
      obtain ⟨rfl, rfl⟩ := ih others'
      exact ⟨rfl, rfl⟩
    | single bracket | range bracket =>
      subst form
      exact absurd rfl bracket.1
  | single bracket unit alone spelled ih =>
    cases spelled' with
    | close => exact absurd rfl bracket.2
    | posix => exact absurd rfl bracket.1
    | single bracket' unit' alone' others' =>
      obtain ⟨rfl, rfl⟩ := unit.unique unit'
      obtain ⟨rfl, rfl⟩ := ih others'
      exact ⟨rfl, rfl⟩
    | range bracket' first joins =>
      obtain ⟨-, rfl⟩ := unit.unique first
      exact absurd joins alone
  | range bracket first joins last ordered spelled ih =>
    cases spelled' with
    | close => exact absurd rfl bracket.2
    | posix => exact absurd rfl bracket.1
    | single bracket' unit' alone' =>
      obtain ⟨-, rfl⟩ := first.unique unit'
      exact absurd joins alone'
    | range bracket' first' joins' last' ordered' others' =>
      obtain ⟨lows, seconds⟩ := first.unique first'
      cases lows
      cases seconds
      obtain ⟨highs, rfl⟩ := last.unique last'
      cases highs
      obtain ⟨rfl, rfl⟩ := ih others'
      exact ⟨rfl, rfl⟩

private theorem hyphens_unique {n n' : Nat} {text text' : List Char}
    (first : text.head? ≠ some '-') (first' : text'.head? ≠ some '-')
    (same : List.replicate n '-' ++ text = List.replicate n' '-' ++ text') : n = n' ∧ text = text' := by
  induction n generalizing n' with
  | zero =>
    cases n' with
    | zero => exact ⟨rfl, same⟩
    | succ n' => exact absurd (by rw [show text = _ from same]; rfl) first
  | succ n ih =>
    cases n' with
    | zero => exact absurd (by rw [← show _ = text' from same]; rfl) first'
    | succ n' =>
      obtain ⟨rfl, texts⟩ := ih (List.cons.inj same).2
      exact ⟨rfl, texts⟩

private theorem hyphens_not_bracket {n : Nat} {text text' : List Char}
    (bare : n = 0 → text.head? ≠ some ']') : List.replicate n '-' ++ text ≠ ']' :: text' := by
  intro same
  cases n with
  | zero => exact bare rfl (by rw [show text = _ from same]; rfl)
  | succ n => cases same

private theorem hyphens_not_caret {negated : Bool} {n : Nat} {text : List Char}
    (unmarked : negated = false → n = 0 → text.head? ≠ some '^') :
    negated = false → (List.replicate n '-' ++ text).head? ≠ some '^' := by
  intro isFalse
  cases n with
  | zero => exact unmarked isFalse rfl
  | succ n => simp [List.replicate_succ]

/-- **A text spells one class only.** -/
theorem SpellsClass.unique {ctx : Context} {text rest rest' : List Char} {negated negated' : Bool}
    {items items' : List Written} (spelled : SpellsClass ctx text negated items rest)
    (spelled' : SpellsClass ctx text negated' items' rest') :
    negated = negated' ∧ items = items' ∧ rest = rest' := by
  cases spelled with
  | hyphens first bare unmarked others =>
    rename_i n inner others'
    generalize form : caret negated ++ List.replicate n '-' ++ inner = whole at spelled'
    cases spelled' with
    | hyphens first' bare' unmarked' others' =>
      rw [List.append_assoc, List.append_assoc] at form
      obtain ⟨rfl, same⟩ :=
        caret_unique (hyphens_not_caret unmarked) (hyphens_not_caret unmarked') form
      obtain ⟨rfl, rfl⟩ := hyphens_unique first first' same
      obtain ⟨rfl, rfl⟩ := others.unique others'
      exact ⟨rfl, rfl, rfl⟩
    | bracket others' =>
      rw [List.append_assoc] at form
      obtain ⟨-, same⟩ := caret_unique (hyphens_not_caret unmarked) (fun _ => by simp) form
      exact absurd same (hyphens_not_bracket bare)
  | bracket others =>
    rename_i inner others'
    generalize form : caret negated ++ ']' :: inner = whole at spelled'
    cases spelled' with
    | hyphens first' bare' unmarked' others' =>
      rw [List.append_assoc] at form
      obtain ⟨-, same⟩ := caret_unique (fun _ => by simp) (hyphens_not_caret unmarked') form
      exact absurd same.symm (hyphens_not_bracket bare')
    | bracket others' =>
      obtain ⟨rfl, same⟩ := caret_unique (fun _ => by simp) (fun _ => by simp) form
      obtain rfl := (List.cons.inj same).2
      obtain ⟨rfl, rfl⟩ := others.unique others'
      exact ⟨rfl, rfl, rfl⟩

end PatternForge.ClassSet
