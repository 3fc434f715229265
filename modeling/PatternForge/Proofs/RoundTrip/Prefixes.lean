import PatternForge.Proofs.Reading.TreeFacts
import PatternForge.Proofs.RoundTrip.Operators

/-! Group prefixes by their text. The printed ones are none, a name, or the mark of a group without a number,
which keeps the flags as they are; a list of flags before a closing parenthesis is a directive. -/
namespace PatternForge.GroupPrefix
variable {data : CharacterData} {flags : Flags} {taken : List String} {start : Cursor}

/-- The mark of a group without a number. -/
theorem read_flagged {rest : List Char} (next : start.rest = '(' :: '?' :: ':' :: rest) :
    read data flags taken start = .ok (.flagged flags, start.skipMany 3) := by
  have inside : start.skip.rest = '?' :: ':' :: rest := by simp [next]
  have behind : start.skip.skip.rest = ':' :: rest := by simp [next]
  have look : lookAround? start.skip = none := Cursor.findSome_afterText_none inside (by simp [List.isPrefixOf])
  have opening : nameOpening? start.skip = none :=
    Cursor.findSome_afterText_none inside (by simp [List.isPrefixOf])
  have flagless : flagList { flags } start.skip.skip = .ok (flags, start.skip.skip) :=
    flagList_more _ behind
  have going : start.skip.skip.atEnd = false := by rw [Cursor.atEnd, behind]; rfl
  simp only [read, look, opening, inside, List.head?_cons, ↓reduceIte, readFlags, going,
    Bool.false_eq_true, flagless, behind]
  rfl

/-- Flags that hold from there on. -/
theorem read_directive {flags' : Flags} {stop : Cursor} {c : Char} {text rest : List Char}
    (next : start.rest = '(' :: '?' :: c :: text) (isLetter : c ∉ ['=', '!', '<', '>', 'P'])
    (listed : flagList { flags } start.skip.skip = .ok (flags', stop)) (ends : stop.rest = ')' :: rest)
    (further : stop.offset ≠ start.skip.skip.offset) :
    read data flags taken start = .ok (.directive flags', stop) := by
  have inside : start.skip.rest = '?' :: c :: text := by simp [next]
  have behind : start.skip.skip.rest = c :: text := by simp [next]
  have others : '=' ≠ c ∧ '!' ≠ c ∧ '<' ≠ c ∧ '>' ≠ c ∧ 'P' ≠ c := by simpa [eq_comm] using isLetter
  have look : lookAround? start.skip = none :=
    Cursor.findSome_afterText_none inside (by simp [List.isPrefixOf, others])
  have opening : nameOpening? start.skip = none :=
    Cursor.findSome_afterText_none inside (by simp [List.isPrefixOf, others])
  simp only [read, look, opening, inside, List.head?_cons, ↓reduceIte, readFlags,
    Cursor.atEnd_of_cons behind, Bool.false_eq_true, listed, ends, if_neg further]

/-- No prefix. -/
theorem read_unnamed {rest : List Char} (next : start.rest = '(' :: rest)
    (plain : rest.head? ≠ some '?') :
    read data flags taken start = .ok (.capturing none, start.skip) := by
  have inside : start.skip.rest = rest := by simp [next]
  have noMark : ∀ text, List.isPrefixOf ('?' :: text) rest = false := by
    intro text
    cases rest with
    | nil => rfl
    | cons d others =>
      have other : '?' ≠ d := fun same => plain (by rw [← same]; rfl)
      simp [List.isPrefixOf, other]
  have look : lookAround? start.skip = none := Cursor.findSome_afterText_none inside (by simp [noMark])
  have opening : nameOpening? start.skip = none := Cursor.findSome_afterText_none inside (by simp [noMark])
  simp only [read, look, opening, inside, plain, ↓reduceIte]

/-- A name does not start like a look-around. -/
private theorem first_of_isName (legible : data.Legible) {name : String} (isName : IsName data name) :
    ∃ first others, name.toList = first :: others ∧ first ≠ '=' ∧ first ≠ '!' := by
  obtain ⟨nonempty, again⟩ := isName
  obtain ⟨first, others, form⟩ := List.exists_cons_of_ne_nil nonempty
  have isFirst : isNameChar data true first = true := by
    have whole := again []
    rw [form, List.cons_append, nameChars] at whole
    split at whole
    · assumption
    · cases whole
  refine ⟨first, others, form, ?_, ?_⟩
  · rintro rfl
    simp [isNameChar, legible.equals] at isFirst
  · rintro rfl
    simp [isNameChar, legible.exclamation] at isFirst

private theorem name_again {name : String} (isName : IsName data name) (isNew : name ∉ taken)
    {here : Cursor} {rest : List Char} (next : here.rest = name.toList ++ '>' :: rest) :
    GroupPrefix.name data taken here = .ok (name, here.skipMany (name.toList ++ ['>']).length) := by
  obtain ⟨nonempty, again⟩ := isName
  have chars : nameChars data here.rest = name.toList := by rw [next, again]
  have stop : (here.skipMany name.toList.length).rest = '>' :: rest := by simp [next]
  have isNew' : taken.contains name = false := by simpa using isNew
  have some : name.toList.isEmpty = false := by simpa using nonempty
  have after : (here.skipMany name.toList.length).skip =
      here.skipMany (name.toList ++ ['>']).length := by
    rw [List.length_append, Cursor.skipMany_add]
    rfl
  simp only [GroupPrefix.name, chars, stop, some, isNew', ne_eq, not_true_eq_false, ↓reduceIte,
    Bool.false_eq_true, String.ofList_toList, after]

/-- A name between angles. -/
theorem read_named (legible : data.Legible) {name : String} (isName : IsName data name)
    (isNew : name ∉ taken) {rest : List Char}
    (next : start.rest = ['(', '?', '<'] ++ name.toList ++ '>' :: rest) :
    read data flags taken start =
      .ok (.capturing (some name), start.skipMany (['(', '?', '<'] ++ name.toList ++ ['>']).length) := by
  obtain ⟨first, others, form, notEquals, notExclamation⟩ := first_of_isName legible isName
  have inside : start.skip.rest = '?' :: '<' :: first :: (others ++ '>' :: rest) := by
    simp [next, form]
  have look : lookAround? start.skip = none :=
    Cursor.findSome_afterText_none inside (by simp [List.isPrefixOf, notEquals.symm, notExclamation.symm])
  have opening : nameOpening? start.skip = some (start.skip.skipMany 2) := by
    simp only [nameOpening?, List.findSome?, Cursor.afterText?, inside]
    rfl
  have nameStart : (start.skip.skipMany 2).rest = name.toList ++ '>' :: rest := by simp [next]
  have after : (start.skip.skipMany 2).skipMany (name.toList ++ ['>']).length =
      start.skipMany (['(', '?', '<'] ++ name.toList ++ ['>']).length := by
    rw [List.append_assoc, @List.length_append _ ['(', '?', '<'], Cursor.skipMany_add]
    rfl
  simp only [read, look, opening, name_again isName isNew nameStart, after]
  rfl

end PatternForge.GroupPrefix
