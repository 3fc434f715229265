import PatternForge.Matching.Regular.Reader
import PatternForge.Proofs.Matching.Classes
import PatternForge.Proofs.Reading.Operators

/-!
Operators and openings of groups in both notations. Where no flag is set, the finite engine finds the same
bounds in an operator as the reader of patterns, and the same name in front of a group, and both go on
at the same place. The text of the engine goes on behind that of the pattern; what follows there must
not be taken for a mark of laziness or of a group's kind.
-/
namespace PatternForge

namespace Regular

variable {data : CharacterData} {more : List Char}

/-! ### Operators -/

/-- Both find the same mark of laziness. -/
private theorem lazy_append {flags : Flags} {start last after : Cursor} {greedy : Bool}
    (read : Repeat.greediness flags start last = .ok (greedy, after)) (calm : more.head? ≠ some '?')
    {last' : Cursor} (same : last'.rest = last.skip.rest ++ more) :
    (if last'.rest.head? = some '?' then last'.skip else last').rest = after.rest ++ more := by
  unfold Repeat.greediness at read
  split at read
  · rename_i others mark
    cases read
    rw [mark] at same
    rw [same, List.cons_append, List.head?_cons, if_pos rfl, Cursor.rest_skip, Cursor.rest_skip, same, mark]
    rfl
  · cases read
  · rename_i noMark _
    cases read
    have notMark : (last.skip.rest ++ more).head? ≠ some '?' := by
      cases behind : last.skip.rest with
      | nil => exact calm
      | cons c rest =>
        rintro head
        cases head
        exact noMark rest behind
    rw [same, if_neg notMark, same]

/-- Both read the same number, if something follows it. -/
private theorem number_append {here after here' : Cursor} {n : UInt32}
    (read : Repeat.decimal data here = .ok (n, after)) (inside : after.rest ≠ [])
    (same : here'.rest = here.rest ++ more) :
    ∃ after', number? data {} here' = some (n.toNat, after') ∧ after'.rest = after.rest ++ more := by
  unfold Repeat.decimal at read
  dsimp only at read
  split at read
  · cases read
  · rename_i nonempty
    split at read
    · rename_i small
      cases read
      simp only [Cursor.charsTo_skipWhile, Cursor.rest_skipWhile] at inside nonempty small
      have behindDigits := Cursor.ne_nil_of_dropWhile inside
      have behindBlanks := Cursor.ne_nil_of_dropWhile behindDigits
      have start := (Cursor.while_append behindBlanks more).2
      obtain ⟨digits, stop⟩ := Cursor.while_append behindDigits more
      have after := (Cursor.while_append inside more).2
      refine ⟨((here'.skipWhile data.space).skipWhile Char.isDigit).skipWhile data.space, ?_, ?_⟩
      · unfold number?
        simp only [spelled_plain, Cursor.rest_skipWhile, Cursor.charsTo_skipWhile, same, start, digits]
        rw [Bool.eq_false_iff.mpr nonempty, Bool.false_or,
          if_neg (by simpa using small), UInt32.toNat_ofNat_of_lt' small]
      · simp only [Cursor.rest_skipWhile, same, start, stop, after]
    · cases read

/-- Both find the same bounds between braces. -/
private theorem count_append {start close start' : Cursor} {least : UInt32} {most : Option UInt32}
    (read : Repeat.count data start = .ok (least, most, close))
    (same : start'.skip.rest = start.skip.rest ++ more) :
    close.rest.head? = some '\x7d' ∧
      ∃ close', count? data {} start' = some (least.toNat, most.map UInt32.toNat, close') ∧
        close'.rest = close.rest ++ more := by
  obtain ⟨-, between, isFirst, ⟨⟨rest, brace⟩, rfl, rfl⟩ | ⟨⟨rest, comma⟩, rfl, rfl⟩ |
    ⟨⟨d, rest, comma, going⟩, bound, isSecond, ⟨text, brace⟩, rfl⟩⟩ := Repeat.count_eq_ok.mp read
  · obtain ⟨between', isFirst', stop⟩ :=
      number_append isFirst (by rw [brace]; exact List.cons_ne_nil _ _) same
    have noComma : ¬between'.rest.head? = some ',' := by simp [stop, brace]
    refine ⟨by rw [brace]; rfl, between', ?_, stop⟩
    unfold count?
    simp only [next_plain, isFirst', Option.bind_eq_bind, Option.bind_some, noComma, ↓reduceIte]
    rfl
  · obtain ⟨between', isFirst', stop⟩ :=
      number_append isFirst (by rw [comma]; exact List.cons_ne_nil _ _) same
    have isComma : between'.rest.head? = some ',' := by simp [stop, comma]
    have behind : between'.skip.rest = between.skip.rest ++ more := by simp [Cursor.rest_skip, stop, comma]
    have closes : between'.skip.rest.head? = some '\x7d' := by simp [Cursor.rest_skip, stop, comma]
    refine ⟨by rw [Cursor.rest_skip, comma]; rfl, between'.skip, ?_, behind⟩
    unfold count?
    simp only [next_plain, isFirst', Option.bind_eq_bind, Option.bind_some, isComma, ↓reduceIte, closes]
    rfl
  · obtain ⟨between', isFirst', stop⟩ :=
      number_append isFirst (by rw [comma]; exact List.cons_ne_nil _ _) same
    have isComma : between'.rest.head? = some ',' := by simp [stop, comma]
    have behind : between'.skip.rest = between.skip.rest ++ more := by simp [Cursor.rest_skip, stop, comma]
    have goesOn : ¬between'.skip.rest.head? = some '\x7d' := by simpa [Cursor.rest_skip, stop, comma] using going
    obtain ⟨last', isSecond', stop'⟩ :=
      number_append isSecond (by rw [brace]; exact List.cons_ne_nil _ _) behind
    refine ⟨by rw [brace]; rfl, last', ?_, stop'⟩
    unfold count?
    simp only [next_plain, isFirst', Option.bind_eq_bind, Option.bind_some, isComma, ↓reduceIte, goesOn,
      isSecond']
    rfl

/-- The items of a state and a repetition of the last of them. -/
private theorem repeatLast_eq {st : State} {e : Expression} {earlier : List Item}
    (last : st.items = .expression e :: earlier) (least : Nat) (most : Option Nat) (after : Cursor) :
    ∃ greedy, repeatLast st least most after =
      some { st with
        here := if after.rest.head? = some '?' then after.skip else after
        items := .expression (.repeated least most greedy e) :: earlier } := by
  unfold repeatLast
  rw [last]
  exact ⟨_, rfl⟩

section Repeating
variable {flags : Flags} {start after : Cursor} {rest : List Char} {bounds : Bounds} {st : State}
  {e : Expression} {earlier : List Item}

/-- The engine repeats the last expression by some bounds, and goes on where the reader does. -/
private def Repeats (st : State) (bounds : Bounds) (e : Expression) (earlier : List Item)
    (rest : List Char) (result : Option State) : Prop :=
  ∃ greedy after', after'.rest = rest ∧
    result = some { st with
      here := after'
      items := .expression (.repeated bounds.least.toNat (bounds.most.map UInt32.toNat) greedy e) ::
        earlier }

private theorem repeats_of_greediness {last last' : Cursor}
    (read : Repeat.greediness flags start last = .ok (bounds.greedy, after))
    (calm : more.head? ≠ some '?') (same : last'.rest = last.skip.rest ++ more)
    (isLast : st.items = .expression e :: earlier) :
    Repeats st bounds e earlier (after.rest ++ more)
      (repeatLast st bounds.least.toNat (bounds.most.map UInt32.toNat) last') := by
  obtain ⟨greedy, repeated⟩ := repeatLast_eq isLast bounds.least.toNat (bounds.most.map UInt32.toNat) last'
  exact ⟨greedy, _, lazy_append read calm same, repeated⟩

private theorem repeats_of_plain {least : UInt32} {most : Option UInt32}
    (read : Repeat.plain flags start least most = .ok (bounds, after))
    (calm : more.head? ≠ some '?') (same : st.here.skip.rest = start.skip.rest ++ more)
    (isLast : st.items = .expression e :: earlier) :
    Repeats st bounds e earlier (after.rest ++ more)
      (repeatLast st least.toNat (most.map UInt32.toNat) st.here.skip) := by
  obtain ⟨greedy, isMark, rfl⟩ := Repeat.plain_eq_ok.mp read
  exact repeats_of_greediness isMark calm same isLast

private theorem repeats_of_counted (read : Repeat.counted data flags start = .ok (bounds, after))
    (calm : more.head? ≠ some '?') (mode : st.mode = {})
    (same : st.here.skip.rest = start.skip.rest ++ more)
    (isLast : st.items = .expression e :: earlier) :
    Repeats st bounds e earlier (after.rest ++ more) (countedRepeat data st) := by
  obtain ⟨least, most, close, greedy, isFound, isMark, ordered, rfl⟩ := Repeat.counted_eq_ok.mp read
  obtain ⟨closes, close', isFound', stop⟩ := count_append isFound same
  have closes' : close'.rest.head? = some '\x7d' := by
    rw [stop, List.head?_append, closes]
    rfl
  have behind : close'.skip.rest = close.skip.rest ++ more := by
    obtain ⟨others, next⟩ := List.head?_eq_some_iff.mp closes
    rw [Cursor.rest_skip, Cursor.rest_skip, stop, next]
    rfl
  have ordered' : (most.map UInt32.toNat).any (· < least.toNat) = false := by
    cases most with
    | none => rfl
    | some bound => simpa [UInt32.lt_iff_toNat_lt] using ordered bound rfl
  unfold countedRepeat
  rw [mode]
  simp only [isFound', Option.bind_eq_bind, Option.bind_some, closes', ordered', next_plain]
  exact repeats_of_greediness isMark calm behind isLast

/-- An operator of a pattern is one of the engine, with the same bounds. -/
theorem repeats_of_read {c : Char} (operator : c ∈ ['?', '*', '+', '\x7b'])
    (read : Repeat.read data flags start c = .ok (bounds, after)) (next : start.rest = c :: rest)
    (calm : more.head? ≠ some '?') (mode : st.mode = {}) (same : st.here.rest = start.rest ++ more)
    (isLast : st.items = .expression e :: earlier) :
    ∃ greedy after', after'.rest = after.rest ++ more ∧
      step data st c = some { st with
        here := after'
        items := .expression (.repeated bounds.least.toNat (bounds.most.map UInt32.toNat) greedy e) ::
          earlier } := by
  have behind : st.here.skip.rest = start.skip.rest ++ more := by
    rw [Cursor.rest_skip, same, next, Cursor.rest_skip, next]
    rfl
  simp only [List.mem_cons, List.not_mem_nil, or_false] at operator
  rcases operator with rfl | rfl | rfl | rfl
  · exact repeats_of_plain read calm behind isLast
  · exact repeats_of_plain read calm behind isLast
  · exact repeats_of_plain read calm behind isLast
  · exact repeats_of_counted read calm mode behind isLast

end Repeating

/-! ### Openings of groups -/

end Regular

/-- Whether a text begins with an opening parenthesis and flags, for a group or for what follows. -/
def GroupPrefix.opensFlags : List Char → Bool
  | '(' :: '?' :: c :: _ => c = '-' || (applyFlag {} true c).isSome
  | _ => false

namespace Regular

variable {data : CharacterData} {more : List Char}

private theorem ne_nil_of_name {taken : List String} {start after : Cursor} {name : String}
    (read : GroupPrefix.name data taken start = .ok (name, after)) : start.rest ≠ [] := by
  intro none
  simp [GroupPrefix.name, none, GroupPrefix.nameChars] at read

private theorem name_append {taken : List String} {start after start' : Cursor} {name : String}
    (read : GroupPrefix.name data taken start = .ok (name, after))
    (same : start'.rest = start.rest ++ more) :
    ∃ after', GroupPrefix.name data taken start' = .ok (name, after') ∧
      after'.rest = after.rest ++ more := by
  obtain ⟨isName, isNew, rest, spelled, rfl⟩ := GroupPrefix.name_eq_ok.mp read
  have spelled' : start'.rest = name.toList ++ '>' :: (rest ++ more) := by
    rw [same, spelled, List.append_assoc, List.cons_append]
  refine ⟨_, GroupPrefix.name_eq_ok.mpr ⟨isName, isNew, _, spelled', rfl⟩, ?_⟩
  rw [Cursor.rest_skip, Cursor.rest_skipMany, spelled', List.drop_left, Cursor.rest_skip, Cursor.rest_skipMany,
    spelled, List.drop_left]
  rfl

/-- The prefixes that the engine does not know. -/
private def unknownPrefixes : List (List Char) := [['?', '='], ['?', '!'], ['?', '<', '='], ['?', '<', '!']]

/-- An opening parenthesis that no question mark follows. -/
private theorem openGroup_bare {st : State} (mode : st.mode = {})
    (bare : st.here.skip.rest.head? ≠ some '?') :
    openGroup data st = some (st.enterNumbered st.here.skip) := by
  have plain : ∀ marks : List (List Char), (∀ mark ∈ marks, mark.head? = some '?') →
      ∀ mark ∈ marks, mark.isPrefixOf st.here.skip.rest = false := by
    intro marks opens mark member
    obtain ⟨others, rfl⟩ := List.head?_eq_some_iff.mp (opens mark member)
    cases next : st.here.skip.rest with
    | nil => rfl
    | cons c rest =>
      have other : ('?' == c) = false := by
        rw [next] at bare
        simpa using fun same : '?' = c => bare (same ▸ rfl)
      simp [List.isPrefixOf, other]
  have unknown := Cursor.findSome_afterText_none rfl (plain unknownPrefixes (by decide))
  have unnamed : GroupPrefix.nameOpening? st.here.skip = none :=
    Cursor.findSome_afterText_none rfl (plain _ (by decide))
  unfold unknownPrefixes at unknown
  unfold openGroup
  simp only [mode, skipBlanks_plain, unknown, Option.isSome_none, Bool.false_eq_true, ↓reduceIte,
    unnamed, bare]
  rfl

/-- Parentheses around a body without a number. -/
theorem openGroup_colon {st : State} (mode : st.mode = {}) {rest : List Char}
    (next : st.here.skip.rest = '?' :: ':' :: rest) :
    openGroup data st = some (st.enter none {} st.here.skip.skip.skip) := by
  have unknown : unknownPrefixes.findSome? st.here.skip.afterText? = none :=
    Cursor.findSome_afterText_none next (by simp [unknownPrefixes, List.isPrefixOf])
  have unnamed : GroupPrefix.nameOpening? st.here.skip = none :=
    Cursor.findSome_afterText_none next (by simp [List.isPrefixOf])
  unfold unknownPrefixes at unknown
  have colon : st.here.skip.skip.rest = ':' :: rest := by rw [Cursor.rest_skip, next]; rfl
  unfold openGroup
  simp only [mode, skipBlanks_plain, unknown, Option.isSome_none, Bool.false_eq_true, ↓reduceIte,
    unnamed, next, List.head?_cons]
  unfold openFlags
  simp only [colon, flags, mode, true_or, ↓reduceIte, Option.bind_eq_bind, Option.bind_some,
    Bool.false_eq_true, Nat.sub_self]
  rfl

/-- A name is opened in both notations alike, and what the reader takes for a name, the engine does not
take for look-around. -/
private theorem nameOpening_append {here here' start : Cursor}
    (noLook : GroupPrefix.lookAround? here = none) (opening : GroupPrefix.nameOpening? here = some start)
    (inside : start.rest ≠ []) (same : here'.rest = here.rest ++ more) :
    unknownPrefixes.findSome? here'.afterText? = none ∧
      ∃ start', GroupPrefix.nameOpening? here' = some start' ∧ start'.rest = start.rest ++ more := by
  obtain ⟨c, rest, isStart⟩ := List.exists_cons_of_ne_nil inside
  have noMark : ∀ mark ∈ unknownPrefixes, mark.isPrefixOf here.rest = false := by
    intro mark member
    have listed : mark ∈ [['?', '='], ['?', '!'], ['?', '<', '='], ['?', '<', '!'], ['?', '>']] := by
      simp only [unknownPrefixes, List.mem_cons, List.not_mem_nil, or_false] at member ⊢
      tauto
    have none := List.findSome?_eq_none_iff.mp noLook mark listed
    unfold Cursor.afterText? at none
    split at none
    · cases none
    · exact Bool.eq_false_iff.mpr ‹_›
  unfold GroupPrefix.nameOpening? at opening
  simp only [List.findSome?_cons, List.findSome?_nil] at opening
  split at opening
  · rename_i found
    cases opening
    have next := (Cursor.afterText_eq_some.mp found).1
    rw [next, isStart] at same
    refine ⟨Cursor.findSome_afterText_none same (by simp [unknownPrefixes, List.isPrefixOf]),
      here'.skipMany 3, ?_, ?_⟩
    · simp [GroupPrefix.nameOpening?, Cursor.afterText?, same, List.isPrefixOf]
    · simp [same, isStart]
  · split at opening
    · rename_i found
      cases opening
      have next := (Cursor.afterText_eq_some.mp found).1
      rw [next, isStart] at noMark same
      have notEquals : c ≠ '=' := by
        rintro rfl
        have := noMark ['?', '<', '='] (by simp [unknownPrefixes])
        simp [List.isPrefixOf] at this
      have notExclamation : c ≠ '!' := by
        rintro rfl
        have := noMark ['?', '<', '!'] (by simp [unknownPrefixes])
        simp [List.isPrefixOf] at this
      refine ⟨Cursor.findSome_afterText_none same ?_, here'.skipMany 2, ?_, ?_⟩
      · simp [unknownPrefixes, List.isPrefixOf, notEquals.symm, notExclamation.symm]
      · simp [GroupPrefix.nameOpening?, Cursor.afterText?, same, List.isPrefixOf]
      · simp [same, isStart]
    · cases opening

private theorem openGroup_named {st : State} (mode : st.mode = {}) {start after : Cursor} {name : String}
    (unknown : unknownPrefixes.findSome? st.here.skip.afterText? = none)
    (opening : GroupPrefix.nameOpening? st.here.skip = some start)
    (isName : GroupPrefix.name data st.names start = .ok (name, after)) :
    openGroup data st = some ({ st with names := name :: st.names }.enterNumbered after) := by
  unfold unknownPrefixes at unknown
  unfold openGroup
  simp only [mode, skipBlanks_plain, unknown, Option.isSome_none, Bool.false_eq_true, ↓reduceIte,
    opening, isName]
  rfl

/-- A letter is a flag whatever the flags are. -/
private theorem applyFlag_eq_none {c : Char} (noFlag : (GroupPrefix.applyFlag {} true c).isSome = false)
    (flags : Flags) (on : Bool) : GroupPrefix.applyFlag flags on c = none := by
  unfold GroupPrefix.applyFlag at noFlag ⊢
  split at noFlag <;> first
    | rfl
    | cases noFlag

/-- Where no flags are listed, what the reader takes for flags is no more than a colon. -/
private theorem colon_of_readFlags {flags : Flags} {start here after : Cursor} {found : GroupPrefix}
    (read : GroupPrefix.readFlags flags start here = .ok (found, after))
    (plain : GroupPrefix.opensFlags ('(' :: '?' :: here.rest) = false) :
    ∃ rest, here.rest = ':' :: rest ∧ found = .flagged flags ∧ after = here.skip := by
  unfold GroupPrefix.readFlags at read
  split at read
  · cases read
  · rename_i inside
    cases next : here.rest with
    | nil => exact absurd (Cursor.rest_of_atEnd.mpr next) inside
    | cons c rest =>
      rw [next] at plain
      obtain ⟨notSign, noFlag⟩ : c ≠ '-' ∧ (GroupPrefix.applyFlag {} true c).isSome = false := by
        simpa [GroupPrefix.opensFlags] using plain
      rw [GroupPrefix.flagList_more _ next] at read
      by_cases isColon : c = ':'
      · subst isColon
        simp only [true_or, ↓reduceIte, Bool.false_eq_true, next, List.head?_cons, Option.some.injEq,
          Char.reduceEq, Except.ok.injEq, Prod.mk.injEq] at read
        exact ⟨rest, rfl, read.1.symm, read.2.symm⟩
      · by_cases isClose : c = ')'
        · subst isClose
          simp [next] at read
        · simp [isColon, isClose, GroupPrefix.flagStep, notSign, applyFlag_eq_none noFlag] at read

/-- An opening parenthesis of a pattern is one of the engine, with the same name, unless flags follow. -/
theorem opens_of_read {flags : Flags} {start after : Cursor} {found : GroupPrefix} {st : State}
    {rest : List Char} (read : GroupPrefix.read data flags st.names start = .ok (found, after))
    (next : start.rest = '(' :: rest) (plain : GroupPrefix.opensFlags start.rest = false)
    (calm : more.head? ≠ some '?') (mode : st.mode = {}) (same : st.here.rest = start.rest ++ more) :
    ∃ after', after'.rest = after.rest ++ more ∧
      ((found = .flagged flags ∧ openGroup data st = some (st.enter none {} after')) ∨
        ∃ name : Option String, found = .capturing name ∧
          openGroup data st =
            some ({ st with names := name.toList ++ st.names }.enterNumbered after')) := by
  have behind : start.skip.rest = rest := by rw [Cursor.rest_skip, next]; rfl
  have behind' : st.here.skip.rest = start.skip.rest ++ more := by
    rw [Cursor.rest_skip, same, next, behind]
    rfl
  obtain ⟨noLook, ⟨nameStart, name, opening, isName, rfl⟩ |
    ⟨-, ⟨question, isFlags⟩ | ⟨bare, rfl, rfl⟩⟩⟩ := GroupPrefix.read_eq_ok.mp read
  · have inside : nameStart.rest ≠ [] := ne_nil_of_name isName
    obtain ⟨unknown, nameStart', opening', start'⟩ := nameOpening_append noLook opening inside behind'
    obtain ⟨after', isName', stop⟩ := name_append isName start'
    exact ⟨after', stop, .inr ⟨some name, rfl, openGroup_named mode unknown opening' isName'⟩⟩
  · obtain ⟨others, isQuestion⟩ := List.head?_eq_some_iff.mp question
    have listed : start.rest = '(' :: '?' :: start.skip.skip.rest := by
      rw [next, ← behind, Cursor.rest_skip start.skip, isQuestion]
      rfl
    rw [listed] at plain
    obtain ⟨last, colon, rfl, rfl⟩ := colon_of_readFlags isFlags plain
    rw [Cursor.rest_skip, isQuestion, List.tail_cons] at colon
    have next' : st.here.skip.rest = '?' :: ':' :: (last ++ more) := by
      rw [behind', isQuestion, colon]
      rfl
    have inRow : start.rest = '(' :: '?' :: ':' :: last := by
      rw [next, ← behind, isQuestion, colon]
    refine ⟨_, ?_, .inl ⟨rfl, openGroup_colon mode next'⟩⟩
    simp [same, inRow]
  · have bare' : st.here.skip.rest.head? ≠ some '?' := by
      rw [behind']
      cases inside : start.skip.rest with
      | nil => exact calm
      | cons c others => rwa [inside] at bare
    exact ⟨_, behind', .inr ⟨none, rfl, openGroup_bare mode bare'⟩⟩

end Regular

end PatternForge
