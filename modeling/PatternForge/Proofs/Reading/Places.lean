import PatternForge.Reading.Cursor

/-! What is left of the text after a move. Each move of a cursor has one equation for `rest`, so a
reader is understood by the characters it takes off the front. -/
namespace PatternForge.Cursor

/-- A fact of every place holds if it holds at the end and passes from the next place to each one. -/
theorem induct_skip {motive : Cursor → Prop} (atEnd : ∀ a, a.rest = [] → motive a)
    (more : ∀ a c rest, a.rest = c :: rest → motive a.skip → motive a) (a : Cursor) : motive a := by
  obtain ⟨offset, rest⟩ := a
  induction rest generalizing offset with
  | nil => exact atEnd _ rfl
  | cons c rest ih => exact more _ c rest rfl (ih _)

/-- The same for a place and a number of rounds that is larger than the number of characters from there on:
each character takes a round. -/
theorem induct_rounds {motive : (rounds : Nat) → (a : Cursor) → a.rest.length < rounds → Prop}
    (atEnd : ∀ rounds a (_none : a.rest = []) enough, motive (rounds + 1) a enough)
    (more : ∀ rounds a c rest (_next : a.rest = c :: rest) (further : a.skip.rest.length < rounds) enough,
      motive rounds a.skip further → motive (rounds + 1) a enough)
    (rounds : Nat) (a : Cursor) (enough : a.rest.length < rounds) : motive rounds a enough := by
  induction rounds generalizing a with
  | zero => exact absurd enough (Nat.not_lt_zero _)
  | succ rounds ih =>
    cases next : a.rest with
    | nil => exact atEnd rounds a next enough
    | cons c rest =>
      have further := Nat.lt_of_lt_of_le (length_skip_lt next) (Nat.le_of_lt_succ enough)
      exact more rounds a c rest next further enough (ih a.skip further)

@[simp] theorem rest_ofText (text : List Char) : (ofText text).rest = text := rfl

@[simp] theorem rest_skip (a : Cursor) : a.skip.rest = a.rest.tail := by
  unfold skip
  split <;> simp_all

@[simp] theorem rest_skipMany (a : Cursor) (n : Nat) : (a.skipMany n).rest = a.rest.drop n := by
  induction n generalizing a with
  | zero => simp [skipMany]
  | succ n ih => rw [skipMany, ih, rest_skip, List.drop_tail]

/-- The place behind some text is further on by the bytes of the text. -/
theorem skipMany_append {a : Cursor} {text rest : List Char} (next : a.rest = text ++ rest) :
    a.skipMany text.length = ⟨a.offset + (String.ofList text).utf8ByteSize, rest⟩ := by
  induction text generalizing a with
  | nil =>
    obtain ⟨offset, others⟩ := a
    cases next
    rfl
  | cons c text ih =>
    have behind : a.skip.rest = text ++ rest := by rw [rest_skip, next, List.cons_append, List.tail_cons]
    have further : a.skip.offset = a.offset + c.utf8Size := by simp [skip, next]
    have size : (String.ofList (c :: text)).utf8ByteSize =
        c.utf8Size + (String.ofList text).utf8ByteSize := by simp
    rw [List.length_cons, skipMany, ih behind, further, size, Nat.add_assoc]

/-- What is left is what was left, less what was taken, and the offset counts the bytes that were taken. -/
theorem Reaches.exists_between {a b : Cursor} (reaches : a.Reaches b) :
    ∃ text, a.rest = text ++ b.rest ∧ b.offset = a.offset + (String.ofList text).utf8ByteSize := by
  obtain ⟨n, rfl⟩ := reaches
  induction n generalizing a with
  | zero => exact ⟨[], rfl, rfl⟩
  | succ n ih =>
    obtain ⟨text, split, further⟩ := @ih a.skip
    cases next : a.rest with
    | nil =>
      have stays : a.skip = a := by simp [skip, next]
      rw [stays, next] at split
      rw [stays] at further
      refine ⟨text, ?_, ?_⟩
      · rw [skipMany, stays]
        exact split
      · rw [skipMany, stays]
        exact further
    | cons c rest =>
      rw [rest_skip, next, List.tail_cons] at split
      refine ⟨c :: text, congrArg (c :: ·) split, ?_⟩
      have size : (String.ofList (c :: text)).utf8ByteSize = c.utf8Size + (String.ofList text).utf8ByteSize := by
        simp
      have further' : a.skip.offset = a.offset + c.utf8Size := by simp [skip, next]
      rw [skipMany, further, further', size]
      omega

theorem Reaches.exists_append {a b : Cursor} (reaches : a.Reaches b) :
    ∃ front, a.rest = front ++ b.rest := by
  obtain ⟨front, split, -⟩ := reaches.exists_between
  exact ⟨front, split⟩

/-- Between two places stand only characters of a kind. -/
def Through (holds : Char → Prop) (a b : Cursor) : Prop :=
  ∃ text, a.rest = text ++ b.rest ∧ ∀ c ∈ text, holds c

theorem Through.refl {holds : Char → Prop} (a : Cursor) : a.Through holds a := ⟨[], rfl, nofun⟩

theorem Through.trans {holds : Char → Prop} {a b d : Cursor} (first : a.Through holds b)
    (second : b.Through holds d) : a.Through holds d := by
  obtain ⟨text, between, each⟩ := first
  obtain ⟨text', between', each'⟩ := second
  refine ⟨text ++ text', by rw [between, between', List.append_assoc], fun c member => ?_⟩
  exact (List.mem_append.mp member).elim (each c) (each' c)

/-- A place lies in a text. -/
def Within (c : Cursor) (text : List Char) : Prop := (ofText text).Reaches c

theorem Within.on {a b : Cursor} {text : List Char} (within : a.Within text) (reaches : a.Reaches b) :
    b.Within text :=
  within.trans reaches

theorem Within.skip {a : Cursor} {text : List Char} (within : a.Within text) : a.skip.Within text :=
  within.on (reaches_skip a)

@[simp] theorem rest_skipWhile (holds : Char → Bool) (a : Cursor) :
    (a.skipWhile holds).rest = a.rest.dropWhile holds := by
  have parts := congrArg (List.drop (a.rest.takeWhile holds).length)
    (List.takeWhile_append_dropWhile (p := holds) (l := a.rest))
  rw [List.drop_left] at parts
  rw [skipWhile, rest_skipMany, parts]

theorem through_skip {holds : Char → Prop} {a : Cursor} {c : Char} {rest : List Char}
    (next : a.rest = c :: rest) (isOne : holds c) : a.Through holds a.skip := by
  refine ⟨[c], by rw [rest_skip, next]; rfl, fun d member => ?_⟩
  rwa [List.mem_singleton.mp member]

theorem through_skipWhile {holds : Char → Prop} {taken : Char → Bool} (each : ∀ c, taken c = true → holds c)
    (a : Cursor) : a.Through holds (a.skipWhile taken) := by
  refine ⟨a.rest.takeWhile taken, by rw [rest_skipWhile, List.takeWhile_append_dropWhile], fun c member => ?_⟩
  exact each c (List.all_eq_true.mp List.all_takeWhile c member)

theorem skipWhile_of_atEnd {a : Cursor} {holds : Char → Bool} (none : a.rest = []) :
    a.skipWhile holds = a := by
  simp [skipWhile, none, skipMany]

theorem skipWhile_of_holds {a : Cursor} {holds : Char → Bool} {c : Char} {rest : List Char}
    (next : a.rest = c :: rest) (isOne : holds c = true) :
    a.skipWhile holds = a.skip.skipWhile holds := by
  simp [skipWhile, next, isOne, skipMany]

theorem skipWhile_of_not {a : Cursor} {holds : Char → Bool} {c : Char} {rest : List Char}
    (next : a.rest = c :: rest) (isNone : holds c = false) : a.skipWhile holds = a := by
  simp [skipWhile, next, isNone, skipMany]

theorem charsTo_eq {a b : Cursor} {chars : List Char} (between : a.rest = chars ++ b.rest) :
    a.charsTo b = chars := by
  simp [charsTo, between]

theorem charsTo_skip {a : Cursor} {c : Char} {rest : List Char} (next : a.rest = c :: rest) :
    a.charsTo a.skip = [c] :=
  charsTo_eq (by simp [next])

@[simp] theorem charsTo_skipWhile (holds : Char → Bool) (a : Cursor) :
    a.charsTo (a.skipWhile holds) = a.rest.takeWhile holds :=
  charsTo_eq (by simp)

theorem afterText_eq_some {a b : Cursor} {text : List Char} :
    a.afterText? text = some b ↔ a.rest = text ++ b.rest ∧ b = a.skipMany text.length := by
  unfold afterText?
  constructor
  · intro found
    split at found
    · rename_i isPrefix
      obtain ⟨others, same⟩ := List.isPrefixOf_iff_prefix.mp isPrefix
      cases found
      simp [← same]
    · cases found
  · rintro ⟨next, rfl⟩
    rw [if_pos (List.isPrefixOf_iff_prefix.mpr ⟨_, next.symm⟩)]

/-- None of some texts stands here. -/
theorem findSome_afterText_none {a : Cursor} {text : List Char} {marks : List (List Char)}
    (next : a.rest = text) (others : ∀ mark ∈ marks, mark.isPrefixOf text = false) :
    marks.findSome? a.afterText? = none := by
  refine List.findSome?_eq_none_iff.mpr fun mark member => ?_
  rw [afterText?, next, others mark member]
  rfl

theorem rest_of_atEnd {a : Cursor} : a.atEnd = true ↔ a.rest = [] := by
  simp [atEnd]

theorem atEnd_of_cons {a : Cursor} {c : Char} {rest : List Char} (next : a.rest = c :: rest) :
    a.atEnd = false := by
  simp [atEnd, next]

/-- Where a character occurs, stopping at it cuts the text at its first occurrence. -/
theorem takeWhile_ne_of_dropWhile {text : List Char} {mark : Char}
    (found : text.dropWhile (· ≠ mark) ≠ []) :
    ∃ before after, text = before ++ mark :: after ∧ mark ∉ before ∧
      text.takeWhile (· ≠ mark) = before ∧ text.dropWhile (· ≠ mark) = mark :: after := by
  induction text with
  | nil => exact absurd rfl found
  | cons c rest ih =>
    by_cases same : c = mark
    · exact ⟨[], rest, by simp [same], by simp, by simp [same], by simp [same]⟩
    · rw [List.dropWhile_cons_of_pos (by simpa using same)] at found ⊢
      obtain ⟨before, after, rfl, absent, taken, dropped⟩ := ih found
      refine ⟨c :: before, after, rfl, ?_, ?_, dropped⟩
      · simp [absent, Ne.symm same]
      · rw [List.takeWhile_cons_of_pos (by simpa using same), taken]

theorem ne_nil_of_dropWhile {holds : Char → Bool} {text : List Char}
    (inside : text.dropWhile holds ≠ []) : text ≠ [] := by
  rintro rfl
  exact inside rfl

/-- Where a condition ends within a text, it does not matter what follows the text. -/
theorem while_append {holds : Char → Bool} {text : List Char} (stops : text.dropWhile holds ≠ [])
    (more : List Char) :
    (text ++ more).takeWhile holds = text.takeWhile holds ∧
      (text ++ more).dropWhile holds = text.dropWhile holds ++ more := by
  have short : ((text.takeWhile holds).length = text.length) = False := by
    refine eq_false fun whole => stops ?_
    have parts := congrArg List.length (List.takeWhile_append_dropWhile (p := holds) (l := text))
    rw [List.length_append, whole] at parts
    exact List.length_eq_zero_iff.mp (by omega)
  constructor
  · rw [List.takeWhile_append]
    simp only [short, ↓reduceIte]
  · rw [List.dropWhile_append, if_neg (by simpa using stops)]

end PatternForge.Cursor
