import PatternForge.Proofs.RoundTrip.Moves

/-!
Printed repetition operators. A count is printed by its decimal digits, and no character after an
operator is taken for a mark of laziness, as long as no item starts with one (`Calm`).
-/
namespace PatternForge

/-- What printed patterns rely on about characters: digits and the characters around counts are no
white space, and the characters of look-around start no name. -/
structure CharacterData.Legible (data : CharacterData) : Prop where
  digit : ∀ c : Char, c.isDigit = true → data.space c = false
  comma : data.space ',' = false
  brace : data.space '\x7d' = false
  equals : data.alphabetic '=' = false
  exclamation : data.alphabetic '!' = false

theorem CharacterData.legible_standard : CharacterData.standard.Legible where
  digit := by
    intro c isDigit
    simp only [Char.isDigit, Bool.and_eq_true, decide_eq_true_eq, UInt32.le_iff_toNat_le] at isDigit
    have low : 48 ≤ c.toNat := isDigit.1
    have high : c.toNat ≤ 57 := isDigit.2
    have codes : ∀ a b : Char, a ≤ b ↔ a.toNat ≤ b.toNat := fun a b => Iff.rfl
    have space : ' '.toNat = 32 := rfl
    have tab : '\t'.toNat = 9 := rfl
    have feed : '\r'.toNat = 13 := rfl
    simp only [standard, isSpace, Bool.or_eq_false_iff, Bool.and_eq_false_iff, decide_eq_false_iff_not,
      codes, ← Char.toNat_inj]
    omega
  comma := by decide
  brace := by decide
  equals := by decide
  exclamation := by decide

/-- A text that does not start with a mark of laziness or possessiveness. -/
def Calm (text : List Char) : Prop := text.head? ≠ some '?' ∧ text.head? ≠ some '+'

namespace Repeat
variable {data : CharacterData} {flags : Flags} {start here : Cursor}

private theorem skipWhile_of_stop {holds : Char → Bool} {c : Char} {rest : List Char}
    (next : here.rest = c :: rest) (stops : holds c = false) : here.skipWhile holds = here := by
  rw [Cursor.skipWhile, next, List.takeWhile_cons_of_neg (by simp [stops])]
  rfl

/-- A printed number is read as that number. -/
private theorem decimal_digits (legible : data.Legible) {n : UInt32} {c : Char} {rest : List Char}
    (next : here.rest = Text.decimal n.toNat ++ c :: rest) (notDigit : c.isDigit = false)
    (notSpace : data.space c = false) :
    decimal data here = .ok (n, here.skipMany (Text.decimal n.toNat).length) := by
  have digits : ∀ d ∈ Text.decimal n.toNat, d.isDigit = true := fun d member =>
    Nat.isDigit_of_mem_toDigits (by decide) (by decide) member
  have some : Text.decimal n.toNat ≠ [] := Nat.toDigits_ne_nil
  have starts : here.skipWhile data.space = here := by
    cases form : Text.decimal n.toNat with
    | nil => exact absurd form some
    | cons d others =>
      rw [form] at next
      exact skipWhile_of_stop next (legible.digit d (digits d (by simp [form])))
  have taken : here.rest.takeWhile Char.isDigit = Text.decimal n.toNat := by
    rw [next, List.takeWhile_append_of_pos digits, List.takeWhile_cons_of_neg (by simp [notDigit]),
      List.append_nil]
  have stop : here.skipWhile Char.isDigit = here.skipMany (Text.decimal n.toNat).length := by
    rw [Cursor.skipWhile, taken]
  have behind : (here.skipMany (Text.decimal n.toNat).length).rest = c :: rest := by simp [next]
  have value : (Text.decimal n.toNat).foldl (fun v d => 10 * v + (d.toNat - '0'.toNat)) 0 =
      n.toNat := by
    rw [← Nat.ofDigitChars_eq_foldl, Text.decimal, Nat.ofDigitChars_ten_toDigits]
  have between : here.charsTo (here.skipMany (Text.decimal n.toNat).length) =
      Text.decimal n.toNat := Cursor.charsTo_eq (by rw [behind, next])
  have small : n.toNat < UInt32.size := n.toNat_lt
  unfold decimal
  simp only [starts, stop, between, value, small, ↓reduceIte]
  rw [if_neg (by simpa using some), skipWhile_of_stop behind notSpace]
  simp

/-- The mark of laziness. -/
private def mark (greedy : Bool) : List Char := if greedy then [] else ['?']

private theorem greediness_mark (greed : flags.swapGreed = false) {last : Cursor} {greedy : Bool}
    {rest : List Char} (calm : Calm rest) (next : last.skip.rest = mark greedy ++ rest) :
    greediness flags start last = .ok (greedy, last.skip.skipMany (mark greedy).length) := by
  unfold greediness
  rw [next]
  cases greedy with
  | true =>
    simp only [mark, ↓reduceIte, List.nil_append]
    split
    · exact absurd rfl calm.1
    · exact absurd rfl calm.2
    · rw [greed]
      rfl
  | false =>
    rw [greed]
    rfl

/-- An operator of one character. -/
private theorem plain_mark (greed : flags.swapGreed = false) {least : UInt32} {most : Option UInt32}
    {greedy : Bool} {c : Char} {rest : List Char} (calm : Calm rest)
    (next : here.rest = c :: mark greedy ++ rest) :
    plain flags here least most =
      .ok ({ least, most, greedy }, here.skipMany (c :: mark greedy).length) := by
  have behind : here.skip.rest = mark greedy ++ rest := by simp [next]
  simp only [plain, bind, Except.bind, greediness_mark greed calm behind, pure, Except.pure]
  rfl

private theorem count_exact (legible : data.Legible) {least : UInt32} {rest : List Char}
    (next : here.rest = '\x7b' :: Text.decimal least.toNat ++ '\x7d' :: rest) :
    count data here =
      .ok (least, some least, here.skipMany ('\x7b' :: Text.decimal least.toNat).length) := by
  have inside : here.skip.rest = Text.decimal least.toNat ++ '\x7d' :: rest := by simp [next]
  have going : here.skip.atEnd = false := by simp [Cursor.atEnd, next]
  have behind : (here.skip.skipMany (Text.decimal least.toNat).length).rest = '\x7d' :: rest := by
    simp [next]
  simp only [count, going, Bool.false_eq_true, ↓reduceIte, bind, Except.bind, pure, Except.pure,
    decimal_digits legible inside rfl legible.brace, behind]
  rfl

private theorem count_from (legible : data.Legible) {least : UInt32} {rest : List Char}
    (next : here.rest = '\x7b' :: Text.decimal least.toNat ++ ',' :: '\x7d' :: rest) :
    count data here =
      .ok (least, none, here.skipMany ('\x7b' :: Text.decimal least.toNat ++ [',']).length) := by
  have inside : here.skip.rest = Text.decimal least.toNat ++ ',' :: '\x7d' :: rest := by simp [next]
  have going : here.skip.atEnd = false := by simp [Cursor.atEnd, next]
  have behind : (here.skip.skipMany (Text.decimal least.toNat).length).rest =
      ',' :: '\x7d' :: rest := by simp [next]
  have after : (here.skip.skipMany (Text.decimal least.toNat).length).skip =
      here.skipMany ('\x7b' :: Text.decimal least.toNat ++ [',']).length := by
    simp [Cursor.skipMany_add, Cursor.skipMany]
  simp only [count, going, Bool.false_eq_true, ↓reduceIte, bind, Except.bind, pure, Except.pure,
    decimal_digits legible inside rfl legible.comma, behind, List.isEmpty_cons, List.head?_cons,
    after]

private theorem count_between (legible : data.Legible) {least most : UInt32} {rest : List Char}
    (next : here.rest =
      '\x7b' :: Text.decimal least.toNat ++ ',' :: Text.decimal most.toNat ++ '\x7d' :: rest) :
    count data here = .ok (least, some most,
      here.skipMany ('\x7b' :: Text.decimal least.toNat ++ ',' :: Text.decimal most.toNat).length) := by
  have inside : here.skip.rest =
      Text.decimal least.toNat ++ ',' :: (Text.decimal most.toNat ++ '\x7d' :: rest) := by
    simp [next]
  have going : here.skip.atEnd = false := by simp [Cursor.atEnd, next]
  have behind : (here.skip.skipMany (Text.decimal least.toNat).length).rest =
      ',' :: (Text.decimal most.toNat ++ '\x7d' :: rest) := by simp [next]
  have second : (here.skip.skipMany (Text.decimal least.toNat).length).skip.rest =
      Text.decimal most.toNat ++ '\x7d' :: rest := by simp [next]
  have last : ((here.skip.skipMany (Text.decimal least.toNat).length).skip.skipMany
      (Text.decimal most.toNat).length).rest = '\x7d' :: rest := by simp [next]
  have after : (here.skip.skipMany (Text.decimal least.toNat).length).skip.skipMany
      (Text.decimal most.toNat).length = here.skipMany
        ('\x7b' :: Text.decimal least.toNat ++ ',' :: Text.decimal most.toNat).length := by
    show (((here.skipMany 1).skipMany _).skipMany 1).skipMany _ = _
    rw [← Cursor.skipMany_add, ← Cursor.skipMany_add, ← Cursor.skipMany_add]
    congr 1
    simp
    omega
  have notBrace : (Text.decimal most.toNat ++ '\x7d' :: rest).head? ≠ some '\x7d' := by
    cases form : Text.decimal most.toNat with
    | nil => exact absurd form Nat.toDigits_ne_nil
    | cons d others =>
      have isDigit : d.isDigit = true := Nat.isDigit_of_mem_toDigits
        (by decide) (by decide) (show d ∈ Text.decimal most.toNat by simp [form])
      rintro same
      cases same
      cases isDigit
  have some : (Text.decimal most.toNat ++ '\x7d' :: rest).isEmpty = false := by simp
  simp only [count, going, Bool.false_eq_true, ↓reduceIte, bind, Except.bind, pure, Except.pure,
    decimal_digits legible inside rfl legible.comma, behind, some, notBrace,
    decimal_digits legible second rfl legible.brace, last]
  rw [after]

/-- A count, up to its closing brace. -/
private theorem counted_of_count (greed : flags.swapGreed = false) {least : UInt32}
    {most : Option UInt32} {greedy : Bool} {text rest : List Char} (calm : Calm rest)
    (ordered : ∀ bound ∈ most, least ≤ bound)
    (next : here.rest = text ++ '\x7d' :: mark greedy ++ rest)
    (isCount : count data here = .ok (least, most, here.skipMany text.length)) :
    counted data flags here =
      .ok ({ least, most, greedy }, here.skipMany (text ++ '\x7d' :: mark greedy).length) := by
  have behind : (here.skipMany text.length).skip.rest = mark greedy ++ rest := by simp [next]
  have after : (here.skipMany text.length).skip.skipMany (mark greedy).length =
      here.skipMany (text ++ '\x7d' :: mark greedy).length := by
    simp [Cursor.skipMany_add, Cursor.skipMany]
  simp only [counted, bind, Except.bind, isCount, greediness_mark greed calm behind, after]
  cases most with
  | none => rfl
  | some bound =>
    have notReversed : ¬bound < least := UInt32.not_lt.mpr (ordered bound rfl)
    simp only [notReversed, ↓reduceIte]
    rfl

private theorem boundsText_from {least : UInt32} {greedy : Bool} (zero : least.toNat ≠ 0)
    (one : least.toNat ≠ 1) :
    Pattern.boundsText { least, most := none, greedy } =
      '\x7b' :: Text.decimal least.toNat ++ [','] ++ '\x7d' :: mark greedy := by
  simp only [Pattern.boundsText, Option.map_none]
  split <;> simp_all [mark]

private theorem boundsText_exact {least : UInt32} {greedy : Bool} :
    Pattern.boundsText { least, most := some least, greedy } =
      '\x7b' :: Text.decimal least.toNat ++ '\x7d' :: mark greedy := by
  simp only [Pattern.boundsText, Option.map_some]
  split
  · rename_i zero single
    rw [zero] at single
    cases single
  all_goals simp_all [mark]

private theorem boundsText_between {least most : UInt32} {greedy : Bool}
    (optional : ¬(least.toNat = 0 ∧ most.toNat = 1)) (different : least ≠ most) :
    Pattern.boundsText { least, most := some most, greedy } =
      '\x7b' :: Text.decimal least.toNat ++ ',' :: Text.decimal most.toNat ++
        '\x7d' :: mark greedy := by
  have codes : least.toNat ≠ most.toNat := fun same => different (UInt32.toNat_inj.mp same)
  simp only [Pattern.boundsText, Option.map_some]
  split <;> simp_all [mark]

/-- A printed operator is read as the bounds that were printed. -/
theorem read_boundsText (legible : data.Legible) (greed : flags.swapGreed = false) {bounds : Bounds}
    {rest : List Char} (ordered : ∀ most ∈ bounds.most, bounds.least ≤ most) (calm : Calm rest)
    (next : here.rest = Pattern.boundsText bounds ++ rest) :
    ∃ c tail, Pattern.boundsText bounds = c :: tail ∧ c ∈ ['?', '*', '+', '\x7b'] ∧
      Repeat.read data flags here c =
        .ok (bounds, here.skipMany (Pattern.boundsText bounds).length) := by
  obtain ⟨least, most, greedy⟩ := bounds
  cases most with
  | none =>
    by_cases zero : least.toNat = 0
    · obtain rfl : least = 0 := UInt32.toNat_inj.mp zero
      exact ⟨'*', mark greedy, rfl, by simp, plain_mark greed calm next⟩
    · by_cases one : least.toNat = 1
      · obtain rfl : least = 1 := UInt32.toNat_inj.mp one
        exact ⟨'+', mark greedy, rfl, by simp, plain_mark greed calm next⟩
      · rw [boundsText_from zero one] at next ⊢
        exact ⟨'\x7b', _, rfl, by simp, counted_of_count greed calm ordered next
          (count_from legible (by simpa using next))⟩
  | some most =>
    by_cases same : least = most
    · subst same
      rw [boundsText_exact] at next ⊢
      exact ⟨'\x7b', _, rfl, by simp, counted_of_count greed calm ordered next
        (count_exact legible (by simpa using next))⟩
    · by_cases optional : least.toNat = 0 ∧ most.toNat = 1
      · obtain rfl : least = 0 := UInt32.toNat_inj.mp optional.1
        obtain rfl : most = 1 := UInt32.toNat_inj.mp optional.2
        exact ⟨'?', mark greedy, rfl, by simp, plain_mark greed calm next⟩
      · rw [boundsText_between optional same] at next ⊢
        exact ⟨'\x7b', _, rfl, by simp, counted_of_count greed calm ordered next
          (count_between legible (by simpa using next))⟩

end Repeat

end PatternForge
