import PatternForge.Proofs.RoundTrip.Printed

/-!
Printed references. A reader that takes all the digits it finds would take a digit behind a reference for a
part of it. `Pattern.pieces` is the text of a tree with its references marked; behind each of them stands no
digit (`parted_pieces`), since a neighbour that starts with one is put into a group, and whatever encloses a
tree goes on with a mark. So such a reader finds the references of the tree and no others.
-/
namespace PatternForge

namespace Pattern

/-! ### A text with its references marked -/

/-- A part of a printed text. -/
inductive Piece where
  /-- What refers to no group. -/
  | plain (chars : List Char)
  /-- A reference to a group. -/
  | reference (index : Nat)

/-- The text of a piece. -/
def Piece.chars : Piece → List Char
  | plain chars => chars
  | reference index => '\\' :: Text.decimal index

/-- The group that a piece refers to. -/
def Piece.index? : Piece → Option Nat
  | plain _ => none
  | reference index => some index

/-- The text of some pieces. -/
def written (pieces : List Piece) : List Char := pieces.flatMap Piece.chars

/-- Pieces that are kept together by a group without a number. -/
def groupedPieces (wrap : Bool) (pieces : List Piece) : List Piece :=
  if wrap then .plain ['(', '?', ':'] :: pieces ++ [.plain [')']] else pieces

mutual

/-- The pieces of the text of a pattern. -/
def pieces (wrap : Bool) (p : Pattern) : List Piece :=
  match p with
  | literal s => [.plain (text wrap (literal s))]
  | oneOf cls => [.plain (text wrap (oneOf cls))]
  | anchor kind => [.plain (text wrap (anchor kind))]
  | sequence items => groupedPieces (wrap && items.length ≠ 1) (sequencePieces false items)
  | alternation branches => groupedPieces wrap (branchesPieces branches)
  | repetition bounds body => groupedPieces wrap (pieces true body ++ [.plain (boundsText bounds)])
  | group _ none body => .plain ['('] :: pieces false body ++ [.plain [')']]
  | group _ (some name) body =>
    .plain (['(', '?', '<'] ++ name.toList ++ ['>']) :: pieces false body ++ [.plain [')']]
  | backreference index => [.reference index]

/-- The pieces of items in a row. -/
def sequencePieces (afterReference : Bool) (items : List Pattern) : List Piece :=
  match items with
  | [] => []
  | item :: rest =>
    (if afterReference && startsWithDigit item then groupedPieces true (pieces false item)
     else pieces (isAlternation item) item) ++
      sequencePieces (isBackreference item) rest

/-- The pieces of branches, bars between them. -/
def branchesPieces (branches : List Pattern) : List Piece :=
  match branches with
  | [] => []
  | [branch] => pieces false branch
  | branch :: rest => pieces false branch ++ .plain ['|'] :: branchesPieces rest

end

@[simp] theorem written_nil : written [] = [] := rfl

@[simp] theorem written_cons (piece : Piece) (rest : List Piece) :
    written (piece :: rest) = piece.chars ++ written rest := rfl

@[simp] theorem written_append (first rest : List Piece) :
    written (first ++ rest) = written first ++ written rest := by
  rw [written, List.flatMap_append, written, written]

@[simp] theorem written_grouped (wrap : Bool) (pieces : List Piece) :
    written (groupedPieces wrap pieces) = grouped wrap (written pieces) := by
  cases wrap <;> simp [groupedPieces, grouped, Piece.chars]

theorem branchesPieces_cons {branch : Pattern} {rest : List Pattern} (more : rest ≠ []) :
    branchesPieces (branch :: rest) = pieces false branch ++ .plain ['|'] :: branchesPieces rest := by
  cases rest with
  | nil => exact absurd rfl more
  | cons next rest => rw [branchesPieces]; simp

private theorem written_sequencePieces {items : List Pattern}
    (each : ∀ item ∈ items, ∀ wrap, written (pieces wrap item) = text wrap item) (afterReference : Bool) :
    written (sequencePieces afterReference items) = sequenceText afterReference items := by
  induction items generalizing afterReference with
  | nil => rfl
  | cons item rest ih =>
    have here := each item List.mem_cons_self
    rw [sequencePieces, sequenceText, written_append,
      ih (fun other member => each other (List.mem_cons_of_mem _ member))]
    split
    · rw [written_grouped, here]
    · rw [here]

private theorem written_branchesPieces {branches : List Pattern}
    (each : ∀ branch ∈ branches, written (pieces false branch) = text false branch) :
    written (branchesPieces branches) = branchesText branches := by
  induction branches with
  | nil => rfl
  | cons branch rest ih =>
    have here := each branch List.mem_cons_self
    cases rest with
    | nil => exact here
    | cons next rest =>
      rw [branchesPieces_cons (by simp), branchesText_cons (by simp), written_append, written_cons, here,
        ih fun other member => each other (List.mem_cons_of_mem _ member)]
      rfl

/-- With the marks left out, the pieces are the text. -/
theorem written_pieces (p : Pattern) (wrap : Bool) : written (pieces wrap p) = text wrap p := by
  induction p generalizing wrap with
  | literal _ | oneOf _ | anchor _ | backreference _ => simp [pieces, Piece.chars, text]
  | sequence items ih => rw [pieces, text, written_grouped, written_sequencePieces ih]
  | alternation branches ih =>
    rw [pieces, text, written_grouped, written_branchesPieces fun branch member => ih branch member false]
  | repetition bounds body ih => simp [pieces, text, ih, Piece.chars]
  | group index name body ih => cases name <;> simp [pieces, text, ih, Piece.chars]

/-- The groups that some pieces refer to. -/
def referred (pieces : List Piece) : List Nat := pieces.filterMap Piece.index?

@[simp] theorem referred_nil : referred [] = [] := rfl

@[simp] theorem referred_plain (chars : List Char) (rest : List Piece) :
    referred (.plain chars :: rest) = referred rest := rfl

@[simp] theorem referred_reference (index : Nat) (rest : List Piece) :
    referred (.reference index :: rest) = index :: referred rest := rfl

@[simp] theorem referred_append (first rest : List Piece) :
    referred (first ++ rest) = referred first ++ referred rest := List.filterMap_append

@[simp] theorem referred_grouped (wrap : Bool) (pieces : List Piece) :
    referred (groupedPieces wrap pieces) = referred pieces := by
  cases wrap <;> simp [groupedPieces]

/-- The groups that a pattern refers to, in the order of its text. -/
def references (p : Pattern) : List Nat :=
  p.marks.filterMap fun mark =>
    match mark with
    | .reference index => some index
    | .opened _ _ | .closed _ => none

private theorem referred_sequencePieces {items : List Pattern}
    (each : ∀ item ∈ items, ∀ wrap, referred (pieces wrap item) = item.references) (afterReference : Bool) :
    referred (sequencePieces afterReference items) = items.flatMap references := by
  induction items generalizing afterReference with
  | nil => rfl
  | cons item rest ih =>
    have here := each item List.mem_cons_self
    rw [sequencePieces, referred_append, List.flatMap_cons,
      ih fun other member => each other (List.mem_cons_of_mem _ member)]
    split
    · rw [referred_grouped, here]
    · rw [here]

private theorem referred_branchesPieces {branches : List Pattern}
    (each : ∀ branch ∈ branches, referred (pieces false branch) = branch.references) :
    referred (branchesPieces branches) = branches.flatMap references := by
  induction branches with
  | nil => rfl
  | cons branch rest ih =>
    have here := each branch List.mem_cons_self
    cases rest with
    | nil => simpa [branchesPieces] using here
    | cons next rest =>
      rw [branchesPieces_cons (by simp), referred_append, referred_plain, here, List.flatMap_cons,
        ih fun other member => each other (List.mem_cons_of_mem _ member)]

/-- The marked references are those of the tree. -/
theorem referred_pieces (p : Pattern) (wrap : Bool) : referred (pieces wrap p) = p.references := by
  induction p generalizing wrap with
  | literal _ | oneOf _ | anchor _ | backreference _ => rfl
  | sequence items ih =>
    rw [pieces, referred_grouped, referred_sequencePieces ih, references, marks_sequence,
      List.filterMap_flatMap]
    rfl
  | alternation branches ih =>
    rw [pieces, referred_grouped, referred_branchesPieces fun branch member => ih branch member false,
      references, marks_alternation, List.filterMap_flatMap]
    rfl
  | repetition bounds body ih =>
    rw [pieces, referred_grouped, referred_append, ih, referred_plain, referred_nil, List.append_nil]
    rfl
  | group index name body ih => cases name <;> simp [pieces, ih, references, marks]

/-! ### What stands behind a reference -/

/-- A text that does not start with a digit. -/
def NoDigitFirst (chars : List Char) : Prop := ∀ c ∈ chars.head?, c.isDigit = false

/-- Behind none of the references among some pieces, and before a text, stands a digit. -/
def Parted : (pieces : List Piece) → (rest : List Char) → Prop
  | [], _ => True
  | .plain _ :: later, rest => Parted later rest
  | .reference _ :: later, rest => NoDigitFirst (written later ++ rest) ∧ Parted later rest

theorem noDigitFirst_nil : NoDigitFirst [] := nofun

theorem noDigitFirst_cons {c : Char} (notDigit : c.isDigit = false) (rest : List Char) :
    NoDigitFirst (c :: rest) := by
  rintro _ ⟨⟩
  exact notDigit

theorem noDigitFirst_boundsText (bounds : Bounds) (rest : List Char) :
    NoDigitFirst (boundsText bounds ++ rest) := by
  unfold boundsText
  dsimp only
  split
  any_goals exact noDigitFirst_cons (by decide) _
  split <;> exact noDigitFirst_cons (by decide) _

theorem parted_append {first later : List Piece} {rest : List Char} :
    Parted (first ++ later) rest ↔ Parted first (written later ++ rest) ∧ Parted later rest := by
  induction first with
  | nil => simp [Parted]
  | cons piece first ih =>
    cases piece with
    | plain chars => exact ih
    | reference index => simp [Parted, ih, and_assoc]

theorem noDigitFirst_closing (rest : List Char) : NoDigitFirst (')' :: rest) :=
  noDigitFirst_cons (by decide) rest

/-- In a group the pieces are followed by its end. -/
theorem parted_grouped {wrap : Bool} {pieces : List Piece} {rest : List Char}
    (inside : Parted pieces (')' :: rest)) (outside : wrap = false → Parted pieces rest) :
    Parted (groupedPieces wrap pieces) rest := by
  cases wrap with
  | false => exact outside rfl
  | true => exact parted_append.mpr ⟨inside, trivial⟩

/-- Whether the text of a pattern may end in a reference. -/
def mayEndInReference (wrap : Bool) : Pattern → Bool
  | sequence _ | backreference _ => true
  | alternation _ => !wrap
  | literal _ | oneOf _ | anchor _ | repetition _ _ | group _ _ _ => false

/-- Unless a pattern starts with a digit, its text does not, where it is kept together. -/
theorem text_eq_cons {s : Settings} {p : Pattern} (every : p.Every (IsRead s))
    (starts : p.startsWithDigit = false) {wrap : Bool}
    (together : (p.isSequence || p.isAlternation) = true → wrap = true) :
    ∃ c others, text wrap p = c :: others ∧ c.isDigit = false := by
  induction p generalizing wrap with
  | literal chars =>
    have some : chars.toList ≠ [] := mt String.toList_eq_nil_iff.mp every.here
    obtain ⟨c, others, form⟩ := List.exists_cons_of_ne_nil some
    have notDigit : c.isDigit = false := by simpa [startsWithDigit, form] using starts
    rw [text, grouped]
    split
    · exact ⟨_, _, rfl, rfl⟩
    · rw [form, List.flatMap_cons]
      rcases literalChar_cases c with ⟨-, shown⟩ | ⟨-, shown⟩ | ⟨-, shown⟩
      · exact ⟨_, _, by rw [shown]; rfl, rfl⟩
      · exact ⟨_, _, by rw [shown]; rfl, rfl⟩
      · exact ⟨_, _, by rw [shown]; rfl, notDigit⟩
  | oneOf cls => exact ⟨_, _, rfl, rfl⟩
  | anchor kind => cases kind <;> exact ⟨_, _, rfl, rfl⟩
  | sequence items =>
    obtain rfl := together rfl
    have several : items.length ≠ 1 := every.here.1
    exact ⟨_, _, by rw [text, decide_eq_true several]; rfl, rfl⟩
  | alternation branches =>
    obtain rfl := together rfl
    exact ⟨_, _, rfl, rfl⟩
  | repetition bounds body ih =>
    obtain ⟨c, others, form, notDigit⟩ := ih (every.below (by simp [children])) starts fun _ => rfl
    rw [text, grouped]
    split
    · exact ⟨_, _, rfl, rfl⟩
    · exact ⟨_, _, by rw [form]; rfl, notDigit⟩
  | group index name body => cases name <;> exact ⟨_, _, rfl, rfl⟩
  | backreference index => exact ⟨_, _, rfl, rfl⟩

/-- Items in a row behind a reference do not start with a digit. -/
theorem noDigitFirst_sequenceText {s : Settings} {items : List Pattern} {rest : List Char}
    (every : ∀ item ∈ items, item.Every (IsRead s)) (flat : ∀ item ∈ items, item.isSequence = false)
    (first : NoDigitFirst rest) : NoDigitFirst (sequenceText true items ++ rest) := by
  cases items with
  | nil => exact first
  | cons item others =>
    have single : item.isSequence = false := flat item List.mem_cons_self
    rw [sequenceText, List.append_assoc]
    cases starts : item.startsWithDigit with
    | true => exact noDigitFirst_cons (by decide) _
    | false =>
      obtain ⟨c, more, form, notDigit⟩ := @text_eq_cons s item (every item List.mem_cons_self) starts
        item.isAlternation (by simp [single])
      simp only [Bool.and_false, Bool.false_eq_true, ↓reduceIte, form]
      exact noDigitFirst_cons notDigit _

variable {s : Settings}

private theorem parted_sequencePieces {items : List Pattern} {rest : List Char}
    (every : ∀ item ∈ items, item.Every (IsRead s)) (flat : ∀ item ∈ items, item.isSequence = false)
    (each : ∀ item ∈ items, ∀ wrap rest, (item.mayEndInReference wrap = true → NoDigitFirst rest) →
      Parted (pieces wrap item) rest) (first : NoDigitFirst rest) (afterReference : Bool) :
    Parted (sequencePieces afterReference items) rest := by
  induction items generalizing afterReference with
  | nil => trivial
  | cons item others ih =>
    have here := each item List.mem_cons_self
    have every' := fun other member => every other (List.mem_cons_of_mem _ member)
    have flat' := fun other member => flat other (List.mem_cons_of_mem _ member)
    have each' := fun other member => each other (List.mem_cons_of_mem _ member)
    refine parted_append.mpr ⟨?_, ih every' flat' each' _⟩
    rw [written_sequencePieces fun other _ => written_pieces other]
    split
    · exact parted_grouped (here _ _ fun _ => noDigitFirst_closing _) nofun
    · refine here _ _ fun ends => ?_
      have single : item.isSequence = false := flat item List.mem_cons_self
      -- an alternation is in a group here, so only a reference can be the last thing in its text
      cases item with
      | backreference index => exact noDigitFirst_sequenceText every' flat' first
      | sequence _ => cases single
      | literal _ | oneOf _ | anchor _ | alternation _ | repetition _ _ | group _ _ _ => cases ends

private theorem parted_branchesPieces {branches : List Pattern} {rest : List Char}
    (each : ∀ branch ∈ branches, ∀ rest, NoDigitFirst rest → Parted (pieces false branch) rest)
    (first : NoDigitFirst rest) : Parted (branchesPieces branches) rest := by
  induction branches with
  | nil => trivial
  | cons branch others ih =>
    have here := each branch List.mem_cons_self
    cases others with
    | nil => exact here rest first
    | cons next others =>
      rw [branchesPieces_cons (by simp)]
      refine parted_append.mpr ⟨here _ (noDigitFirst_cons (by decide) _), ?_⟩
      exact ih fun other member => each other (List.mem_cons_of_mem _ member)

/-- **Behind no reference of a printed tree stands a digit**, if none stands behind the tree where its text may
end in a reference. -/
theorem parted_pieces {p : Pattern} (every : p.Every (IsRead s)) {wrap : Bool} {rest : List Char}
    (first : p.mayEndInReference wrap = true → NoDigitFirst rest) : Parted (pieces wrap p) rest := by
  induction p generalizing wrap rest with
  | literal _ | oneOf _ | anchor _ => trivial
  | sequence items ih =>
    have row : ∀ rest, NoDigitFirst rest → Parted (sequencePieces false items) rest := fun rest first =>
      parted_sequencePieces (fun _ member => every.below member) every.here.2.1
        (fun item member _ _ => ih item member (every.below member)) first false
    exact parted_grouped (row _ (noDigitFirst_closing _)) fun _ => row _ (first rfl)
  | alternation branches ih =>
    have row : ∀ rest, NoDigitFirst rest → Parted (branchesPieces branches) rest := fun rest first =>
      parted_branchesPieces (fun branch member _ first => ih branch member (every.below member) fun _ => first)
        first
    refine parted_grouped (row _ (noDigitFirst_closing _)) fun bare => row _ (first ?_)
    simp [mayEndInReference, bare]
  | repetition bounds body ih =>
    have below : body.Every (IsRead s) := every.below (by simp [children])
    have both : ∀ rest, Parted (pieces true body ++ [.plain (boundsText bounds)]) rest := fun rest =>
      parted_append.mpr ⟨ih below fun _ => by simpa [Piece.chars] using noDigitFirst_boundsText bounds rest,
        trivial⟩
    exact parted_grouped (both _) fun _ => both _
  | group index name body ih =>
    have below : body.Every (IsRead s) := every.below (by simp [children])
    have closed : Parted (pieces false body) (')' :: rest) :=
      ih below fun _ => noDigitFirst_closing rest
    cases name <;> exact parted_append.mpr ⟨closed, trivial⟩
  | backreference index => exact ⟨first rfl, trivial⟩

/-! ### Reading the references back -/

/-- The numbers of the references in a text, for a reader that takes all the digits behind a backslash. -/
def referencesIn (chars : List Char) : List Nat :=
  match chars with
  | [] => []
  | c :: rest =>
    if c = '\\' then
      if rest.takeWhile Char.isDigit = [] then referencesIn rest.tail
      else
        Nat.ofDigitChars 10 (rest.takeWhile Char.isDigit) 0 :: referencesIn (rest.dropWhile Char.isDigit)
    else referencesIn rest
  termination_by chars.length
  decreasing_by
    · simp only [List.length_tail, List.length_cons]
      omega
    · have shorter := (List.dropWhile_suffix (l := rest) Char.isDigit).length_le
      simp only [List.length_cons]
      omega
    · exact Nat.lt_succ_self _

/-- A text in which no reference is found, whatever follows it. -/
def Mute (chars : List Char) : Prop := ∀ rest, referencesIn (chars ++ rest) = referencesIn rest

theorem referencesIn_plain {c : Char} (plain : c ≠ '\\') (rest : List Char) :
    referencesIn (c :: rest) = referencesIn rest := by
  rw [referencesIn, if_neg plain]

theorem referencesIn_reference (index : Nat) {rest : List Char} (first : NoDigitFirst rest) :
    referencesIn ('\\' :: Text.decimal index ++ rest) = index :: referencesIn rest := by
  have digits : ∀ d ∈ Text.decimal index, d.isDigit = true := fun d member =>
    Nat.isDigit_of_mem_toDigits (by decide) (by decide) member
  have some : Text.decimal index ≠ [] := Nat.toDigits_ne_nil
  have stop : rest.takeWhile Char.isDigit = [] ∧ rest.dropWhile Char.isDigit = rest := by
    cases rest with
    | nil => exact ⟨rfl, rfl⟩
    | cons c rest =>
      have notDigit : ¬c.isDigit = true := by simp [first c rfl]
      exact ⟨List.takeWhile_cons_of_neg notDigit, List.dropWhile_cons_of_neg notDigit⟩
  rw [List.cons_append, referencesIn, if_pos rfl, List.takeWhile_append_of_pos digits,
    List.dropWhile_append_of_pos digits, stop.1, stop.2, List.append_nil, if_neg some, Text.decimal,
    Nat.ofDigitChars_ten_toDigits]

theorem mute_nil : Mute [] := fun _ => rfl

theorem Mute.append {first others : List Char} (mute : Mute first) (mute' : Mute others) :
    Mute (first ++ others) := by
  intro rest
  rw [List.append_assoc, mute, mute']

theorem mute_plain {chars : List Char} (plain : '\\' ∉ chars) : Mute chars := by
  induction chars with
  | nil => exact mute_nil
  | cons c others ih =>
    rw [List.mem_cons, not_or] at plain
    obtain ⟨other, plain⟩ := plain
    intro rest
    rw [List.cons_append, referencesIn_plain (Ne.symm other), ih plain]

theorem mute_escaped {c : Char} (notDigit : c.isDigit = false) : Mute ['\\', c] := by
  intro rest
  have none : (c :: rest).takeWhile Char.isDigit = [] := List.takeWhile_cons_of_neg (by simp [notDigit])
  rw [List.cons_append, List.singleton_append, referencesIn, if_pos rfl, none, if_pos rfl, List.tail_cons]

theorem mute_grouped (wrap : Bool) {chars : List Char} (mute : Mute chars) : Mute (grouped wrap chars) := by
  unfold grouped
  split
  · exact ((mute_plain (by decide)).append mute).append (mute_plain (by decide))
  · exact mute

theorem isDigit_of_isMeta {c : Char} (special : isMeta c = true) : c.isDigit = false := by
  have listed := List.contains_iff_mem.mp special
  simp only [List.mem_cons, List.not_mem_nil, or_false] at listed
  rcases listed with rfl | rfl | rfl | rfl | rfl | rfl | rfl | rfl | rfl | rfl | rfl | rfl | rfl | rfl | rfl |
    rfl | rfl | rfl
  all_goals rfl

theorem mute_literalChar (c : Char) : Mute (literalChar c) := by
  rcases literalChar_cases c with ⟨special, form⟩ | ⟨control, form⟩ | ⟨plain, form⟩
  · rw [form]
    exact mute_escaped (isDigit_of_isMeta special)
  · obtain ⟨d, e, digits, hex, hex', -, -⟩ := Text.hexCapital_control control
    rw [form, digits]
    refine (mute_escaped (c := 'x') rfl).append (mute_plain ?_)
    simp only [List.mem_cons, List.not_mem_nil, or_false, not_or]
    constructor
    · rintro rfl
      cases hex
    · rintro rfl
      cases hex'
  · rw [form]
    refine mute_plain fun member => ?_
    obtain rfl := List.mem_singleton.mp member
    cases plain

theorem mute_flatMap {α : Type} {f : α → List Char} {l : List α} (mute : ∀ a ∈ l, Mute (f a)) :
    Mute (l.flatMap f) := by
  induction l with
  | nil => exact mute_nil
  | cons a rest ih =>
    rw [List.flatMap_cons]
    exact (mute a List.mem_cons_self).append (ih fun b member => mute b (List.mem_cons_of_mem _ member))

theorem mute_classText (set : CharSet) : Mute (classText set) := by
  have opening : Mute ['['] := mute_plain (by decide)
  refine (opening.append (mute_flatMap fun run _ => ?_)).append (mute_plain (by decide))
  obtain ⟨lo, hi⟩ := run
  rw [classRun]
  split
  · exact mute_literalChar lo
  · refine ((mute_literalChar lo).append ?_).append (mute_literalChar hi)
    split <;> exact mute_plain (by decide)

theorem mute_boundsText (bounds : Bounds) : Mute (boundsText bounds) := by
  have number : ∀ n, '\\' ∉ Text.decimal n := by
    intro n member
    cases Nat.isDigit_of_mem_toDigits (by decide) (by decide) member
  refine mute_plain ?_
  unfold boundsText
  dsimp only
  repeat' split
  all_goals simp [number]

/-- Whether no reference is found in the pieces that refer to no group. -/
def Quiet (pieces : List Piece) : Prop := ∀ chars, .plain chars ∈ pieces → Mute chars

theorem quiet_plain {chars : List Char} (mute : Mute chars) : Quiet [.plain chars] := by
  intro chars' member
  cases List.mem_singleton.mp member
  exact mute

theorem Quiet.append {first later : List Piece} (quiet : Quiet first) (quiet' : Quiet later) :
    Quiet (first ++ later) := fun chars member =>
  (List.mem_append.mp member).elim (quiet chars) (quiet' chars)

theorem quiet_grouped (wrap : Bool) {pieces : List Piece} (quiet : Quiet pieces) :
    Quiet (groupedPieces wrap pieces) := by
  cases wrap with
  | false => exact quiet
  | true =>
    have opening : Quiet [.plain ['(', '?', ':']] := quiet_plain (mute_plain (by decide))
    exact (opening.append quiet).append (quiet_plain (mute_plain (by decide)))

private theorem quiet_sequencePieces {items : List Pattern}
    (each : ∀ item ∈ items, ∀ wrap, Quiet (pieces wrap item)) (afterReference : Bool) :
    Quiet (sequencePieces afterReference items) := by
  induction items generalizing afterReference with
  | nil => exact nofun
  | cons item rest ih =>
    have here := each item List.mem_cons_self
    refine Quiet.append ?_ (ih (fun other member => each other (List.mem_cons_of_mem _ member)) _)
    split
    · exact quiet_grouped true (here false)
    · exact here _

private theorem quiet_branchesPieces {branches : List Pattern}
    (each : ∀ branch ∈ branches, Quiet (pieces false branch)) : Quiet (branchesPieces branches) := by
  induction branches with
  | nil => exact nofun
  | cons branch rest ih =>
    have here := each branch List.mem_cons_self
    cases rest with
    | nil => exact here
    | cons next rest =>
      have bar : Quiet [.plain ['|']] := quiet_plain (mute_plain (by decide))
      rw [branchesPieces_cons (by simp)]
      exact here.append (bar.append (ih fun other member => each other (List.mem_cons_of_mem _ member)))

/-- Only the marked references are found, where names have no backslash. -/
theorem quiet_pieces (unescaped : ∀ isFirst, GroupPrefix.isNameChar s.data isFirst '\\' = false)
    {p : Pattern} (every : p.Every (IsRead s)) (wrap : Bool) : Quiet (pieces wrap p) := by
  induction p generalizing wrap with
  | literal chars => exact quiet_plain (mute_grouped _ (mute_flatMap fun c _ => mute_literalChar c))
  | oneOf cls => exact quiet_plain (mute_classText _)
  | anchor kind =>
    refine quiet_plain ?_
    cases kind with
    | start | finish => exact mute_plain (by simp [text, anchorText])
    | wordBoundary | notWordBoundary => exact mute_escaped rfl
  | sequence items ih =>
    exact quiet_grouped _ (quiet_sequencePieces (fun item member => ih item member (every.below member)) _)
  | alternation branches ih =>
    exact quiet_grouped _
      (quiet_branchesPieces fun branch member => ih branch member (every.below member) false)
  | repetition bounds body ih =>
    have below : body.Every (IsRead s) := every.below (by simp [children])
    exact quiet_grouped _ ((ih below true).append (quiet_plain (mute_boundsText bounds)))
  | group index name body ih =>
    have closing : Quiet [.plain [')']] := quiet_plain (mute_plain (by decide))
    have body' : Quiet (pieces false body) := ih (every.below (by simp [children])) false
    cases name with
    | none =>
      have opening : Quiet [.plain ['(']] := quiet_plain (mute_plain (by decide))
      exact (opening.append body').append closing
    | some name =>
      have spelled : name.toList = GroupPrefix.nameChars s.data (name.toList ++ '>' :: []) :=
        ((every.here name rfl).2 []).symm
      have plain : '\\' ∉ name.toList := by
        rw [spelled]
        exact GroupPrefix.not_mem_nameChars unescaped _
      have opening : Quiet [.plain (['(', '?', '<'] ++ name.toList ++ ['>'])] :=
        quiet_plain (mute_plain (by simp [plain]))
      exact (opening.append body').append closing
  | backreference index =>
    intro chars member
    cases List.mem_singleton.mp member

/-- A reader that takes all the digits it finds finds the marked references. -/
theorem referencesIn_written {pieces : List Piece} {rest : List Char} (quiet : Quiet pieces)
    (parted : Parted pieces rest) :
    referencesIn (written pieces ++ rest) = referred pieces ++ referencesIn rest := by
  induction pieces with
  | nil => rfl
  | cons piece later ih =>
    have quiet' : Quiet later := fun chars member => quiet chars (List.mem_cons_of_mem _ member)
    rw [written_cons, List.append_assoc]
    cases piece with
    | plain chars =>
      have mute : Mute chars := quiet chars List.mem_cons_self
      rw [Piece.chars, mute, ih quiet' parted, referred_plain]
    | reference index =>
      obtain ⟨first, parted'⟩ := parted
      rw [Piece.chars, referencesIn_reference index first, ih quiet' parted', referred_reference,
        List.cons_append]

end Pattern

namespace Settings

open Pattern

/-- **No printed reference takes in a digit.** In the text of a tree that was read, and of the tree that it is
confounded to, each reference is followed by the end of the text or by a character that is no digit, so that a
reader that takes all the digits it finds finds the references of the tree. -/
theorem references_of_parse {s : Settings} {text : String} {tree : Pattern}
    (unescaped : ∀ isFirst, GroupPrefix.isNameChar s.data isFirst '\\' = false)
    (parsed : s.parse text = .ok tree) : ∀ printed, printed = tree ∨ tree.confound? = some printed →
      printed.render.toList = written (printed.pieces false) ∧
        referred (printed.pieces false) = printed.references ∧
        (∀ before index later, printed.pieces false = before ++ .reference index :: later →
          printed.render.toList = written before ++ '\\' :: Text.decimal index ++ written later ∧
            ∀ c ∈ (written later).head?, c.isDigit = false) ∧
        referencesIn printed.render.toList = printed.references := by
  intro printed isPrinted
  have every : printed.Every (IsRead s) := by
    have isRead := (isRead_of_parse parsed).1
    rcases isPrinted with rfl | confounded
    · exact isRead
    · obtain ⟨-, rfl⟩ := confound?_eq_some.mp confounded
      exact every_confounded isRead_confounded isRead
  have parted : Parted (printed.pieces false) [] := parted_pieces every fun _ => noDigitFirst_nil
  have spelled : printed.render.toList = written (printed.pieces false) := by
    rw [render, String.toList_ofList, written_pieces]
  refine ⟨spelled, referred_pieces printed false, fun before index later split => ?_, ?_⟩
  · rw [split] at parted
    have behind := (parted_append.mp parted).2.1
    rw [List.append_nil] at behind
    refine ⟨?_, behind⟩
    rw [spelled, split]
    simp [Piece.chars]
  · have found := referencesIn_written (quiet_pieces unescaped every false) parted
    rw [List.append_nil, ← spelled, referred_pieces] at found
    rw [found, referencesIn, List.append_nil]

/-- A letter behind a reference is confounded to a digit, and is put into a group. -/
theorem references_of_parse_letterToDigit :
    (∀ isFirst, GroupPrefix.isNameChar CharacterData.standard isFirst '\\' = false) ∧
      ({} : Settings).parse "(a|b)\\1b0" = .ok (referenceThen "a" "b" "b0") ∧
      (referenceThen "a" "b" "b0").confound? = some (referenceThen "0" "1" "1a") ∧
      (referenceThen "0" "1" "1a").render = "(0|1)\\1(?:1a)" ∧
      referencesIn (referenceThen "a" "b" "b0").render.toList = [1] ∧
      referencesIn (referenceThen "0" "1" "1a").render.toList = [1] := by
  have unescaped : ∀ isFirst, GroupPrefix.isNameChar CharacterData.standard isFirst '\\' = false := by decide
  have reads : Parser.run {} (.initial {} "(a|b)\\1b0".toList) =
      .ok { here := ⟨9, []⟩, flags := {}, count := 1, closed := [1], items := [.literal "0", .literal "b",
        .backreference 1, .group 1 none (.alternation [.literal "a", .literal "b"])] } := by
    iterate 8 refine (Parser.run_of_step rfl rfl).trans ?_
    exact Parser.run_of_end rfl
  have parsed : ({} : Settings).parse "(a|b)\\1b0" = .ok (referenceThen "a" "b" "b0") := by
    unfold parse
    rw [reads]
    rfl
  have near : (referenceThen "a" "b" "b0").confound? = some (referenceThen "0" "1" "1a") := rfl
  exact ⟨unescaped, parsed, near, rfl, (references_of_parse unescaped parsed _ (.inl rfl)).2.2.2,
    (references_of_parse unescaped parsed _ (.inr near)).2.2.2⟩

end Settings

end PatternForge
