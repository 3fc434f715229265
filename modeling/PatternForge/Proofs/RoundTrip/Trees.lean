import PatternForge.Proofs.RoundTrip.Classes
import PatternForge.Proofs.RoundTrip.Levels
import PatternForge.Proofs.RoundTrip.Operators

/-!
Printed trees. An operator takes the item before it and a mark of laziness the operator before it, so
what a tree is read as depends on what follows; no printed tree starts with such a mark (`calm_text`),
and a tree that an operator follows is printed as one item. `Rereads` collects what is read for one
tree in all the places where it can be printed, and `rereads` proves it along the tree.
-/
namespace PatternForge

open Pattern (text sequenceText branchesText literalChar)

theorem calm_cons {c : Char} (notLazy : c ≠ '?') (notPossessive : c ≠ '+') (others : List Char) :
    Calm (c :: others) :=
  ⟨fun same => notLazy (Option.some.inj same), fun same => notPossessive (Option.some.inj same)⟩

theorem Calm.append {first others : List Char} (calm : Calm first) (calm' : Calm others) :
    Calm (first ++ others) := by
  cases first with
  | nil => exact calm'
  | cons c first => exact calm

/-- What follows a text that is not empty does not matter for its start. -/
theorem Calm.append_of_ne_nil {first : List Char} (calm : Calm first) (some : first ≠ [])
    (others : List Char) : Calm (first ++ others) := by
  cases first with
  | nil => exact absurd rfl some
  | cons c first => exact calm

namespace Pattern

theorem calm_grouped (wrap : Bool) {chars : List Char} (calm : Calm chars) :
    Calm (grouped wrap chars) := by
  unfold grouped
  split
  · exact calm_cons (by decide) (by decide) _
  · exact calm

private theorem calm_literalChars (chars : List Char) : Calm (chars.flatMap literalChar) := by
  cases chars with
  | nil => exact ⟨by simp, by simp⟩
  | cons c others =>
    obtain ⟨head, tail, form, starts⟩ := literalChar_head c
    rw [List.flatMap_cons, form]
    exact calm_cons (ne_of_literalChar_head starts rfl (by decide))
      (ne_of_literalChar_head starts rfl (by decide)) _

/-- What an operator follows is not empty. -/
theorem text_true_ne_nil {s : Settings} {p : Pattern} (isRead : p.IsRead s) : text true p ≠ [] := by
  cases p with
  | literal chars =>
    have some : chars.toList ≠ [] := mt String.toList_eq_nil_iff.mp isRead
    rw [text, grouped]
    split
    · simp
    · obtain ⟨c, others, form⟩ := List.exists_cons_of_ne_nil some
      obtain ⟨head, tail, form', -⟩ := literalChar_head c
      simp [form, form']
  | oneOf cls => simp [text, classText]
  | anchor kind => cases kind <;> simp [text, anchorText]
  | sequence items =>
    have several : items.length ≠ 1 := isRead.1
    simp [text, grouped, several]
  | alternation _ | repetition _ _ => simp [text, grouped]
  | group _ name _ => cases name <;> simp [text]
  | backreference index => simp [text]

private theorem calm_sequenceText {items : List Pattern} (calm : ∀ item ∈ items, ∀ wrap,
    Calm (text wrap item)) (afterReference : Bool) : Calm (sequenceText afterReference items) := by
  induction items generalizing afterReference with
  | nil => exact ⟨by simp [sequenceText], by simp [sequenceText]⟩
  | cons item rest ih =>
    rw [sequenceText]
    refine Calm.append ?_ (ih (fun other member => calm other (List.mem_cons_of_mem _ member)) _)
    split
    · exact calm_grouped true (calm item List.mem_cons_self false)
    · exact calm item List.mem_cons_self _

private theorem calm_branchesText {branches : List Pattern}
    (calm : ∀ branch ∈ branches, Calm (text false branch)) : Calm (branchesText branches) := by
  cases branches with
  | nil => exact ⟨by simp [branchesText], by simp [branchesText]⟩
  | cons branch rest =>
    have first := calm branch List.mem_cons_self
    cases rest with
    | nil => exact first
    | cons next rest =>
      rw [branchesText_cons (by simp)]
      exact first.append (calm_cons (by decide) (by decide) _)

/-- No printed tree starts with a mark of laziness or possessiveness. -/
theorem calm_text {s : Settings} {p : Pattern} (every : p.Every (IsRead s)) (wrap : Bool) :
    Calm (text wrap p) := by
  induction p generalizing wrap with
  | literal chars => exact calm_grouped _ (calm_literalChars _)
  | oneOf cls => exact calm_cons (by decide) (by decide) _
  | anchor kind => cases kind <;> exact calm_cons (by decide) (by decide) _
  | sequence items ih =>
    exact calm_grouped _ (calm_sequenceText (fun item member => ih item member (every.below member)) _)
  | alternation branches ih =>
    exact calm_grouped _
      (calm_branchesText fun branch member => ih branch member (every.below member) false)
  | repetition bounds body ih =>
    have below : body.Every (IsRead s) := every.below (by simp [children])
    exact calm_grouped _ ((ih below true).append_of_ne_nil (text_true_ne_nil below.here) _)
  | group index name body =>
    cases name <;> exact calm_cons (by decide) (by decide) _
  | backreference index => exact calm_cons (by decide) (by decide) _

/-- Whether a node is no class without characters. -/
def AllowsSome : Pattern → Prop
  | oneOf cls => ∃ c, cls.effective.contains c = true
  | _ => True

end Pattern

namespace Parser
variable {s : Settings}

theorem gives_anchorText (kind : Anchor) (depth : Nat) (rest : List Char) :
    Gives s (Pattern.anchorText kind) [] [.anchor kind] depth rest := by
  cases kind with
  | start => exact gives_of_step fun _ _ _ => rfl
  | finish => exact gives_of_step fun _ _ _ => rfl
  | wordBoundary | notWordBoundary =>
    refine gives_of_step fun st _ next => ?_
    simp only [step, State.pushRead, Escape.read, Cursor.rest_skip, next]
    rfl

/-- The text of a reference is a backslash and one digit. -/
theorem gives_backreference {index : Nat} (least : 1 ≤ index) (most : index ≤ 9) (depth : Nat)
    (rest : List Char) :
    Gives s ('\\' :: Text.decimal index) [.reference index] [.backreference index] depth rest := by
  intro st after _ next recorded _
  obtain ⟨isClosed, rfl⟩ := Ledger.recordAll_reference.mp recorded
  have isClosed' : st.closed.contains index = true := List.contains_iff_mem.mpr isClosed
  refine run_of_step next ?_
  have reads : Escape.read (st.context s) st.here st.here.skip =
      .ok (.backreference index, st.here.skip.skip) := by
    simp only [Escape.read, Cursor.rest_skip, next]
    obtain rfl | rfl | rfl | rfl | rfl | rfl | rfl | rfl | rfl : index = 1 ∨ index = 2 ∨ index = 3 ∨
      index = 4 ∨ index = 5 ∨ index = 6 ∨ index = 7 ∨ index = 8 ∨ index = 9 := by omega
    all_goals exact if_pos isClosed'
  have single : (Text.decimal index).length = 1 := by
    have below : index < 10 := by omega
    rw [Text.decimal, Nat.toDigits_of_lt_base below]
    rfl
  have after : st.here.skipMany ('\\' :: Text.decimal index).length = st.here.skip.skip := by
    rw [List.length_cons, single]
    rfl
  simp only [step, State.pushRead, reads, State.past, after]
  rfl

/-- An operator behind a printed tree repeats the tree. -/
theorem gives_repetition {body : Pattern} {bounds : Bounds} {depth : Nat} {rest : List Char}
    (legible : s.data.Legible) (ordered : ∀ most ∈ bounds.most, bounds.least ≤ most)
    (calm : Calm rest) (gives : Gives s (text true body) body.marks [body.normalised] depth
      (Pattern.boundsText bounds ++ rest)) :
    Gives s (text true body ++ Pattern.boundsText bounds) body.marks
      [.repetition bounds body.normalised] depth rest := by
  intro st after plain next recorded room
  rw [List.append_assoc] at next
  rw [gives st after plain next recorded room]
  have operator : (st.past (text true body) after [body.normalised]).here.rest =
      Pattern.boundsText bounds ++ rest := rest_past next after _
  have greed : (st.past (text true body) after [body.normalised]).flags.swapGreed = false := plain.2
  obtain ⟨c, tail, form, isOperator, reads⟩ :=
    Repeat.read_boundsText legible greed ordered calm operator
  rw [form, List.cons_append] at operator
  have repeats : step s (st.past (text true body) after [body.normalised]) c =
      (st.past (text true body) after [body.normalised]).repeatLast s c := by
    simp only [List.mem_cons, List.not_mem_nil, or_false] at isOperator
    rcases isOperator with rfl | rfl | rfl | rfl <;> rfl
  have items : (st.past (text true body) after [body.normalised]).items =
      body.normalised :: st.items := rfl
  refine run_of_step operator ?_
  rw [repeats, State.repeatLast, items]
  simp only [reads]
  simp [State.past, Cursor.skipMany_add]

/-- What is read for a printed tree that lies at a level of the whole tree, where fewer groups are
open than levels are above it. -/
structure Rereads (s : Settings) (p : Pattern) (level : Nat) : Prop where
  /-- In a group of its own it is one item. -/
  grouped : ∀ depth rest, depth + 1 ≤ level →
    Gives s (Pattern.grouped true (text false p)) p.marks [p.normalised] depth rest
  /-- In front of an operator it is one item. -/
  wrapped : ∀ depth rest, depth + 1 ≤ level → Gives s (text true p) p.marks [p.normalised] depth rest
  /-- Among other items it comes to that item. -/
  plain : p.isAlternation = false → ∀ depth rest, depth ≤ level → Calm rest →
    ∃ pieces, Pattern.SameItems pieces [p.normalised] ∧
      Gives s (text false p) p.marks pieces depth rest
  /-- Alone it is the branches of its level. -/
  fills : ∀ depth rest, depth ≤ level → Calm rest → Fills s p depth rest

variable {p : Pattern} {level : Nat}

private theorem grouped_of_fills (every : p.Every (Pattern.IsRead s)) (shallow : level ≤ s.nestLimit)
    (fills : ∀ depth rest, depth ≤ level → Calm rest → Fills s p depth rest) (depth : Nat)
    (rest : List Char) (room : depth + 1 ≤ level) :
    Gives s (Pattern.grouped true (text false p)) p.marks [p.normalised] depth rest :=
  gives_grouped every (fills _ _ room (calm_cons (by decide) (by decide) _)) (by omega)

/-- A tree whose text is one item everywhere. -/
private theorem rereads_of_item (every : p.Every (Pattern.IsRead s)) (shallow : level ≤ s.nestLimit)
    (single : p.isAlternation = false) (same : text true p = text false p)
    (gives : ∀ depth rest, depth ≤ level →
      Gives s (text false p) p.marks [p.normalised] depth rest) : Rereads s p level where
  grouped := grouped_of_fills every shallow fun depth rest room _ =>
    fills_of_gives every.here single (.refl _) (gives depth rest room)
  wrapped depth rest room := by
    rw [same]
    exact gives depth rest (by omega)
  plain _ depth rest room _ := ⟨_, .refl _, gives depth rest room⟩
  fills depth rest room _ := fills_of_gives every.here single (.refl _) (gives depth rest room)

/-- A tree that is put into a group where an operator follows. -/
private theorem rereads_of_pieces (every : p.Every (Pattern.IsRead s)) (shallow : level ≤ s.nestLimit)
    (single : p.isAlternation = false) (apart : text true p = Pattern.grouped true (text false p))
    (gives : ∀ depth rest, depth ≤ level → Calm rest →
      ∃ pieces, Pattern.SameItems pieces [p.normalised] ∧
        Gives s (text false p) p.marks pieces depth rest) : Rereads s p level := by
  have fills : ∀ depth rest, depth ≤ level → Calm rest → Fills s p depth rest := by
    intro depth rest room calm
    obtain ⟨pieces, same, gives⟩ := gives depth rest room calm
    exact fills_of_gives every.here single same gives
  have grouped := grouped_of_fills every shallow fills
  exact ⟨grouped, fun depth rest room => apart ▸ grouped depth rest room, fun _ => gives, fills⟩

/-- The items of a printed sequence. -/
private theorem gives_sequenceText {items : List Pattern} {depth : Nat} {rest : List Char}
    (every : ∀ item ∈ items, item.Every (Pattern.IsRead s))
    (rereads : ∀ item ∈ items, Rereads s item level) (room : depth + 1 ≤ level) (calm : Calm rest)
    (afterReference : Bool) : ∃ pieces, Pattern.SameItems pieces (items.map Pattern.normalised) ∧
      Gives s (sequenceText afterReference items) (items.flatMap Pattern.marks) pieces depth rest := by
  induction items generalizing afterReference with
  | nil => exact ⟨[], .refl _, Gives.nil depth rest⟩
  | cons item others ih =>
    have every' := fun other member => every other (List.mem_cons_of_mem _ member)
    obtain ⟨pieces, same, gives⟩ := ih every'
      (fun other member => rereads other (List.mem_cons_of_mem _ member)) item.isBackreference
    have calm' : Calm (sequenceText item.isBackreference others ++ rest) :=
      (Pattern.calm_sequenceText (fun other member => Pattern.calm_text (every' other member)) _).append
        calm
    have here := rereads item List.mem_cons_self
    obtain ⟨first, same', gives'⟩ : ∃ first, Pattern.SameItems first [item.normalised] ∧
        Gives s (if afterReference && item.startsWithDigit then Pattern.grouped true (text false item)
            else text item.isAlternation item) item.marks first depth
          (sequenceText item.isBackreference others ++ rest) := by
      split
      · exact ⟨_, .refl _, here.grouped depth _ room⟩
      · cases single : item.isAlternation with
        | false => exact here.plain single depth _ (by omega) calm'
        | true => exact ⟨_, .refl _, here.wrapped depth _ room⟩
    exact ⟨first ++ pieces, same'.append same, gives'.append gives⟩

/-- The branches of a printed alternation. -/
private theorem fills_branchesText {branches : List Pattern} {depth : Nat} {rest : List Char}
    (some : branches ≠ []) (rereads : ∀ branch ∈ branches, Rereads s branch level)
    (room : depth ≤ level) (calm : Calm rest) :
    FillsWith s (branchesText branches) (branches.flatMap Pattern.marks)
      (branches.flatMap fun branch => branch.normalised.branchList) depth rest := by
  induction branches with
  | nil => exact absurd rfl some
  | cons branch others ih =>
    have here := rereads branch List.mem_cons_self
    cases others with
    | nil => simpa [branchesText, Fills] using here.fills depth rest room calm
    | cons next others =>
      have behind := ih (by simp) fun other member => rereads other (List.mem_cons_of_mem _ member)
      rw [Pattern.branchesText_cons (by simp)]
      exact (here.fills depth _ room (calm_cons (by decide) (by decide) _)).bar behind

private theorem rereads_literal {chars : String}
    (every : (Pattern.literal chars).Every (Pattern.IsRead s)) (shallow : level ≤ s.nestLimit) :
    Rereads s (.literal chars) level := by
  have some : chars ≠ "" := every.here
  by_cases single : chars.toList.length = 1
  · refine rereads_of_item every shallow rfl (by simp [text, single]) fun depth rest _ => ?_
    obtain ⟨c, form⟩ := List.length_eq_one_iff.mp single
    have same : chars = c.toString := String.toList_inj.mp (by simp [form, Char.toString])
    have gives := @gives_literalChar s c depth rest
    simpa [text, Pattern.grouped, Pattern.marks, Pattern.normalised, form, same] using gives
  · refine rereads_of_pieces every shallow rfl (by simp [text, single, Pattern.grouped])
      fun depth rest _ _ => ⟨_, Pattern.sameItems_literal some, ?_⟩
    exact gives_literalChars chars.toList depth rest

/-- **What is read for a printed tree.** -/
theorem rereads (legible : s.data.Legible) (every : p.Every (Pattern.IsRead s))
    (allows : p.Every Pattern.AllowsSome) (deep : p.DeepestWithin s.nestLimit level) :
    Rereads s p level := by
  induction p generalizing level with
  | literal chars => exact rereads_literal every deep.here
  | oneOf cls =>
    obtain ⟨same, -⟩ := every.here
    refine rereads_of_item every deep.here rfl rfl fun depth rest _ => ?_
    exact gives_classText ((CharClass.domain_effective cls).trans same) allows.here depth rest
  | anchor kind =>
    exact rereads_of_item every deep.here rfl rfl fun depth rest _ => gives_anchorText kind depth rest
  | sequence items ih =>
    obtain ⟨several, flat, -⟩ := every.here
    have items' : ∀ item ∈ items, Rereads s item (level + 1) := fun item member =>
      ih item member (every.below member) (allows.below member) (deep.below member)
    refine rereads_of_pieces every deep.here rfl (by simp [text, several, Pattern.grouped])
      fun depth rest room calm => ?_
    have every' : ∀ item ∈ items, item.Every (Pattern.IsRead s) := fun _ member => every.below member
    obtain ⟨pieces, same, gives⟩ :=
      gives_sequenceText every' items' (Nat.succ_le_succ room) calm false
    refine ⟨pieces, ?_, by simpa [text, Pattern.grouped] using gives⟩
    have flat' : ∀ item ∈ items.map Pattern.normalised, item.isSequence = false := by
      simpa using flat
    rw [Pattern.normalised_sequence]
    exact same.trans (Pattern.sameItems_sequence flat')
  | alternation branches ih =>
    have several : 2 ≤ branches.length := every.here
    have branches' : ∀ branch ∈ branches, Rereads s branch (level + 1) := fun branch member =>
      ih branch member (every.below member) (allows.below member) (deep.below member)
    have fills : ∀ depth rest, depth ≤ level → Calm rest →
        Fills s (.alternation branches) depth rest := by
      intro depth rest room calm
      have some : branches ≠ [] := fun none => by simp [none] at several
      have all := @fills_branchesText s (level + 1) branches depth rest some branches' (by omega) calm
      simpa [Fills, text, Pattern.grouped, Pattern.branchList] using all
    have grouped := grouped_of_fills every deep.here fills
    exact ⟨grouped, grouped, fun single => (by cases single), fills⟩
  | repetition bounds body ih =>
    have inside : body ∈ (Pattern.repetition bounds body).children := List.mem_singleton.mpr rfl
    have body' : Rereads s body (level + 1) :=
      ih (every.below inside) (allows.below inside) (deep.below inside)
    refine rereads_of_pieces every deep.here rfl rfl fun depth rest room calm => ⟨_, .refl _, ?_⟩
    exact gives_repetition legible every.here calm (body'.wrapped depth _ (by omega))
  | group index name body ih =>
    have inside : body ∈ (Pattern.group index name body).children := List.mem_singleton.mpr rfl
    have body' : Rereads s body (level + 1) :=
      ih (every.below inside) (allows.below inside) (deep.below inside)
    have deeper : level + 1 ≤ s.nestLimit := (deep.below inside).here
    refine rereads_of_item every deep.here rfl (by cases name <;> rfl) fun depth rest room => ?_
    have closing : Calm (')' :: rest) := calm_cons (by decide) (by decide) rest
    have calm : Calm (text false body ++ ')' :: rest) :=
      (Pattern.calm_text (every.below inside) false).append closing
    exact gives_group legible (every.below inside) every.here calm.1
      (body'.fills _ _ (by omega) closing) (by omega)
  | backreference index =>
    obtain ⟨least, most⟩ := every.here
    exact rereads_of_item every deep.here rfl rfl fun depth rest _ =>
      gives_backreference least most depth rest

end Parser

end PatternForge
