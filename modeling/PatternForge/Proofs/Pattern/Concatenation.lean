import Mathlib.Data.List.Induction
import PatternForge.Proofs.RoundTrip.Items
import PatternForge.Proofs.RoundTrip.Moves

/-!
Sequences in normal form. `Pattern.concat` puts normal trees together as lists are put together: parts may be
put together first (`concat_append`), and the empty pattern adds nothing. What it gives is normal again, but
for empty literals: one that no other literal takes up stays an item. The reader makes no empty literal, so
what it gives is normal throughout.
-/
namespace PatternForge.Pattern

/-- Whether a node is put together as it should be: a sequence has not exactly one item, no sequence among its
items and no two literals side by side, and an alternation has two branches at least. -/
def IsAssembled : Pattern → Prop
  | sequence items => items.length ≠ 1 ∧ (∀ item ∈ items, item.isSequence = false) ∧ Unmerged items
  | alternation branches => 2 ≤ branches.length
  | literal _ | oneOf _ | anchor _ | repetition _ _ | group _ _ _ | backreference _ => True

/-- Besides, no sequence has an empty literal among its items. -/
def IsNormal (p : Pattern) : Prop := p.IsAssembled ∧ ∀ items, p = sequence items → literal "" ∉ items

/-- Whether a tree is in normal form. -/
def Normal (p : Pattern) : Prop := p.Every IsNormal

private theorem assembles_isAssembled : Assembles IsAssembled where
  joined := fun _ _ => trivial
  sequence := fun several flat unmerged => ⟨several, flat, unmerged⟩
  alternation := fun several => several

private theorem isSequence_of_mem_spliced {p item : Pattern} (assembled : p.IsAssembled)
    (member : item ∈ p.spliced) : item.isSequence = false := by
  cases p with
  | sequence items => exact assembled.2.1 item member
  | literal _ | oneOf _ | anchor _ | alternation _ | repetition _ _ | group _ _ _ | backreference _ =>
    obtain rfl := List.mem_singleton.mp member
    rfl

/-! ### Putting parts together first -/

private theorem pushMerging_twice (latestFirst : List Pattern) (text text' : String) :
    pushMerging (pushMerging latestFirst (literal text)) (literal text') =
      pushMerging latestFirst (literal (text ++ text')) := by
  cases latestFirst with
  | nil => rfl
  | cons first rest =>
    cases first with
    | literal before => simp only [pushMerging, String.append_assoc]
    | oneOf _ | anchor _ | sequence _ | alternation _ | repetition _ _ | group _ _ _ | backreference _ => rfl

/-- Items that were put together come to the same as the items, whatever stands before them. -/
private theorem foldl_foldl (items latestFirst : List Pattern) :
    (items.foldl pushMerging []).reverse.foldl pushMerging latestFirst =
      items.foldl pushMerging latestFirst := by
  -- from the right: only the last item can join what is there already
  induction items using List.reverseRecOn with
  | nil => rfl
  | append_singleton items item ih =>
    rw [List.foldl_append, List.foldl_append, ← ih]
    simp only [List.foldl_cons, List.foldl_nil]
    generalize items.foldl pushMerging [] = gathered
    unfold pushMerging
    split
    · rename_i text rest text'
      simp only [List.reverse_cons, List.foldl_append, List.foldl_cons, List.foldl_nil]
      exact (pushMerging_twice _ text text').symm
    · simp only [List.reverse_cons, List.foldl_append, List.foldl_cons, List.foldl_nil]

/-- Items put together into one are the same items. -/
theorem sameItems_concat {items : List Pattern} (assembled : ∀ item ∈ items, item.IsAssembled) :
    SameItems [concat items] items := by
  intro latestFirst
  have flat : ∀ part ∈ flattened items, part.isSequence = false := by
    refine forall_fold (fun _ _ => rfl) (fun part member => ?_) (by simp)
    obtain ⟨item, isItem, inside⟩ := List.mem_flatMap.mp member
    exact isSequence_of_mem_spliced (assembled item isItem) inside
  have parts : [concat items].flatMap spliced = (flattened items).reverse := by
    unfold concat
    split
    · rename_i part same
      rw [flatMap_spliced (by simpa [same] using flat), same, List.reverse_singleton]
    · rw [List.flatMap_cons, spliced, List.flatMap_nil, List.append_nil]
  rw [parts]
  exact foldl_foldl (items.flatMap spliced) latestFirst

/-- Two lists of items may be put together first. -/
theorem concat_append {a b : List Pattern} (assembled : ∀ item ∈ a, item.IsAssembled)
    (assembled' : ∀ item ∈ b, item.IsAssembled) : concat (a ++ b) = concat [concat a, concat b] :=
  ((sameItems_concat assembled).append (sameItems_concat assembled')).concat.symm

theorem concat_single {p : Pattern} (assembled : p.IsAssembled) : concat [p] = p := by
  cases p with
  | sequence items => exact concat_sequence assembled.1 assembled.2.2
  | literal _ | oneOf _ | anchor _ | alternation _ | repetition _ _ | group _ _ _ | backreference _ => rfl

/-- The empty pattern adds nothing, on either side. -/
theorem concat_empty {p : Pattern} (assembled : p.IsAssembled) :
    concat [empty, p] = p ∧ concat [p, empty] = p := by
  have before : SameItems [empty, p] [p] := fun _ => rfl
  have behind : SameItems [p, empty] [p] := by
    intro latestFirst
    rw [List.flatMap_cons, List.flatMap_cons, List.flatMap_cons]
    rfl
  exact ⟨before.concat.trans (concat_single assembled), behind.concat.trans (concat_single assembled)⟩

/-! ### Normal trees -/

/-- The parts of normal items are normal, and an empty literal among them was an item. -/
private theorem normal_flattened {items : List Pattern} (normal : ∀ item ∈ items, item.Normal) :
    ∀ part ∈ flattened items, part.Normal ∧ (part = literal "" → literal "" ∈ items) := by
  refine forall_fold (fun {text text'} first second => ?_) (fun part member => ?_) (by simp)
  · refine ⟨every_literal.mpr ⟨trivial, nofun⟩, fun same => second.2 ?_⟩
    have both : text ++ text' = "" := Pattern.literal.inj same
    rw [(String.append_eq_empty_iff.mp both).2]
  · obtain ⟨item, isItem, inside⟩ := List.mem_flatMap.mp member
    have whole := normal item isItem
    cases item with
    | sequence parts =>
      refine ⟨whole.below inside, ?_⟩
      rintro rfl
      exact absurd inside (whole.here.2 parts rfl)
    | literal _ | oneOf _ | anchor _ | alternation _ | repetition _ _ | group _ _ _ | backreference _ =>
      obtain rfl := List.mem_singleton.mp inside
      exact ⟨whole, fun same => same ▸ isItem⟩

/-- Normal items together are normal, unless an empty literal among them stays an item. In either case the tree
is put together as it should be, and so are the parts of it. -/
theorem normal_concat {items : List Pattern} (normal : ∀ item ∈ items, item.Normal) :
    (concat items).Every IsAssembled ∧ ((concat items).Normal ∨
      ∃ parts, concat items = sequence parts ∧ literal "" ∈ parts ∧ literal "" ∈ items ∧
        ∀ part ∈ parts, part.Normal) := by
  have assembled : (concat items).Every IsAssembled :=
    every_concat assembles_isAssembled (fun _ assembled => assembled.2.1) fun item member =>
      (normal item member).imp fun _ isNormal => isNormal.1
  have parts := normal_flattened normal
  refine ⟨assembled, ?_⟩
  unfold concat at assembled ⊢
  split at assembled
  · rename_i part same
    exact .inl (parts part (by simp [same])).1
  · by_cases left : literal "" ∈ flattened items
    · exact .inr ⟨_, rfl, List.mem_reverse.mpr left, (parts _ left).2 rfl,
        fun part member => (parts part (List.mem_reverse.mp member)).1⟩
    · refine .inl (every_iff.mpr ⟨⟨assembled.here, ?_⟩, fun part member => ?_⟩)
      · rintro _ ⟨⟩ member
        exact left (List.mem_reverse.mp member)
      · exact (parts part (List.mem_reverse.mp member)).1

/-- What the reader puts together is in normal form. -/
theorem normal_of_isRead {s : Settings} {p : Pattern} (every : p.Every (IsRead s)) : p.Normal := by
  induction p using induct_children with
  | node p ih =>
    refine every_iff.mpr ⟨⟨?_, ?_⟩, fun child member => ih child member (every.below member)⟩
    · cases p with
      | sequence items | alternation branches => exact every.here
      | literal _ | oneOf _ | anchor _ | repetition _ _ | group _ _ _ | backreference _ => trivial
    · rintro items rfl member
      exact (every.below member).here rfl

/-- **Putting patterns together is concatenation in a normal form**: normal items give a normal pattern, unless
an empty literal among them is left as an item of it, and then it is normal but for such items; parts may be put
together first; the empty pattern adds nothing. Every pattern that is read is normal, its literals have some
text, and its bounds are in order. -/
theorem concat_normalForm :
    (∀ a b : List Pattern, (∀ item ∈ a, item.Normal) → (∀ item ∈ b, item.Normal) →
      (concat a).Every IsAssembled ∧
        ((concat a).Normal ∨
          ∃ parts, concat a = sequence parts ∧ literal "" ∈ parts ∧ literal "" ∈ a ∧
            ∀ part ∈ parts, part.Normal) ∧
        concat (a ++ b) = concat [concat a, concat b]) ∧
      (∀ p : Pattern, p.Normal → concat [empty, p] = p ∧ concat [p, empty] = p) ∧
        ∀ (s : Settings) (text : String) (tree : Pattern), s.parse text = .ok tree →
          tree.Normal ∧ tree.Every (fun node => node ≠ literal "") ∧
            tree.Every fun node => ∀ bounds body, node = repetition bounds body →
              ∀ most ∈ bounds.most, bounds.least ≤ most := by
  refine ⟨fun a b normal normal' => ⟨(normal_concat normal).1, (normal_concat normal).2, ?_⟩,
    fun p normal => concat_empty normal.here.1, fun s text tree parsed => ?_⟩
  · exact concat_append (fun item member => (normal item member).here.1)
      fun item member => (normal' item member).here.1
  · obtain ⟨isRead, -, -⟩ := Settings.isRead_of_parse parsed
    refine ⟨normal_of_isRead isRead, isRead.imp fun node here => ?_, isRead.imp fun node here => ?_⟩
    · rintro rfl
      exact here rfl
    · rintro bounds body rfl
      exact here

/-- An empty literal beside an anchor is left where it is. -/
theorem concat_emptyLiteral : (∀ item ∈ [literal "", anchor .start], item.Normal) ∧
    ¬(concat [literal "", anchor .start]).Normal := by
  refine ⟨fun item member => ?_, fun normal => normal.here.2 [literal "", anchor .start] rfl (by simp)⟩
  simp only [List.mem_cons, List.not_mem_nil, or_false] at member
  rcases member with rfl | rfl <;> exact every_leaf rfl ⟨trivial, nofun⟩

/-- Digits on both sides of a seam become one literal. -/
theorem concat_normalForm_digits :
    (concat [anchor .start, literal "1"]).Every IsAssembled ∧
      sequence [anchor .start, literal "123", anchor .finish] =
        concat [concat [anchor .start, literal "1"], concat [literal "23", anchor .finish]] ∧
      concat [empty, sequence [anchor .start, literal "1"]] = sequence [anchor .start, literal "1"] ∧
      ({} : Settings).parse "a+" = .ok (repetition ⟨1, none, true⟩ (literal "a")) ∧
      (repetition ⟨1, none, true⟩ (literal "a")).Normal := by
  have leaves : (∀ item ∈ [anchor .start, literal "1"], item.Normal) ∧
      ∀ item ∈ [literal "23", anchor .finish], item.Normal := by
    constructor
    all_goals
      intro item member
      simp only [List.mem_cons, List.not_mem_nil, or_false] at member
      rcases member with rfl | rfl <;> exact every_leaf rfl ⟨trivial, nofun⟩
  have anchored : (sequence [anchor .start, literal "1"]).Normal := by
    refine every_iff.mpr ⟨⟨⟨by simp, by simp [isSequence], ?_⟩, ?_⟩, leaves.1⟩
    · exact unmerged_cons.mpr ⟨unmerged_cons.mpr ⟨unmerged_nil, by simp⟩, by simp [isLiteral]⟩
    · rintro _ ⟨⟩
      simp
  have parsed : ({} : Settings).parse "a+" = .ok (repetition ⟨1, none, true⟩ (literal "a")) := by
    have reads : Parser.run {} (.initial {} "a+".toList) =
        .ok { here := ⟨2, []⟩, flags := {}, items := [.repetition ⟨1, none, true⟩ (.literal "a")] } := by
      iterate 2 refine (Parser.run_of_step rfl rfl).trans ?_
      exact Parser.run_of_end rfl
    rw [Settings.parse, reads]
    rfl
  obtain ⟨lists, single, read⟩ := concat_normalForm
  obtain ⟨assembled, -, together⟩ := lists _ _ leaves.1 leaves.2
  exact ⟨assembled, together, (single _ anchored).1, parsed, (read _ _ _ parsed).1⟩

end PatternForge.Pattern
