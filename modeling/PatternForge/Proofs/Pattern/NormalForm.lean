import PatternForge.Proofs.Pattern.Nodes

/-! How trees are put together. `Pattern.concat` and `Pattern.choice` never leave a sequence inside a
sequence, two literals side by side, or a node for a single part. A fact of the nodes that respects
this (`Assembles`) passes from the parts to the whole, and what is listed of trees in the order of the
text (`ListedInOrder`) is listed in the same order of the parts. -/
namespace PatternForge.Pattern

/-- Whether a pattern is a sequence. -/
def isSequence : Pattern → Bool
  | sequence _ => true
  | _ => false

/-- Whether a pattern is a literal. -/
def isLiteral : Pattern → Bool
  | literal _ => true
  | _ => false

/-- No two literals stand side by side. -/
def Unmerged (items : List Pattern) : Prop :=
  ∀ before after text text', items ≠ before ++ literal text :: literal text' :: after

theorem unmerged_nil : Unmerged [] := by
  intro before after text text' same
  cases before <;> cases same

theorem unmerged_cons {item : Pattern} {rest : List Pattern} :
    Unmerged (item :: rest) ↔
      Unmerged rest ∧ ¬(item.isLiteral = true ∧ ∃ next ∈ rest.head?, next.isLiteral = true) := by
  constructor
  · refine fun unmerged => ⟨fun before after text text' same => ?_, ?_⟩
    · exact unmerged (item :: before) after text text' (by rw [same]; rfl)
    · rintro ⟨isLiteral', next, isNext, isLiteral''⟩
      cases rest with
      | nil => cases isNext
      | cons first rest =>
        cases isNext
        cases item <;> cases isLiteral'
        cases next <;> cases isLiteral''
        exact unmerged [] rest _ _ rfl
  · rintro ⟨unmerged, apart⟩ before after text text' same
    cases before with
    | nil =>
      cases same
      exact apart ⟨rfl, literal text', rfl, rfl⟩
    | cons first before =>
      cases same
      exact unmerged before after text text' rfl

theorem Unmerged.reverse {items : List Pattern} (unmerged : Unmerged items) :
    Unmerged items.reverse := by
  intro before after text text' same
  have back := congrArg List.reverse same
  rw [List.reverse_reverse] at back
  exact unmerged after.reverse before.reverse text' text (by simp [back])

theorem Unmerged.map {items : List Pattern} {f : Pattern → Pattern} (unmerged : Unmerged items)
    (keeps : ∀ p, (f p).isLiteral = p.isLiteral) : Unmerged (items.map f) := by
  induction items with
  | nil => exact unmerged_nil
  | cons item rest ih =>
    obtain ⟨others, apart⟩ := unmerged_cons.mp unmerged
    refine unmerged_cons.mpr ⟨ih others, ?_⟩
    cases rest with
    | nil => simp
    | cons next rest => simpa [keeps] using apart

/-- A fact of nodes that literals keep when they are joined, and that a sequence or an alternation has
by its parts being put together as they should. -/
structure Assembles (fact : Pattern → Prop) : Prop where
  joined : ∀ {text text'}, fact (literal text) → fact (literal text') →
    fact (literal (text ++ text'))
  sequence : ∀ {items : List Pattern}, items.length ≠ 1 → (∀ item ∈ items, item.isSequence = false) →
    Unmerged items → fact (.sequence items)
  alternation : ∀ {branches : List Pattern}, 2 ≤ branches.length → fact (.alternation branches)

section Assembly
variable {fact : Pattern → Prop}

/-- The items of a sequence in the making, latest first. -/
private def Tidy (fact : Pattern → Prop) (latestFirst : List Pattern) : Prop :=
  (∀ item ∈ latestFirst, item.Every fact ∧ item.isSequence = false) ∧ Unmerged latestFirst

theorem every_literal {text : String} : (literal text).Every fact ↔ fact (literal text) := by
  rw [every_iff]
  simp [children]

private theorem Tidy.push (assembles : Assembles fact) {latestFirst : List Pattern} {item : Pattern}
    (tidy : Tidy fact latestFirst) (every : item.Every fact) (flat : item.isSequence = false) :
    Tidy fact (pushMerging latestFirst item) := by
  unfold pushMerging
  split
  · rename_i before rest text
    obtain ⟨all, unmerged⟩ := tidy
    have both := assembles.joined (every_literal.mp (all _ List.mem_cons_self).1)
      (every_literal.mp every)
    refine ⟨fun other member => ?_, ?_⟩
    · rcases List.mem_cons.mp member with rfl | member
      · exact ⟨every_literal.mpr both, rfl⟩
      · exact all other (List.mem_cons_of_mem _ member)
    · obtain ⟨unmerged', alone⟩ := unmerged_cons.mp unmerged
      exact unmerged_cons.mpr ⟨unmerged', alone⟩
  · rename_i apart
    refine ⟨fun other member => ?_, unmerged_cons.mpr ⟨tidy.2, ?_⟩⟩
    · rcases List.mem_cons.mp member with rfl | member
      · exact ⟨every, flat⟩
      · exact tidy.1 other member
    · rintro ⟨isLiteral', next, isNext, isLiteral''⟩
      cases latestFirst with
      | nil => cases isNext
      | cons first rest =>
        cases isNext
        cases item <;> cases isLiteral'
        cases next <;> cases isLiteral''
        exact apart _ _ _ rfl rfl

private theorem Tidy.fold (assembles : Assembles fact) {items latestFirst : List Pattern}
    (tidy : Tidy fact latestFirst)
    (all : ∀ item ∈ items, item.Every fact ∧ item.isSequence = false) :
    Tidy fact (items.foldl pushMerging latestFirst) := by
  induction items generalizing latestFirst with
  | nil => exact tidy
  | cons item rest ih =>
    obtain ⟨every, flat⟩ := all item List.mem_cons_self
    exact ih (tidy.push assembles every flat) fun other member =>
      all other (List.mem_cons_of_mem _ member)

/-- The items of a sequence of which the fact holds are no sequences. -/
private theorem spliced_every (flat : ∀ items, fact (.sequence items) →
    ∀ item ∈ items, item.isSequence = false) {p item : Pattern} (every : p.Every fact)
    (member : item ∈ p.spliced) : item.Every fact ∧ item.isSequence = false := by
  cases p with
  | sequence items => exact ⟨every.below member, flat items every.here item member⟩
  | literal _ | oneOf _ | anchor _ | alternation _ | repetition _ _ | group _ _ _ | backreference _ =>
    obtain rfl := List.mem_singleton.mp member
    exact ⟨every, rfl⟩

theorem every_concat (assembles : Assembles fact)
    (flat : ∀ items, fact (.sequence items) → ∀ item ∈ items, item.isSequence = false)
    {items : List Pattern} (all : ∀ item ∈ items, item.Every fact) : (concat items).Every fact := by
  have tidy : Tidy fact (flattened items) := by
    refine Tidy.fold assembles ⟨by simp, unmerged_nil⟩ fun item member => ?_
    obtain ⟨p, isPart, inside⟩ := List.mem_flatMap.mp member
    exact spliced_every flat (all p isPart) inside
  unfold concat
  split
  · rename_i item same
    rw [same] at tidy
    exact (tidy.1 item List.mem_cons_self).1
  · rename_i several
    refine every_iff.mpr ⟨assembles.sequence ?_ ?_ tidy.2.reverse, ?_⟩
    · intro single
      rw [List.length_reverse] at single
      obtain ⟨item, same⟩ := List.length_eq_one_iff.mp single
      exact several item same
    · exact fun item member => (tidy.1 item (List.mem_reverse.mp member)).2
    · exact fun item member => (tidy.1 item (List.mem_reverse.mp member)).1

theorem every_choice (assembles : Assembles fact) {branches : List Pattern} (some : branches ≠ [])
    (all : ∀ branch ∈ branches, branch.Every fact) : (choice branches).Every fact := by
  unfold choice
  split
  · exact all _ List.mem_cons_self
  · rename_i several
    refine every_iff.mpr ⟨assembles.alternation ?_, all⟩
    match branches, some, several with
    | [branch], _, several => exact absurd rfl (several branch)
    | _ :: _ :: _, _, _ => simp

end Assembly

/-! ### Lists in the order of the text -/

/-- Something that is listed of a tree, where a sequence and an alternation have what is listed of their
parts and literals can be joined. -/
structure ListedInOrder {α : Type} (listed : Pattern → List α) : Prop where
  joined : ∀ text text', listed (literal (text ++ text')) = listed (literal text) ++ listed (literal text')
  sequence : ∀ items, listed (.sequence items) = items.flatMap listed
  alternation : ∀ branches, listed (.alternation branches) = branches.flatMap listed

namespace ListedInOrder

variable {α : Type} {listed : Pattern → List α}

private theorem pushMerging (inOrder : ListedInOrder listed) (latestFirst : List Pattern) (item : Pattern) :
    (Pattern.pushMerging latestFirst item).reverse.flatMap listed =
      latestFirst.reverse.flatMap listed ++ listed item := by
  unfold Pattern.pushMerging
  split
  · simp [inOrder.joined]
  · simp

private theorem fold (inOrder : ListedInOrder listed) (items latestFirst : List Pattern) :
    (items.foldl Pattern.pushMerging latestFirst).reverse.flatMap listed =
      latestFirst.reverse.flatMap listed ++ items.flatMap listed := by
  induction items generalizing latestFirst with
  | nil => simp
  | cons item rest ih =>
    rw [List.foldl_cons, ih, inOrder.pushMerging, List.flatMap_cons, List.append_assoc]

private theorem spliced (inOrder : ListedInOrder listed) (p : Pattern) : p.spliced.flatMap listed = listed p := by
  cases p with
  | sequence items => rw [Pattern.spliced, inOrder.sequence]
  | literal _ | oneOf _ | anchor _ | alternation _ | repetition _ _ | group _ _ _ | backreference _ =>
    simp [Pattern.spliced]

/-- Putting items together keeps the order. -/
theorem concat (inOrder : ListedInOrder listed) (items : List Pattern) :
    listed (Pattern.concat items) = items.flatMap listed := by
  have all : (flattened items).reverse.flatMap listed = items.flatMap listed := by
    rw [flattened, inOrder.fold, List.reverse_nil, List.flatMap_nil, List.nil_append, List.flatMap_assoc]
    simp only [inOrder.spliced]
  unfold Pattern.concat
  split
  · rename_i item same
    rw [← all, same]
    simp
  · rw [inOrder.sequence, all]

theorem choice (inOrder : ListedInOrder listed) (branches : List Pattern) :
    listed (Pattern.choice branches) = branches.flatMap listed := by
  unfold Pattern.choice
  split
  · simp
  · rw [inOrder.alternation]

end ListedInOrder

/-! ### Depth -/

theorem forall_fold {motive : Pattern → Prop}
    (joined : ∀ {text text'}, motive (literal text) → motive (literal text') → motive (literal (text ++ text')))
    {items latestFirst : List Pattern} (all : ∀ item ∈ items, motive item)
    (before : ∀ item ∈ latestFirst, motive item) : ∀ item ∈ items.foldl pushMerging latestFirst, motive item := by
  induction items generalizing latestFirst with
  | nil => exact before
  | cons item rest ih =>
    refine ih (fun other member => all other (List.mem_cons_of_mem _ member)) ?_
    unfold pushMerging
    split
    · rename_i text others _
      intro other member
      rcases List.mem_cons.mp member with rfl | member
      · exact joined (before _ List.mem_cons_self) (all _ List.mem_cons_self)
      · exact before other (List.mem_cons_of_mem _ member)
    · intro other member
      rcases List.mem_cons.mp member with rfl | member
      · exact all _ List.mem_cons_self
      · exact before other member

/-- Items are one level further down when they are put together, at most. -/
theorem deepestWithin_concat {limit depth : Nat} {items : List Pattern} (room : depth ≤ limit)
    (all : ∀ item ∈ items, item.DeepestWithin limit depth) :
    (concat items).DeepestWithin (limit + 1) depth := by
  have below : ∀ item ∈ flattened items, item.DeepestWithin (limit + 1) (depth + 1) := by
    refine forall_fold (fun _ _ => ?_) (fun item member => ?_) (by simp)
    · exact deepestWithin_iff.mpr ⟨Nat.succ_le_succ room, by simp [children]⟩
    · obtain ⟨p, isPart, inside⟩ := List.mem_flatMap.mp member
      cases p with
      | sequence parts => exact ((all _ isPart).below inside).mono (Nat.le_succ _)
      | literal _ | oneOf _ | anchor _ | alternation _ | repetition _ _ | group _ _ _ | backreference _ =>
        obtain rfl := List.mem_singleton.mp inside
        exact (all _ isPart).deeper
  unfold concat
  split
  · rename_i item same
    exact (below item (by simp [same])).higher (Nat.le_succ _)
  · exact deepestWithin_iff.mpr ⟨Nat.le_succ_of_le room,
      fun item member => below item (List.mem_reverse.mp member)⟩

theorem deepestWithin_choice {limit depth : Nat} {branches : List Pattern} (room : depth ≤ limit)
    (all : ∀ branch ∈ branches, branch.DeepestWithin limit depth) :
    (choice branches).DeepestWithin (limit + 1) depth := by
  unfold choice
  split
  · exact (all _ List.mem_cons_self).mono (Nat.le_succ _)
  · exact deepestWithin_iff.mpr ⟨Nat.le_succ_of_le room, fun branch member => (all branch member).deeper⟩

end PatternForge.Pattern
