import PatternForge.Pattern

/-! Facts about every node of a tree. `Pattern.Every` speaks about the nodes that a walk visits and
descends to the children of a node (`every_iff`), `Pattern.DeepestWithin` does the same for their
depth, and `Pattern.induct` proves a fact of a tree from that fact of the trees directly below. -/
namespace PatternForge.Pattern

/-- A fact holds of every tree if each node passes it on from its children. -/
@[induction_eliminator]
theorem induct {motive : Pattern → Prop}
    (literal : ∀ text, motive (.literal text))
    (oneOf : ∀ cls, motive (.oneOf cls))
    (anchor : ∀ kind, motive (.anchor kind))
    (sequence : ∀ items, (∀ item ∈ items, motive item) → motive (.sequence items))
    (alternation : ∀ branches, (∀ branch ∈ branches, motive branch) →
      motive (.alternation branches))
    (repetition : ∀ bounds body, motive body → motive (.repetition bounds body))
    (group : ∀ index name body, motive body → motive (.group index name body))
    (backreference : ∀ index, motive (.backreference index)) (p : Pattern) : motive p :=
  @Pattern.rec motive (fun ps => ∀ q ∈ ps, motive q) literal oneOf anchor sequence alternation
    repetition group backreference (fun _ none => absurd none List.not_mem_nil)
    (fun _ _ head tail q member => by
      rcases List.mem_cons.mp member with rfl | member
      · exact head
      · exact tail q member) p

/-- The same without telling the kinds of nodes apart. -/
theorem induct_children {motive : Pattern → Prop}
    (node : ∀ p, (∀ child ∈ p.children, motive child) → motive p) (p : Pattern) : motive p := by
  induction p with
  | literal _ | oneOf _ | anchor _ | backreference _ => exact node _ (by simp [children])
  | sequence _ ih | alternation _ ih => exact node _ ih
  | repetition _ _ ih | group _ _ _ ih => exact node _ (by simpa [children] using ih)

/-- A walk visits the node itself, and then walks its children one after another. -/
theorem walkFrom_eq (depth : Nat) (p : Pattern) :
    walkFrom depth p = (depth, p) :: walkAll (depth + 1) p.children := by
  cases p <;> simp [walkFrom, children, walkAll]

theorem mem_walkAll {depth : Nat} {ps : List Pattern} {node : Nat × Pattern} :
    node ∈ walkAll depth ps ↔ ∃ p ∈ ps, node ∈ walkFrom depth p := by
  induction ps with
  | nil => simp [walkAll]
  | cons p rest ih => simp [walkAll, ih]

/-- A walk visits the node itself and then walks its children, one level deeper. -/
theorem mem_walkFrom {depth : Nat} {p : Pattern} {node : Nat × Pattern} :
    node ∈ walkFrom depth p ↔
      node = (depth, p) ∨ ∃ child ∈ p.children, node ∈ walkFrom (depth + 1) child := by
  cases p <;> simp [walkFrom, children, mem_walkAll]

/-- Whether a fact holds of every node. -/
def Every (fact : Pattern → Prop) (p : Pattern) : Prop := ∀ node ∈ p.walk, fact node.2

private theorem every_walkFrom {fact : Pattern → Prop} {p : Pattern} (depth depth' : Nat)
    (every : ∀ node ∈ walkFrom depth p, fact node.2) : ∀ node ∈ walkFrom depth' p, fact node.2 := by
  induction p using induct_children generalizing depth depth' with
  | node p ih =>
    intro node visited
    rcases mem_walkFrom.mp visited with rfl | ⟨child, member, visited⟩
    · exact every (depth, p) (mem_walkFrom.mpr (.inl rfl))
    · refine ih child member (depth + 1) (depth' + 1) (fun below inside => ?_) node visited
      exact every below (mem_walkFrom.mpr (.inr ⟨child, member, inside⟩))

theorem every_iff {fact : Pattern → Prop} {p : Pattern} :
    p.Every fact ↔ fact p ∧ ∀ child ∈ p.children, child.Every fact := by
  constructor
  · intro every
    refine ⟨every (0, p) (mem_walkFrom.mpr (.inl rfl)), fun child member => ?_⟩
    exact every_walkFrom 1 0 fun node visited =>
      every node (mem_walkFrom.mpr (.inr ⟨child, member, visited⟩))
  · rintro ⟨here, below⟩ node visited
    rcases mem_walkFrom.mp visited with rfl | ⟨child, member, visited⟩
    · exact here
    · exact every_walkFrom 0 1 (below child member) node visited

theorem Every.here {fact : Pattern → Prop} {p : Pattern} (every : p.Every fact) : fact p :=
  (every_iff.mp every).1

theorem Every.imp {fact fact' : Pattern → Prop} {p : Pattern} (every : p.Every fact)
    (weaker : ∀ q, fact q → fact' q) : p.Every fact' :=
  fun node visited => weaker _ (every node visited)

theorem Every.below {fact : Pattern → Prop} {p child : Pattern} (every : p.Every fact)
    (member : child ∈ p.children) : child.Every fact :=
  (every_iff.mp every).2 child member

/-- Whether no node lies deeper than a limit, where the tree itself lies at a depth. -/
def DeepestWithin (limit depth : Nat) (p : Pattern) : Prop :=
  ∀ node ∈ walkFrom depth p, node.1 ≤ limit

theorem nestedWithin_iff {p : Pattern} {limit : Nat} :
    p.nestedWithin limit = true ↔ p.DeepestWithin limit 0 := by
  simp [nestedWithin, DeepestWithin, walk]

theorem deepestWithin_iff {limit depth : Nat} {p : Pattern} :
    p.DeepestWithin limit depth ↔
      depth ≤ limit ∧ ∀ child ∈ p.children, child.DeepestWithin limit (depth + 1) := by
  constructor
  · intro within
    refine ⟨within (depth, p) (mem_walkFrom.mpr (.inl rfl)), fun child member node visited => ?_⟩
    exact within node (mem_walkFrom.mpr (.inr ⟨child, member, visited⟩))
  · rintro ⟨here, below⟩ node visited
    rcases mem_walkFrom.mp visited with rfl | ⟨child, member, visited⟩
    · exact here
    · exact below child member node visited

theorem DeepestWithin.here {limit depth : Nat} {p : Pattern} (within : p.DeepestWithin limit depth) :
    depth ≤ limit := (deepestWithin_iff.mp within).1

theorem DeepestWithin.below {limit depth : Nat} {p child : Pattern}
    (within : p.DeepestWithin limit depth) (member : child ∈ p.children) :
    child.DeepestWithin limit (depth + 1) :=
  (deepestWithin_iff.mp within).2 child member

theorem DeepestWithin.higher {limit depth higher : Nat} {p : Pattern}
    (within : p.DeepestWithin limit depth) (above : higher ≤ depth) : p.DeepestWithin limit higher := by
  induction p using induct_children generalizing depth higher with
  | node p ih =>
    refine deepestWithin_iff.mpr ⟨Nat.le_trans above within.here, fun child member => ?_⟩
    exact ih child member (within.below member) (Nat.succ_le_succ above)

theorem DeepestWithin.mono {limit limit' depth : Nat} {p : Pattern} (within : p.DeepestWithin limit depth)
    (more : limit ≤ limit') : p.DeepestWithin limit' depth :=
  fun node visited => Nat.le_trans (within node visited) more

/-- One level further down, with one more level allowed. -/
theorem DeepestWithin.deeper {limit depth : Nat} {p : Pattern} (within : p.DeepestWithin limit depth) :
    p.DeepestWithin (limit + 1) (depth + 1) := by
  induction p using induct_children generalizing depth with
  | node p ih =>
    refine deepestWithin_iff.mpr ⟨Nat.succ_le_succ within.here, fun child member => ?_⟩
    exact ih child member (within.below member)

end PatternForge.Pattern
