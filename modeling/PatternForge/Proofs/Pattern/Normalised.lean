import PatternForge.Pattern.Print
import PatternForge.Proofs.CharSet.Order
import PatternForge.Proofs.Pattern.Numbering

/-!
What a tree looks like after it is printed and read. A class is printed by the characters it allows,
so it is read as the class of those that is not negated; and bars do not show which of them belong
together, so an alternation among the branches of another one is spliced in. Nothing else changes,
and the two trees have the same text (`text_normalised`).
-/
namespace PatternForge.Pattern

/-- The branches of an alternation, or the pattern itself. -/
def branchList : Pattern → List Pattern
  | alternation branches => branches
  | branch => [branch]

mutual

/-- The pattern with every class written by what it allows and with alternations among branches
spliced in. -/
def normalised (p : Pattern) : Pattern :=
  match p with
  | literal text => literal text
  | oneOf cls => oneOf (.of cls.effective false)
  | anchor kind => anchor kind
  | sequence items => sequence (normalisedAll items)
  | alternation branches => alternation (normalisedBranches branches)
  | repetition bounds body => repetition bounds (normalised body)
  | group index name body => group index name (normalised body)
  | backreference index => backreference index

/-- Several patterns, each normalised. -/
def normalisedAll (ps : List Pattern) : List Pattern :=
  match ps with
  | [] => []
  | p :: rest => normalised p :: normalisedAll rest

/-- Several branches, normalised and spliced. -/
def normalisedBranches (ps : List Pattern) : List Pattern :=
  match ps with
  | [] => []
  | p :: rest => (normalised p).branchList ++ normalisedBranches rest

end

theorem normalisedAll_eq (ps : List Pattern) : normalisedAll ps = ps.map normalised := by
  induction ps with
  | nil => rfl
  | cons p rest ih => rw [normalisedAll, ih, List.map_cons]

theorem normalisedBranches_eq (ps : List Pattern) :
    normalisedBranches ps = ps.flatMap fun p => p.normalised.branchList := by
  induction ps with
  | nil => rfl
  | cons p rest ih => rw [normalisedBranches, ih, List.flatMap_cons]

@[simp] theorem normalised_sequence (items : List Pattern) :
    (sequence items).normalised = .sequence (items.map normalised) := by
  rw [normalised, normalisedAll_eq]

@[simp] theorem normalised_alternation (branches : List Pattern) :
    (alternation branches).normalised =
      .alternation (branches.flatMap fun branch => branch.normalised.branchList) := by
  rw [normalised, normalisedBranches_eq]

@[simp] theorem isAlternation_normalised (p : Pattern) :
    p.normalised.isAlternation = p.isAlternation := by
  cases p <;> rfl

@[simp] theorem isBackreference_normalised (p : Pattern) :
    p.normalised.isBackreference = p.isBackreference := by
  cases p <;> rfl

@[simp] theorem startsWithDigit_normalised (p : Pattern) :
    p.normalised.startsWithDigit = p.startsWithDigit := by
  induction p with
  | literal _ | oneOf _ | anchor _ | alternation _ _ | group _ _ _ _ | backreference _ => rfl
  | sequence items ih =>
    cases items with
    | nil => rfl
    | cons first rest =>
      rw [normalised_sequence, List.map_cons, startsWithDigit, startsWithDigit,
        ih first List.mem_cons_self]
  | repetition _ body ih => rw [normalised, startsWithDigit, startsWithDigit, ih]

theorem branchesText_cons {p : Pattern} {rest : List Pattern} (more : rest ≠ []) :
    branchesText (p :: rest) = text false p ++ '|' :: branchesText rest := by
  cases rest with
  | nil => exact absurd rfl more
  | cons next rest => rfl

theorem branchesText_append {ps qs : List Pattern} (some : ps ≠ []) (some' : qs ≠ []) :
    branchesText (ps ++ qs) = branchesText ps ++ '|' :: branchesText qs := by
  induction ps with
  | nil => exact absurd rfl some
  | cons p rest ih =>
    rw [List.cons_append, branchesText_cons (by simp [some'])]
    cases rest with
    | nil => rfl
    | cons next rest =>
      rw [ih (by simp), @branchesText_cons p (next :: rest) (by simp), List.append_assoc,
        List.cons_append]

/-- The text of branches depends on the branches one by one, not on how they are spliced. -/
theorem branchesText_branchList (p : Pattern) : branchesText p.branchList = text false p := by
  cases p with
  | alternation branches => rw [branchList, text]; rfl
  | literal _ | oneOf _ | anchor _ | sequence _ | repetition _ _ | group _ _ _ | backreference _ =>
    rfl

/-- Whether a node is an alternation without branches. -/
def HasBranches : Pattern → Prop
  | alternation branches => branches ≠ []
  | _ => True

theorem branchList_normalised_ne_nil {p : Pattern} (every : p.Every HasBranches) :
    p.normalised.branchList ≠ [] := by
  induction p with
  | alternation branches ih =>
    rw [normalised_alternation, branchList]
    cases branches with
    | nil => exact absurd rfl every.here
    | cons branch rest =>
      have first := ih branch List.mem_cons_self (every.below List.mem_cons_self)
      simp [first]
  | literal _ | oneOf _ | anchor _ | sequence _ | repetition _ _ | group _ _ _ | backreference _ =>
    simp [normalised, branchList]

private theorem branchesText_normalised {branches : List Pattern}
    (every : ∀ branch ∈ branches, branch.Every HasBranches)
    (same : ∀ branch ∈ branches, text false branch.normalised = text false branch) :
    branchesText (branches.flatMap fun branch => branch.normalised.branchList) =
      branchesText branches := by
  induction branches with
  | nil => rfl
  | cons branch rest ih =>
    have first := same branch List.mem_cons_self
    rw [← branchesText_branchList] at first
    rw [List.flatMap_cons]
    cases rest with
    | nil => rw [List.flatMap_nil, List.append_nil, first]; rfl
    | cons next rest =>
      have tail := ih (fun b member => every b (List.mem_cons_of_mem _ member))
        (fun b member => same b (List.mem_cons_of_mem _ member))
      rw [branchesText_append, first, tail]
      · rfl
      · exact branchList_normalised_ne_nil (every branch List.mem_cons_self)
      · have head := branchList_normalised_ne_nil (every next (by simp))
        simp [head]

private theorem sequenceText_normalised {items : List Pattern} (afterReference : Bool)
    (same : ∀ item ∈ items, ∀ wrap, text wrap item.normalised = text wrap item) :
    sequenceText afterReference (items.map normalised) = sequenceText afterReference items := by
  induction items generalizing afterReference with
  | nil => rfl
  | cons item rest ih =>
    rw [List.map_cons, sequenceText, sequenceText,
      ih _ fun other member => same other (List.mem_cons_of_mem _ member)]
    simp only [startsWithDigit_normalised, isAlternation_normalised, isBackreference_normalised,
      same item List.mem_cons_self]

/-- Normalising a tree does not change its text. -/
theorem text_normalised {p : Pattern} (every : p.Every HasBranches) (wrap : Bool) :
    text wrap p.normalised = text wrap p := by
  induction p generalizing wrap with
  | literal _ | anchor _ | backreference _ => rfl
  | oneOf cls => rfl
  | sequence items ih =>
    rw [normalised_sequence, text, text, List.length_map,
      sequenceText_normalised false fun item member wrap => ih item member (every.below member) wrap]
  | alternation branches ih =>
    have below : ∀ branch ∈ branches, branch.Every HasBranches := fun _ member => every.below member
    rw [normalised_alternation, text, text, branchesText_normalised below
      fun branch member => ih branch member (below branch member) false]
  | repetition bounds body ih =>
    rw [normalised, text, text, ih (every.below (by simp [children]))]
  | group index name body ih =>
    cases name with
    | none => rw [normalised, text, text, ih (every.below (by simp [children]))]
    | some given => rw [normalised, text, text, ih (every.below (by simp [children]))]

/-- Normalising puts no node deeper. -/
theorem deepestWithin_normalised {limit depth : Nat} {p : Pattern}
    (within : p.DeepestWithin limit depth) : p.normalised.DeepestWithin limit depth := by
  induction p generalizing depth with
  | literal _ | oneOf _ | anchor _ | backreference _ =>
    exact deepestWithin_iff.mpr ⟨within.here, by simp [normalised, children]⟩
  | sequence items ih =>
    rw [normalised_sequence]
    refine deepestWithin_iff.mpr ⟨within.here, fun child member => ?_⟩
    obtain ⟨item, isItem, rfl⟩ := List.mem_map.mp member
    exact ih item isItem (within.below isItem)
  | alternation branches ih =>
    rw [normalised_alternation]
    refine deepestWithin_iff.mpr ⟨within.here, fun child member => ?_⟩
    obtain ⟨branch, isBranch, inside⟩ := List.mem_flatMap.mp member
    have deep := ih branch isBranch (within.below isBranch)
    cases form : branch.normalised with
    | alternation others =>
      -- the branches of a branch move up by one level
      rw [form] at deep inside
      exact (deep.below inside).higher (Nat.le_succ _)
    | literal _ | oneOf _ | anchor _ | sequence _ | repetition _ _ | group _ _ _ | backreference _ =>
      rw [form] at deep inside
      obtain rfl := List.mem_singleton.mp inside
      exact deep
  | repetition _ body ih | group _ _ body ih =>
    refine deepestWithin_iff.mpr ⟨within.here, fun child member => ?_⟩
    obtain rfl := List.mem_singleton.mp member
    exact ih (within.below (List.mem_singleton.mpr rfl))

end PatternForge.Pattern
