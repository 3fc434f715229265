import PatternForge.Proofs.Pattern.Numbering
import PatternForge.Proofs.Pattern.Nodes

/-!
Places in a tree, and what a text can leave out. A place is the way down to it, the number of the child
to go on to at each node, so a place contains another one if it is a prefix of it. A branch of an
alternation and a repetition that may occur no time are dispensable; `Pattern.LeavesOut` says that a
group stands in such a place, and `Pattern.OmitsReferent` that a reference to it stands outside.
-/
namespace PatternForge.Pattern

/-- The pattern at a place. -/
def at? (p : Pattern) : List Nat → Option Pattern
  | [] => some p
  | k :: place => p.children[k]?.bind (at? · place)

@[simp] theorem at?_nil (p : Pattern) : p.at? [] = some p := rfl

theorem at?_cons {p child : Pattern} {k : Nat} (found : p.children[k]? = some child)
    (place : List Nat) : p.at? (k :: place) = child.at? place := by
  rw [at?, found, Option.bind_some]

theorem Every.at? {fact : Pattern → Prop} {p q : Pattern} {place : List Nat} (every : p.Every fact)
    (found : p.at? place = some q) : fact q := by
  induction place generalizing p with
  | nil =>
    cases found
    exact every.here
  | cons k place ih =>
    obtain ⟨child, isChild, below⟩ := Option.bind_eq_some_iff.mp found
    exact ih (every.below (List.mem_of_getElem? isChild)) below

/-- Whether a text can do without what stands at a place: it is a branch of an alternation, or a
repetition that may occur no time. -/
inductive Dispensable (p : Pattern) : List Nat → Prop where
  | branch {above : List Nat} {branches : List Pattern} (k : Nat)
      (isAlternation : p.at? above = some (.alternation branches)) : Dispensable p (above ++ [k])
  | repetition {place : List Nat} {bounds : Bounds} {body : Pattern}
      (isRepetition : p.at? place = some (.repetition bounds body)) (never : bounds.least = 0) :
      Dispensable p place

/-- A group with a number stands in something dispensable at a place. -/
def LeavesOut (p : Pattern) (index : Nat) (outer : List Nat) : Prop :=
  p.Dispensable outer ∧ ∃ inner name body, p.at? (outer ++ inner) = some (.group index name body)

/-- A reference to a group stands somewhere. -/
def RefersTo (p : Pattern) (index : Nat) : Prop :=
  ∃ place, p.at? place = some (.backreference index)

/-- A group with a number stands in something dispensable that does not contain some reference to the
group. -/
def OmitsReferent (p : Pattern) (index : Nat) : Prop :=
  ∃ outer reference, p.LeavesOut index outer ∧
    p.at? reference = some (.backreference index) ∧ ¬ outer <+: reference

/-- Nodes for which a text always has a place for all that is below. -/
def KeepsAll : Pattern → Prop
  | alternation _ => False
  | repetition bounds _ => bounds.least ≠ 0
  | _ => True

theorem not_leavesOut {p : Pattern} (keeps : p.Every KeepsAll) (index : Nat) (outer : List Nat) :
    ¬ p.LeavesOut index outer := by
  rintro ⟨dispensable, -⟩
  cases dispensable with
  | branch k isAlternation => exact keeps.at? isAlternation
  | repetition isRepetition never => exact keeps.at? isRepetition never

/-! ### From a child to its parent -/

theorem Dispensable.below {p child : Pattern} {k : Nat} {place : List Nat}
    (dispensable : child.Dispensable place) (found : p.children[k]? = some child) :
    p.Dispensable (k :: place) := by
  cases dispensable with
  | branch j isAlternation => exact .branch j ((at?_cons found _).trans isAlternation)
  | repetition isRepetition never => exact .repetition ((at?_cons found _).trans isRepetition) never

theorem LeavesOut.below {p child : Pattern} {index k : Nat} {outer : List Nat}
    (leavesOut : child.LeavesOut index outer) (found : p.children[k]? = some child) :
    p.LeavesOut index (k :: outer) := by
  obtain ⟨dispensable, inner, name, body, isGroup⟩ := leavesOut
  exact ⟨dispensable.below found, inner, name, body, (at?_cons found _).trans isGroup⟩

theorem RefersTo.below {p child : Pattern} {index k : Nat} (refers : child.RefersTo index)
    (found : p.children[k]? = some child) : p.RefersTo index := by
  obtain ⟨place, isReference⟩ := refers
  exact ⟨k :: place, (at?_cons found _).trans isReference⟩

theorem OmitsReferent.below {p child : Pattern} {index k : Nat} (omits : child.OmitsReferent index)
    (found : p.children[k]? = some child) : p.OmitsReferent index := by
  obtain ⟨outer, reference, leavesOut, isReference, outside⟩ := omits
  refine ⟨k :: outer, k :: reference, leavesOut.below found, (at?_cons found _).trans isReference, ?_⟩
  exact fun inside => outside (List.cons_prefix_cons.mp inside).2

/-- A group is left out below one child, and another child refers to it. -/
theorem LeavesOut.omitsReferent {p other : Pattern} {index j k : Nat} {outer : List Nat}
    (leavesOut : p.LeavesOut index (j :: outer)) (isOther : p.children[k]? = some other)
    (refers : other.RefersTo index) (apart : j ≠ k) : p.OmitsReferent index := by
  obtain ⟨reference, isReference⟩ := refers
  refine ⟨j :: outer, k :: reference, leavesOut, (at?_cons isOther _).trans isReference, ?_⟩
  exact fun inside => apart (List.cons_prefix_cons.mp inside).1

/-! ### Groups that a tree closes -/

/-- A group that a tree closes stands somewhere in it. -/
theorem exists_group_of_closed {p : Pattern} {index : Nat} (closes : .closed index ∈ p.marks) :
    ∃ place name body, p.at? place = some (.group index name body) := by
  have lift : ∀ {p child : Pattern}, child ∈ p.children →
      (∃ place name body, child.at? place = some (.group index name body)) →
        ∃ place name body, p.at? place = some (.group index name body) := by
    intro p child member ⟨place, name, body, isGroup⟩
    obtain ⟨k, found⟩ := List.mem_iff_getElem?.mp member
    exact ⟨k :: place, name, body, (at?_cons found _).trans isGroup⟩
  induction p with
  | literal _ | oneOf _ | anchor _ | backreference _ => simp [marks] at closes
  | sequence items ih | alternation items ih =>
    simp only [marks_sequence, marks_alternation, List.mem_flatMap] at closes
    obtain ⟨item, member, closes⟩ := closes
    exact lift member (ih item member closes)
  | repetition bounds body ih => exact lift (List.mem_singleton_self body) (ih closes)
  | group number name body ih =>
    rw [marks, List.cons_append, List.mem_cons, List.mem_append, List.mem_singleton] at closes
    rcases closes with opens | inside | itself
    · cases opens
    · exact lift (List.mem_singleton_self body) (ih inside)
    · cases itself
      exact ⟨[], name, body, rfl⟩

theorem leavesOut_of_branch {branches : List Pattern} {branch : Pattern} {index k : Nat}
    (found : branches[k]? = some branch) (closes : .closed index ∈ branch.marks) :
    (alternation branches).LeavesOut index [k] := by
  obtain ⟨place, name, body, isGroup⟩ := exists_group_of_closed closes
  have isTop : (alternation branches).at? [] = some (alternation branches) := rfl
  exact ⟨.branch k isTop, place, name, body,
    (at?_cons (p := alternation branches) found place).trans isGroup⟩

theorem leavesOut_of_repetition {bounds : Bounds} {body : Pattern} {index : Nat}
    (never : bounds.least = 0) (closes : .closed index ∈ body.marks) :
    (repetition bounds body).LeavesOut index [] := by
  obtain ⟨place, name, inside, isGroup⟩ :=
    exists_group_of_closed (p := repetition bounds body) closes
  exact ⟨.repetition rfl never, place, name, inside, isGroup⟩

end PatternForge.Pattern
