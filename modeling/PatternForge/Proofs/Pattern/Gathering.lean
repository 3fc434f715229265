import PatternForge.Proofs.Pattern.NormalForm
import PatternForge.Reading.Parser

/-! Facts of leaves. Putting trees together changes no leaf but literals, which are joined, so a fact that
literals keep when they are joined and that asks nothing of other nodes passes from the parts to the
whole. -/
namespace PatternForge.Pattern

/-- Whether a node has text or characters of its own. -/
def isLeaf : Pattern → Bool
  | literal _ | oneOf _ | anchor _ | backreference _ => true
  | sequence _ | alternation _ | repetition _ _ | group _ _ _ => false

/-- A fact of leaves: literals keep it when they are joined, and it is true of every other node. -/
structure Gathers (fact : Pattern → Prop) : Prop where
  joined : ∀ {text text'}, fact (literal text) → fact (literal text') → fact (literal (text ++ text'))
  inner : ∀ {p : Pattern}, p.isLeaf = false → fact p

variable {fact : Pattern → Prop}

namespace Gathers

theorem every_concat (gathers : Gathers fact) {items : List Pattern}
    (all : ∀ item ∈ items, item.Every fact) : (concat items).Every fact := by
  have parts : ∀ item ∈ flattened items, item.Every fact := by
    refine forall_fold (fun first second => ?_) (fun item member => ?_) (by simp)
    · exact every_literal.mpr (gathers.joined (every_literal.mp first) (every_literal.mp second))
    · obtain ⟨p, isPart, inside⟩ := List.mem_flatMap.mp member
      cases p with
      | sequence items => exact (all _ isPart).below inside
      | literal _ | oneOf _ | anchor _ | alternation _ | repetition _ _ | group _ _ _ | backreference _ =>
        obtain rfl := List.mem_singleton.mp inside
        exact all _ isPart
  unfold concat
  split
  · rename_i item same
    exact parts item (by simp [same])
  · exact every_iff.mpr ⟨gathers.inner rfl, fun item member => parts item (List.mem_reverse.mp member)⟩

theorem every_ofLevel (gathers : Gathers fact) {branches items : List Pattern}
    (finished : ∀ branch ∈ branches, branch.Every fact) (all : ∀ item ∈ items, item.Every fact) :
    (ofLevel branches items).Every fact := by
  have each : ∀ branch ∈ (concat items.reverse :: branches).reverse, branch.Every fact := by
    intro branch member
    rcases List.mem_cons.mp (List.mem_reverse.mp member) with rfl | member
    · exact gathers.every_concat fun item isItem => all item (List.mem_reverse.mp isItem)
    · exact finished branch member
  unfold ofLevel choice
  split
  · rename_i branch same
    exact each branch (by simp [same])
  · exact every_iff.mpr ⟨gathers.inner rfl, each⟩

end Gathers

/-! ### From the whole to the parts -/

/-- A fact that is true of all nodes which putting trees together makes or takes away. -/
structure Scatters (fact : Pattern → Prop) : Prop where
  literal : ∀ text, fact (literal text)
  sequence : ∀ items, fact (sequence items)
  alternation : ∀ branches, fact (alternation branches)

namespace Scatters

private theorem every_of_fold (scatters : Scatters fact) {items latestFirst : List Pattern}
    (every : ∀ item ∈ items.foldl pushMerging latestFirst, item.Every fact) :
    (∀ item ∈ latestFirst, item.Every fact) ∧ ∀ item ∈ items, item.Every fact := by
  induction items generalizing latestFirst with
  | nil => exact ⟨every, by simp⟩
  | cons item rest ih =>
    obtain ⟨pushed, others⟩ := ih every
    suffices both : (∀ other ∈ latestFirst, other.Every fact) ∧ item.Every fact from
      ⟨both.1, List.forall_mem_cons.mpr ⟨both.2, others⟩⟩
    have single : ∀ text, (Pattern.literal text).Every fact := fun text =>
      every_literal.mpr (scatters.literal text)
    unfold pushMerging at pushed
    split at pushed
    · exact ⟨List.forall_mem_cons.mpr ⟨single _, (List.forall_mem_cons.mp pushed).2⟩, single _⟩
    · exact (List.forall_mem_cons.mp pushed).symm

theorem every_of_concat (scatters : Scatters fact) {items : List Pattern} (every : (concat items).Every fact) :
    ∀ item ∈ items, item.Every fact := by
  have parts : ∀ part ∈ flattened items, part.Every fact := by
    unfold concat at every
    split at every
    · rename_i part same
      simpa [same] using every
    · exact fun part member => every.below (List.mem_reverse.mpr member)
  have spliced' := (scatters.every_of_fold parts).2
  intro item member
  cases item with
  | sequence inside =>
    refine every_iff.mpr ⟨scatters.sequence inside, fun part isPart => spliced' part ?_⟩
    exact List.mem_flatMap.mpr ⟨_, member, isPart⟩
  | literal _ | oneOf _ | anchor _ | alternation _ | repetition _ _ | group _ _ _ | backreference _ =>
    exact spliced' _ (List.mem_flatMap.mpr ⟨_, member, List.mem_singleton.mpr rfl⟩)

theorem every_of_ofLevel (scatters : Scatters fact) {branches items : List Pattern}
    (every : (ofLevel branches items).Every fact) :
    (∀ branch ∈ branches, branch.Every fact) ∧ ∀ item ∈ items, item.Every fact := by
  have each : ∀ branch ∈ (concat items.reverse :: branches).reverse, branch.Every fact := by
    unfold ofLevel choice at every
    split at every
    · rename_i branch same
      simpa [same] using every
    · exact fun branch member => every.below member
  refine ⟨fun branch member => each branch (by simp [member]), fun item member => ?_⟩
  exact scatters.every_of_concat (each _ (by simp)) item (List.mem_reverse.mpr member)

end Scatters

end PatternForge.Pattern
