import PatternForge.Proofs.Pattern.Nodes
import PatternForge.Reading.Parser

/-!
Trees without conditions on places. Putting items and branches together loses no node but literals and
sequences, so where the finished tree has no condition on a place, neither has any tree that the reader
held on the way (`Parser.anchorFree_of_run`).
-/
namespace PatternForge

/-- A tree without conditions on places. -/
def Pattern.AnchorFree (p : Pattern) : Prop := p.Every fun node => ∀ kind, node ≠ .anchor kind

namespace Pattern

private theorem anchorFree_literal (text : String) : (literal text).AnchorFree :=
  every_iff.mpr ⟨fun _ => Pattern.noConfusion, fun _ none => absurd none List.not_mem_nil⟩

private theorem anchorFree_of_pushMerging {latestFirst : List Pattern} {item : Pattern}
    (free : ∀ p ∈ pushMerging latestFirst item, p.AnchorFree) :
    item.AnchorFree ∧ ∀ p ∈ latestFirst, p.AnchorFree := by
  unfold pushMerging at free
  split at free
  · refine ⟨anchorFree_literal _, fun p member => ?_⟩
    rcases List.mem_cons.mp member with rfl | earlier
    · exact anchorFree_literal _
    · exact free p (List.mem_cons_of_mem _ earlier)
  · exact List.forall_mem_cons.mp free

private theorem anchorFree_of_fold {items latestFirst : List Pattern}
    (free : ∀ p ∈ items.foldl pushMerging latestFirst, p.AnchorFree) :
    (∀ p ∈ items, p.AnchorFree) ∧ ∀ p ∈ latestFirst, p.AnchorFree := by
  induction items generalizing latestFirst with
  | nil => exact ⟨by simp, free⟩
  | cons item rest ih =>
    obtain ⟨others, merged⟩ := ih free
    obtain ⟨first, earlier⟩ := anchorFree_of_pushMerging merged
    exact ⟨List.forall_mem_cons.mpr ⟨first, others⟩, earlier⟩

private theorem anchorFree_of_spliced {p : Pattern} (free : ∀ q ∈ spliced p, q.AnchorFree) :
    p.AnchorFree := by
  cases p with
  | sequence items => exact every_iff.mpr ⟨fun _ => Pattern.noConfusion, free⟩
  | literal _ | oneOf _ | anchor _ | alternation _ | repetition _ _ | group _ _ _ | backreference _ =>
    exact free _ List.mem_cons_self

theorem anchorFree_of_concat {items : List Pattern} (free : (concat items).AnchorFree) :
    ∀ item ∈ items, item.AnchorFree := by
  have parts : ∀ p ∈ flattened items, p.AnchorFree := by
    unfold concat at free
    split at free
    · rename_i item single
      rw [single]
      exact List.forall_mem_singleton.mpr free
    · exact fun p member => free.below (List.mem_reverse.mpr member)
  have pieces := (@anchorFree_of_fold _ [] parts).1
  exact fun item member => anchorFree_of_spliced fun piece inside =>
    pieces piece (List.mem_flatMap.mpr ⟨item, member, inside⟩)

theorem anchorFree_of_choice {branches : List Pattern} (free : (choice branches).AnchorFree) :
    ∀ branch ∈ branches, branch.AnchorFree := by
  unfold choice at free
  split at free
  · exact List.forall_mem_singleton.mpr free
  · exact fun branch member => free.below member

theorem anchorFree_of_ofLevel {branches items : List Pattern} (free : (ofLevel branches items).AnchorFree) :
    (∀ item ∈ items, item.AnchorFree) ∧ ∀ branch ∈ branches, branch.AnchorFree := by
  have each : ∀ branch ∈ concat items.reverse :: branches, branch.AnchorFree := fun branch member =>
    anchorFree_of_choice free branch (List.mem_reverse.mpr member)
  obtain ⟨last, finished⟩ := List.forall_mem_cons.mp each
  exact ⟨fun item member => anchorFree_of_concat last item (List.mem_reverse.mpr member), finished⟩

end Pattern

namespace Parser

/-- The reader holds no tree with a condition on a place. -/
structure State.AnchorFree (st : State) : Prop where
  items : ∀ item ∈ st.items, item.AnchorFree
  branches : ∀ branch ∈ st.branches, branch.AnchorFree
  enclosing : ∀ opened ∈ st.enclosing,
    (∀ item ∈ opened.items, item.AnchorFree) ∧ ∀ branch ∈ opened.branches, branch.AnchorFree

variable {s : Settings} {st st' : State}

private theorem anchorFree_of_push {leaf : Pattern} {after : Cursor}
    (free : (st.push leaf after).AnchorFree) :
    leaf.AnchorFree ∧ st.AnchorFree :=
  ⟨free.items leaf List.mem_cons_self,
    fun item member => free.items item (List.mem_cons_of_mem _ member), free.branches, free.enclosing⟩

private theorem anchorFree_of_enter {capture : Option (Nat × Option String)} {flags : Flags} {after : Cursor}
    (entered : st.enter s capture flags after = .ok st') (free : st'.AnchorFree) : st.AnchorFree := by
  unfold State.enter at entered
  split at entered <;> cases entered
  obtain ⟨⟨items, branches⟩, outer⟩ := List.forall_mem_cons.mp free.enclosing
  exact ⟨items, branches, outer⟩

private theorem anchorFree_of_openGroup (opens : st.openGroup s = .ok st') (free : st'.AnchorFree) :
    st.AnchorFree := by
  unfold State.openGroup at opens
  split at opens
  · cases opens
  · cases opens
    exact ⟨free.items, free.branches, free.enclosing⟩
  · exact anchorFree_of_enter opens free
  · have inner := anchorFree_of_enter opens free
    exact ⟨inner.items, inner.branches, inner.enclosing⟩

private theorem anchorFree_of_closeGroup (closes : st.closeGroup = .ok st') (free : st'.AnchorFree) :
    st.AnchorFree := by
  unfold State.closeGroup at closes
  split at closes
  · cases closes
  · rename_i opened outer inside
    cases closes
    obtain ⟨closed, earlier⟩ := List.forall_mem_cons.mp free.items
    have body : (Pattern.ofLevel st.branches st.items).AnchorFree := by
      unfold OpenGroup.close at closed
      split at closed
      · exact closed
      · exact closed.below List.mem_cons_self
    obtain ⟨items, branches⟩ := Pattern.anchorFree_of_ofLevel body
    refine ⟨items, branches, ?_⟩
    rw [inside]
    exact List.forall_mem_cons.mpr ⟨⟨earlier, free.branches⟩, free.enclosing⟩

private theorem anchorFree_of_nextBranch (free : st.nextBranch.AnchorFree) : st.AnchorFree := by
  obtain ⟨last, finished⟩ := List.forall_mem_cons.mp free.branches
  exact ⟨fun item member => Pattern.anchorFree_of_concat last item (List.mem_reverse.mpr member),
    finished, free.enclosing⟩

private theorem anchorFree_of_repeatLast {c : Char} (repeated : st.repeatLast s c = .ok st')
    (free : st'.AnchorFree) : st.AnchorFree := by
  unfold State.repeatLast at repeated
  split at repeated
  · cases repeated
  · rename_i item earlier some
    split at repeated
    · cases repeated
    · cases repeated
      obtain ⟨last, others⟩ := List.forall_mem_cons.mp free.items
      refine ⟨?_, free.branches, free.enclosing⟩
      rw [some]
      exact List.forall_mem_cons.mpr ⟨last.below List.mem_cons_self, others⟩

private theorem anchorFree_of_pushRead {read : Except Failure (Pattern × Cursor)}
    (pushed : st.pushRead read = .ok st') (free : st'.AnchorFree) : st.AnchorFree := by
  unfold State.pushRead at pushed
  split at pushed <;> cases pushed
  exact (anchorFree_of_push free).2

/-- A step of the reader loses no condition on a place. -/
theorem anchorFree_of_step {c : Char} (stepped : step s st c = .ok st') (free : st'.AnchorFree) :
    st.AnchorFree := by
  unfold step at stepped
  split at stepped
  case h_1 => exact anchorFree_of_openGroup stepped free
  case h_2 => exact anchorFree_of_closeGroup stepped free
  case h_3 => cases stepped; exact anchorFree_of_nextBranch free
  case h_4 | h_9 => exact anchorFree_of_pushRead stepped free
  case h_10 | h_11 | h_12 | h_13 => cases stepped; exact (anchorFree_of_push free).2
  all_goals exact anchorFree_of_repeatLast stepped free

/-- And so none of them is lost until the text ends. -/
theorem anchorFree_of_run (ends : run s st = .ok st') (free : st'.AnchorFree) : st.AnchorFree := by
  fun_induction run s st with
  | case1 => cases ends; exact free
  | case2 => cases ends
  | case3 st c rest next between stepped ih => exact anchorFree_of_step stepped (ih ends)

/-- A finished tree without conditions on places is made of such trees. -/
theorem anchorFree_of_closed (closed : st.enclosing = [])
    (free : (Pattern.ofLevel st.branches st.items).AnchorFree) : st.AnchorFree := by
  obtain ⟨items, branches⟩ := Pattern.anchorFree_of_ofLevel free
  exact ⟨items, branches, by simp [closed]⟩

end Parser

end PatternForge
