import PatternForge.Confounding
import PatternForge.Proofs.Pattern.Nodes

/-! Confounding changes what stands in a node, and neither its children nor its place: a walk through
the confounded tree meets the confounded nodes in the same order and at the same depth. The flag that
goes along is set in the end exactly if a node changes (`confound_eq`). -/
namespace PatternForge.Pattern

theorem children_confounded (p : Pattern) : p.confounded.children = p.children.map confounded := by
  cases p <;> simp [confounded, children, confoundedAll_eq_map]

private theorem walkAll_confounded {ps : List Pattern} {depth : Nat}
    (each : ∀ p ∈ ps, ∀ depth,
      walkFrom depth p.confounded = (walkFrom depth p).map fun node => (node.1, node.2.confounded)) :
    walkAll depth (ps.map confounded) =
      (walkAll depth ps).map fun node => (node.1, node.2.confounded) := by
  induction ps with
  | nil => rfl
  | cons p rest ih =>
    rw [List.map_cons, walkAll, walkAll, List.map_append, each p List.mem_cons_self,
      ih fun q member => each q (List.mem_cons_of_mem _ member)]

/-- A confounded tree is walked as the tree is. -/
theorem walkFrom_confounded (depth : Nat) (p : Pattern) :
    walkFrom depth p.confounded =
      (walkFrom depth p).map fun node => (node.1, node.2.confounded) := by
  induction p using induct_children generalizing depth with
  | node p ih =>
    rw [walkFrom_eq, walkFrom_eq depth p, children_confounded, List.map_cons,
      walkAll_confounded ih]

private theorem confoundAll_eq_of {ps : List Pattern} (changed : Bool) (depth : Nat)
    (each : ∀ p ∈ ps, ∀ changed depth, p.confound changed =
      (p.confounded, changed || (walkFrom depth p).any fun node => node.2.changesWhenConfounded)) :
    confoundAll ps changed =
      (confoundedAll ps, changed || (walkAll depth ps).any fun node => node.2.changesWhenConfounded) := by
  induction ps generalizing changed with
  | nil => simp [confoundAll, confoundedAll, walkAll]
  | cons p rest ih =>
    rw [confoundAll, each p List.mem_cons_self changed depth]
    dsimp only
    rw [ih _ fun q member => each q (List.mem_cons_of_mem _ member), confoundedAll, walkAll, List.any_append,
      Bool.or_assoc]

/-- What is replaced does not depend on the flag, and the flag is set exactly if it was or if some node
changes. -/
theorem confound_eq (p : Pattern) (changed : Bool) (depth : Nat) :
    p.confound changed =
      (p.confounded, changed || (walkFrom depth p).any fun node => node.2.changesWhenConfounded) := by
  induction p generalizing changed depth with
  | literal text =>
    rw [confound, confounded, walkFrom, List.any_cons, List.any_nil, changesWhenConfounded]
    cases Text.counterparts text != text <;> simp
  | oneOf cls =>
    rw [confound, confounded, walkFrom, List.any_cons, List.any_nil, changesWhenConfounded,
      CharClass.isConfoundable]
    cases cls.negate.effective.isEmpty <;> simp
  | anchor kind | backreference index => simp [confound, confounded, walkFrom, changesWhenConfounded]
  | sequence items ih =>
    rw [confound, confoundAll_eq_of changed (depth + 1) ih, confounded, walkFrom, List.any_cons]
    rfl
  | alternation branches ih =>
    rw [confound, confoundAll_eq_of changed (depth + 1) ih, confounded, walkFrom, List.any_cons]
    rfl
  | repetition bounds body ih =>
    rw [confound, ih changed (depth + 1), confounded, walkFrom, List.any_cons]
    rfl
  | group index name body ih =>
    rw [confound, ih changed (depth + 1), confounded, walkFrom, List.any_cons]
    rfl

theorem confound?_eq (p : Pattern) :
    p.confound? = if p.walk.any fun node => node.2.changesWhenConfounded then some p.confounded else none := by
  rw [confound?, confound_eq p false 0, Bool.false_or, walk]

theorem confound?_eq_some {p near : Pattern} :
    p.confound? = some near ↔
      (∃ node ∈ p.walk, node.2.changesWhenConfounded = true) ∧ near = p.confounded := by
  rw [confound?_eq, ← List.any_eq_true, Option.ite_none_right_eq_some, Option.some.injEq,
    eq_comm (a := p.confounded)]

theorem asGroup_confounded (p : Pattern) :
    p.confounded.asGroup? = p.asGroup?.map fun g => (g.1, g.2.1, g.2.2.confounded) := by
  cases p <;> rfl

theorem groups_confounded (p : Pattern) :
    p.confounded.groups = p.groups.map fun g => (g.1, g.2.1, g.2.2.confounded) := by
  rw [groups, walk, walkFrom_confounded, List.filterMap_map, groups, List.map_filterMap]
  congr 1
  funext node
  exact asGroup_confounded node.2

end PatternForge.Pattern
