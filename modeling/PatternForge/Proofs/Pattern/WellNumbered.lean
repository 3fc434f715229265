import PatternForge.Proofs.Confounding.Walk
import PatternForge.Proofs.Pattern.Numbering

/-!
What the numbers of groups say about a tree. `Pattern.WellNumbered` speaks of the walk through the
tree and not of the reader: the groups that the walk meets are numbered from one on, and every
reference comes behind the last node of its group. A tree whose marks are in order for a ledger that
starts empty is well numbered if its references are single digits (`wellNumbered_of_recordAll`), and
confounding keeps that.
-/
namespace PatternForge

/-- The number and the name of a group that opens. -/
def Mark.opening? : Mark → Option (Nat × Option String)
  | .opened index name => some (index, name)
  | .closed _ | .reference _ => none

namespace Ledger

theorem record_eq_some {ledger after : Ledger} {mark : Mark} (recorded : ledger.record mark = some after) :
    (∃ name, mark = .opened (ledger.count + 1) name ∧ (∀ taken ∈ name, taken ∉ ledger.names) ∧
      after = ledger.opening name) ∨
    (∃ index, mark = .closed index ∧ after = { ledger with closed := index :: ledger.closed }) ∨
    (∃ index, mark = .reference index ∧ index ∈ ledger.closed ∧ after = ledger) := by
  cases mark with
  | opened index name =>
    obtain ⟨⟨rfl, isNew⟩, rfl⟩ := recordAll_opened.mp (by simpa [recordAll] using recorded)
    exact .inl ⟨name, rfl, isNew, rfl⟩
  | closed index =>
    exact .inr (.inl ⟨index, rfl, recordAll_closed.mp (by simpa [recordAll] using recorded)⟩)
  | reference index =>
    obtain ⟨isClosed, rfl⟩ := recordAll_reference.mp (by simpa [recordAll] using recorded)
    exact .inr (.inr ⟨index, rfl, isClosed, rfl⟩)

theorem recordAll_cons {ledger after : Ledger} {mark : Mark} {marks : List Mark} :
    ledger.recordAll (mark :: marks) = some after ↔
      ∃ between, ledger.record mark = some between ∧ between.recordAll marks = some after := by
  rw [recordAll, List.foldlM_cons]
  exact Option.bind_eq_some_iff

/-- What is known to be closed was known before or is closed by one of the marks. -/
theorem mem_closed {ledger after : Ledger} {marks : List Mark} {index : Nat}
    (recorded : ledger.recordAll marks = some after) :
    index ∈ after.closed ↔ index ∈ ledger.closed ∨ .closed index ∈ marks := by
  induction marks generalizing ledger with
  | nil => cases recorded; simp
  | cons mark marks ih =>
    obtain ⟨between, isFirst, others⟩ := recordAll_cons.mp recorded
    rw [ih others]
    obtain ⟨name, rfl, -, rfl⟩ | ⟨closed, rfl, rfl⟩ | ⟨reference, rfl, -, rfl⟩ := record_eq_some isFirst
    · simp [opening]
    · rw [List.mem_cons, List.mem_cons, Mark.closed.injEq, or_comm (a := index = closed), or_assoc]
    · simp

/-- The groups that marks open have the next free numbers, one after another. -/
theorem indices_of_recordAll {ledger after : Ledger} {marks : List Mark}
    (recorded : ledger.recordAll marks = some after) :
    (marks.filterMap Mark.opening?).map Prod.fst =
      List.range' (ledger.count + 1) (marks.filterMap Mark.opening?).length := by
  induction marks generalizing ledger with
  | nil => rfl
  | cons mark marks ih =>
    obtain ⟨between, isFirst, others⟩ := recordAll_cons.mp recorded
    have further := ih others
    obtain ⟨name, rfl, -, rfl⟩ | ⟨closed, rfl, rfl⟩ | ⟨reference, rfl, -, rfl⟩ := record_eq_some isFirst
    · simpa [Mark.opening?, List.range'_succ, opening] using further
    · exact further
    · exact further

/-- Each opening mark is counted. -/
theorem count_of_recordAll {ledger after : Ledger} {marks : List Mark}
    (recorded : ledger.recordAll marks = some after) :
    after.count = ledger.count + (marks.filterMap Mark.opening?).length := by
  induction marks generalizing ledger with
  | nil => cases recorded; rfl
  | cons mark marks ih =>
    obtain ⟨between, isFirst, others⟩ := recordAll_cons.mp recorded
    rw [ih others]
    obtain ⟨name, rfl, -, rfl⟩ | ⟨closed, rfl, rfl⟩ | ⟨reference, rfl, -, rfl⟩ := record_eq_some isFirst
    · change ledger.count + 1 + _ = ledger.count + (_ + 1)
      omega
    · rfl
    · rfl

/-- The names that marks give are new, and no two of them are the same. -/
theorem names_of_recordAll {ledger after : Ledger} {marks : List Mark}
    (recorded : ledger.recordAll marks = some after) :
    ((marks.filterMap Mark.opening?).filterMap Prod.snd).Nodup ∧
      ∀ name ∈ (marks.filterMap Mark.opening?).filterMap Prod.snd, name ∉ ledger.names := by
  induction marks generalizing ledger with
  | nil => simp
  | cons mark marks ih =>
    obtain ⟨between, isFirst, others⟩ := recordAll_cons.mp recorded
    obtain ⟨distinct, fresh⟩ := ih others
    obtain ⟨name, rfl, isNew, rfl⟩ | ⟨closed, rfl, rfl⟩ | ⟨reference, rfl, -, rfl⟩ := record_eq_some isFirst
    · cases name with
      | none => exact ⟨distinct, fresh⟩
      | some given =>
        have front : ((Mark.opened (ledger.count + 1) (some given) :: marks).filterMap
            Mark.opening?).filterMap Prod.snd =
              given :: (marks.filterMap Mark.opening?).filterMap Prod.snd := rfl
        rw [front]
        refine ⟨List.nodup_cons.mpr ⟨fun again => ?_, distinct⟩, fun name member => ?_⟩
        · exact fresh given again (by simp [opening])
        · rcases List.mem_cons.mp member with rfl | member
          · exact isNew name rfl
          · intro taken
            exact fresh name member (by simp [opening, taken])
    · exact ⟨distinct, fresh⟩
    · exact ⟨distinct, fresh⟩

end Ledger

namespace Pattern

/-- Some nodes of a walk have among them all nodes of a group with a number. -/
def Encloses (nodes : List (Nat × Pattern)) (index : Nat) : Prop :=
  ∃ before depth name body after,
    nodes = before ++ walkFrom depth (.group index name body) ++ after

/-- The groups of a tree are numbered from one on in the order of their opening parentheses and no two
of them have one name; a reference is a single digit, and the walk has met every node of its group
before it comes to the reference. -/
structure WellNumbered (p : Pattern) : Prop where
  indices : p.groups.map (·.1) = List.range' 1 p.groups.length
  names : (p.groups.filterMap (·.2.1)).Nodup
  references : ∀ before depth index after,
    p.walk = before ++ (depth, .backreference index) :: after →
      1 ≤ index ∧ index ≤ 9 ∧ Encloses before index

theorem Encloses.append_left {nodes : List (Nat × Pattern)} {index : Nat}
    (encloses : Encloses nodes index) (others : List (Nat × Pattern)) :
    Encloses (others ++ nodes) index := by
  obtain ⟨before, depth, name, body, after, rfl⟩ := encloses
  exact ⟨others ++ before, depth, name, body, after, by simp⟩

theorem Encloses.append_right {nodes : List (Nat × Pattern)} {index : Nat}
    (encloses : Encloses nodes index) (others : List (Nat × Pattern)) :
    Encloses (nodes ++ others) index := by
  obtain ⟨before, depth, name, body, after, rfl⟩ := encloses
  exact ⟨before, depth, name, body, after ++ others, by simp⟩

theorem marks_of_children {p : Pattern} (notGroup : p.asGroup? = none)
    (notReference : ∀ index, p ≠ .backreference index) : p.marks = p.children.flatMap marks := by
  cases p with
  | group _ _ _ => cases notGroup
  | backreference index => exact absurd rfl (notReference index)
  | sequence items => simp [children]
  | alternation branches => simp [children]
  | repetition bounds body => simp [children, marks]
  | literal _ | oneOf _ | anchor _ => simp [children, marks]

/-! ### Where marks stand in a walk -/

private theorem openings_walkAll {ps : List Pattern} (depth : Nat)
    (each : ∀ p ∈ ps, ∀ depth,
      (walkFrom depth p).filterMap (fun node => node.2.asGroup?.map fun g => (g.1, g.2.1)) =
        p.marks.filterMap Mark.opening?) :
    (walkAll depth ps).filterMap (fun node => node.2.asGroup?.map fun g => (g.1, g.2.1)) =
      (ps.flatMap marks).filterMap Mark.opening? := by
  induction ps with
  | nil => rfl
  | cons p rest ih =>
    rw [walkAll, List.filterMap_append, List.flatMap_cons, List.filterMap_append,
      each p List.mem_cons_self, ih fun q member => each q (List.mem_cons_of_mem _ member)]

/-- A walk meets the groups in the order of their opening marks. -/
theorem openings_walkFrom (depth : Nat) (p : Pattern) :
    (walkFrom depth p).filterMap (fun node => node.2.asGroup?.map fun g => (g.1, g.2.1)) =
      p.marks.filterMap Mark.opening? := by
  induction p using induct_children generalizing depth with
  | node p ih =>
    rw [walkFrom_eq]
    have below := openings_walkAll (depth + 1) ih
    cases p with
    | group index name body =>
      simpa [children, asGroup?, marks, Mark.opening?, List.filterMap_cons] using below
    | backreference index => simp [children, asGroup?, marks, Mark.opening?, walkAll]
    | literal _ | oneOf _ | anchor _ | sequence _ | alternation _ | repetition _ _ =>
      rw [marks_of_children rfl (by simp)]
      simpa [asGroup?] using below

theorem openings_groups (p : Pattern) :
    p.groups.map (fun g => (g.1, g.2.1)) = p.marks.filterMap Mark.opening? := by
  rw [← openings_walkFrom 0 p, groups, List.map_filterMap]
  rfl

private theorem encloses_walkAll {ps : List Pattern} {depth index : Nat}
    (each : ∀ p ∈ ps, ∀ depth, .closed index ∈ p.marks → Encloses (walkFrom depth p) index)
    (closes : .closed index ∈ ps.flatMap marks) : Encloses (walkAll depth ps) index := by
  induction ps with
  | nil => simp at closes
  | cons p rest ih =>
    rw [walkAll]
    rw [List.flatMap_cons, List.mem_append] at closes
    rcases closes with here | later
    · exact (each p List.mem_cons_self depth here).append_right _
    · exact (ih (fun q member => each q (List.mem_cons_of_mem _ member)) later).append_left _

/-- A group that a tree closes has all its nodes in the walk. -/
theorem encloses_of_closed {index : Nat} (depth : Nat) (p : Pattern)
    (closes : .closed index ∈ p.marks) : Encloses (walkFrom depth p) index := by
  induction p using induct_children generalizing depth with
  | node p ih =>
    have below : .closed index ∈ p.children.flatMap marks → Encloses (walkFrom depth p) index := by
      intro inside
      rw [walkFrom_eq]
      exact (encloses_walkAll (fun q member depth closes => ih q member depth closes)
        inside).append_left [(depth, p)]
    cases p with
    | group number name body =>
      rw [marks, List.cons_append, List.mem_cons, List.mem_append, List.mem_singleton] at closes
      rcases closes with opens | inside | itself
      · cases opens
      · exact below (by simpa [children] using inside)
      · cases itself
        exact ⟨[], depth, name, body, [], by simp⟩
    | backreference _ => simp [marks] at closes
    | literal _ | oneOf _ | anchor _ | sequence _ | alternation _ | repetition _ _ =>
      exact below (by rwa [marks_of_children rfl (by simp)] at closes)

/-- What stands in front of a reference, in the walk and in the marks: a group closed by the marks in
front has all its nodes in the walk in front. -/
private def Precedes (nodes : List (Nat × Pattern)) (index : Nat) (all : List Mark) : Prop :=
  ∃ earlier later, all = earlier ++ .reference index :: later ∧
    ∀ closed, .closed closed ∈ earlier → Encloses nodes closed

private theorem precedes_walkAll {ps : List Pattern} {depth depth' index : Nat}
    {before after : List (Nat × Pattern)}
    (each : ∀ p ∈ ps, ∀ depth depth' before after,
      walkFrom depth p = before ++ (depth', .backreference index) :: after →
        Precedes before index p.marks)
    (visits : walkAll depth ps = before ++ (depth', .backreference index) :: after) :
    Precedes before index (ps.flatMap marks) := by
  induction ps generalizing before with
  | nil => simp [walkAll] at visits
  | cons p rest ih =>
    rw [walkAll] at visits
    rcases List.append_eq_append_iff.mp visits with ⟨passed, rfl, isRest⟩ | ⟨left, isFirst, isLeft⟩
    · -- the reference is visited behind all nodes of the first pattern
      obtain ⟨earlier, later, same, closes⟩ :=
        ih (fun q member => each q (List.mem_cons_of_mem _ member)) isRest
      refine ⟨p.marks ++ earlier, later, by rw [List.flatMap_cons, same, List.append_assoc], ?_⟩
      intro closed member
      rcases List.mem_append.mp member with inFirst | inRest
      · exact (encloses_of_closed depth p inFirst).append_right _
      · exact (closes closed inRest).append_left _
    · cases left with
      | nil =>
        rw [List.append_nil] at isFirst
        subst isFirst
        have visitsRest : walkAll depth rest = [] ++ (depth', .backreference index) :: after := by
          simpa using isLeft.symm
        obtain ⟨earlier, later, same, closes⟩ :=
          ih (fun q member => each q (List.mem_cons_of_mem _ member)) visitsRest
        refine ⟨p.marks ++ earlier, later, by rw [List.flatMap_cons, same, List.append_assoc], ?_⟩
        intro closed member
        rcases List.mem_append.mp member with inFirst | inRest
        · exact encloses_of_closed depth p inFirst
        · simpa using (closes closed inRest).append_left (walkFrom depth p)
      | cons reference others =>
        rw [List.cons_append, List.cons.injEq] at isLeft
        obtain ⟨rfl, -⟩ := isLeft
        obtain ⟨earlier, later, same, closes⟩ := each p List.mem_cons_self _ _ _ _ isFirst
        exact ⟨earlier, later ++ rest.flatMap marks, by simp [same], closes⟩

/-- A reference that a walk visits has its mark, and the groups closed before are behind the walk. -/
private theorem precedes_walkFrom {index : Nat} (p : Pattern) :
    ∀ depth depth' before after,
      walkFrom depth p = before ++ (depth', .backreference index) :: after →
        Precedes before index p.marks := by
  induction p using induct_children with
  | node p ih =>
    intro depth depth' before after visits
    rw [walkFrom_eq] at visits
    cases before with
    | nil =>
      simp only [List.nil_append, List.cons.injEq, Prod.mk.injEq] at visits
      obtain ⟨⟨-, rfl⟩, -⟩ := visits
      exact ⟨[], [], rfl, by simp⟩
    | cons first before =>
      simp only [List.cons_append, List.cons.injEq] at visits
      obtain ⟨rfl, inside⟩ := visits
      obtain ⟨earlier, later, same, closes⟩ := precedes_walkAll ih inside
      cases p with
      | group number name body =>
        simp only [children, List.flatMap_singleton] at same
        refine ⟨.opened number name :: earlier, later ++ [.closed number], ?_, ?_⟩
        · simp [marks, same]
        · intro closed member
          exact (closes closed (by simpa using member)).append_left [(depth, _)]
      | backreference _ => simp [children] at same
      | literal _ | oneOf _ | anchor _ | sequence _ | alternation _ | repetition _ _ =>
        rw [← marks_of_children rfl (by simp)] at same
        exact ⟨earlier, later, same, fun closed member =>
          (closes closed member).append_left [(depth, _)]⟩

/-- A tree whose marks are in order and whose references are single digits is well numbered. -/
theorem wellNumbered_of_recordAll {p : Pattern} {ledger : Ledger}
    (recorded : ({} : Ledger).recordAll p.marks = some ledger)
    (digits : p.Every fun node => ∀ index, node = .backreference index → 1 ≤ index ∧ index ≤ 9) :
    p.WellNumbered where
  indices := by
    have indices := Ledger.indices_of_recordAll recorded
    rw [← openings_groups, List.map_map, List.length_map] at indices
    exact indices
  names := by
    have names := (Ledger.names_of_recordAll recorded).1
    rw [← openings_groups, List.filterMap_map] at names
    exact names
  references := by
    intro before depth index after visits
    have digit := digits (depth, .backreference index) (by rw [visits]; simp) index rfl
    obtain ⟨earlier, later, same, closes⟩ := precedes_walkFrom p 0 depth before after visits
    rw [same] at recorded
    obtain ⟨between, front, rear⟩ := Ledger.recordAll_append.mp recorded
    obtain ⟨between', isReference, -⟩ := Ledger.recordAll_cons.mp rear
    have isClosed : index ∈ between.closed := by
      obtain ⟨name, same, -⟩ | ⟨_, same, -⟩ | ⟨_, same, isClosed, -⟩ :=
        Ledger.record_eq_some isReference <;> cases same
      exact isClosed
    rcases (Ledger.mem_closed front).mp isClosed with atStart | earlier
    · cases atStart
    · exact ⟨digit.1, digit.2, closes index earlier⟩

/-! ### Confounding -/

theorem WellNumbered.confounded {p : Pattern} (numbered : p.WellNumbered) :
    p.confounded.WellNumbered where
  indices := by
    rw [groups_confounded, List.map_map, List.length_map]
    exact numbered.indices
  names := by
    rw [groups_confounded, List.filterMap_map]
    exact numbered.names
  references := by
    intro before depth index after visits
    rw [walk, walkFrom_confounded] at visits
    obtain ⟨before', rest, split, rfl, isRest⟩ := List.map_eq_append_iff.mp visits
    obtain ⟨node, after', rfl, same, rfl⟩ := List.map_eq_cons_iff.mp isRest
    obtain ⟨depth', q⟩ := node
    obtain ⟨rfl, isReference⟩ := Prod.mk.inj same
    have reference : q = .backreference index := by
      cases q <;> simp_all [Pattern.confounded]
    subst reference
    obtain ⟨low, high, first, depth, name, body, last, rfl⟩ := numbered.references _ _ _ _ split
    refine ⟨low, high, first.map fun node => (node.1, node.2.confounded), depth, name, body.confounded,
      last.map fun node => (node.1, node.2.confounded), ?_⟩
    have group := walkFrom_confounded depth (.group index name body)
    rw [Pattern.confounded] at group
    rw [group, List.map_append, List.map_append]

end Pattern

end PatternForge
