import PatternForge.Confounding
import PatternForge.Proofs.Pattern.NormalForm
import PatternForge.Reading.Parser

/-!
How groups are numbered. `Pattern.marks` lists where groups open and close and where they are
referred to, in the order of the text; putting items together leaves the list as it is. A `Ledger` is
what a reader knows of the groups at a place, and `Ledger.record` takes one mark into account: a group
has the next free number and a new name, and a reference is to a group that is closed.
-/
namespace PatternForge

/-- What happens to groups at a place in the text. -/
inductive Mark where
  /-- A group opens. -/
  | opened (index : Nat) (name : Option String)
  /-- A group closes. -/
  | closed (index : Nat)
  /-- A group is referred to. -/
  | reference (index : Nat)

namespace Pattern

mutual

/-- The marks of a pattern in the order of its text. -/
def marks (p : Pattern) : List Mark :=
  match p with
  | literal _ | oneOf _ | anchor _ => []
  | sequence items => marksAll items
  | alternation branches => marksAll branches
  | repetition _ body => marks body
  | group index name body => .opened index name :: marks body ++ [.closed index]
  | backreference index => [.reference index]

/-- The marks of several patterns, one pattern after another. -/
def marksAll (ps : List Pattern) : List Mark :=
  match ps with
  | [] => []
  | p :: rest => marks p ++ marksAll rest

end

theorem marksAll_eq (ps : List Pattern) : marksAll ps = ps.flatMap marks := by
  induction ps with
  | nil => rfl
  | cons p rest ih => rw [marksAll, ih, List.flatMap_cons]

@[simp] theorem marks_sequence (items : List Pattern) :
    (sequence items).marks = items.flatMap marks := by rw [marks, marksAll_eq]

@[simp] theorem marks_alternation (branches : List Pattern) :
    (alternation branches).marks = branches.flatMap marks := by rw [marks, marksAll_eq]

theorem marks_inOrder : ListedInOrder marks where
  joined _ _ := rfl
  sequence := marks_sequence
  alternation := marks_alternation

theorem marks_concat (items : List Pattern) : (concat items).marks = items.flatMap marks :=
  marks_inOrder.concat items

theorem marks_ofLevel (branches items : List Pattern) :
    (ofLevel branches items).marks =
      branches.reverse.flatMap marks ++ items.reverse.flatMap marks := by
  rw [ofLevel, marks_inOrder.choice]
  simp [marks_concat]

theorem marks_confounded (p : Pattern) : p.confounded.marks = p.marks := by
  induction p with
  | literal _ | oneOf _ | anchor _ | backreference _ => rfl
  | sequence items ih | alternation items ih =>
    simp only [confounded, confoundedAll_eq_map, marks_sequence, marks_alternation,
      List.flatMap_map]
    rw [List.flatMap_def, List.flatMap_def, List.map_congr_left ih]
  | repetition _ body ih => rw [confounded, marks, marks, ih]
  | group _ _ body ih => rw [confounded, marks, marks, ih]

end Pattern

/-- What is known of the groups at a place. -/
structure Ledger where
  /-- The number of groups opened so far. -/
  count : Nat := 0
  /-- The numbers of the groups closed so far, latest first. -/
  closed : List Nat := []
  /-- The names given so far, latest first. -/
  names : List String := []

namespace Ledger

/-- Takes a mark into account, if it is in order. -/
def record (ledger : Ledger) (mark : Mark) : Option Ledger :=
  match mark with
  | .opened index name =>
    if index = ledger.count + 1 ∧ ∀ taken ∈ name, taken ∉ ledger.names then
      some { ledger with count := index, names := name.toList ++ ledger.names }
    else none
  | .closed index => some { ledger with closed := index :: ledger.closed }
  | .reference index => if index ∈ ledger.closed then some ledger else none

/-- Takes several marks into account, one after another. -/
def recordAll (ledger : Ledger) (marks : List Mark) : Option Ledger := marks.foldlM record ledger

theorem recordAll_append {ledger after : Ledger} {first others : List Mark} :
    ledger.recordAll (first ++ others) = some after ↔
      ∃ between, ledger.recordAll first = some between ∧ between.recordAll others = some after := by
  rw [recordAll, List.foldlM_append]
  exact Option.bind_eq_some_iff

/-- What is known behind the opening parenthesis of the next group. -/
def opening (ledger : Ledger) (name : Option String) : Ledger :=
  { ledger with count := ledger.count + 1, names := name.toList ++ ledger.names }

theorem recordAll_opened {ledger after : Ledger} {index : Nat} {name : Option String} :
    ledger.recordAll [.opened index name] = some after ↔
      (index = ledger.count + 1 ∧ ∀ taken ∈ name, taken ∉ ledger.names) ∧
        after = ledger.opening name := by
  have single : ledger.recordAll [.opened index name] = ledger.record (.opened index name) := by
    simp [recordAll]
  rw [single, record]
  split
  · rename_i fresh
    obtain ⟨rfl, isNew⟩ := fresh
    exact ⟨fun same => ⟨⟨rfl, isNew⟩, (Option.some.inj same).symm⟩,
      fun both => congrArg some both.2.symm⟩
  · rename_i taken
    exact ⟨fun same => (nomatch same), fun both => absurd both.1 taken⟩

theorem recordAll_closed {ledger after : Ledger} {index : Nat} :
    ledger.recordAll [.closed index] = some after ↔
      after = { ledger with closed := index :: ledger.closed } := by
  simp [recordAll, record, eq_comm]

theorem recordAll_reference {ledger after : Ledger} {index : Nat} :
    ledger.recordAll [.reference index] = some after ↔ index ∈ ledger.closed ∧ after = ledger := by
  by_cases isClosed : index ∈ ledger.closed
  · simp [recordAll, record, isClosed, eq_comm]
  · simp [recordAll, record, isClosed]

end Ledger

/-- What the reader knows of the groups. -/
def Parser.State.ledger (st : Parser.State) : Ledger :=
  { count := st.count, closed := st.closed, names := st.names }

end PatternForge
