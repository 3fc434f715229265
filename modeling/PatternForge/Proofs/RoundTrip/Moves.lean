import PatternForge.Proofs.Pattern.Numbering
import PatternForge.Proofs.Reading.Places

/-!
Reading printed text. `Gives` says that a piece of text, wherever it stands, is read as some items:
the reader goes on behind the text with those items put behind the others and the marks of the text
recorded. Texts that follow each other give the items of both (`Gives.append`).
-/
namespace PatternForge

namespace Parser

theorem run_of_step {s : Settings} {st st' : State} {c : Char} {rest : List Char}
    (next : st.here.rest = c :: rest) (stepped : step s st c = .ok st') : run s st = run s st' := by
  rw [run]
  split
  · rename_i none
    rw [next] at none
    cases none
  · rename_i same
    rw [next, List.cons.injEq] at same
    obtain ⟨rfl, rfl⟩ := same
    split
    · rename_i failed
      rw [stepped] at failed
      cases failed
    · rename_i stepped'
      rw [stepped] at stepped'
      cases stepped'
      rfl

theorem run_of_end {s : Settings} {st : State} (ends : st.here.rest = []) : run s st = .ok st := by
  rw [run]
  split
  · rfl
  · rename_i next
    rw [ends] at next
    cases next

theorem run_of_refused {s : Settings} {st : State} {c : Char} {rest : List Char} {failure : Failure}
    (next : st.here.rest = c :: rest) (refused : step s st c = .error failure) :
    run s st = .error failure := by
  rw [run]
  split
  · rename_i none
    rw [next] at none
    cases none
  · rename_i next'
    cases next.symm.trans next'
    rw [refused]

/-- The reader behind some text, with its items put behind the others. -/
def State.past (st : State) (text : List Char) (ledger : Ledger) (items : List Pattern) : State :=
  { st with
    here := st.here.skipMany text.length
    count := ledger.count
    closed := ledger.closed
    names := ledger.names
    items := items.reverse ++ st.items }

/-- The flags under which printed text is read: letters stand for themselves, and an operator prefers
more repetitions. -/
def Flags.Plain (flags : Flags) : Prop := flags.ignoreCase = false ∧ flags.swapGreed = false

/-- A text in front of `rest` is read as some items, where at most `depth` groups are open. -/
def Gives (s : Settings) (text : List Char) (marks : List Mark) (items : List Pattern) (depth : Nat)
    (rest : List Char) : Prop :=
  ∀ (st : State) (after : Ledger), Flags.Plain st.flags → st.here.rest = text ++ rest →
    st.ledger.recordAll marks = some after → st.enclosing.length ≤ depth →
      run s st = run s (st.past text after items)

variable {s : Settings}

theorem rest_past {st : State} {text rest : List Char} (next : st.here.rest = text ++ rest)
    (ledger : Ledger) (items : List Pattern) : (st.past text ledger items).here.rest = rest := by
  simp [State.past, next]

theorem past_past (st : State) (text text' : List Char) (ledger ledger' : Ledger)
    (items items' : List Pattern) :
    (st.past text ledger items).past text' ledger' items' =
      st.past (text ++ text') ledger' (items ++ items') := by
  simp [State.past, Cursor.skipMany_add]

theorem Gives.nil (depth : Nat) (rest : List Char) : Gives s [] [] [] depth rest := by
  intro st after _ _ recorded _
  cases recorded
  rfl

theorem Gives.append {text text' rest : List Char} {marks marks' : List Mark}
    {items items' : List Pattern} {depth : Nat} (first : Gives s text marks items depth (text' ++ rest))
    (other : Gives s text' marks' items' depth rest) :
    Gives s (text ++ text') (marks ++ marks') (items ++ items') depth rest := by
  intro st after plain next recorded room
  rw [List.append_assoc] at next
  obtain ⟨between, recorded, recorded'⟩ := Ledger.recordAll_append.mp recorded
  rw [first st between plain next recorded room, ← past_past st text text' between]
  exact other _ after plain (rest_past next between items) recorded' room

/-- A single step that reads the whole text. -/
theorem gives_of_step {c : Char} {text rest : List Char} {leaf : Pattern} {depth : Nat}
    (reads : ∀ st : State, Flags.Plain st.flags → st.here.rest = c :: text ++ rest →
      step s st c = .ok (st.push leaf (st.here.skipMany (c :: text).length))) :
    Gives s (c :: text) [] [leaf] depth rest := by
  intro st after plain next recorded _
  cases recorded
  exact run_of_step next (reads st plain next)

end Parser

end PatternForge
