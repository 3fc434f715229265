import Mathlib.Logic.Relation
import PatternForge.Proofs.RoundTrip.Moves

/-! A run as the steps it takes. The states that the reader comes to are those that `Reads` leads to, and a
run that reads a pattern to its end takes a step at each of them. A whole pattern is such a run
(`Settings.parse_eq_ok`). -/
namespace PatternForge.Parser

/-- The reader reads one construct. -/
def Reads (s : Settings) (st st' : State) : Prop :=
  ∃ c rest, st.here.rest = c :: rest ∧ step s st c = .ok st'

variable {s : Settings} {st st' last : State} {c : Char} {rest : List Char}

/-- A run that reaches the end of the text takes a step wherever there is more. -/
theorem exists_step_of_run (next : st.here.rest = c :: rest) (ends : run s st = .ok last) :
    ∃ st', step s st c = .ok st' ∧ run s st' = .ok last := by
  cases stepped : step s st c with
  | error failure =>
    rw [run_of_refused next stepped] at ends
    cases ends
  | ok st' => exact ⟨st', rfl, (run_of_step next stepped).symm.trans ends⟩

/-- Where the reader comes to, its run goes on as it does there. -/
theorem run_of_reads (onwards : Relation.ReflTransGen (Reads s) st st') : run s st = run s st' := by
  induction onwards with
  | refl => rfl
  | tail _ reads ih =>
    obtain ⟨c, rest, next, stepped⟩ := reads
    exact ih.trans (run_of_step next stepped)

end PatternForge.Parser

namespace PatternForge

open PatternForge.Parser (run)

/-- A pattern is read if the reader comes to its end with no group open and its tree is not too deep. -/
theorem Settings.parse_eq_ok {s : Settings} {text : String} {tree : Pattern} :
    s.parse text = .ok tree ↔
      ∃ last, run s (.initial s text.toList) = .ok last ∧ last.enclosing = [] ∧
        tree = .ofLevel last.branches last.items ∧ tree.DeepestWithin s.nestLimit 0 := by
  rw [Settings.parse]
  cases run s (.initial s text.toList) with
  | error failure => simp
  | ok last =>
    obtain ⟨here, flags, count, closed, names, enclosing, branches, items⟩ := last
    cases enclosing with
    | nil =>
      simp only [Parser.State.tree, ← Pattern.nestedWithin_iff]
      constructor
      · intro parsed
        split at parsed
        · rename_i within
          cases parsed
          exact ⟨_, rfl, rfl, rfl, within⟩
        · cases parsed
      · rintro ⟨last, ends, -, rfl, within⟩
        cases ends
        rw [if_pos within]
    | cons opened outer => simp [Parser.State.tree]

end PatternForge
