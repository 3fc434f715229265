import PatternForge.CommandLine.Program
import PatternForge.Proofs.Generator.CheckedDraws

/-!
What is drawn for one generator. Strings may be checked or not; `Configuration.judge` says what a draw is worth
in either case. The strings that are drawn are those that count among the next draws, of which there are just
enough, if there can be room for so many strings (`Configuration.Yields`, `Configuration.HasRoom`).
-/
namespace PatternForge.CommandLine

open Generator (Halt Verdict inOrder maxCapacity)

/-! ### Enough draws -/

/-- What a draw is worth if strings are not checked. Only an unbound reference is passed over. -/
def worth : Except Failure String → Verdict
  | .ok text => .kept text
  | .error failure => if failure.isUnbound then .missed else .failed failure

namespace Configuration

/-- Whether the matcher is asked about the strings. -/
def checks (c : Configuration) : Bool := c.distinct || c.checked

/-- How many draws a pattern may take. -/
def budget (c : Configuration) : Nat := if c.checks then c.attempts else max c.attempts c.count

/-- What a draw is worth. -/
def judge (c : Configuration) (g : Generator) (result : Except Failure String) : Verdict :=
  if c.checks then g.judge result else worth result

/-- The strings that count among the next `k` draws, as they are printed. -/
def counted (c : Configuration) (g : Generator) (k : Nat) (source : Source) : List String :=
  let texts := (g.draws k source).filterMap fun result => (c.judge g result).text?
  if c.distinct then inOrder texts else texts

/-- The next `k` draws, and no fewer, hold as many strings as are asked for, and none of them fails. -/
structure Suffices (c : Configuration) (g : Generator) (k : Nat) (source : Source) : Prop where
  within : k ≤ c.budget
  unbroken : ∀ result ∈ g.draws k source, ∀ failure, c.judge g result ≠ .failed failure
  full : (c.counted g k source).length = c.count
  first : ∀ j < k, (c.counted g j source).length < c.count

/-- Distinct strings find room one by one, and all others need it before the first is drawn. -/
def HasRoom (c : Configuration) : Prop := c.distinct ∨ c.count ≤ maxCapacity

/-- A source yields some strings, and it is left behind the last draw that they need. -/
def Yields (c : Configuration) (g : Generator) (source : Source) (texts : List String) (after : Source) : Prop :=
  ∃ k, c.Suffices g k source ∧ texts = c.counted g k source ∧ after = g.afterDraws k source

end Configuration

variable {c : Configuration} {g : Generator} {source after : Source} {texts : List String}

/-! ### Draws without checking -/

/-- The strings among the next `k` draws. -/
def emitted (g : Generator) (k : Nat) (source : Source) : List String :=
  (g.draws k source).filterMap fun result => (worth result).text?

theorem emitted_succ (g : Generator) (k : Nat) (source : Source) :
    emitted g (k + 1) source = (worth (g.emit source).1).text?.toList ++ emitted g k (g.emit source).2 := by
  rw [emitted, Generator.draws, List.filterMap_cons]
  cases (worth (g.emit source).1).text? <;> rfl

/-- Behind some earlier strings, at most `n` more draws are just enough. -/
def Completes (g : Generator) (count : Nat) (earlier : List String) (n : Nat) (source : Source)
    (texts : List String) (after : Source) : Prop :=
  ∃ k ≤ n, (∀ result ∈ g.draws k source, ∀ failure, worth result ≠ .failed failure) ∧
    (earlier ++ emitted g k source).length = count ∧
    (∀ j < k, (earlier ++ emitted g j source).length < count) ∧
    texts = earlier ++ emitted g k source ∧ after = g.afterDraws k source

section Unchecked

variable {count n : Nat} {earlier : List String}

theorem completes_of_full (full : earlier.length = count) :
    Completes g count earlier n source texts after ↔ texts = earlier ∧ after = source := by
  constructor
  · rintro ⟨k, _, _, _, first, rfl, rfl⟩
    cases k with
    | zero => exact ⟨List.append_nil earlier, rfl⟩
    | succ k =>
      have short := first 0 (Nat.succ_pos k)
      rw [List.length_append, full] at short
      exact absurd short (Nat.not_lt.mpr (Nat.le_add_right _ _))
  · rintro ⟨rfl, rfl⟩
    refine ⟨0, Nat.zero_le n, fun _ member => absurd member List.not_mem_nil, ?_, ?_, ?_, rfl⟩
    · rw [← full]
      exact congrArg List.length (List.append_nil _)
    · exact fun j less => absurd less (Nat.not_lt_zero j)
    · exact (List.append_nil _).symm

theorem not_completes_zero (short : earlier.length < count) :
    ¬ Completes g count earlier 0 source texts after := by
  rintro ⟨k, within, _, full, _⟩
  obtain rfl := Nat.le_zero.mp within
  have full' : earlier.length = count := by rwa [show emitted g 0 source = [] from rfl, List.append_nil] at full
  exact absurd full' (Nat.ne_of_lt short)

theorem completes_succ (short : earlier.length < count) :
    Completes g count earlier (n + 1) source texts after ↔
      (∀ failure, worth (g.emit source).1 ≠ .failed failure) ∧
        Completes g count (earlier ++ (worth (g.emit source).1).text?.toList) n (g.emit source).2 texts after := by
  have shift : ∀ k, earlier ++ emitted g (k + 1) source =
      earlier ++ (worth (g.emit source).1).text?.toList ++ emitted g k (g.emit source).2 :=
    fun k => by rw [emitted_succ, List.append_assoc]
  constructor
  · rintro ⟨k, within, unbroken, full, first, rfl, rfl⟩
    cases k with
    | zero => exact absurd ⟨0, Nat.le_refl 0, unbroken, full, first, rfl, rfl⟩ (not_completes_zero short)
    | succ k =>
      obtain ⟨sound, unbroken'⟩ := List.forall_mem_cons.mp unbroken
      refine ⟨sound, k, Nat.le_of_succ_le_succ within, unbroken', ?_, fun j less => ?_, shift k, rfl⟩
      · rw [← shift, full]
      · rw [← shift]
        exact first (j + 1) (Nat.succ_lt_succ less)
  · rintro ⟨sound, k, within, unbroken, full, first, rfl, rfl⟩
    refine ⟨k + 1, Nat.succ_le_succ within, List.forall_mem_cons.mpr ⟨sound, unbroken⟩, ?_, fun j less => ?_,
      (shift k).symm, rfl⟩
    · rw [shift, full]
    · cases j with
      | zero => exact (congrArg List.length (List.append_nil earlier)).trans_lt short
      | succ j =>
        rw [shift]
        exact first j (Nat.lt_of_succ_lt_succ less)

/-- The loop ends with enough strings exactly if the draws that it may take are enough. -/
theorem gatherUnchecked_iff {found : List String} {records : List Record} (room : found.length ≤ count) :
    (∃ log, gatherUnchecked g count found records n source = (.ok (some texts), log, after)) ↔
      Completes g count found.reverse n source texts after := by
  -- What the loop has found is what stands in front of the further draws, latest first.
  induction n generalizing found records source with
  | zero =>
    rw [gatherUnchecked]
    by_cases full : found.length = count
    · rw [if_pos full, completes_of_full (found.length_reverse.trans full)]
      simp [eq_comm]
    · rw [if_neg full]
      have short : found.reverse.length < count :=
        found.length_reverse.trans_lt (Nat.lt_of_le_of_ne room full)
      simp [not_completes_zero short]
  | succ n ih =>
    rw [gatherUnchecked]
    by_cases full : found.length = count
    · rw [if_pos full, completes_of_full (found.length_reverse.trans full)]
      simp [eq_comm]
    · have short : found.length < count := Nat.lt_of_le_of_ne room full
      rw [if_neg full, completes_succ (found.length_reverse.trans_lt short)]
      cases drawn : g.emit source with
      | mk result middle =>
        cases result with
        | ok text =>
          dsimp only
          rw [ih (show (text :: found).length ≤ count from short)]
          simp [worth, Verdict.text?]
        | error failure =>
          cases unbound : failure.isUnbound with
          | true =>
            simp only [unbound, if_true]
            rw [ih room]
            simp [worth, unbound, Verdict.text?]
          | false => simp [worth, unbound]

end Unchecked

/-! ### Draws as they are asked for -/

theorem budget_of_checks (checks : c.checks = true) : c.budget = c.attempts := if_pos checks

theorem judge_of_checks (checks : c.checks = true) : c.judge g = g.judge := funext fun _ => if_pos checks

/-- Checked strings are those that a checked draw keeps. -/
theorem outcome_iff_yields (gathered : List String → List String)
    {answer : Except Failure (Option (List String)) × Source} (checks : c.checks = true)
    (counts : ∀ k, c.counted g k source = gathered (g.kept k source))
    (outcome : g.Outcome gathered c.count c.attempts source answer) :
    answer = (.ok (some texts), after) ↔ c.Yields g source texts after := by
  constructor
  · rintro rfl
    cases outcome with
    | @filled k within unbroken full first =>
      refine ⟨k, ⟨?_, ?_, ?_, fun j less => ?_⟩, (counts k).symm, rfl⟩
      · rwa [budget_of_checks checks]
      · rwa [judge_of_checks checks]
      · rw [counts, full]
      · rw [counts]
        exact first j less
  · rintro ⟨k, ⟨within, unbroken, full, first⟩, rfl, rfl⟩
    rw [judge_of_checks checks] at unbroken
    rw [budget_of_checks checks] at within
    simp only [counts] at full first ⊢
    exact outcome.unique (.filled within unbroken full first)

/-- Unchecked strings are those that are emitted. -/
theorem completes_iff_yields (unchecked : c.checks = false) :
    Completes g c.count [] (max c.attempts c.count) source texts after ↔ c.Yields g source texts after := by
  have budget : c.budget = max c.attempts c.count := if_neg (by simp [unchecked])
  have judges : c.judge g = worth := funext fun _ => if_neg (by simp [unchecked])
  have counts : ∀ k, c.counted g k source = emitted g k source := fun k => by
    rw [Configuration.counted, judges,
      if_neg fun distinct => by simp [Configuration.checks, distinct] at unchecked]
    rfl
  constructor
  · rintro ⟨k, within, unbroken, full, first, rfl, rfl⟩
    refine ⟨k, ⟨budget ▸ within, judges ▸ unbroken, ?_, fun j less => ?_⟩, (counts k).symm, rfl⟩
    · rw [counts]
      exact full
    · rw [counts]
      exact first j less
  · rintro ⟨k, ⟨within, unbroken, full, first⟩, rfl, rfl⟩
    rw [judges] at unbroken
    rw [budget] at within
    simp only [counts] at full first ⊢
    exact ⟨k, within, unbroken, full, first, rfl, rfl⟩

/-- With room for them, what is drawn for a generator is just enough of what counts, or else nothing. -/
theorem draw_of_hasRoom (room : c.HasRoom) : ∃ (result : Except Failure (Option (List String))) (log : List Record)
    (middle : Source), draw c g source = (result.mapError .failed, log, middle) ∧
      ∀ texts after, (result, middle) = (.ok (some texts), after) ↔ c.Yields g source texts after := by
  rw [draw]
  cases distinct : c.distinct with
  | true =>
    have checks : c.checks = true := by rw [Configuration.checks, distinct, Bool.true_or]
    refine ⟨_, [], _, rfl, fun texts after => outcome_iff_yields inOrder checks (fun k => ?_)
      (g.outcome_emitSet c.count c.attempts source)⟩
    rw [Configuration.counted, judge_of_checks checks, if_pos distinct]
    rfl
  | false =>
    have few : c.count ≤ maxCapacity := room.resolve_left (by simp [distinct])
    cases checked : c.checked with
    | true =>
      have checks : c.checks = true := by rw [Configuration.checks, checked, Bool.or_true]
      rw [if_neg Bool.false_ne_true, if_pos rfl, Generator.emitList_of_le few]
      refine ⟨_, [], _, rfl, fun texts after => outcome_iff_yields id checks (fun k => ?_)
        (g.outcome_gatherList c.count c.attempts source)⟩
      rw [Configuration.counted, judge_of_checks checks, if_neg (by simp [distinct])]
      rfl
    | false =>
      have unchecked : c.checks = false := by rw [Configuration.checks, distinct, checked, Bool.or_false]
      rw [if_neg Bool.false_ne_true, if_neg Bool.false_ne_true, drawUnchecked, if_neg (Nat.not_lt.mpr few)]
      refine ⟨_, _, _, rfl, fun texts after => ?_⟩
      have loop := @gatherUnchecked_iff g source after texts c.count (max c.attempts c.count) [] [] (Nat.zero_le _)
      rw [← completes_iff_yields unchecked, ← List.reverse_nil, ← loop]
      simp [Prod.ext_iff]

/-- Without room for them, the program stops before any string is drawn. -/
theorem draw_of_not_hasRoom (noRoom : ¬ c.HasRoom) : draw c g source = (.error .capacityOverflow, [], source) := by
  obtain ⟨plain, tooMany⟩ := not_or.mp noRoom
  rw [draw, if_neg plain]
  split
  · rw [Generator.emitList, if_pos (Nat.lt_of_not_le tooMany)]
  · rw [drawUnchecked, if_pos (Nat.lt_of_not_le tooMany)]

end PatternForge.CommandLine
