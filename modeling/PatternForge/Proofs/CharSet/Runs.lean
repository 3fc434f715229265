import PatternForge.Proofs.CharSet.Order

/-! The runs of a set. They are in order, and what lies in one of them is what was listed, so a set is
told by its runs. -/
namespace PatternForge.CharSet

/-- Whether a character lies in one of some runs. -/
def InRun (runs : List (Char × Char)) (c : Char) : Prop := ∃ run ∈ runs, run.1 ≤ c ∧ c ≤ run.2

private theorem ordered_pushRun {runs : List (Char × Char)} (ordered : ∀ run ∈ runs, run.1 ≤ run.2)
    (c : Char) : ∀ run ∈ pushRun runs c, run.1 ≤ run.2 := by
  intro run member
  unfold pushRun at member
  split at member
  · rename_i lo hi rest
    split at member
    · rename_i follows
      rcases List.mem_cons.mp member with rfl | member
      · have first : lo.toNat ≤ hi.toNat := ordered (lo, hi) List.mem_cons_self
        have least : lo.toNat ≤ c.toNat := by omega
        exact least
      · exact ordered run (List.mem_cons_of_mem _ member)
    · rcases List.mem_cons.mp member with rfl | member
      · exact Char.le_refl c
      · exact ordered run member
  · obtain rfl := List.mem_singleton.mp member
    exact Char.le_refl c

private theorem inRun_pushRun {runs : List (Char × Char)} (ordered : ∀ run ∈ runs, run.1 ≤ run.2)
    (c d : Char) : InRun (pushRun runs c) d ↔ d = c ∨ InRun runs d := by
  have alone : ∀ runs, InRun ((c, c) :: runs) d ↔ d = c ∨ InRun runs d := by
    intro runs
    simp only [InRun, List.mem_cons, exists_eq_or_imp]
    refine or_congr_left ⟨fun between => Char.le_antisymm between.2 between.1, fun same => ?_⟩
    subst same
    exact ⟨Char.le_refl d, Char.le_refl d⟩
  unfold pushRun
  split
  · rename_i lo hi rest
    split
    · rename_i follows
      have first : lo.toNat ≤ hi.toNat := ordered (lo, hi) List.mem_cons_self
      have codes : ∀ a b : Char, a ≤ b ↔ a.toNat ≤ b.toNat := fun a b => Iff.rfl
      simp only [InRun, List.mem_cons, exists_eq_or_imp, ← or_assoc, codes, ← Char.toNat_inj]
      refine or_congr_left ⟨fun between => ?_, fun either => ?_⟩
      · omega
      · omega
    · exact alone _
  · exact alone []

private theorem runs_from (chars : List Char) {runs : List (Char × Char)}
    (ordered : ∀ run ∈ runs, run.1 ≤ run.2) :
    (∀ run ∈ chars.foldl pushRun runs, run.1 ≤ run.2) ∧
      ∀ d, InRun (chars.foldl pushRun runs) d ↔ d ∈ chars ∨ InRun runs d := by
  induction chars generalizing runs with
  | nil => exact ⟨ordered, by simp⟩
  | cons c rest ih =>
    obtain ⟨ordered', inRun⟩ := ih (ordered_pushRun ordered c)
    refine ⟨ordered', fun d => ?_⟩
    rw [List.foldl_cons, inRun, inRun_pushRun ordered, List.mem_cons, or_left_comm, or_assoc]

theorem ordered_of_mem_runs {s : CharSet} {run : Char × Char} (member : run ∈ s.runs) :
    run.1 ≤ run.2 :=
  (runs_from s.members (by simp)).1 run (List.mem_reverse.mp member)

theorem inRun_runs {s : CharSet} {c : Char} : InRun s.runs c ↔ s.contains c = true := by
  have listed := (@runs_from s.members [] (by simp)).2 c
  rw [← mem_members]
  simpa [InRun, runs, runsOf] using listed

end PatternForge.CharSet
