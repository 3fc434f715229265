import PatternForge.Proofs.Generator.CheckedDraws
import PatternForge.Sampling

/-!
Samples against the stream of candidates. As long as no candidate fails, a sample is a count of what the stream
holds (`sample_eq_ok`), so counting on from the place where the source was left adds up, and a list of checked
strings can be filled exactly if the sample has counted enough of them.
-/
namespace PatternForge

/-- Two samples as one. -/
instance : Add Sample where
  add s t := {
    total := s.total + t.total
    matched := s.matched + t.matched
    unbound := s.unbound + t.unbound }

namespace Generator

/-- Whether a string was drawn that matches the pattern. -/
def isHit (g : Generator) : Except Failure String → Bool
  | .ok text =>
    match g.accepts text with
    | .ok matched => matched
    | .error _ => false
  | .error _ => false

/-- Whether no string was drawn, because a reference was unbound. -/
def isUnboundDraw : Except Failure String → Bool
  | .ok _ => false
  | .error failure => failure.isUnbound

/-- Whether a string was drawn that does not match the pattern. -/
def isMiss (g : Generator) : Except Failure String → Bool
  | .ok text =>
    match g.accepts text with
    | .ok matched => !matched
    | .error _ => false
  | .error _ => false

/-- What there is to count among the next `n` candidates. -/
def tally (g : Generator) (n : Nat) (source : Source) : Sample where
  total := n
  matched := (g.draws n source).countP g.isHit
  unbound := (g.draws n source).countP isUnboundDraw

variable {g : Generator} {n : Nat} {source : Source}

/-! ### Along the stream -/

theorem afterDraws_add (g : Generator) (n m : Nat) (source : Source) :
    g.afterDraws (n + m) source = g.afterDraws m (g.afterDraws n source) := by
  induction n generalizing source with
  | zero => rw [Nat.zero_add]; rfl
  | succ n ih => rw [Nat.succ_add, afterDraws, ih, afterDraws]

theorem kept_add (g : Generator) (n m : Nat) (source : Source) :
    g.kept (n + m) source = g.kept n source ++ g.kept m (g.afterDraws n source) := by
  rw [kept, draws_append, List.filterMap_append]
  rfl

theorem unbroken_add {m : Nat} :
    g.Unbroken (n + m) source ↔ g.Unbroken n source ∧ g.Unbroken m (g.afterDraws n source) := by
  unfold Unbroken
  rw [draws_append, List.forall_mem_append]

theorem tally_add (g : Generator) (n m : Nat) (source : Source) :
    g.tally (n + m) source = g.tally n source + g.tally m (g.afterDraws n source) := by
  rw [tally, draws_append, List.countP_append, List.countP_append]
  rfl

/-! ### What a sample counts -/

/-- A candidate that does not fail is counted, and counting goes on behind it. -/
private theorem sampleFrom_succ (sample : Sample)
    (sound : ∀ failure, g.judge (g.emit source).1 ≠ .failed failure) :
    g.sampleFrom sample (n + 1) source =
      g.sampleFrom { sample with
        matched := sample.matched + (if g.isHit (g.emit source).1 then 1 else 0)
        unbound := sample.unbound + (if isUnboundDraw (g.emit source).1 then 1 else 0) } n (g.emit source).2 := by
  rw [sampleFrom, candidate]
  cases drawn : g.emit source with
  | mk result after =>
    rw [drawn] at sound
    cases result with
    | ok text =>
      cases answered : g.accepts text with
      | ok matched => cases matched <;> simp [count, isHit, isUnboundDraw, answered]
      | error failure => exact absurd (by simp [judge, answered]) (sound failure)
    | error failure =>
      cases failure with
      | unboundReference index => simp [count, isHit, isUnboundDraw, Failure.isUnbound]
      | _ => exact absurd rfl (sound _)

theorem sampleFrom_of_unbroken (sample : Sample) (unbroken : g.Unbroken n source) :
    g.sampleFrom sample n source =
      (.ok { sample with
        matched := sample.matched + (g.tally n source).matched
        unbound := sample.unbound + (g.tally n source).unbound }, g.afterDraws n source) := by
  induction n generalizing sample source with
  | zero => rfl
  | succ n ih =>
    obtain ⟨sound, unbroken'⟩ := List.forall_mem_cons.mp unbroken
    rw [sampleFrom_succ sample sound, ih _ unbroken']
    simp only [tally, draws, afterDraws, List.countP_cons, Nat.add_comm, Nat.add_left_comm]

/-- A candidate that fails ends the sample. -/
private theorem sampleFrom_of_fails (sample : Sample) {failure : Failure}
    (fails : g.judge (g.emit source).1 = .failed failure) :
    g.sampleFrom sample (n + 1) source = (.error failure, (g.emit source).2) := by
  rw [sampleFrom, candidate]
  cases drawn : g.emit source with
  | mk result after =>
    rw [drawn] at fails
    cases result with
    | ok text =>
      cases answered : g.accepts text with
      | ok matched => cases matched <;> cases plain : g.isConfounded <;> simp [judge, answered, plain] at fails
      | error failure' => simp_all [judge, count]
    | error failure' => cases failure' <;> simp_all [judge, Failure.isUnbound]

theorem unbroken_of_sampleFrom {sample result : Sample}
    (counted : (g.sampleFrom sample n source).1 = .ok result) : g.Unbroken n source := by
  induction n generalizing sample source with
  | zero => exact .zero g source
  | succ n ih =>
    have sound : ∀ failure, g.judge (g.emit source).1 ≠ .failed failure := by
      intro failure fails
      rw [sampleFrom_of_fails sample fails] at counted
      cases counted
    rw [sampleFrom_succ sample sound] at counted
    exact .cons sound (ih counted)

/-- A sample can be taken exactly if no candidate fails. It is what there is to count, and the source is left
behind the candidates. -/
theorem sample_eq_ok {result : Sample} {after : Source} :
    g.sample n source = (.ok result, after) ↔
      g.Unbroken n source ∧ result = g.tally n source ∧ after = g.afterDraws n source := by
  have complete (unbroken : g.Unbroken n source) :
      g.sample n source = (.ok (g.tally n source), g.afterDraws n source) := by
    rw [sample, sampleFrom_of_unbroken _ unbroken, Nat.zero_add, Nat.zero_add]
    rfl
  constructor
  · intro counted
    have unbroken := unbroken_of_sampleFrom (congrArg Prod.fst counted)
    obtain ⟨same, same'⟩ := Prod.mk.inj ((complete unbroken).symm.trans counted)
    exact ⟨unbroken, (Except.ok.inj same).symm, same'.symm⟩
  · rintro ⟨unbroken, rfl, rfl⟩
    exact complete unbroken

/-! ### Counted and kept candidates -/

/-- A candidate that does not fail is a hit, a miss, or left unbound. -/
private theorem countP_partition {results : List (Except Failure String)}
    (sound : ∀ result ∈ results, ∀ failure, g.judge result ≠ .failed failure) :
    results.countP g.isHit + results.countP isUnboundDraw + results.countP g.isMiss = results.length := by
  induction results with
  | nil => rfl
  | cons result rest ih =>
    obtain ⟨first, others⟩ := List.forall_mem_cons.mp sound
    have one : (if g.isHit result then 1 else 0) + (if isUnboundDraw result then 1 else 0) +
        (if g.isMiss result then 1 else 0) = 1 := by
      cases result with
      | ok text =>
        cases answered : g.accepts text with
        | ok matched => cases matched <;> simp [isHit, isMiss, isUnboundDraw, answered]
        | error failure => exact absurd (by simp [judge, answered]) (first failure)
      | error failure =>
        cases failure with
        | unboundReference index => rfl
        | _ => exact absurd rfl (first _)
    simp only [List.countP_cons, List.length_cons, ← ih others]
    omega

/-- The strings that count are the hits of a plain generator, and the misses of a confounded one. -/
theorem length_kept (g : Generator) (n : Nat) (source : Source) :
    (g.kept n source).length =
      (g.draws n source).countP (if g.isConfounded then g.isMiss else g.isHit) := by
  rw [kept, List.length_filterMap_eq_countP]
  refine List.countP_congr fun result _ => ?_
  cases result with
  | ok text =>
    cases answered : g.accepts text with
    | ok matched =>
      cases matched <;> cases plain : g.isConfounded <;>
        simp [judge, answered, plain, Verdict.text?, isHit, isMiss]
    | error failure => cases plain : g.isConfounded <;> simp [judge, answered, Verdict.text?, isHit, isMiss]
  | error failure =>
    cases failure <;> cases plain : g.isConfounded <;> simp [judge, Verdict.text?, isHit, isMiss]

/-- A list of checked strings gets filled exactly if there are enough strings that count. -/
theorem gatherList_filled_iff (unbroken : g.Unbroken n source) (size : Nat) :
    (∃ texts, (g.gatherList size n source).1 = .ok (some texts)) ↔ size ≤ (g.kept n source).length := by
  have ends := outcome_gatherList g size n source
  constructor
  · rintro ⟨texts, filled⟩
    generalize g.gatherList size n source = result at ends filled
    cases ends with
    | @filled k within _ full _ =>
      obtain ⟨more, rfl⟩ := Nat.exists_eq_add_of_le within
      rw [← full, kept_add, List.length_append]
      exact Nat.le_add_right _ _
    | spent | broken => cases filled
  · intro enough
    generalize g.gatherList size n source = result at ends
    cases ends with
    | filled => exact ⟨_, rfl⟩
    | spent _ short => exact absurd enough (Nat.not_le_of_lt (short n (Nat.le_refl n)))
    | broken within _ _ fails => exact absurd (unbroken.le_of_fails fails) (Nat.not_le_of_lt within)

/-- It has to have room in the first place. -/
theorem emitList_filled_iff (unbroken : g.Unbroken n source) (size : Nat) :
    (∃ texts, (g.emitList size n source).1 = .ok (some texts)) ↔
      size ≤ maxCapacity ∧ size ≤ (g.kept n source).length := by
  rw [← gatherList_filled_iff unbroken size]
  by_cases room : size ≤ maxCapacity
  · simp only [emitList_of_le room, mapError_failed_eq_ok, room, true_and]
  · simp [emitList, Nat.lt_of_not_le room, room]

/-! ### Samples of a pattern and of its near misses -/

/-- A sample of a pattern and, from where that leaves the source, one of its near misses if it has any. -/
def SampledBoth (g : Generator) (size : Nat) (source : Source) (plain : Sample) : Option Sample → Source → Prop
  | none, after => g.confound? = none ∧ g.sample size source = (.ok plain, after)
  | some counted, after => ∃ misses middle, g.confound? = some misses ∧
      g.sample size source = (.ok plain, middle) ∧ misses.sample size middle = (.ok counted, after)

/-- A policy reports the two samples of a pattern. It reports nothing of near misses themselves. -/
theorem check_eq_ok {policy : SamplingPolicy} {report : Report} {after : Source} :
    policy.check g source = (.ok report, after) ↔
      g.isConfounded = false ∧ report.policy = policy ∧
        g.SampledBoth policy.size source report.plain report.confounded after := by
  obtain ⟨policy', plain', counted'⟩ := report
  rw [SamplingPolicy.check]
  cases g.isConfounded with
  | true => simp
  | false =>
    cases first : g.sample policy.size source with
    | mk result middle =>
      cases result with
      | error failure => cases counted' <;> simp [SampledBoth, first]
      | ok plain =>
        cases near : g.confound? with
        | none => cases counted' <;> simp [SampledBoth, first, near, and_assoc, eq_comm]
        | some misses =>
          cases second : misses.sample policy.size middle with
          | mk result after' =>
            cases result <;> cases counted' <;>
              simp [SampledBoth, first, near, second, and_assoc, eq_comm]

/-- **Samples add up, and checked strings can be drawn as the sample says.** Where no candidate fails, a sample
of `n + m` strings is the sum of one of `n` and, from where that left the source, one of `m`, and leaves the
source at the same place. It counts every string at most once. From the same source, a list of `k` checked
strings is filled exactly if so many strings matched or, of a confounded generator, if so many were drawn
that did not, and if a list can have room for so many. A policy reports just these samples. -/
theorem sample_consistent {g : Generator} {n m : Nat} {source : Source} (unbroken : g.Unbroken (n + m) source) :
    ∃ first second : Sample,
      g.sample n source = (.ok first, g.afterDraws n source) ∧
        g.sample m (g.afterDraws n source) = (.ok second, g.afterDraws (n + m) source) ∧
        g.sample (n + m) source = (.ok (first + second), g.afterDraws (n + m) source) ∧
        first.total = n ∧ first.matched + first.unbound ≤ n ∧
        (∀ k, (∃ texts, (g.emitList k n source).1 = .ok (some texts)) ↔
          k ≤ maxCapacity ∧
            k ≤ if g.isConfounded then n - first.matched - first.unbound else first.matched) ∧
        ∀ (policy : SamplingPolicy) (report : Report) (after : Source),
          policy.check g source = (.ok report, after) ↔
            g.isConfounded = false ∧ report.policy = policy ∧
              g.SampledBoth policy.size source report.plain report.confounded after := by
  obtain ⟨unbroken', later⟩ := unbroken_add.mp unbroken
  have split := countP_partition unbroken'
  rw [length_draws] at split
  refine ⟨g.tally n source, g.tally m (g.afterDraws n source), sample_eq_ok.mpr ⟨unbroken', rfl, rfl⟩,
    sample_eq_ok.mpr ⟨later, rfl, afterDraws_add g n m source⟩,
    sample_eq_ok.mpr ⟨unbroken, (tally_add g n m source).symm, rfl⟩, rfl, ?_, fun k => ?_,
    fun policy report after => check_eq_ok⟩
  · dsimp only [tally]
    omega
  · rw [emitList_filled_iff unbroken', length_kept]
    cases g.isConfounded with
    | false => rfl
    | true =>
      have misses : (g.draws n source).countP g.isMiss =
          n - (g.tally n source).matched - (g.tally n source).unbound := by
        dsimp only [tally]
        omega
      rw [← misses]
      rfl

/-- A choice between `a`, with the start of a line behind it, and `b`. It draws strings that do not match. -/
def misplacedStart : Generator where
  pattern := "a^|b"
  tree := .alternation [.sequence [.literal "a", .anchor .start], .literal "b"]
  matcher := { pattern := "a^|b", engine := .finite (.sequence [.look ({} : Mode).lineStart,
      .group none (.choice [
        .sequence [.one (({} : Mode).char .standard 'a'), .look ({} : Mode).lineStart],
        .one (({} : Mode).char .standard 'b')]),
      .look ({} : Mode).lineEnd]) }
  cap := 10
  isConfounded := false

/-- A source from which it draws `a`, `b` and `b`. -/
def firstThenTwice : Source := .scripted [0, 0x8000000000000000, 0x8000000000000000] 0

/-- The two strings that match are counted together as they are counted apart. -/
theorem sample_consistent_misplacedStart :
    misplacedStart.sample 3 firstThenTwice = (.ok { total := 3, matched := 2 }, .scripted [] 0) ∧
      ∃ first second : Sample,
        misplacedStart.sample 1 firstThenTwice = (.ok first, misplacedStart.afterDraws 1 firstThenTwice) ∧
          misplacedStart.sample (1 + 2) firstThenTwice =
            (.ok (first + second), misplacedStart.afterDraws (1 + 2) firstThenTwice) := by
  have drawn : misplacedStart.draws (1 + 2) firstThenTwice = [.ok "a", .ok "b", .ok "b"] := by rfl
  have unbroken : misplacedStart.Unbroken (1 + 2) firstThenTwice := by
    intro result member
    have missed : misplacedStart.judge (.ok "a") = .missed := by rfl
    have kept : misplacedStart.judge (.ok "b") = .kept "b" := by rfl
    rw [drawn] at member
    simp only [List.mem_cons, List.not_mem_nil, or_false] at member
    rcases member with rfl | rfl | rfl <;> simp [missed, kept]
  obtain ⟨first, second, one, _, three, _⟩ := sample_consistent unbroken
  exact ⟨by rfl, first, second, one, three⟩

end Generator

end PatternForge
