import PatternForge.Decimal.Double
import PatternForge.Generator

/-!
Judging a pattern by what it generates. A sample counts how many strings match; a policy asks that
enough strings of the pattern match and that few enough of its near misses do.
-/
namespace PatternForge

/-- What was counted among generated strings. -/
structure Sample where
  /-- How many strings were asked for. -/
  total : Nat
  /-- How many of them matched. -/
  matched : Nat := 0
  /-- How many could not be generated, because a reference was unbound. -/
  unbound : Nat := 0
  deriving DecidableEq, Repr

/-- The part of the strings that matched; none of an empty sample. -/
def Sample.ratio (s : Sample) : Float :=
  if s.total = 0 then 0 else s.matched.toFloat / s.total.toFloat

namespace Generator

/-- Counts one candidate. -/
def count (g : Generator) (sample : Sample) (candidate : Option String) : Except Failure Sample :=
  match candidate with
  | none => .ok { sample with unbound := sample.unbound + 1 }
  | some text =>
    match g.accepts text with
    | .ok true => .ok { sample with matched := sample.matched + 1 }
    | .ok false => .ok sample
    | .error failure => .error failure

/-- Counts so many further candidates. -/
def sampleFrom (g : Generator) (sample : Sample) : Nat → Source → Except Failure Sample × Source
  | 0, source => (.ok sample, source)
  | n + 1, source =>
    match g.candidate source with
    | (.error failure, source) => (.error failure, source)
    | (.ok candidate, source) =>
      match g.count sample candidate with
      | .ok sample => g.sampleFrom sample n source
      | .error failure => (.error failure, source)

/-- Draws `n` strings and counts those that match. -/
def sample (g : Generator) (n : Nat) (source : Source) : Except Failure Sample × Source :=
  g.sampleFrom { total := n } n source

end Generator

/-- What is asked of a pattern. -/
structure SamplingPolicy where
  /-- How many strings are generated. -/
  size : Nat := 100
  /-- More than this part of the strings must match. -/
  minMatched : Float := 0.33
  /-- Less than this part of the near misses must match. -/
  maxConfounded : Float := 0.7

/-- What a policy found out about a pattern. -/
structure Report where
  /-- The policy. -/
  policy : SamplingPolicy
  /-- The sample of the pattern. -/
  plain : Sample
  /-- The sample of its near misses, if it has any. -/
  confounded : Option Sample

namespace Report

/-- Whether enough strings matched. -/
def isGenerative (r : Report) : Bool := r.policy.minMatched < r.plain.ratio

/-- Whether there are near misses and few enough of them matched. -/
def isConfoundable (r : Report) : Bool :=
  r.confounded.any fun sample => sample.ratio < r.policy.maxConfounded

/-- Whether the pattern passes. Without near misses its own strings decide. -/
def isValid (r : Report) : Bool := r.isGenerative && (r.confounded.isNone || r.isConfoundable)

/-- The part of a sample that matched, in per cent with one place. -/
def percentage (sample : Sample) : String :=
  (Decimal.Value.ofFloat (100 * sample.ratio)).fixed 1 ++ "%"

/-- The report in one line. -/
def display (r : Report) : String :=
  let confounded :=
    match r.confounded with
    | none => "not confoundable"
    | some sample => "confounded matched " ++ percentage sample
  "matched " ++ percentage r.plain ++ ", " ++ confounded ++ ": " ++
    if r.isValid then "ok" else "rejected"

end Report

/-- Samples a pattern and its near misses. The generator must not be confounded itself. -/
def SamplingPolicy.check (policy : SamplingPolicy) (g : Generator) (source : Source) :
    Except Failure Report × Source :=
  if g.isConfounded then (.error (.illegalState .confoundedSampling), source)
  else
    match g.sample policy.size source with
    | (.error failure, source) => (.error failure, source)
    | (.ok plain, source) =>
      match g.confound? with
      | none => (.ok { policy, plain, confounded := none }, source)
      | some misses =>
        match misses.sample policy.size source with
        | (.error failure, source) => (.error failure, source)
        | (.ok counted, source) => (.ok { policy, plain, confounded := some counted }, source)

end PatternForge
