import Mathlib.Data.Finset.Sort
import Mathlib.Data.String.Basic
import PatternForge.Generator

/-!
Checked draws against the stream of candidates. A generator that draws again and again gives a stream
of results (`draws`), each of which is kept, is a miss, or fails (`judge`). `Outcome` says without a
loop how a draw for a number of strings from at most `n` candidates has to end, and where it leaves the
source; it leaves one way for each stream (`Outcome.unique`). The three checked draws end in this way,
for one string, for a list that can have room, and for a set (`checked_iff`).
-/
namespace PatternForge.Generator

/-! ### The stream of candidates -/

/-- The results of the next `n` draws, one after another. -/
def draws (g : Generator) : (n : Nat) → Source → List (Except Failure String)
  | 0, _ => []
  | n + 1, source => (g.emit source).1 :: g.draws n (g.emit source).2

/-- Where the next `n` draws leave the source. -/
def afterDraws (g : Generator) : (n : Nat) → Source → Source
  | 0, source => source
  | n + 1, source => g.afterDraws n (g.emit source).2

/-- What a candidate is worth. -/
inductive Verdict where
  /-- The candidate is a string that counts. -/
  | kept (text : String)
  /-- The candidate does not count. -/
  | missed
  /-- Drawing or matching failed, which ends the whole draw. -/
  | failed (failure : Failure)

/-- The string that a verdict keeps. -/
def Verdict.text? : Verdict → Option String
  | kept text => some text
  | missed | failed _ => none

/-- A string counts if the answer of the matcher differs from whether the generator is confounded. An
unbound reference is a miss, and any other failure is one of the whole draw. -/
def judge (g : Generator) : Except Failure String → Verdict
  | .ok text =>
    match g.accepts text with
    | .ok matched => if matched ≠ g.isConfounded then .kept text else .missed
    | .error failure => .failed failure
  | .error (.unboundReference _) => .missed
  | .error failure => .failed failure

/-- The strings that count among the next `n` candidates, in the order in which they are drawn. -/
def kept (g : Generator) (n : Nat) (source : Source) : List String :=
  (g.draws n source).filterMap fun result => (g.judge result).text?

/-- None of the next `n` candidates fails. -/
def Unbroken (g : Generator) (n : Nat) (source : Source) : Prop :=
  ∀ result ∈ g.draws n source, ∀ failure, g.judge result ≠ .failed failure

/-- How a draw ends for which `size` strings are gathered from at most `n` candidates: as soon as there
are enough, or when the candidates are used up, or at a candidate that fails. `gathered` tells what is
made of the strings that count. -/
inductive Outcome (g : Generator) (gathered : List String → List String) (size n : Nat)
    (source : Source) : Except Failure (Option (List String)) × Source → Prop where
  /-- The first `k` candidates are just enough. -/
  | filled {k : Nat} (within : k ≤ n) (unbroken : g.Unbroken k source)
      (full : (gathered (g.kept k source)).length = size)
      (first : ∀ j < k, (gathered (g.kept j source)).length < size) :
      Outcome g gathered size n source
        (.ok (some (gathered (g.kept k source))), g.afterDraws k source)
  /-- All candidates together are not enough. -/
  | spent (unbroken : g.Unbroken n source)
      (short : ∀ j ≤ n, (gathered (g.kept j source)).length < size) :
      Outcome g gathered size n source (.ok none, g.afterDraws n source)
  /-- A candidate fails before there are enough. -/
  | broken {k : Nat} {failure : Failure} (within : k < n) (unbroken : g.Unbroken k source)
      (short : ∀ j ≤ k, (gathered (g.kept j source)).length < size)
      (fails : g.judge (g.emit (g.afterDraws k source)).1 = .failed failure) :
      Outcome g gathered size n source (.error failure, g.afterDraws (k + 1) source)

variable {g : Generator} {gathered : List String → List String} {size n : Nat} {source : Source}

/-! ### A stream has one outcome -/

theorem length_draws (g : Generator) (n : Nat) (source : Source) : (g.draws n source).length = n := by
  induction n generalizing source with
  | zero => rfl
  | succ n ih => rw [draws, List.length_cons, ih]

theorem draws_append (k m : Nat) (source : Source) :
    g.draws (k + m) source = g.draws k source ++ g.draws m (g.afterDraws k source) := by
  induction k generalizing source with
  | zero => rw [Nat.zero_add]; rfl
  | succ k ih => rw [Nat.succ_add, draws, ih, draws, List.cons_append, afterDraws]

/-- A failing candidate breaks every longer part of the stream. -/
theorem Unbroken.le_of_fails {k m : Nat} {failure : Failure} (unbroken : g.Unbroken m source)
    (fails : g.judge (g.emit (g.afterDraws k source)).1 = .failed failure) : m ≤ k := by
  by_contra further
  obtain ⟨others, rfl⟩ := Nat.exists_eq_add_of_lt (Nat.lt_of_not_le further)
  have member : (g.emit (g.afterDraws k source)).1 ∈ g.draws (k + others + 1) source := by
    rw [Nat.add_assoc, draws_append, draws]
    exact List.mem_append_right _ List.mem_cons_self
  exact unbroken _ member failure fails

theorem Outcome.unique {result result' : Except Failure (Option (List String)) × Source}
    (outcome : g.Outcome gathered size n source result)
    (outcome' : g.Outcome gathered size n source result') : result = result' := by
  cases outcome with
  | @filled k within unbroken full first =>
    cases outcome' with
    | @filled k' _ _ full' first' =>
      have same : k = k' := by
        rcases Nat.lt_trichotomy k k' with less | same | more
        · exact absurd full (Nat.ne_of_lt (first' k less))
        · exact same
        · exact absurd full' (Nat.ne_of_lt (first k' more))
      rw [same]
    | spent _ short => exact absurd full (Nat.ne_of_lt (short k within))
    | broken _ _ short fails =>
      exact absurd full (Nat.ne_of_lt (short k (unbroken.le_of_fails fails)))
  | spent unbroken short =>
    cases outcome' with
    | @filled k' within' _ full' _ => exact absurd full' (Nat.ne_of_lt (short k' within'))
    | spent => rfl
    | broken within' _ _ fails' =>
      exact absurd (unbroken.le_of_fails fails') (Nat.not_le_of_lt within')
  | @broken k failure within unbroken short fails =>
    cases outcome' with
    | @filled k' _ unbroken' full' _ =>
      exact absurd full' (Nat.ne_of_lt (short k' (unbroken'.le_of_fails fails)))
    | spent unbroken' _ => exact absurd (unbroken'.le_of_fails fails) (Nat.not_le_of_lt within)
    | @broken k' failure' _ unbroken' _ fails' =>
      obtain rfl := Nat.le_antisymm (unbroken.le_of_fails fails') (unbroken'.le_of_fails fails)
      cases fails.symm.trans fails'
      rfl

/-! ### One candidate at a time -/

/-- The answer to one attempt, as the verdict on its candidate. -/
def Verdict.answer : Verdict → Except Failure (Option String)
  | kept text => .ok (some text)
  | missed => .ok none
  | failed failure => .error failure

theorem attempt_eq (g : Generator) (source : Source) :
    g.attempt source = ((g.judge (g.emit source).1).answer, (g.emit source).2) := by
  unfold attempt candidate
  cases drawn : g.emit source with
  | mk result after =>
    cases result with
    | ok text =>
      cases matches' : g.accepts text with
      | ok matched =>
        by_cases same : matched = g.isConfounded <;>
          simp [judge, matches', same, Verdict.answer]
      | error failure => simp [judge, matches', Verdict.answer]
    | error failure => cases failure <;> rfl

/-- The answer of the matcher to a string that counts. -/
theorem accepts_of_judge {result : Except Failure String} {text : String}
    (kept : (g.judge result).text? = some text) : g.accepts text = .ok !g.isConfounded := by
  cases result with
  | ok drawn =>
    cases answered : g.accepts drawn with
    | ok matched =>
      by_cases same : matched = g.isConfounded
      · simp [judge, answered, same, Verdict.text?] at kept
      · obtain rfl : drawn = text := by simpa [judge, answered, same, Verdict.text?] using kept
        rw [answered, Bool.eq_not_of_ne same]
    | error failure => simp [judge, answered, Verdict.text?] at kept
  | error failure => cases failure <;> simp [judge, Verdict.text?] at kept

/-- A candidate that does not fail stands in front of those of the rest of the stream. -/
theorem kept_succ (k : Nat) (source : Source) :
    g.kept (k + 1) source =
      (g.judge (g.emit source).1).text?.toList ++ g.kept k (g.emit source).2 := by
  rw [kept, draws, List.filterMap_cons]
  cases (g.judge (g.emit source).1).text? <;> rfl

theorem Unbroken.cons {k : Nat} (sound : ∀ failure, g.judge (g.emit source).1 ≠ .failed failure)
    (unbroken : g.Unbroken k (g.emit source).2) : g.Unbroken (k + 1) source := by
  intro result member
  rcases List.mem_cons.mp member with rfl | member
  · exact sound
  · exact unbroken result member

theorem Unbroken.zero (g : Generator) (source : Source) : g.Unbroken 0 source :=
  fun _ member => absurd member List.not_mem_nil

/-- Behind a candidate that does not fail, the draw goes on with what was gathered by then. -/
theorem Outcome.cons {further : List String → List String}
    {result : Except Failure (Option (List String)) × Source}
    (sound : ∀ failure, g.judge (g.emit source).1 ≠ .failed failure)
    (short : (gathered []).length < size)
    (next : ∀ texts, gathered ((g.judge (g.emit source).1).text?.toList ++ texts) = further texts)
    (outcome : g.Outcome further size n (g.emit source).2 result) :
    g.Outcome gathered size (n + 1) source result := by
  have gathers : ∀ k, gathered (g.kept (k + 1) source) = further (g.kept k (g.emit source).2) :=
    fun k => by rw [kept_succ, next]
  have shorter : ∀ k, (∀ j < k, (further (g.kept j (g.emit source).2)).length < size) →
      ∀ j < k + 1, (gathered (g.kept j source)).length < size := by
    intro k first j less
    cases j with
    | zero => exact short
    | succ j =>
      rw [gathers]
      exact first j (Nat.lt_of_succ_lt_succ less)
  cases outcome with
  | @filled k within unbroken full first =>
    have filled := @Outcome.filled g gathered size (n + 1) source (k + 1) (Nat.succ_le_succ within)
      (unbroken.cons sound) (by rw [gathers, full]) (shorter k first)
    rwa [gathers] at filled
  | spent unbroken short' =>
    refine .spent (unbroken.cons sound) fun j within => ?_
    exact shorter (n + 1) (fun j less => short' j (Nat.le_of_lt_succ less)) j
      (Nat.lt_succ_of_le within)
  | @broken k failure within unbroken short' fails =>
    refine .broken (Nat.succ_lt_succ within) (unbroken.cons sound) (fun j within' => ?_) fails
    exact shorter (k + 1) (fun j less => short' j (Nat.le_of_lt_succ less)) j
      (Nat.lt_succ_of_le within')

/-- What is made of the strings may be told in other words, if their number stays the same. -/
theorem Outcome.map {result : Except Failure (Option (List String))} {after : Source}
    {f : List String → List String} (same : ∀ texts, (f (gathered texts)).length = (gathered texts).length)
    (outcome : g.Outcome gathered size n source (result, after)) :
    g.Outcome (fun texts => f (gathered texts)) size n source (result.map (Option.map f), after) := by
  cases outcome with
  | filled within unbroken full first =>
    exact .filled within unbroken (by rw [same, full]) fun j less => by rw [same]; exact first j less
  | spent unbroken short => exact .spent unbroken fun j within => by rw [same]; exact short j within
  | broken within unbroken short fails =>
    exact .broken within unbroken (fun j within => by rw [same]; exact short j within) fails

/-! ### The loop -/

/-- The strings that are gathered from some others, behind those that were found before. -/
def gatheredBy (add : String → List String → List String) (found : List String) (texts : List String) :
    List String :=
  texts.foldl (fun found text => add text found) found

/-- Gathering ends as it has to, if a string never adds more than one. -/
theorem outcome_gather {add : String → List String → List String}
    (single : ∀ text found, (add text found).length ≤ found.length + 1) (n : Nat) (found : List String)
    (room : found.length ≤ size) (source : Source) :
    g.Outcome (gatheredBy add found) size n source (g.gather add size found n source) := by
  induction n generalizing found source with
  | zero =>
    rw [gather]
    by_cases full : found.length = size
    · rw [if_pos full]
      exact .filled (Nat.le_refl 0) (.zero g source) full (by simp)
    · rw [if_neg full]
      refine .spent (.zero g source) fun j within => ?_
      obtain rfl := Nat.le_zero.mp within
      exact Nat.lt_of_le_of_ne room full
  | succ n ih =>
    rw [gather]
    by_cases full : found.length = size
    · rw [if_pos full]
      exact .filled (Nat.zero_le _) (.zero g source) full (by simp)
    · have short : found.length < size := Nat.lt_of_le_of_ne room full
      rw [if_neg full, attempt_eq]
      cases verdict : g.judge (g.emit source).1 with
      | kept text =>
        refine .cons (by simp [verdict]) short (fun texts => ?_)
          (ih (add text found) (Nat.le_trans (single text found) short) (g.emit source).2)
        rw [verdict]
        rfl
      | missed =>
        refine .cons (by simp [verdict]) short (fun texts => ?_) (ih found room (g.emit source).2)
        rw [verdict]
        rfl
      | failed failure =>
        refine .broken (k := 0) (Nat.succ_pos n) (.zero g source) (fun j within => ?_) verdict
        obtain rfl := Nat.le_zero.mp within
        exact short

/-- Looking for one string is gathering a list of one. -/
theorem gather_one (g : Generator) (n : Nat) (source : Source) :
    g.gather List.cons 1 [] n source =
      ((g.emitChecked n source).1.map (Option.map fun text => [text]), (g.emitChecked n source).2) := by
  induction n generalizing source with
  | zero => rfl
  | succ n ih =>
    rw [gather, emitChecked, if_neg (by simp), attempt_eq]
    cases g.judge (g.emit source).1 with
    | kept text => cases n <;> rfl
    | missed => exact ih (g.emit source).2
    | failed failure => rfl

/-! ### Lists and sets -/

theorem gatheredBy_cons (texts : List String) : (gatheredBy List.cons [] texts).reverse = texts := by
  simp [gatheredBy]

/-- The strings without repetitions, in increasing order. -/
def inOrder (texts : List String) : List String := texts.toFinset.sort (· ≤ ·)

theorem inOrder_pairwise (texts : List String) : (inOrder texts).Pairwise (· < ·) :=
  List.SortedLT.pairwise (Finset.sortedLT_sort _)

theorem mem_inOrder {text : String} {texts : List String} : text ∈ inOrder texts ↔ text ∈ texts := by
  rw [inOrder, Finset.mem_sort, List.mem_toFinset]

theorem mem_insertSorted {text other : String} {found : List String} :
    other ∈ insertSorted text found ↔ other = text ∨ other ∈ found := by
  induction found with
  | nil => simp [insertSorted]
  | cons first rest ih =>
    rw [insertSorted]
    split
    · exact List.mem_cons
    · split
      · rw [List.mem_cons, ih, List.mem_cons]
        exact or_left_comm
      · rename_i notLess notMore
        obtain rfl : text = first := le_antisymm (not_lt.mp notMore) (not_lt.mp notLess)
        simp

theorem insertSorted_pairwise {text : String} {found : List String}
    (sorted : found.Pairwise (· < ·)) : (insertSorted text found).Pairwise (· < ·) := by
  induction found with
  | nil => exact List.pairwise_singleton _ _
  | cons first rest ih =>
    obtain ⟨least, sorted'⟩ := List.pairwise_cons.mp sorted
    rw [insertSorted]
    split
    · rename_i less
      refine List.pairwise_cons.mpr ⟨fun other member => ?_, sorted⟩
      rcases List.mem_cons.mp member with rfl | member
      · exact less
      · exact lt_trans less (least other member)
    · split
      · rename_i more
        refine List.pairwise_cons.mpr ⟨fun other member => ?_, ih sorted'⟩
        rcases mem_insertSorted.mp member with rfl | member
        · exact more
        · exact least other member
      · exact sorted

theorem length_insertSorted (text : String) (found : List String) :
    (insertSorted text found).length ≤ found.length + 1 := by
  induction found with
  | nil => exact Nat.le_refl 1
  | cons first rest ih =>
    rw [insertSorted]
    split
    · exact Nat.le_refl _
    · split
      · exact Nat.succ_le_succ ih
      · exact Nat.le_succ _

/-- Putting strings in one by one sorts them and drops repetitions. -/
theorem gatheredBy_insertSorted (texts : List String) :
    gatheredBy insertSorted [] texts = inOrder texts := by
  have facts : ∀ found : List String, found.Pairwise (· < ·) →
      (gatheredBy insertSorted found texts).Pairwise (· < ·) ∧
        ∀ text, text ∈ gatheredBy insertSorted found texts ↔ text ∈ found ∨ text ∈ texts := by
    induction texts with
    | nil => exact fun found sorted => ⟨sorted, by simp [gatheredBy]⟩
    | cons first rest ih =>
      intro found sorted
      obtain ⟨sorted', members⟩ := ih _ (@insertSorted_pairwise first found sorted)
      refine ⟨sorted', fun text => (members text).trans ?_⟩
      rw [mem_insertSorted, List.mem_cons, or_comm (a := text = first), or_assoc]
  obtain ⟨sorted, members⟩ := facts [] List.Pairwise.nil
  refine sorted.eq_of_mem_iff (inOrder_pairwise texts) fun text => ?_
  rw [members, mem_inOrder]
  simp

/-! ### The checked draws -/

/-- A list that can have room is drawn. -/
theorem emitList_of_le (room : size ≤ maxCapacity) : g.emitList size n source =
    ((g.gatherList size n source).1.mapError .failed, (g.gatherList size n source).2) :=
  if_neg (Nat.not_lt.mpr room)

theorem mapError_failed_eq_ok {α : Type} {result : Except Failure α} {value : α} :
    result.mapError Halt.failed = .ok value ↔ result = .ok value := by
  cases result <;> simp [Except.mapError]

theorem mapError_failed_inj {α : Type} {result result' : Except Failure α} :
    result.mapError Halt.failed = result'.mapError Halt.failed ↔ result = result' := by
  cases result <;> cases result' <;> simp [Except.mapError]

theorem outcome_gatherList (g : Generator) (size n : Nat) (source : Source) :
    g.Outcome id size n source (g.gatherList size n source) := by
  have loop := @outcome_gather g size List.cons (fun _ _ => Nat.le_refl _) n [] (Nat.zero_le size) source
  have back := loop.map (f := List.reverse) fun texts => List.length_reverse
  simp only [gatheredBy_cons] at back
  rw [gatherList]
  cases ends : g.gather List.cons size [] n source with
  | mk result after =>
    rw [ends] at back
    cases result <;> exact back

theorem outcome_emitSet (g : Generator) (size n : Nat) (source : Source) :
    g.Outcome inOrder size n source (g.emitSet size n source) := by
  have loop := @outcome_gather g size insertSorted length_insertSorted n [] (Nat.zero_le size) source
  rwa [funext gatheredBy_insertSorted] at loop

/-- **Checked draws end as the stream of candidates says, but for lists that are too long to have room**: one
string is drawn as a list of one; a list holds the strings that count in the order of the stream; and a set
holds those that differ, in increasing order. Each is complete with the candidate that the source is left
behind. A list beyond `maxCapacity` stops the program instead, before anything is drawn. -/
theorem checked_iff (g : Generator) (size n : Nat) (source : Source) :
    (∀ result, g.Outcome id 1 n source result ↔
        result = ((g.emitChecked n source).1.map (Option.map fun text => [text]),
          (g.emitChecked n source).2)) ∧
      (∀ result, g.Outcome inOrder size n source result ↔ result = g.emitSet size n source) ∧
      (size ≤ maxCapacity → ∀ result, g.Outcome id size n source result ↔
        (result.1.mapError Halt.failed, result.2) = g.emitList size n source) ∧
      (maxCapacity < size → g.emitList size n source = (.error .capacityOverflow, source)) := by
  have byOutcome : ∀ {gathered size answer}, g.Outcome gathered size n source answer →
      ∀ result, g.Outcome gathered size n source result ↔ result = answer :=
    fun outcome result => ⟨fun outcome' => outcome'.unique outcome, fun same => same ▸ outcome⟩
  have one : g.gatherList 1 n source = ((g.emitChecked n source).1.map (Option.map fun text => [text]),
      (g.emitChecked n source).2) := by
    rw [gatherList, gather_one]
    cases g.emitChecked n source with
    | mk result after => rcases result with _ | _ | _ <;> rfl
  refine ⟨byOutcome (one ▸ outcome_gatherList g 1 n source), byOutcome (outcome_emitSet g size n source),
    fun room result => ?_, fun tooMany => if_pos tooMany⟩
  rw [byOutcome (outcome_gatherList g size n source), emitList_of_le room, Prod.ext_iff, Prod.ext_iff,
    mapError_failed_inj]

/-- A choice between two letters and a third one. -/
def pairOrLetter : Generator where
  pattern := "ab|c"
  tree := .alternation [.literal "ab", .literal "c"]
  matcher := { pattern := "ab|c", engine := .finite (.sequence [.look ({} : Mode).lineStart,
      .group none (.choice [
        .sequence [.one (({} : Mode).char .standard 'a'), .one (({} : Mode).char .standard 'b')],
        .one (({} : Mode).char .standard 'c')]),
      .look ({} : Mode).lineEnd]) }
  cap := 10
  isConfounded := false

/-- A source from which it draws `c`, and then `ab` twice. -/
def secondThenFirst : Source := .scripted [0x8000000000000000, 0, 0] 0

/-- Two strings are taken for a list of two, and the source stays where it is for a list that is too long. -/
theorem checked_iff_pairOrLetter :
    pairOrLetter.emitList 2 5 secondThenFirst = (.ok (some ["c", "ab"]), .scripted [0] 0) ∧
      pairOrLetter.Outcome id 2 5 secondThenFirst (.ok (some ["c", "ab"]), .scripted [0] 0) ∧
      pairOrLetter.emitList (2 ^ 64 - 1) 3 secondThenFirst = (.error .capacityOverflow, secondThenFirst) := by
  have two : pairOrLetter.emitList 2 5 secondThenFirst = (.ok (some ["c", "ab"]), .scripted [0] 0) := by rfl
  obtain ⟨-, -, room, -⟩ := checked_iff pairOrLetter 2 5 secondThenFirst
  obtain ⟨-, -, -, tooMany⟩ := checked_iff pairOrLetter (2 ^ 64 - 1) 3 secondThenFirst
  exact ⟨two, (room (by decide) _).mpr two.symm, tooMany (by decide)⟩

/-- Three candidates that all count are not enough for the longest list that can be asked for, and drawing
would end behind them; but the program stops in front of the first. -/
theorem emitList_longest :
    pairOrLetter.Outcome id (2 ^ 64 - 1) 3 secondThenFirst (.ok none, .scripted [] 0) ∧
      pairOrLetter.emitList (2 ^ 64 - 1) 3 secondThenFirst = (.error .capacityOverflow, secondThenFirst) := by
  have drawn : pairOrLetter.gatherList (2 ^ 64 - 1) 3 secondThenFirst = (.ok none, .scripted [] 0) := by rfl
  refine ⟨?_, if_pos (by decide)⟩
  rw [← drawn]
  exact outcome_gatherList pairOrLetter (2 ^ 64 - 1) 3 secondThenFirst

end PatternForge.Generator
