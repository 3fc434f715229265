import PatternForge.Proofs.CommandLine.Draws
import PatternForge.Proofs.Matching.Agreement
import PatternForge.Proofs.RoundTrip.Moves

/-!
What `generate` and `confound` print. The patterns contribute in turn, each from where the one before left the
source (`Contributed`), and what is printed are the contributions up to the first pattern that has none
(`printed_exact`). `Shows` and `ShowsUpTo` say this of the transcripts of one pattern and of several.
-/
namespace PatternForge.CommandLine

/-! ### What patterns contribute -/

/-- The generator that contributes for a pattern: its own or, if near misses are asked for, theirs. -/
def contributor? (near : Bool) (g : Generator) : Option Generator :=
  if near then g.confound? else some g

/-- A pattern contributes some strings, and the source is left behind the last of them. -/
def Contributes (near : Bool) (c : Configuration) (g : Generator) (source : Source) (texts : List String)
    (after : Source) : Prop :=
  ∃ h, contributor? near g = some h ∧ c.Yields h source texts after

/-- Patterns contribute one after another, all of them from one source. -/
inductive Contributed (near : Bool) (c : Configuration) :
    Source → List Generator → List (List String) → Source → Prop where
  | none (source : Source) : Contributed near c source [] [] source
  | next {g : Generator} {rest : List Generator} {texts : List String} {parts : List (List String)}
      {source middle after : Source} (first : Contributes near c g source texts middle)
      (others : Contributed near c middle rest parts after) :
      Contributed near c source (g :: rest) (texts :: parts) after

/-- The strings of a pattern are as they were asked for: as many, in increasing order if they have to be distinct,
and matched or not if they are checked. -/
structure AsAsked (near : Bool) (c : Configuration) (g : Generator) (texts : List String) : Prop where
  enough : texts.length = c.count
  increasing : c.distinct → texts.Pairwise (· < ·)
  answered : c.checks → ∀ text ∈ texts, g.accepts text = .ok !near

/-- The generators of some patterns. -/
abbrev Built (c : Configuration) : List String → List Generator → Prop :=
  List.Forall₂ fun pattern g => Generator.ofPattern c.reading c.cap pattern = .ok g

/-- The command that prints strings of the patterns, or their near misses. -/
def printing (near : Bool) : Command := if near then .confound else .generate

variable {near : Bool} {c : Configuration} {g : Generator} {source after : Source} {texts : List String}

/-! ### One pattern after another -/

/-- What a printing command does for one generator. -/
def contribute (near : Bool) (c : Configuration) : Generator → Source → Transcript × Source :=
  if near then printMisses c else printStrings c

/-- A transcript and the source behind it show what a pattern contributes, or that it contributes nothing. -/
inductive Shows (near : Bool) (c : Configuration) (g : Generator) (source : Source) :
    Transcript × Source → Prop where
  /-- The strings are printed. -/
  | strings {texts : List String} {after : Source} (records : List Record)
      (contributes : Contributes near c g source texts after) :
      Shows near c g source ({ printed := texts, records }, after)
  /-- Nothing is printed, and there is a complaint. -/
  | nothing (records : List Record) (complaint : Complaint) (after : Source) (code : complaint.code = 1)
      (cannot : ∀ texts after, ¬ Contributes near c g source texts after) :
      Shows near c g source ({ records, complaint := some complaint }, after)

/-- Drawing for a contributor tells what the pattern contributes. -/
theorem draw_of_contributor {h : Generator} (room : c.HasRoom) (contributor : contributor? near g = some h)
    (source : Source) : ∃ (result : Except Failure (Option (List String))) (log : List Record) (middle : Source),
      draw c h source = (result.mapError .failed, log, middle) ∧
        ∀ texts after, (result, middle) = (.ok (some texts), after) ↔ Contributes near c g source texts after := by
  obtain ⟨result, log, middle, drawn, yields⟩ := @draw_of_hasRoom c h source room
  refine ⟨result, log, middle, drawn, fun texts after => (yields texts after).trans ⟨fun yields => ?_, ?_⟩⟩
  · exact ⟨h, contributor, yields⟩
  · rintro ⟨h', contributor', yields⟩
    obtain rfl := Option.some.inj (contributor.symm.trans contributor')
    exact yields

theorem shows_printStrings {h : Generator} (room : c.HasRoom) (contributor : contributor? near g = some h) :
    Shows near c g source (printStrings c h source) := by
  obtain ⟨result, log, middle, drawn, contributes⟩ := draw_of_contributor room contributor source
  rw [printStrings, drawn]
  rcases result with failure | _ | texts
  · refine .nothing log _ middle rfl fun texts after given => ?_
    cases (contributes texts after).mpr given
  · refine .nothing log _ middle rfl fun texts after given => ?_
    cases (contributes texts after).mpr given
  · exact .strings log ((contributes texts middle).mp rfl)

/-- A printing command shows for a generator what it contributes. -/
theorem shows_contribute (room : c.HasRoom) (near : Bool) (g : Generator) (source : Source) :
    Shows near c g source (contribute near c g source) := by
  cases near with
  | false => exact shows_printStrings room rfl
  | true =>
    show Shows true c g source (printMisses c g source)
    rw [printMisses, confounding]
    cases confounded : g.confound? with
    | none =>
      refine .nothing _ _ _ rfl fun texts after contributes => ?_
      obtain ⟨h, contributor, _⟩ := contributes
      cases confounded.symm.trans contributor
    | some misses =>
      have shown : Shows true c g source (printStrings c misses source) := shows_printStrings room confounded
      dsimp only
      generalize printStrings c misses source = result at shown ⊢
      cases shown with
      | strings records contributes => exact .strings records contributes
      | nothing records complaint after code cannot => exact .nothing records complaint after code cannot

/-- A pattern contributes only one thing. -/
theorem Contributes.unique {texts' : List String} {after' : Source} (room : c.HasRoom)
    (contributes : Contributes near c g source texts after)
    (contributes' : Contributes near c g source texts' after') : texts = texts' ∧ after = after' := by
  have ⟨h, contributor, _⟩ := contributes
  obtain ⟨_, _, _, _, exactly⟩ := draw_of_contributor room contributor source
  cases ((exactly texts after).mpr contributes).symm.trans ((exactly texts' after').mpr contributes')
  exact ⟨rfl, rfl⟩

/-- Where all patterns contribute, so does each from where those before it left the source. -/
theorem Contributed.next_of_append {before rest : List Generator} {parts parts' : List (List String)}
    {final : Source} (room : c.HasRoom) (all : Contributed near c source (before ++ g :: rest) parts' final)
    (those : Contributed near c source before parts after) :
    ∃ texts middle, Contributes near c g after texts middle := by
  -- Each pattern contributes one thing only, so both ways leave the source at the same place.
  induction those generalizing parts' with
  | none source =>
    cases all with
    | next first others => exact ⟨_, _, first⟩
  | next first others ih =>
    cases all with
    | next first' others' =>
      obtain ⟨rfl, rfl⟩ := first.unique room first'
      exact ih others'

/-- A transcript shows what patterns contribute in turn, up to the first that contributes nothing. -/
inductive ShowsUpTo (near : Bool) (c : Configuration) (source : Source) :
    List Generator → Transcript → Prop where
  /-- All patterns contribute. -/
  | all {gs : List Generator} {parts : List (List String)} {after : Source} (records : List Record)
      (contributed : Contributed near c source gs parts after) :
      ShowsUpTo near c source gs { printed := parts.flatten, records }
  /-- The patterns before one contribute, and it does not. -/
  | first {before rest : List Generator} {g : Generator} {parts : List (List String)} {after : Source}
      (records : List Record) (complaint : Complaint) (code : complaint.code = 1)
      (contributed : Contributed near c source before parts after)
      (cannot : ∀ texts middle, ¬ Contributes near c g after texts middle) :
      ShowsUpTo near c source (before ++ g :: rest)
        { printed := parts.flatten, records, complaint := some complaint }

/-- What happened before does not matter. -/
theorem ShowsUpTo.behind {gs : List Generator} {t : Transcript} (records : List Record)
    (shown : ShowsUpTo near c source gs t) :
    ShowsUpTo near c source gs (({ records } : Transcript).andThen t) := by
  cases shown with
  | all records' contributed => exact .all (records ++ records') contributed
  | first records' complaint code contributed cannot =>
    exact .first (records ++ records') complaint code contributed cannot

/-- One more pattern contributes before all others. -/
theorem ShowsUpTo.cons {gs : List Generator} {t : Transcript} {middle : Source} (records : List Record)
    (contributes : Contributes near c g source texts middle) (shown : ShowsUpTo near c middle gs t) :
    ShowsUpTo near c source (g :: gs) (({ printed := texts, records } : Transcript).andThen t) := by
  cases shown with
  | all records' contributed => exact .all (records ++ records') (.next contributes contributed)
  | first records' complaint code contributed cannot =>
    exact .first (records ++ records') complaint code (.next contributes contributed) cannot

theorem shows_eachInTurn (room : c.HasRoom) (near : Bool) (gs : List Generator) (source : Source) :
    ShowsUpTo near c source gs (eachInTurn (contribute near c) gs source).1 := by
  induction gs generalizing source with
  | nil => exact .all [] (.none source)
  | cons g gs ih =>
    have shown := shows_contribute room near g source
    rw [eachInTurn]
    generalize contribute near c g source = result at shown ⊢
    cases shown with
    | strings records contributes => exact (ih _).cons records contributes
    | nothing records complaint after code cannot =>
      exact .first records complaint code (.none source) cannot

/-! ### What the strings are -/

/-- What contributes for a pattern asks its matcher and wants the answer that is asked for. -/
theorem polarity_of_contributor {h : Generator} (plain : g.isConfounded = false)
    (contributor : contributor? near g = some h) : h.matcher = g.matcher ∧ h.isConfounded = near := by
  cases near with
  | false =>
    obtain rfl := Option.some.inj contributor
    exact ⟨rfl, plain⟩
  | true =>
    rw [contributor?, if_pos rfl, Generator.confound?, if_neg (by simp [plain])] at contributor
    obtain ⟨tree, _, rfl⟩ := Option.map_eq_some_iff.mp contributor
    exact ⟨rfl, rfl⟩

theorem Contributes.asAsked (plain : g.isConfounded = false)
    (contributes : Contributes near c g source texts after) : AsAsked near c g texts := by
  obtain ⟨h, contributor, k, suffices', rfl, rfl⟩ := contributes
  refine ⟨suffices'.full, fun distinct => ?_, fun checks text member => ?_⟩
  · rw [Configuration.counted, if_pos distinct]
    exact Generator.inOrder_pairwise _
  · have kept : text ∈ h.kept k source := by
      rw [Configuration.counted, judge_of_checks checks] at member
      split at member
      · exact Generator.mem_inOrder.mp member
      · exact member
    obtain ⟨result, _, found⟩ := List.mem_filterMap.mp kept
    obtain ⟨matcher, polarity⟩ := polarity_of_contributor plain contributor
    rw [Generator.accepts, ← matcher, ← Generator.accepts, ← polarity]
    exact Generator.accepts_of_judge found

theorem Contributed.asAsked {gs : List Generator} {parts : List (List String)}
    (plain : ∀ g ∈ gs, g.isConfounded = false) (contributed : Contributed near c source gs parts after) :
    List.Forall₂ (AsAsked near c) gs parts := by
  induction contributed with
  | none => exact .nil
  | next first others ih =>
    obtain ⟨plain', plain''⟩ := List.forall_mem_cons.mp plain
    exact .cons (first.asAsked plain') (ih plain'')

/-! ### Patterns are built before anything is printed -/

theorem buildAll_of_built {patterns : List String} {gs : List Generator} (built : Built c patterns gs) :
    ∃ records, buildAll c patterns = (.ok gs, records) := by
  induction built with
  | nil => exact ⟨[], rfl⟩
  | cons first others ih =>
    obtain ⟨records, more⟩ := ih
    rw [buildAll, build, first, more]
    exact ⟨_, rfl⟩

theorem buildAll_of_fails {patterns : List String}
    (fails : ∃ pattern ∈ patterns, ∃ failure, Generator.ofPattern c.reading c.cap pattern = .error failure) :
    ∃ pattern failure records, buildAll c patterns = (.error (.notBuilt pattern failure), records) := by
  induction patterns with
  | nil =>
    obtain ⟨_, member, _⟩ := fails
    exact absurd member List.not_mem_nil
  | cons pattern rest ih =>
    rw [buildAll, build]
    cases built : Generator.ofPattern c.reading c.cap pattern with
    | error failure => exact ⟨_, _, _, rfl⟩
    | ok g =>
      obtain ⟨other, member, failure, fails⟩ := fails
      rcases List.mem_cons.mp member with rfl | member
      · cases built.symm.trans fails
      · obtain ⟨_, _, _, more⟩ := ih ⟨other, member, failure, fails⟩
        rw [more]
        exact ⟨_, _, _, rfl⟩

theorem plain_of_ofPattern {s : Settings} {cap : UInt32} {pattern : String}
    (built : Generator.ofPattern s cap pattern = .ok g) : g.isConfounded = false := by
  rw [Generator.ofPattern] at built
  split at built
  · cases built
  · split at built
    · cases built
    · obtain rfl := Except.ok.inj built
      rfl

theorem plain_of_built {patterns : List String} {gs : List Generator} (built : Built c patterns gs) :
    ∀ g ∈ gs, g.isConfounded = false := by
  induction built with
  | nil => exact fun _ member => absurd member List.not_mem_nil
  | cons first _ ih => exact List.forall_mem_cons.mpr ⟨plain_of_ofPattern first, ih⟩

theorem run_printing (near : Bool) (c : Configuration) (gs : List Generator) (seed : UInt64) (source : Source) :
    (printing near).run c gs seed source =
      ({ records := [.seeded seed] } : Transcript).andThen (eachInTurn (contribute near c) gs source).1 := by
  cases near <;> rfl

/-- Where all patterns are built, the command shows what they contribute. -/
theorem shows_runOn {patterns : List String} {gs : List Generator} (room : c.HasRoom) (built : Built c patterns gs)
    (near : Bool) (freshSeed : UInt64) (source : Source) :
    ShowsUpTo near c source gs ((printing near).runOn c patterns freshSeed source) := by
  obtain ⟨records, all⟩ := buildAll_of_built built
  rw [Command.runOn, all]
  dsimp only
  rw [run_printing]
  exact ((shows_eachInTurn room near gs source).behind _).behind records

/-! ### Too many strings -/

/-- The exit code where the strings of a pattern cannot have room: the program is stopped, unless it finds
before that there is nothing to confound. -/
def stoppedCode (near : Bool) (g : Generator) : Nat := if (contributor? near g).isSome then 101 else 1

/-- Without room for them, no strings are printed. -/
theorem contribute_of_not_hasRoom (noRoom : ¬ c.HasRoom) (near : Bool) (g : Generator) (source : Source) :
    ∃ records complaint, (contribute near c g source).1 = { records, complaint := some complaint } ∧
      complaint.code = stoppedCode near g := by
  have stopped : ∀ h, printStrings c h source = ({ complaint := some .capacityOverflow }, source) := fun h => by
    rw [printStrings, draw_of_not_hasRoom noRoom]
    rfl
  cases near with
  | false => exact ⟨[], .capacityOverflow, congrArg Prod.fst (stopped g), rfl⟩
  | true =>
    show ∃ records complaint, (printMisses c g source).1 = _ ∧ _
    rw [printMisses, confounding, stoppedCode, contributor?, if_pos rfl]
    cases g.confound? with
    | none => exact ⟨_, .nothingToConfound g.pattern, rfl, rfl⟩
    | some misses =>
      dsimp only
      rw [stopped misses]
      exact ⟨_, .capacityOverflow, rfl, rfl⟩

theorem runOn_of_not_hasRoom {patterns : List String} {rest : List Generator} (noRoom : ¬ c.HasRoom)
    (built : Built c patterns (g :: rest)) (near : Bool) (freshSeed : UInt64) (source : Source) :
    ∃ records complaint, (printing near).runOn c patterns freshSeed source =
      { records, complaint := some complaint } ∧ complaint.code = stoppedCode near g := by
  obtain ⟨before, all⟩ := buildAll_of_built built
  obtain ⟨records, complaint, first, code⟩ := contribute_of_not_hasRoom noRoom near g source
  refine ⟨before ++ (.seeded (c.seed.getD freshSeed) :: records), complaint, ?_, code⟩
  rw [Command.runOn, all]
  dsimp only
  rw [run_printing, eachInTurn]
  cases shown : contribute near c g source with
  | mk t after =>
    rw [shown] at first
    subst first
    rfl

/-- **What is printed are the contributions of the patterns, up to the first that has none.** If a pattern cannot
be built, nothing is printed. Otherwise the patterns contribute in turn from one source, each the number of
strings that is asked for, each string with a line feed behind it: in increasing order if they have to be
distinct, and matched or not as is asked for if they are checked. The exit code is 0 exactly if all patterns
contribute, and it is 1 if there is one that cannot, from where those before it left the source. All this is so
if there can be room for the strings of a pattern; if there cannot, the program ends at the first pattern, with
nothing printed. -/
theorem printed_exact (near : Bool) (c : Configuration) (patterns : List String) (freshSeed : UInt64)
    (source : Source) (environment : Environment) (level : LogLevel) :
    let output := ((printing near).runOn c patterns freshSeed source).output environment level
    ((∃ pattern ∈ patterns, ∃ failure, Generator.ofPattern c.reading c.cap pattern = .error failure) →
      output.standard = "" ∧ output.code = 1) ∧
    ∀ gs, Built c patterns gs →
      (c.HasRoom →
        (output.code = 0 ↔ ∃ parts after, Contributed near c source gs parts after) ∧
        ∃ before others parts after, gs = before ++ others ∧ Contributed near c source before parts after ∧
          List.Forall₂ (AsAsked near c) before parts ∧
          output.standard = String.join (parts.flatten.map fun text => text ++ "\n") ∧
          (others = [] ∧ output.code = 0 ∨
            ∃ g rest, others = g :: rest ∧ (∀ texts middle, ¬ Contributes near c g after texts middle) ∧
              output.code = 1)) ∧
      (¬ c.HasRoom → ∀ g rest, gs = g :: rest → output.standard = "" ∧ output.code = stoppedCode near g) := by
  intro output
  constructor
  · intro fails
    obtain ⟨_, _, _, failed⟩ := buildAll_of_fails fails
    simp only [output, Command.runOn, failed]
    exact ⟨rfl, rfl⟩
  · intro gs built
    constructor
    · intro room
      have plain := plain_of_built built
      have shown := shows_runOn room built near freshSeed source
      dsimp only [output]
      generalize (printing near).runOn c patterns freshSeed source = transcript at shown ⊢
      cases shown with
      | all records contributed =>
        exact ⟨⟨fun _ => ⟨_, _, contributed⟩, fun _ => rfl⟩, gs, [], _, _, (List.append_nil gs).symm,
          contributed, contributed.asAsked plain, rfl, .inl ⟨rfl, rfl⟩⟩
      | @first before rest g parts after records complaint code contributed cannot =>
        refine ⟨⟨fun ended => absurd (code.symm.trans ended) Nat.one_ne_zero, fun ⟨_, _, all⟩ => ?_⟩, before,
          g :: rest, parts, after, rfl, contributed,
          contributed.asAsked fun g member => plain g (List.mem_append_left _ member), rfl,
          .inr ⟨g, rest, rfl, cannot, code⟩⟩
        obtain ⟨texts, middle, contributes⟩ := all.next_of_append room contributed
        exact absurd contributes (cannot texts middle)
    · rintro noRoom g rest rfl
      obtain ⟨records, complaint, ran, code⟩ := runOn_of_not_hasRoom noRoom built near freshSeed source
      simp only [output, ran]
      exact ⟨rfl, code⟩

open Generator (pairOrLetter)

private theorem ofPattern_pairOrLetter : Generator.ofPattern {} 10 "ab|c" = .ok pairOrLetter := by
  have reads : Parser.run {} (.initial {} "ab|c".toList) =
      .ok { here := ⟨4, []⟩, flags := {}, items := [.literal "c"], branches := [.literal "ab"] } := by
    iterate 4 refine (Parser.run_of_step rfl rfl).trans ?_
    exact Parser.run_of_end rfl
  have reads' : Regular.run .standard { here := .ofText (Matcher.anchored "ab|c").toList } =
      some {
        here := ⟨10, []⟩
        items := [
          .expression (.look ({} : Mode).lineEnd),
          .expression (.group none (.choice [
            .sequence [.one (({} : Mode).char .standard 'a'), .one (({} : Mode).char .standard 'b')],
            .one (({} : Mode).char .standard 'c')])),
          .expression (.look ({} : Mode).lineStart)] } := by
    iterate 8 refine (Regular.run_of_step rfl rfl rfl (by decide)).trans ?_
    exact Regular.run_of_end rfl rfl
  have parsed : ({} : Settings).parse "ab|c" = .ok pairOrLetter.tree := by
    unfold Settings.parse
    rw [reads]
    rfl
  have prepared : Matcher.ofPattern (({} : Settings).spelledOut "ab|c") ({} : Settings).data =
      .ok pairOrLetter.matcher := by
    change Matcher.ofPattern "ab|c" .standard = _
    unfold Matcher.ofPattern Matcher.engine? Expression.read?
    rw [reads']
    rfl
  unfold Generator.ofPattern
  rw [parsed, prepared]
  rfl

/-- Some checked strings of each pattern. -/
def checkedStrings (count : Nat) : Configuration := { count, attempts := 3, checked := true }

/-- A source from which `pairOrLetter` draws `c`, then `ab` twice, and `c` again. -/
def lettersAround : Source := .scripted [0x8000000000000000, 0, 0, 0x8000000000000000] 0

/-- What comes out for two patterns of which each has to give some checked strings. -/
def printedTwice (count : Nat) : Output :=
  ((printing false).runOn (checkedStrings count) ["ab|c", "ab|c"] 0 lettersAround).output {} .off

private theorem built_pairOrLetter (count : Nat) :
    Built (checkedStrings count) ["ab|c", "ab|c"] [pairOrLetter, pairOrLetter] :=
  .cons ofPattern_pairOrLetter (.cons ofPattern_pairOrLetter .nil)

private theorem not_hasRoom_longest : ¬ (checkedStrings (2 ^ 64 - 1)).HasRoom := by
  simp [Configuration.HasRoom, checkedStrings, Generator.maxCapacity]

/-- Each of the two prints two lines. If they have to print more than can have room, the program stops. -/
theorem printed_exact_pairOrLetter :
    Built (checkedStrings 2) ["ab|c", "ab|c"] [pairOrLetter, pairOrLetter] ∧
      (printedTwice 2).standard = "c\nab\nab\nc\n" ∧ (printedTwice 2).code = 0 ∧
      (∃ parts after,
        Contributed false (checkedStrings 2) lettersAround [pairOrLetter, pairOrLetter] parts after) ∧
      (printedTwice (2 ^ 64 - 1)).standard = "" ∧ (printedTwice (2 ^ 64 - 1)).code = 101 := by
  obtain ⟨records, all⟩ := buildAll_of_built (built_pairOrLetter 2)
  have ran : (printing false).runOn (checkedStrings 2) ["ab|c", "ab|c"] 0 lettersAround =
      { printed := ["c", "ab", "ab", "c"], records := records ++ [.seeded 0] } := by
    rw [Command.runOn, all]
    rfl
  have code : (printedTwice 2).code = 0 := by
    rw [printedTwice, ran]
    rfl
  obtain ⟨-, few⟩ := printed_exact false (checkedStrings 2) ["ab|c", "ab|c"] 0 lettersAround {} .off
  obtain ⟨-, many⟩ := printed_exact false (checkedStrings (2 ^ 64 - 1)) ["ab|c", "ab|c"] 0 lettersAround {} .off
  obtain ⟨⟨contributed, -⟩, -⟩ := (few _ (built_pairOrLetter 2)).1 (.inr (by decide))
  refine ⟨built_pairOrLetter 2, ?_, code, contributed code,
    (many _ (built_pairOrLetter _)).2 not_hasRoom_longest _ _ rfl⟩
  rw [printedTwice, ran]
  rfl

/-- No pattern gives the greatest number of strings that can be asked for in three attempts; but the exit code
is not that of a pattern that cannot contribute. -/
theorem printed_longest :
    (∀ source texts after, ¬ Contributes false (checkedStrings (2 ^ 64 - 1)) pairOrLetter source texts after) ∧
      Built (checkedStrings (2 ^ 64 - 1)) ["ab|c", "ab|c"] [pairOrLetter, pairOrLetter] ∧
      (printedTwice (2 ^ 64 - 1)).code = 101 := by
  refine ⟨?_, built_pairOrLetter _, ?_⟩
  · rintro source texts after ⟨h, -, k, enough, -, -⟩
    have full : (h.kept k source).length = 2 ^ 64 - 1 := enough.full
    have short : (h.kept k source).length ≤ k :=
      (List.length_filterMap_le _ _).trans (Nat.le_of_eq (h.length_draws k source))
    have within : k ≤ 3 := enough.within
    omega
  · obtain ⟨records, complaint, ran, code⟩ :=
      runOn_of_not_hasRoom not_hasRoom_longest (built_pairOrLetter _) false 0 lettersAround
    rw [printedTwice, ran]
    exact code

end PatternForge.CommandLine
