import PatternForge.Proofs.Emission.Language
import PatternForge.Proofs.RoundTrip.Printed

/-!
Drawing from what was printed. The tree that is read from a printed text can give the same texts as the
tree that was printed (`produces_normalised`). A source plays the same part in both as long as no
alternation is directly a branch of another one (`emitFrom_normalised`); the bars of one that is are
printed side by side with those around it, so two choices become one, with other odds
(`emit_of_render_nestedChoice`).
-/
namespace PatternForge.Pattern

open Environment (unbound)

/-- No branch of an alternation is an alternation. -/
def BranchesApart : Pattern → Prop
  | alternation branches => ∀ branch ∈ branches, branch.isAlternation = false
  | _ => True

theorem contains_effective_of (set : CharSet) (c : Char) :
    (CharClass.of set false).effective.contains c = set.contains c :=
  CharSet.contains_freeze set c

/-- A class is drawn from by the characters that it allows. -/
theorem emitClass_normalised (cls : CharClass) (bound : Bindings) (source : Source) :
    emitClass (.of cls.effective false) bound source = emitClass cls bound source := by
  have none : (CharClass.of cls.effective false).effective.isEmpty = cls.effective.isEmpty := rfl
  have many : (CharClass.of cls.effective false).effective.size = cls.effective.size := rfl
  have members : ∀ n, (CharClass.of cls.effective false).effective.nth n = cls.effective.nth n :=
    fun _ => rfl
  simp only [emitClass, none, many, members]

/-! ### The same texts -/

/-- A list of branches gives what one of them gives, also where an alternation is such a list. -/
theorem produces_branchList {cap : UInt32} {p : Pattern} {env env' : Environment} {text : String} :
    (∃ branch ∈ p.branchList, Produces cap branch env text env') ↔ Produces cap p env text env' := by
  cases p with
  | alternation branches =>
    constructor
    · rintro ⟨branch, member, chosen⟩
      exact .alternation member chosen
    · intro produced
      cases produced with
      | alternation member chosen => exact ⟨_, member, chosen⟩
  | literal _ | oneOf _ | anchor _ | sequence _ | repetition _ _ | group _ _ _ | backreference _ =>
    simp [branchList]

/-- Items in a row give the same if each of them does. -/
theorem producesAll_map {cap : UInt32} {f : Pattern → Pattern} {items : List Pattern}
    (same : ∀ item ∈ items, ∀ env text env',
      Produces cap (f item) env text env' ↔ Produces cap item env text env')
    {env env' : Environment} {text : String} :
    ProducesAll cap (items.map f) env text env' ↔ ProducesAll cap items env text env' := by
  induction items generalizing env text with
  | nil => rfl
  | cons item rest ih =>
    have others := fun env text =>
      @ih (fun other member => same other (List.mem_cons_of_mem _ member)) env text
    have first := same item List.mem_cons_self
    constructor
    · intro produced
      cases produced with
      | cons given rest' => exact .cons ((first _ _ _).mp given) ((others _ _).mp rest')
    · intro produced
      cases produced with
      | cons given rest' => exact .cons ((first _ _ _).mpr given) ((others _ _).mpr rest')

/-- **A tree in its normal form gives the same texts**, under the same bindings and with the same ones
left behind. -/
theorem produces_normalised {cap : UInt32} {p : Pattern} {env env' : Environment} {text : String} :
    Produces cap p.normalised env text env' ↔ Produces cap p env text env' := by
  induction p generalizing env text env' with
  | literal _ | anchor _ | backreference _ => rfl
  | oneOf cls =>
    rw [normalised]
    constructor <;> rintro ⟨⟩ <;> rename_i allowed
    · exact .oneOf ((contains_effective_of _ _).symm.trans allowed)
    · exact .oneOf ((contains_effective_of _ _).trans allowed)
  | sequence items ih =>
    have inRow := @producesAll_map cap normalised items (fun item member _ _ _ => ih item member) env env' text
    rw [normalised_sequence]
    constructor
    · rintro ⟨⟩
      rename_i given
      exact .sequence (inRow.mp given)
    · rintro ⟨⟩
      rename_i given
      exact .sequence (inRow.mpr given)
  | alternation branches ih =>
    rw [normalised_alternation, ← produces_branchList, ← produces_branchList]
    simp only [branchList, List.mem_flatMap]
    constructor
    · rintro ⟨part, ⟨branch, member, inside⟩, chosen⟩
      exact ⟨branch, member, (ih branch member).mp (produces_branchList.mp ⟨part, inside, chosen⟩)⟩
    · rintro ⟨branch, member, chosen⟩
      obtain ⟨part, inside, given⟩ := produces_branchList.mpr ((ih branch member).mpr chosen)
      exact ⟨part, ⟨branch, member, inside⟩, given⟩
  | repetition bounds body ih =>
    have inRow := fun n => @producesAll_map cap normalised (List.replicate n body)
      (fun item member _ _ _ => by rw [List.eq_of_mem_replicate member]; exact ih) env env' text
    simp only [List.map_replicate] at inRow
    rw [normalised]
    constructor
    · rintro ⟨⟩
      rename_i enough within given
      exact .repetition enough within ((inRow _).mp given)
    · rintro ⟨⟩
      rename_i enough within given
      exact .repetition enough within ((inRow _).mpr given)
  | group index name body ih =>
    rw [normalised]
    constructor
    · rintro ⟨⟩
      rename_i given
      exact .group (ih.mp given)
    · rintro ⟨⟩
      rename_i given
      exact .group (ih.mpr given)

/-! ### The same draws -/

private theorem emitItems_map {cap : UInt32} {f : Pattern → Pattern} {items : List Pattern}
    (same : ∀ item ∈ items, ∀ bound source,
      emitFrom cap (f item) bound source = emitFrom cap item bound source)
    (before : String) (bound : Bindings) (source : Source) :
    emitItems cap (items.map f) before bound source = emitItems cap items before bound source := by
  induction items generalizing before bound source with
  | nil => rfl
  | cons item rest ih =>
    rw [List.map_cons, emitItems, emitItems, same item List.mem_cons_self]
    simp only [ih fun other member => same other (List.mem_cons_of_mem _ member)]

private theorem emitBranch_map {cap : UInt32} {f : Pattern → Pattern} {branches : List Pattern}
    (same : ∀ branch ∈ branches, ∀ bound source,
      emitFrom cap (f branch) bound source = emitFrom cap branch bound source)
    (i : Nat) (bound : Bindings) (source : Source) :
    emitBranch cap (branches.map f) i bound source = emitBranch cap branches i bound source := by
  induction branches generalizing i with
  | nil => rfl
  | cons branch rest ih =>
    cases i with
    | zero => exact same branch List.mem_cons_self bound source
    | succ i => exact ih (fun other member => same other (List.mem_cons_of_mem _ member)) i

/-- Where no branch is an alternation, each branch is normalised by itself. -/
theorem normalised_branchesApart {branches : List Pattern}
    (apart : ∀ branch ∈ branches, branch.isAlternation = false) :
    (alternation branches).normalised = .alternation (branches.map normalised) := by
  rw [normalised_alternation]
  congr 1
  induction branches with
  | nil => rfl
  | cons branch rest ih =>
    have alone : branch.normalised.branchList = [branch.normalised] := by
      have notOne := apart branch List.mem_cons_self
      cases branch <;> first | rfl | cases notOne
    rw [List.flatMap_cons, alone, ih fun other member => apart other (List.mem_cons_of_mem _ member)]
    rfl

/-- **A tree in its normal form is drawn from with the same choices** where no alternation is directly a
branch of another one: each source gives the same text or failure, and is left in the same place. -/
theorem emitFrom_normalised {cap : UInt32} {p : Pattern} (apart : p.Every BranchesApart)
    (bound : Bindings) (source : Source) :
    emitFrom cap p.normalised bound source = emitFrom cap p bound source := by
  induction p generalizing bound source with
  | literal _ | anchor _ | backreference _ => rfl
  | oneOf cls =>
    rw [normalised, emitFrom, emitFrom]
    exact emitClass_normalised cls bound source
  | sequence items ih =>
    rw [normalised_sequence, emitFrom, emitFrom]
    exact emitItems_map (fun item member bound source => ih item member (apart.below member) bound source)
      "" bound source
  | alternation branches ih =>
    have same := fun i bound source => @emitBranch_map cap normalised branches
      (fun branch member bound source => ih branch member (apart.below member) bound source) i bound source
    rw [normalised_branchesApart apart.here, emitFrom, emitFrom, List.isEmpty_map, List.length_map]
    simp only [same]
  | repetition bounds body ih =>
    have same := fun bound source => ih (apart.below (by simp [children])) bound source
    rw [normalised, emitFrom, emitFrom]
    simp only [same]
  | group index name body ih =>
    rw [normalised, emitFrom, emitFrom, ih (apart.below (by simp [children]))]

end PatternForge.Pattern

namespace PatternForge.Settings

open Pattern (AllowsSome BranchesApart Produces)

/-- **What is printed is drawn from like what was read.** The text of a tree is read as a tree that can
give the same texts; and unless an alternation is directly a branch of another one, every source gives
the same text or the same failure with both, and is left in the same place. -/
theorem emit_of_render {domain : Universe} {nestLimit : Nat} {dotNewLine : Bool} {text : String}
    {tree : Pattern} (parsed : (mindingCase domain nestLimit dotNewLine).parse text = .ok tree)
    (allows : tree.Every AllowsSome) :
    ∃ again, (mindingCase domain nestLimit dotNewLine).parse tree.render = .ok again ∧
      (∀ cap env given env', Produces cap again env given env' ↔ Produces cap tree env given env') ∧
      (tree.Every BranchesApart → ∀ cap source, again.emit cap source = tree.emit cap source) := by
  obtain ⟨isRead, numbered, within⟩ := isRead_of_parse parsed
  refine ⟨tree.normalised, parse_render CharacterData.legible_standard ⟨rfl, rfl⟩
    ⟨isRead, allows, within, numbered⟩, fun cap env given env' => Pattern.produces_normalised,
    fun apart cap source => ?_⟩
  rw [Pattern.emit, Pattern.emit, Pattern.emitFrom_normalised apart]

/-- A letter with one of two others behind it, perhaps. -/
def letterThenChoice : Pattern :=
  .sequence [.literal "x",
    .repetition ⟨0, some 1, true⟩ (.group 1 none (.alternation [.literal "a", .literal "b"]))]

theorem emit_of_render_letterThenChoice :
    (mindingCase .ascii 50 false).parse "x(a|b)?" = .ok letterThenChoice ∧
      letterThenChoice.Every BranchesApart ∧
      ∃ again, (mindingCase .ascii 50 false).parse letterThenChoice.render = .ok again ∧
        ∀ cap source, again.emit cap source = letterThenChoice.emit cap source := by
  have reads : Parser.run (mindingCase .ascii 50 false)
      (.initial (mindingCase .ascii 50 false) "x(a|b)?".toList) =
        .ok {
          here := ⟨7, []⟩, flags := {}, count := 1, closed := [1]
          items := [
            .repetition ⟨0, some 1, true⟩ (.group 1 none (.alternation [.literal "a", .literal "b"])),
            .literal "x"] } := by
    iterate 7 refine (Parser.run_of_step rfl rfl).trans ?_
    exact Parser.run_of_end rfl
  have parsed : (mindingCase .ascii 50 false).parse "x(a|b)?" = .ok letterThenChoice := by
    unfold parse
    rw [reads]
    rfl
  have allows : letterThenChoice.Every AllowsSome := by
    simp [Pattern.Every, letterThenChoice, Pattern.walk, Pattern.walkFrom, Pattern.walkAll, AllowsSome]
  have apart : letterThenChoice.Every BranchesApart := by
    simp [Pattern.Every, letterThenChoice, Pattern.walk, Pattern.walkFrom, Pattern.walkAll, BranchesApart,
      Pattern.isAlternation]
  obtain ⟨again, read, -, same⟩ := emit_of_render parsed allows
  exact ⟨parsed, apart, again, read, same apart⟩

/-- A choice between a choice of two letters and a third one. -/
def nestedChoice : Pattern :=
  .alternation [.alternation [.literal "a", .literal "b"], .literal "c"]

/-- A choice among three letters. -/
def flatChoice : Pattern := .alternation [.literal "a", .literal "b", .literal "c"]

/-- A choice among choices is printed as one choice, which makes something else of the same source. -/
theorem emit_of_render_nestedChoice :
    ((mindingCase .ascii 50 false).parse "(?:a|b)|c" = .ok nestedChoice ∧
        nestedChoice.Every AllowsSome) ∧
      (nestedChoice.render = "a|b|c" ∧
        (mindingCase .ascii 50 false).parse "a|b|c" = .ok flatChoice) ∧
      nestedChoice.emit 10 (.scripted [0, 0x8000000000000000] 0) = (.ok "b", .scripted [] 0) ∧
      flatChoice.emit 10 (.scripted [0, 0x8000000000000000] 0) =
        (.ok "a", .scripted [0x8000000000000000] 0) := by
  have reads : Parser.run (mindingCase .ascii 50 false)
      (.initial (mindingCase .ascii 50 false) "(?:a|b)|c".toList) =
        .ok {
          here := ⟨9, []⟩, flags := {}, branches := [.alternation [.literal "a", .literal "b"]]
          items := [.literal "c"] } := by
    refine (Parser.run_of_step rfl (Parser.step_grouping rfl (by decide))).trans ?_
    iterate 6 refine (Parser.run_of_step rfl rfl).trans ?_
    exact Parser.run_of_end rfl
  have reads' : Parser.run (mindingCase .ascii 50 false)
      (.initial (mindingCase .ascii 50 false) "a|b|c".toList) =
        .ok {
          here := ⟨5, []⟩, flags := {}, branches := [.literal "b", .literal "a"]
          items := [.literal "c"] } := by
    iterate 5 refine (Parser.run_of_step rfl rfl).trans ?_
    exact Parser.run_of_end rfl
  refine ⟨⟨?_, ?_⟩, ⟨rfl, ?_⟩, rfl, rfl⟩
  · unfold parse
    rw [reads]
    rfl
  · simp [Pattern.Every, nestedChoice, Pattern.walk, Pattern.walkFrom, Pattern.walkAll, AllowsSome]
  · unfold parse
    rw [reads']
    rfl

end PatternForge.Settings
