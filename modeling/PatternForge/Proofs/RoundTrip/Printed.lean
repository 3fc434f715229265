import PatternForge.Proofs.Confounding.Walk
import PatternForge.Proofs.RoundTrip.Trees

/-!
Reading what was printed. A tree that was read has all that its text relies on (`Printable`), and so
has the confounded tree, with other characters in the same places. The text of such a tree is read as
the tree in its normalised form, which has the same text again (`parse_render_of_parse`).
-/
namespace PatternForge

open Pattern (IsRead AllowsSome)

/-- What the printed text of a tree relies on. -/
structure Pattern.Printable (s : Settings) (p : Pattern) : Prop where
  isRead : p.Every (IsRead s)
  allows : p.Every AllowsSome
  within : p.DeepestWithin s.nestLimit 0
  numbered : ∃ ledger, ({} : Ledger).recordAll p.marks = some ledger

namespace Pattern

/-- A fact of the confounded nodes is a fact of the confounded tree. -/
theorem every_confounded {fact fact' : Pattern → Prop} {p : Pattern}
    (node : ∀ q, fact q → fact' q.confounded) (every : p.Every fact) : p.confounded.Every fact' := by
  induction p using induct_children with
  | node p ih =>
    refine every_iff.mpr ⟨node p every.here, fun child member => ?_⟩
    rw [children_confounded] at member
    obtain ⟨child, isChild, rfl⟩ := List.mem_map.mp member
    exact ih child isChild (every.below isChild)

private theorem deepestWithin_confounded {limit depth : Nat} {p : Pattern}
    (within : p.DeepestWithin limit depth) : p.confounded.DeepestWithin limit depth := by
  induction p using induct_children generalizing depth with
  | node p ih =>
    refine deepestWithin_iff.mpr ⟨within.here, fun child member => ?_⟩
    rw [children_confounded] at member
    obtain ⟨child, isChild, rfl⟩ := List.mem_map.mp member
    exact ih child isChild (within.below isChild)

@[simp] theorem isSequence_confounded (p : Pattern) : p.confounded.isSequence = p.isSequence := by
  cases p <;> rfl

@[simp] theorem isLiteral_confounded (p : Pattern) : p.confounded.isLiteral = p.isLiteral := by
  cases p <;> rfl

theorem isRead_confounded {s : Settings} (p : Pattern) (isRead : p.IsRead s) :
    p.confounded.IsRead s := by
  cases p with
  | literal text =>
    intro none
    refine isRead (String.toList_eq_nil_iff.mp ?_)
    simpa [Text.counterparts] using congrArg String.toList none
  | oneOf cls =>
    rw [confounded]
    split
    · exact ⟨isRead.1, rfl⟩
    · exact isRead
  | sequence items =>
    obtain ⟨several, flat, unmerged⟩ := isRead
    rw [confounded, confoundedAll_eq_map]
    exact ⟨by simpa using several, by simpa using flat, unmerged.map isLiteral_confounded⟩
  | alternation branches =>
    rw [confounded, confoundedAll_eq_map]
    simpa [IsRead] using isRead
  | anchor _ | repetition _ _ | group _ _ _ | backreference _ => exact isRead

/-- A class that is confounded allows some character: one that stays as it is leaves nothing out. -/
theorem allowsSome_confounded (p : Pattern) : p.confounded.AllowsSome := by
  cases p with
  | oneOf cls =>
    rw [confounded]
    split
    · rename_i confoundable
      exact CharSet.isEmpty_eq_false_iff.mp (by simpa [CharClass.isConfoundable] using confoundable)
    · rename_i stays
      have none : cls.negate.effective.isEmpty = true := by simpa [CharClass.isConfoundable] using stays
      refine ⟨cls.set.domain.first, Bool.not_eq_false _ ▸ fun absent => ?_⟩
      have other : cls.negate.effective.contains cls.set.domain.first = true := by
        rw [CharClass.contains_negate_effective]
        simp [absent, Universe.contains_first]
      rw [CharSet.isEmpty_eq_false_iff.mpr ⟨_, other⟩] at none
      cases none
  | literal _ | anchor _ | sequence _ | alternation _ | repetition _ _ | group _ _ _
  | backreference _ => trivial

/-- Confounding keeps all that printing relies on. -/
theorem Printable.confounded {s : Settings} {p : Pattern} (printable : p.Printable s) :
    p.confounded.Printable s where
  isRead := every_confounded isRead_confounded printable.isRead
  allows := every_confounded (fun q _ => allowsSome_confounded q) printable.isRead
  within := deepestWithin_confounded printable.within
  numbered := by
    rw [marks_confounded]
    exact printable.numbered

end Pattern

namespace Settings

/-- The text of a printable tree is read as the tree in its normalised form. -/
theorem parse_render {s : Settings} {p : Pattern} (legible : s.data.Legible)
    (plain : Parser.Flags.Plain s.flags) (printable : p.Printable s) :
    s.parse p.render = .ok p.normalised := by
  obtain ⟨isRead, allows, within, ledger, numbered⟩ := printable
  have fills := (Parser.rereads legible isRead allows within).fills 0 [] (Nat.le_refl 0)
    ⟨by simp, by simp⟩
  have starts : (Parser.State.initial s (Pattern.text false p)).here.rest =
      Pattern.text false p ++ [] := (List.append_nil _).symm
  obtain ⟨branches, items, filled, whole⟩ := fills (.initial s (Pattern.text false p)) ledger plain
    rfl starts numbered (Nat.le_refl 0)
  have ends : Parser.run s (.initial s (Pattern.text false p)) =
      .ok ((Parser.State.initial s (Pattern.text false p)).filled (Pattern.text false p) ledger
        branches items) := by
    rw [filled]
    exact Parser.run_of_end (Parser.rest_past starts ledger [])
  have tree : Pattern.ofLevel branches items = p.normalised := by
    rw [Pattern.ofLevel, whole, Pattern.choice_branchList isRead]
  have nested : p.normalised.nestedWithin s.nestLimit = true :=
    Pattern.nestedWithin_iff.mpr (Pattern.deepestWithin_normalised within)
  unfold parse
  rw [Pattern.render, String.toList_ofList, ends]
  simp only [Parser.State.tree, Parser.State.filled, Parser.State.past, Parser.State.initial,
    List.append_nil, tree, nested, ↓reduceIte]

/-- The settings that mind case: any universe and limit, and either meaning of the dot. -/
def mindingCase (domain : Universe) (nestLimit : Nat) (dotNewLine : Bool) : Settings :=
  { domain, nestLimit, flags := { dotNewLine } }

/-- **A tree that was read, and the tree that it is confounded to, are read again from their text**, up
to the normal form, which is printed in the same way. -/
theorem parse_render_of_parse {domain : Universe} {nestLimit : Nat} {dotNewLine : Bool} {text : String}
    {tree : Pattern} (parsed : (mindingCase domain nestLimit dotNewLine).parse text = .ok tree)
    (allows : tree.Every AllowsSome) :
    ∀ printed, printed = tree ∨ tree.confound? = some printed →
      (mindingCase domain nestLimit dotNewLine).parse printed.render = .ok printed.normalised ∧
        printed.normalised.render = printed.render := by
  obtain ⟨isRead, numbered, within⟩ := isRead_of_parse parsed
  have printable : tree.Printable (mindingCase domain nestLimit dotNewLine) :=
    ⟨isRead, allows, within, numbered⟩
  intro printed isPrinted
  have printable' : printed.Printable (mindingCase domain nestLimit dotNewLine) := by
    rcases isPrinted with rfl | confounded
    · exact printable
    · obtain ⟨-, rfl⟩ := Pattern.confound?_eq_some.mp confounded
      exact printable.confounded
  refine ⟨parse_render CharacterData.legible_standard ⟨rfl, rfl⟩ printable', ?_⟩
  rw [Pattern.render, Pattern.text_normalised (Pattern.hasBranches printable'.isRead), Pattern.render]

/-- A reference to one of two letters with a text behind it. -/
def referenceThen (first second text : String) : Pattern :=
  .sequence [.group 1 none (.alternation [.literal first, .literal second]), .backreference 1,
    .literal text]

theorem parse_render_of_parse_referenceThen :
    (mindingCase .ascii 50 false).parse "(a|b)\\1(?:2)" = .ok (referenceThen "a" "b" "2") ∧
      (referenceThen "a" "b" "2").Every AllowsSome ∧
      (referenceThen "a" "b" "2").confound? = some (referenceThen "0" "1" "c") ∧
      (mindingCase .ascii 50 false).parse (referenceThen "a" "b" "2").render =
        .ok (referenceThen "a" "b" "2") ∧
      (mindingCase .ascii 50 false).parse "(0|1)\\1c" = .ok (referenceThen "0" "1" "c") := by
  have reads : Parser.run (mindingCase .ascii 50 false)
      (.initial (mindingCase .ascii 50 false) "(a|b)\\1(?:2)".toList) =
        .ok { here := ⟨12, []⟩, flags := {}, count := 1, closed := [1], items := [.literal "2",
          .backreference 1, .group 1 none (.alternation [.literal "a", .literal "b"])] } := by
    refine (Parser.run_of_step rfl rfl).trans ?_
    refine (Parser.run_of_step rfl rfl).trans ?_
    refine (Parser.run_of_step rfl rfl).trans ?_
    refine (Parser.run_of_step rfl rfl).trans ?_
    refine (Parser.run_of_step rfl rfl).trans ?_
    refine (Parser.run_of_step rfl rfl).trans ?_
    refine (Parser.run_of_step rfl (Parser.step_grouping rfl (by decide))).trans ?_
    refine (Parser.run_of_step rfl rfl).trans ?_
    refine (Parser.run_of_step rfl rfl).trans ?_
    exact Parser.run_of_end rfl
  have parsed : (mindingCase .ascii 50 false).parse "(a|b)\\1(?:2)" =
      .ok (referenceThen "a" "b" "2") := by
    unfold parse
    rw [reads]
    rfl
  have allows : (referenceThen "a" "b" "2").Every AllowsSome := by
    simp [Pattern.Every, referenceThen, Pattern.walk, Pattern.walkFrom, Pattern.walkAll, AllowsSome]
  have near : (referenceThen "a" "b" "2").confound? = some (referenceThen "0" "1" "c") := by rfl
  exact ⟨parsed, allows, near, (parse_render_of_parse parsed allows _ (.inl rfl)).1,
    (parse_render_of_parse parsed allows _ (.inr near)).1⟩

end Settings

end PatternForge
