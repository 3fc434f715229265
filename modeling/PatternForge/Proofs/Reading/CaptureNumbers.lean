import PatternForge.Proofs.Pattern.WellNumbered
import PatternForge.Proofs.Reading.TreeFacts
import PatternForge.Proofs.RoundTrip.Moves

/-! The numbers that the reader gives to groups. What it keeps of them, a counter, the groups that are
closed and the names that are taken, is a ledger that is in order at every place; so the finished tree
is well numbered, and the tree that it is confounded to is too. -/
namespace PatternForge.Settings

/-- **Groups are numbered in order, names are distinct, and references look back to whole groups**, in
the tree of every pattern that is read and in the tree that it is confounded to. -/
theorem wellNumbered_of_parse {s : Settings} {text : String} {tree : Pattern}
    (parsed : s.parse text = .ok tree) :
    tree.WellNumbered ∧ ∀ near, tree.confound? = some near → near.WellNumbered := by
  obtain ⟨isRead, ⟨ledger, recorded⟩, -⟩ := isRead_of_parse parsed
  have digits : tree.Every fun node => ∀ index, node = .backreference index →
      1 ≤ index ∧ index ≤ 9 := by
    refine isRead.imp fun node isRead index same => ?_
    subst same
    exact isRead
  have numbered := Pattern.wellNumbered_of_recordAll recorded digits
  refine ⟨numbered, fun near confounded => ?_⟩
  obtain ⟨-, rfl⟩ := Pattern.confound?_eq_some.mp confounded
  exact numbered.confounded

/-- A group around another group, and references to both of them. -/
def groupAround (inner rest : String) : Pattern :=
  .sequence [.group 1 none (.sequence [.group 2 none (.literal inner), .literal rest]),
    .backreference 2, .backreference 1]

theorem wellNumbered_of_parse_groupAround :
    ({} : Settings).parse "((a)b)\\2\\1" = .ok (groupAround "a" "b") ∧
      (groupAround "a" "b").confound? = some (groupAround "0" "1") ∧
      (groupAround "a" "b").WellNumbered ∧ (groupAround "0" "1").WellNumbered := by
  have reads : Parser.run {} (.initial {} "((a)b)\\2\\1".toList) =
      .ok {
        here := ⟨10, []⟩, flags := {}, count := 2, closed := [1, 2]
        items := [.backreference 1, .backreference 2,
          .group 1 none (.sequence [.group 2 none (.literal "a"), .literal "b"])] } := by
    iterate 8 refine (Parser.run_of_step rfl rfl).trans ?_
    exact Parser.run_of_end rfl
  have parsed : ({} : Settings).parse "((a)b)\\2\\1" = .ok (groupAround "a" "b") := by
    unfold parse
    rw [reads]
    rfl
  have near : (groupAround "a" "b").confound? = some (groupAround "0" "1") := rfl
  obtain ⟨numbered, numbered'⟩ := wellNumbered_of_parse parsed
  exact ⟨parsed, near, numbered, numbered' _ near⟩

end PatternForge.Settings
