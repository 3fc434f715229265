import PatternForge.Proofs.Emission.Unbound
import PatternForge.Proofs.RoundTrip.Printed

/-! Drawing from trees that were read. The reader closes a group before it takes a reference to it, so
only a group that a text can leave out is unbound where it is referred to. -/
namespace PatternForge.Settings

open Pattern (AllowsSome Drawable KeepsAll)

theorem drawable_of_isRead {s : Settings} {p : Pattern} (isRead : p.Every (Pattern.IsRead s))
    (allows : p.Every AllowsSome) : p.Every Drawable := by
  intro node visited
  have isRead := isRead node visited
  have allows := allows node visited
  obtain ⟨depth, q⟩ := node
  cases q with
  | oneOf cls => exact allows
  | alternation branches =>
    rintro rfl
    exact absurd isRead (by simp [Pattern.IsRead])
  | literal _ | anchor _ | sequence _ | repetition _ _ | group _ _ _ | backreference _ => trivial

/-- **A tree that was read fails to give a text only because of an optional group**: whatever the cap and
the source, a draw gives a text, or fails at a reference to a group in a branch or in a repetition that
may occur no time, which does not contain the reference. A tree without such places never fails. -/
theorem emit_of_parse {s : Settings} {text : String} {tree : Pattern}
    (parsed : s.parse text = .ok tree) (allows : tree.Every AllowsSome) :
    ∀ p, p = tree ∨ tree.confound? = some p → ∀ (cap : UInt32) (source : Source),
      ((∃ drawn, (p.emit cap source).1 = .ok drawn) ∨
        ∃ index, (p.emit cap source).1 = .error (.unboundReference index) ∧
          p.OmitsReferent index) ∧
      (p.Every KeepsAll → ∃ drawn, (p.emit cap source).1 = .ok drawn) := by
  obtain ⟨isRead, numbered, within⟩ := isRead_of_parse parsed
  have printable : tree.Printable s := ⟨isRead, allows, within, numbered⟩
  intro p same cap source
  have printable' : p.Printable s := by
    rcases same with rfl | confounded
    · exact printable
    · obtain ⟨-, rfl⟩ := Pattern.confound?_eq_some.mp confounded
      exact printable.confounded
  obtain ⟨ledger, recorded⟩ := printable'.numbered
  have draws := Pattern.emit_of_recordAll
    (drawable_of_isRead printable'.isRead printable'.allows) recorded cap source
  refine ⟨draws, fun keeps => draws.resolve_right ?_⟩
  rintro ⟨index, -, outer, reference, leavesOut, -⟩
  exact Pattern.not_leavesOut keeps index outer leavesOut

/-- A letter and a reference to it. -/
def letterTwice (letter : String) : Pattern :=
  .sequence [.group 1 none (.literal letter), .backreference 1]

/-- A letter that may be missing, and a reference to it. -/
def missingTwice (letter : String) : Pattern :=
  .sequence [.repetition ⟨0, some 1, true⟩ (.group 1 none (.literal letter)), .backreference 1]

theorem emit_of_parse_letters :
    (({} : Settings).parse "(a)?\\1" = .ok (missingTwice "a") ∧
      (missingTwice "a").confound? = some (missingTwice "0") ∧
      ((missingTwice "0").emit 10 (.scripted [0] 0)).1 = .error (.unboundReference 1) ∧
      ∀ cap source, (∃ drawn, ((missingTwice "0").emit cap source).1 = .ok drawn) ∨
        ∃ index, ((missingTwice "0").emit cap source).1 = .error (.unboundReference index) ∧
          (missingTwice "0").OmitsReferent index) ∧
    (({} : Settings).parse "(a)\\1" = .ok (letterTwice "a") ∧
      ∀ cap source, ∃ drawn, ((letterTwice "a").emit cap source).1 = .ok drawn) := by
  have reads : Parser.run {} (.initial {} "(a)?\\1".toList) =
      .ok {
        here := ⟨6, []⟩, flags := {}, count := 1, closed := [1]
        items := [.backreference 1,
          .repetition ⟨0, some 1, true⟩ (.group 1 none (.literal "a"))] } := by
    iterate 5 refine (Parser.run_of_step rfl rfl).trans ?_
    exact Parser.run_of_end rfl
  have reads' : Parser.run {} (.initial {} "(a)\\1".toList) =
      .ok {
        here := ⟨5, []⟩, flags := {}, count := 1, closed := [1]
        items := [.backreference 1, .group 1 none (.literal "a")] } := by
    iterate 4 refine (Parser.run_of_step rfl rfl).trans ?_
    exact Parser.run_of_end rfl
  have parsed : ({} : Settings).parse "(a)?\\1" = .ok (missingTwice "a") := by
    unfold parse
    rw [reads]
    rfl
  have parsed' : ({} : Settings).parse "(a)\\1" = .ok (letterTwice "a") := by
    unfold parse
    rw [reads']
    rfl
  have near : (missingTwice "a").confound? = some (missingTwice "0") := rfl
  have allows : (missingTwice "a").Every AllowsSome := by
    simp [Pattern.Every, missingTwice, Pattern.walk, Pattern.walkFrom, Pattern.walkAll, AllowsSome]
  have allows' : (letterTwice "a").Every AllowsSome := by
    simp [Pattern.Every, letterTwice, Pattern.walk, Pattern.walkFrom, Pattern.walkAll, AllowsSome]
  have keeps : (letterTwice "a").Every KeepsAll := by
    simp [Pattern.Every, letterTwice, Pattern.walk, Pattern.walkFrom, Pattern.walkAll, KeepsAll]
  exact ⟨⟨parsed, near, rfl,
      fun cap source => (emit_of_parse parsed allows _ (.inr near) cap source).1⟩,
    parsed', fun cap source => (emit_of_parse parsed' allows' _ (.inl rfl) cap source).2 keeps⟩

end PatternForge.Settings
