import PatternForge.Proofs.Confounding.FixedShape
import PatternForge.Proofs.Emission.ReadTrees
import PatternForge.Proofs.Reading.StepCases

/-!
Every class that is read allows some character, but for a dot over a universe that has only the line feed.
Brackets, property classes and Perl classes are checked where they are read (`Settings.classPattern`), and
the cases of a character are two at least; the dot is built without a check. So drawing meets a class
without characters only there (`Settings.allows_of_parse`).
-/
namespace PatternForge

/-- The universe of the line feed alone. -/
def Universe.lineFeed : Universe := { first := '\n', last := '\n' }

/-- Any other universe has another character. -/
theorem Universe.exists_ne_newline {u : Universe} (other : u ≠ lineFeed) :
    ∃ c, u.contains c = true ∧ c ≠ '\n' := by
  by_cases first : u.first = '\n'
  · refine ⟨u.last, u.contains_last, fun last => other ?_⟩
    cases u
    cases first
    cases last
    rfl
  · exact ⟨u.first, u.contains_first, first⟩

/-! ### What is read for a single construct -/

open Pattern (AllowsSome Every every_leaf)

theorem Settings.every_of_classPattern {start after : Cursor} {set : CharSet} {negated : Bool}
    {leaf : Pattern} (made : classPattern start after set negated = .ok leaf) : leaf.Every AllowsSome := by
  obtain ⟨some, rfl⟩ := classPattern_eq_ok.mp made
  exact every_leaf rfl (CharSet.isEmpty_eq_false_iff.mp some)

/-- A character is a class only if it has two cases in the universe. -/
theorem Settings.every_charPattern (s : Settings) (flags : Flags) (c : Char) :
    (s.charPattern flags c).Every AllowsSome := by
  unfold charPattern
  dsimp only
  split
  · split
    · rename_i several
      have positive : 0 < (s.setOf (s.data.variants c)).size := Nat.lt_of_succ_lt several
      obtain ⟨d, member⟩ := CharSet.isEmpty_eq_false_iff.mp (CharSet.isEmpty_eq_size.mpr positive)
      exact every_leaf rfl ⟨d, (CharSet.contains_freeze _ _).trans member⟩
    · exact every_leaf rfl trivial
  · exact every_leaf rfl trivial

private theorem allows_of_namedProperty {ctx : Escape.Context} {start after stop : Cursor}
    {name : List Char} {negated : Bool} {leaf : Pattern}
    (read : Escape.namedProperty ctx start after name negated = .ok (leaf, stop)) :
    leaf.Every AllowsSome := by
  unfold Escape.namedProperty at read
  split at read
  · cases read
  · split at read
    · cases read
    · rename_i made
      cases read
      exact Settings.every_of_classPattern made

private theorem allows_of_propertyClass {ctx : Escape.Context} {start here after : Cursor}
    {negated : Bool} {leaf : Pattern}
    (read : Escape.propertyClass ctx start here negated = .ok (leaf, after)) : leaf.Every AllowsSome := by
  unfold Escape.propertyClass at read
  split at read
  · cases read
  · dsimp only at read
    split at read
    · cases read
    · exact allows_of_namedProperty read
  · exact allows_of_namedProperty read

private theorem allows_of_hexLeaf {ctx : Escape.Context} {start here after : Cursor} {count : Nat}
    {leaf : Pattern} (read : Escape.hexLeaf ctx start here count = .ok (leaf, after)) :
    leaf.Every AllowsSome := by
  unfold Escape.hexLeaf at read
  split at read
  · cases read
  · cases read
    exact Settings.every_charPattern _ _ _

private theorem allows_of_perlClass {ctx : Escape.Context} {start here after : Cursor}
    {holds : Char → Bool} {negated : Bool} {leaf : Pattern}
    (read : Escape.perlClass ctx start here holds negated = .ok (leaf, after)) :
    leaf.Every AllowsSome := by
  unfold Escape.perlClass at read
  split at read
  · cases read
  · rename_i made
    cases read
    exact Settings.every_of_classPattern made

private theorem allows_of_single {ctx : Escape.Context} {start here after : Cursor} {c : Char}
    {leaf : Pattern} (read : Escape.single ctx start here c = .ok (leaf, after)) :
    leaf.Every AllowsSome := by
  unfold Escape.single at read
  split at read
  · cases read
    exact Settings.every_charPattern _ _ _
  · split at read
    · cases read
      exact Settings.every_charPattern _ _ _
    · cases read
      exact every_leaf rfl trivial
    · cases read

theorem Escape.allows_of_read {ctx : Context} {start here after : Cursor} {leaf : Pattern}
    (read' : read ctx start here = .ok (leaf, after)) : leaf.Every AllowsSome := by
  unfold read at read'
  split at read'
  · cases read'
  · dsimp only at read'
    split at read'
    case h_1 | h_2 => exact allows_of_propertyClass read'
    case h_3 | h_4 | h_5 => exact allows_of_hexLeaf read'
    case h_6 | h_7 | h_8 | h_9 | h_10 | h_11 => exact allows_of_perlClass read'
    case h_12 | h_13 | h_14 => cases read'
    case h_15 =>
      split at read'
      · unfold backreference at read'
        dsimp only at read'
        split at read' <;> cases read'
        exact every_leaf rfl trivial
      · exact allows_of_single read'

theorem ClassSet.allows_of_read {ctx : Escape.Context} {start after : Cursor} {leaf : Pattern}
    (read' : read ctx start = .ok (leaf, after)) : leaf.Every AllowsSome := by
  obtain ⟨negated, items, -, -, built⟩ := spells_of_read read'
  unfold build at built
  split at built
  · cases built
  · exact Settings.every_of_classPattern built

/-- A class allows some character, or it is a dot where there is nothing but the line feed. -/
def Pattern.AllowsOrDot (s : Settings) (p : Pattern) : Prop :=
  p.AllowsSome ∨ s.domain = .lineFeed ∧ p = s.dotPattern {}

theorem Settings.not_allows_dotPattern {s : Settings} (alone : s.domain = .lineFeed) :
    ¬(s.dotPattern {}).AllowsSome := by
  rintro ⟨c, allowed⟩
  rw [CharClass.contains_of, Bool.and_eq_true] at allowed
  obtain ⟨inside, outside⟩ := allowed
  simp only [Bool.false_eq_true, ↓reduceIte, domain_setOf] at inside outside
  have newline : c = '\n' := by
    rw [alone] at inside
    have bounds := Universe.contains_iff.mp inside
    exact Char.toNat_inj.mp (Nat.le_antisymm bounds.2 bounds.1)
  have excluded : (s.setOf ['\n']).contains c = true := (s.contains_setOf _ _).mpr ⟨inside, by simp [newline]⟩
  rw [excluded] at outside
  cases outside

theorem Settings.allowsOrDot_dotPattern (s : Settings) (flags : Flags) :
    (s.dotPattern flags).AllowsOrDot s := by
  unfold Pattern.AllowsOrDot
  by_cases everything : flags.dotNewLine = true
  · refine .inl ⟨s.domain.first, ?_⟩
    simp [everything, CharClass.contains_of, Universe.contains_first]
  · have same : s.dotPattern flags = s.dotPattern {} := by
      simp only [dotPattern, everything, Bool.false_eq_true]
    by_cases alone : s.domain = .lineFeed
    · exact .inr ⟨alone, same⟩
    · obtain ⟨c, inside, other⟩ := Universe.exists_ne_newline alone
      refine .inl ⟨c, ?_⟩
      have absent : (s.setOf ['\n']).contains c = false :=
        Bool.eq_false_iff.mpr fun member => other (by simpa using ((s.contains_setOf _ _).mp member).2)
      simp [everything, CharClass.contains_of, inside, absent]

/-! ### Runs -/

/-- Only a class is required to allow anything. -/
theorem Pattern.gathers_allowsOrDot (s : Settings) : Gathers (AllowsOrDot s) where
  joined _ _ := .inl trivial
  inner := by
    intro p notLeaf
    cases p with
    | literal | oneOf | anchor | backreference => cases notLeaf
    | sequence | alternation | repetition | group => exact .inl trivial

namespace Parser

variable {s : Settings} {st : State} {c : Char}

private theorem allowsOrDot_of_leaf {leaf : Pattern} {after : Cursor} (read : ReadsLeaf s st c leaf after) :
    leaf.Every (Pattern.AllowsOrDot s) := by
  cases read with
  | bracketed read => exact (ClassSet.allows_of_read read).imp fun _ => .inl
  | escape read => exact (Escape.allows_of_read read).imp fun _ => .inl
  | dot => exact every_leaf rfl (s.allowsOrDot_dotPattern _)
  | anchor => exact every_leaf rfl (.inl trivial)
  | char => exact (s.every_charPattern _ _).imp fun _ => .inl

end Parser

namespace Settings

theorem allowsOrDot_of_parse {s : Settings} {text : String} {tree : Pattern}
    (parsed : s.parse text = .ok tree) : tree.Every (Pattern.AllowsOrDot s) := by
  apply @Parser.every_of_parse s _ (fun _ => True) _ _ (Pattern.gathers_allowsOrDot s) _ _ trivial parsed
  · exact fun _ _ _ _ _ _ _ => trivial
  · exact fun _ _ _ _ _ => Parser.allowsOrDot_of_leaf

/-- **Every class of a tree that was read allows some character, unless it is a dot over the line feed
alone**; then it allows nothing. So, but for such a dot, no draw ends in a state that cannot be, and that
holds of every confounded tree. -/
theorem allows_of_parse {s : Settings} {text : String} {tree : Pattern}
    (parsed : s.parse text = .ok tree) :
    (tree.Every AllowsSome ↔ (s.domain = .lineFeed → tree.Every (· ≠ s.dotPattern {}))) ∧
      ∀ p, p = tree ∧ tree.Every AllowsSome ∨ tree.confound? = some p →
        p.Every AllowsSome ∧
          ∀ (cap : UInt32) (source : Source) (misuse : Misuse),
            (p.emit cap source).1 ≠ .error (.illegalState misuse) := by
  obtain ⟨isRead, ⟨ledger, recorded⟩, -⟩ := isRead_of_parse parsed
  have allowsOrDot := allowsOrDot_of_parse parsed
  constructor
  · constructor
    · rintro allows alone node visited same
      exact not_allows_dotPattern alone (same ▸ allows node visited)
    · intro noDot node visited
      rcases allowsOrDot node visited with allows | ⟨alone, same⟩
      · exact allows
      · exact absurd same (noDot alone node visited)
  · intro p same
    obtain ⟨isRead', allows', recorded'⟩ : p.Every (Pattern.IsRead s) ∧ p.Every AllowsSome ∧
        ({} : Ledger).recordAll p.marks = some ledger := by
      rcases same with ⟨rfl, allows⟩ | confounded
      · exact ⟨isRead, allows, recorded⟩
      · obtain ⟨-, rfl⟩ := Pattern.confound?_eq_some.mp confounded
        exact ⟨Pattern.every_confounded Pattern.isRead_confounded isRead,
          Pattern.every_confounded (fun q _ => Pattern.allowsSome_confounded q) isRead,
          by rwa [Pattern.marks_confounded]⟩
    refine ⟨allows', fun cap source misuse failed => ?_⟩
    obtain ⟨drawn, draws⟩ | ⟨index, refused, -⟩ :=
      Pattern.emit_of_recordAll (drawable_of_isRead isRead' allows') recorded' cap source
    · rw [draws] at failed
      cases failed
    · rw [refused] at failed
      cases failed

/-- Reading over the line feed alone. -/
def lineFeedOnly : Settings := { domain := .lineFeed }

private theorem parse_dot (domain : Universe) :
    ({ domain } : Settings).parse "." = .ok (({ domain } : Settings).dotPattern {}) := by
  have reads : Parser.run { domain } (.initial { domain } ".".toList) =
      .ok { here := ⟨1, []⟩, flags := {}, items := [({ domain } : Settings).dotPattern {}] } := by
    refine (Parser.run_of_step rfl rfl).trans ?_
    exact Parser.run_of_end rfl
  unfold parse
  rw [reads]
  rfl

/-- A dot over the line feed alone is read, and drawing from it fails; its complement gives the line feed.
Over the seven-bit characters the dot is as it should be. -/
theorem allows_of_parse_dot :
    (lineFeedOnly.parse "." = .ok (lineFeedOnly.dotPattern {}) ∧
      ¬(lineFeedOnly.dotPattern {}).Every AllowsSome ∧
      ((lineFeedOnly.dotPattern {}).emit 10 (.scripted [0] 0)).1 = .error (.illegalState .emptyClass) ∧
      ∃ near, (lineFeedOnly.dotPattern {}).confound? = some near ∧ near.Every AllowsSome) ∧
    (({} : Settings).parse "." = .ok (({} : Settings).dotPattern {}) ∧
      (({} : Settings).dotPattern {}).Every AllowsSome ∧
      ∀ cap source misuse,
        ((({} : Settings).dotPattern {}).emit cap source).1 ≠ .error (.illegalState misuse)) := by
  have parsed := parse_dot .lineFeed
  have parsed' := parse_dot .ascii
  obtain ⟨allows, draws⟩ := allows_of_parse parsed
  obtain ⟨allows', draws'⟩ := allows_of_parse parsed'
  have dot : ¬(lineFeedOnly.dotPattern {}).Every AllowsSome := fun every =>
    allows.mp every rfl (0, lineFeedOnly.dotPattern {}) List.mem_cons_self rfl
  have near : (lineFeedOnly.dotPattern {}).confound? = some (lineFeedOnly.dotPattern {}).confounded := rfl
  have every' := allows'.mpr (fun same => absurd same (by decide))
  exact ⟨⟨parsed, dot, rfl, _, near, (draws _ (.inr near)).1⟩, parsed', every',
    (draws' _ (.inl ⟨rfl, every'⟩)).2⟩

end Settings

end PatternForge
