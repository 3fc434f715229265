import Mathlib.Data.List.Forall2
import PatternForge.Proofs.CharSet.Order
import PatternForge.Proofs.Confounding.Walk
import PatternForge.Proofs.Reading.Leaves

/-!
What confounding does to a tree, node by node. `Pattern.Mirrors` relates two trees of one shape whose
leaves are apart wherever they can be: texts at every visible seven-bit character, classes as a whole.
A tree that can be confounded is mirrored by a different tree, and a tree that cannot has no leaf
that could change (`confound_exact`).
-/
namespace PatternForge

/-- The seven-bit characters that can be seen, the space among them. -/
def Text.IsVisible (c : Char) : Prop := ' ' ≤ c ∧ c ≤ '~'

instance (c : Char) : Decidable (Text.IsVisible c) := inferInstanceAs (Decidable (_ ∧ _))

namespace Text

/-- Exactly the visible characters have a counterpart of their own. -/
theorem counterpart_ne_iff {c : Char} : counterpart c ≠ c ↔ IsVisible c := by
  by_cases sevenBit : c.toNat < 128
  · have each : ∀ code : Fin 128,
        counterpart (Char.ofNat code) ≠ Char.ofNat code ↔ IsVisible (Char.ofNat code) := by decide
    simpa using each ⟨c.toNat, sevenBit⟩
  · -- all four ranges end before the first character of more than seven bits
    have beyond : ∀ last : Char, last.toNat < 128 → ¬c ≤ last := by
      intro last low within
      have codes : c.toNat ≤ last.toNat := within
      omega
    have stays : counterpart c = c := by
      unfold counterpart
      simp only [beyond '9' (by decide), beyond 'z' (by decide), beyond 'Z' (by decide),
        beyond '~' (by decide), and_false, if_false]
    constructor
    · intro changed
      exact absurd stays changed
    · intro visible
      exact absurd visible.2 (beyond '~' (by decide))

/-- Two texts of one length that differ exactly where the first has a visible character. -/
def Opposes (text text' : String) : Prop :=
  List.Forall₂ (fun c c' => c' ≠ c ↔ IsVisible c) text.toList text'.toList

theorem opposes_counterparts (text : String) : Opposes text (counterparts text) := by
  unfold Opposes counterparts
  rw [String.toList_ofList, List.forall₂_map_right_iff, List.forall₂_same]
  intro c _
  exact counterpart_ne_iff

/-- A text stays as it is exactly if none of its characters is visible. -/
theorem counterparts_eq_iff {text : String} :
    counterparts text = text ↔ ∀ c ∈ text.toList, ¬IsVisible c := by
  have lists : counterparts text = text ↔ text.toList.map counterpart = text.toList.map id := by
    rw [← String.toList_inj, counterparts, String.toList_ofList, List.map_id]
  rw [lists, List.map_inj_left]
  exact forall₂_congr fun c _ => (not_iff_comm.mp counterpart_ne_iff).symm

end Text

namespace CharClass

/-- Whether a class allows every character of its universe. -/
def AllowsAll (cls : CharClass) : Prop :=
  ∀ c, cls.set.domain.contains c = true → cls.effective.contains c = true

/-- A class over the same universe that allows what another one does not. A class that allows
everything has no such class beside it, and is its own. -/
def Opposes (cls cls' : CharClass) : Prop :=
  cls'.set.domain = cls.set.domain ∧ (cls.AllowsAll → cls' = cls) ∧
    (¬cls.AllowsAll → cls'.effective = cls.effective.complement)

theorem effective_negate (cls : CharClass) : cls.negate.effective = cls.effective.complement := by
  apply CharSet.ext
  · rw [domain_effective, CharSet.domain_complement, domain_effective]
    rfl
  · unfold effective
    split <;> rfl
  · intro c
    rw [contains_negate_effective, CharSet.contains_complement, domain_effective]

/-- Exactly the classes that leave something out can be confounded. -/
theorem isConfoundable_iff {cls : CharClass} : cls.isConfoundable = true ↔ ¬cls.AllowsAll := by
  unfold isConfoundable AllowsAll
  rw [Bool.not_eq_true', CharSet.isEmpty_eq_false_iff]
  push Not
  refine exists_congr fun c => ?_
  rw [contains_negate_effective, Bool.and_eq_true, Bool.not_eq_true', ne_eq, Bool.not_eq_true]

theorem negate_ne (cls : CharClass) : cls.negate ≠ cls := by
  intro same
  have signs : (!cls.negated) = cls.negated := congrArg CharClass.negated same
  simp at signs

theorem opposes_confounded (cls : CharClass) :
    cls.Opposes (if cls.isConfoundable then cls.negate else cls) := by
  by_cases changes : cls.isConfoundable = true
  · rw [if_pos changes]
    have leavesOut := isConfoundable_iff.mp changes
    exact ⟨rfl, fun all => absurd all leavesOut, fun _ => effective_negate cls⟩
  · rw [if_neg changes]
    have all : cls.AllowsAll := not_not.mp fun leavesOut => changes (isConfoundable_iff.mpr leavesOut)
    exact ⟨rfl, fun _ => rfl, fun leavesOut => absurd all leavesOut⟩

end CharClass

namespace Pattern

/-- The second of two trees has the nodes of the first, in the same order and with everything that
stands in them, but for texts and classes: these oppose the ones of the first tree. -/
inductive Mirrors : Pattern → Pattern → Prop where
  | literal {text text' : String} (opposes : Text.Opposes text text') :
    Mirrors (.literal text) (.literal text')
  | oneOf {cls cls' : CharClass} (opposes : cls.Opposes cls') : Mirrors (.oneOf cls) (.oneOf cls')
  | anchor (kind : Anchor) : Mirrors (.anchor kind) (.anchor kind)
  | sequence {items items' : List Pattern} (each : List.Forall₂ Mirrors items items') :
    Mirrors (.sequence items) (.sequence items')
  | alternation {branches branches' : List Pattern} (each : List.Forall₂ Mirrors branches branches') :
    Mirrors (.alternation branches) (.alternation branches')
  | repetition (bounds : Bounds) {body body' : Pattern} (inside : Mirrors body body') :
    Mirrors (.repetition bounds body) (.repetition bounds body')
  | group (index : Nat) (name : Option String) {body body' : Pattern} (inside : Mirrors body body') :
    Mirrors (.group index name body) (.group index name body')
  | backreference (index : Nat) : Mirrors (.backreference index) (.backreference index)

/-- Two lists of trees mirror each other if each tree of the first is mirrored by its image. -/
private theorem mirrors_all {ps : List Pattern} (each : ∀ p ∈ ps, Mirrors p p.confounded) :
    List.Forall₂ Mirrors ps (confoundedAll ps) := by
  rw [confoundedAll_eq_map, List.forall₂_map_right_iff, List.forall₂_same]
  exact each

theorem mirrors_confounded (p : Pattern) : Mirrors p p.confounded := by
  induction p with
  | literal text =>
    rw [confounded]
    exact .literal (Text.opposes_counterparts text)
  | oneOf cls =>
    rw [confounded]
    exact .oneOf cls.opposes_confounded
  | anchor kind =>
    rw [confounded]
    exact .anchor kind
  | sequence items ih =>
    rw [confounded]
    exact .sequence (mirrors_all ih)
  | alternation branches ih =>
    rw [confounded]
    exact .alternation (mirrors_all ih)
  | repetition bounds body ih =>
    rw [confounded]
    exact .repetition bounds ih
  | group index name body ih =>
    rw [confounded]
    exact .group index name ih
  | backreference index =>
    rw [confounded]
    exact .backreference index

/-- A leaf that has no other leaf to stand against it: a class that allows everything, a text without
visible characters. Nodes that produce no text of their own have nothing to change either. -/
def HasNoOpposite : Pattern → Prop
  | .literal text => ∀ c ∈ text.toList, ¬Text.IsVisible c
  | .oneOf cls => cls.AllowsAll
  | _ => True

theorem changesWhenConfounded_iff {p : Pattern} :
    p.changesWhenConfounded = true ↔ ¬p.HasNoOpposite := by
  cases p with
  | literal text =>
    rw [changesWhenConfounded, bne_iff_ne, HasNoOpposite, ← Text.counterparts_eq_iff]
  | oneOf cls => exact CharClass.isConfoundable_iff
  | anchor _ | sequence _ | alternation _ | repetition _ _ | group _ _ _ | backreference _ =>
    simp [changesWhenConfounded, HasNoOpposite]

/-- A node that changes by itself is not its own image. -/
theorem confounded_ne {p : Pattern} (changes : p.changesWhenConfounded = true) : p.confounded ≠ p := by
  intro same
  cases p with
  | literal text =>
    rw [confounded, literal.injEq] at same
    rw [changesWhenConfounded, bne_iff_ne] at changes
    exact changes same
  | oneOf cls =>
    rw [changesWhenConfounded] at changes
    rw [confounded, if_pos changes, oneOf.injEq] at same
    exact cls.negate_ne same
  | anchor _ | sequence _ | alternation _ | repetition _ _ | group _ _ _ | backreference _ =>
    cases changes

/-- A change in one node is a change of the tree: the image is walked node for node. -/
theorem confounded_ne_of_node {p : Pattern} {node : Nat × Pattern} (visited : node ∈ p.walk)
    (changes : node.2.changesWhenConfounded = true) : p.confounded ≠ p := by
  intro same
  have walks : p.walk.map (fun node => (node.1, node.2.confounded)) = p.walk.map id := by
    rw [List.map_id, walk, ← walkFrom_confounded, same]
  have kept := List.map_inj_left.mp walks node visited
  exact confounded_ne changes (congrArg Prod.snd kept)

/-- **Confounding changes exactly the leaves that can be changed, and nothing else of a tree.** -/
theorem confound_exact (p : Pattern) :
    (p.confound? = none ↔ p.Every HasNoOpposite) ∧
      ∀ near, p.confound? = some near → near ≠ p ∧ p.Mirrors near := by
  rw [confound?_eq]
  by_cases changes : p.walk.any (fun node => node.2.changesWhenConfounded) = true
  · rw [if_pos changes]
    obtain ⟨node, visited, changed⟩ := List.any_eq_true.mp changes
    constructor
    · constructor
      · intro none
        cases none
      · intro every
        exact absurd (every node visited) (changesWhenConfounded_iff.mp changed)
    · rintro near ⟨rfl⟩
      exact ⟨confounded_ne_of_node visited changed, mirrors_confounded p⟩
  · rw [if_neg changes]
    constructor
    · refine iff_of_true rfl fun node visited => not_not.mp fun changed => ?_
      exact changes (List.any_eq_true.mpr ⟨node, visited, changesWhenConfounded_iff.mpr changed⟩)
    · intro near some
      cases some

/-- A line of a record: a text whose last character is invisible, any character, then digits. -/
def recordLine (text : String) (digits : Bool) : Pattern :=
  .sequence [.literal text, .oneOf (.of (.empty .ascii) true),
    .repetition { least := 1, most := none, greedy := true }
      (.oneOf (.of (.ofPredicate .ascii Char.isDigit) !digits))]

theorem confound_exact_recordLine :
    (recordLine "id:\n" true).confound? = some (recordLine "83g\n" false) ∧
      recordLine "83g\n" false ≠ recordLine "id:\n" true ∧
      (recordLine "id:\n" true).Mirrors (recordLine "83g\n" false) := by
  have near : (recordLine "id:\n" true).confound? = some (recordLine "83g\n" false) := by rfl
  exact ⟨near, (confound_exact _).2 _ near⟩

end Pattern

end PatternForge
