import PatternForge.Proofs.Confounding.Walk
import PatternForge.Proofs.Emission.Language
import PatternForge.Proofs.Reading.Leaves

/-!
Patterns without choices of shape. Where no branch and no number of repetitions is left to chance,
every text of a pattern is cut into the same leaves at the same offsets, and so is every text of the
confounded pattern. A leaf that confounding changes then sets the two apart at its own offset
(`confounded_apart`), whatever is drawn for the other leaves.
-/
namespace PatternForge

/-- A node whose text has one shape: no branches, and one number of repetitions that is not zero. -/
def Pattern.IsRigid : Pattern → Prop
  | .alternation _ => False
  | .repetition bounds _ => bounds.most = some bounds.least ∧ 1 ≤ bounds.least
  | _ => True

/-- A pattern all of whose texts have the same shape. -/
def Pattern.FixedShape (p : Pattern) : Prop := p.Every Pattern.IsRigid

namespace Pattern

/-- Every group is bound to texts of the same length, or to none. -/
def Aligned (env env' : Environment) : Prop :=
  ∀ index, (env index).map String.length = (env' index).map String.length

theorem Aligned.bind {env env' : Environment} {text text' : String} (aligned : Aligned env env')
    (same : text.length = text'.length) (index : Nat) :
    Aligned (env.bind index text) (env'.bind index text') := by
  intro i
  unfold Environment.bind
  split
  · simp [same]
  · exact aligned i

/-- Confounding leaves a node alone as it is. -/
def IsKept (p : Pattern) : Prop := p.changesWhenConfounded = false

/-- What two texts, one of a pattern and one of its confounded form, have to do with each other: the
same length, and the same text only if no leaf was changed. -/
def Apart (text text' : String) (kept : Prop) : Prop :=
  text.length = text'.length ∧ (text = text' → kept)

private theorem Apart.append {first first' other other' : String} {kept kept' : Prop}
    (head : Apart first first' kept) (tail : Apart other other' kept') :
    Apart (first ++ other) (first' ++ other') (kept ∧ kept') := by
  refine ⟨by rw [String.length_append, String.length_append, head.1, tail.1], fun same => ?_⟩
  have lists := congrArg String.toList same
  rw [String.toList_append, String.toList_append] at lists
  obtain ⟨left, right⟩ :=
    List.append_inj lists (by rw [String.length_toList, String.length_toList, head.1])
  exact ⟨head.2 (String.toList_inj.mp left), tail.2 (String.toList_inj.mp right)⟩

/-- What confounding a pattern of fixed shape is required to do to its texts. -/
def SetApart (cap : UInt32) (p : Pattern) : Prop :=
  ∀ {env env' after after' : Environment} {text text' : String}, Aligned env env' →
    Produces cap p env text after → Produces cap p.confounded env' text' after' →
      Aligned after after' ∧ Apart text text' (p.Every IsKept)

private theorem setApart_all {cap : UInt32} {items : List Pattern}
    (apart : ∀ item ∈ items, SetApart cap item) {env env' after after' : Environment}
    {text text' : String} (aligned : Aligned env env')
    (inRow : ProducesAll cap items env text after)
    (inRow' : ProducesAll cap (items.map confounded) env' text' after') :
    Aligned after after' ∧ Apart text text' (∀ item ∈ items, item.Every IsKept) := by
  induction items generalizing env env' text text' with
  | nil =>
    cases inRow
    cases inRow'
    exact ⟨aligned, rfl, fun _ => by simp⟩
  | cons item rest ih =>
    cases inRow with
    | cons first others =>
      cases inRow' with
      | cons first' others' =>
        obtain ⟨between, head⟩ := apart item List.mem_cons_self aligned first first'
        obtain ⟨final, tail⟩ :=
          ih (fun q member => apart q (List.mem_cons_of_mem _ member)) between others others'
        have both := head.append tail
        refine ⟨final, both.1, fun same => ?_⟩
        simpa using both.2 same

private theorem length_toString (c : Char) : c.toString.length = 1 := by
  simp [Char.toString]

private theorem apart_oneOf {cap : UInt32} {cls : CharClass} : SetApart cap (.oneOf cls) := by
  intro env env' after after' text text' aligned produced produced'
  cases produced with
  | @oneOf _ _ c allowed =>
    rw [confounded] at produced'
    cases produced' with
    | @oneOf _ _ c' allowed' =>
      refine ⟨aligned, by rw [length_toString, length_toString],
        fun same => every_iff.mpr ⟨?_, by simp [children]⟩⟩
      have equal : c = c' := by simpa [Char.toString] using congrArg String.toList same
      subst equal
      by_cases changed : cls.isConfoundable = true
      · rw [if_pos changed, CharClass.contains_negate_effective, allowed] at allowed'
        simp at allowed'
      · simpa [IsKept, changesWhenConfounded] using changed

private theorem apart_literal {cap : UInt32} {text : String} : SetApart cap (.literal text) := by
  intro env env' after after' text text' aligned produced produced'
  cases produced
  rw [confounded] at produced'
  cases produced'
  refine ⟨aligned, ?_, fun same => every_iff.mpr ⟨?_, by simp [children]⟩⟩
  · simp [Text.counterparts, String.length_toList]
  · simpa [IsKept, changesWhenConfounded] using same.symm

theorem setApart_of_fixedShape (cap : UInt32) {p : Pattern} (fixed : p.FixedShape) :
    SetApart cap p := by
  induction p with
  | literal text => exact apart_literal
  | oneOf cls => exact apart_oneOf
  | anchor kind =>
    intro env env' after after' text text' aligned produced produced'
    cases produced
    rw [confounded] at produced'
    cases produced'
    exact ⟨aligned, rfl, fun _ => every_iff.mpr ⟨rfl, by simp [children]⟩⟩
  | sequence items ih =>
    intro env env' after after' text text' aligned produced produced'
    cases produced with
    | sequence inRow =>
      rw [confounded, confoundedAll_eq_map] at produced'
      cases produced' with
      | sequence inRow' =>
        obtain ⟨final, same, kept⟩ := setApart_all
          (fun item member => ih item member (fixed.below member)) aligned inRow inRow'
        exact ⟨final, same, fun equal => every_iff.mpr ⟨rfl, kept equal⟩⟩
  | alternation branches ih => exact absurd fixed.here id
  | repetition bounds body ih =>
    intro env env' after after' text text' aligned produced produced'
    obtain ⟨most, positive⟩ := fixed.here
    have once : ∀ {n : Nat}, bounds.least.toNat ≤ n → n ≤ mostRepeats bounds cap →
        n = bounds.least.toNat := by
      intro n enough within
      rw [mostRepeats, most] at within
      simp only at within
      omega
    cases produced with
    | repetition enough within inRow =>
      rw [confounded] at produced'
      cases produced' with
      | repetition enough' within' inRow' =>
        obtain rfl := once enough within
        obtain rfl := once enough' within'
        rw [← List.map_replicate] at inRow'
        have apart : SetApart cap body := ih (fixed.below (by simp [children]))
        obtain ⟨final, same, kept⟩ := setApart_all
          (fun item member => List.eq_of_mem_replicate member ▸ apart) aligned inRow inRow'
        refine ⟨final, same, fun equal => every_iff.mpr ⟨rfl, fun child member => ?_⟩⟩
        rw [List.mem_singleton.mp member]
        rw [UInt32.le_iff_toNat_le] at positive
        exact kept equal body (List.mem_replicate.mpr ⟨Nat.ne_of_gt positive, rfl⟩)
  | group index name body ih =>
    intro env env' after after' text text' aligned produced produced'
    cases produced with
    | group inside =>
      rw [confounded] at produced'
      cases produced' with
      | group inside' =>
        obtain ⟨final, same, kept⟩ := ih (fixed.below (by simp [children])) aligned inside inside'
        refine ⟨final.bind same index, same, fun equal => every_iff.mpr ⟨rfl, fun child member => ?_⟩⟩
        rw [List.mem_singleton.mp member]
        exact kept equal
  | backreference index =>
    intro env env' after after' text text' aligned produced produced'
    cases produced with
    | backreference isBound =>
      rw [confounded] at produced'
      cases produced' with
      | backreference isBound' =>
        have lengths := aligned index
        rw [isBound, isBound'] at lengths
        exact ⟨aligned, by simpa using lengths, fun _ => every_iff.mpr ⟨rfl, by simp [children]⟩⟩

/-- **No text of a confounded pattern of fixed shape is a text of the pattern.** -/
theorem confounded_apart {p near : Pattern} (fixed : p.FixedShape)
    (confounded : p.confound? = some near) (cap : UInt32) (source source' : Source)
    (text : String) (drawn : (near.emit cap source).1 = .ok text) :
    (p.emit cap source').1 ≠ .ok text := by
  intro drawn'
  obtain ⟨env, produced⟩ := produces_of_emit drawn'
  obtain ⟨env', produced'⟩ := produces_of_emit drawn
  obtain ⟨⟨node, visited, changes⟩, rfl⟩ := confound?_eq_some.mp confounded
  have kept := (setApart_of_fixedShape cap fixed (fun _ => rfl) produced produced').2.2 rfl
  rw [kept node visited] at changes
  cases changes

/-- A group inside a repetition, and a reference to what it gave last. -/
def repeatedGroup (text : String) : Pattern :=
  .sequence [.repetition { least := 2, most := some 2, greedy := true }
    (.group 1 none (.literal text)), .backreference 1]

theorem confounded_apart_repeatedGroup :
    (repeatedGroup "ab").FixedShape ∧
      (repeatedGroup "ab").confound? = some (repeatedGroup "01") ∧
      ((repeatedGroup "01").emit 10 (.scripted [0] 0)).1 = .ok "010101" ∧
      ((repeatedGroup "ab").emit 10 (.scripted [0] 0)).1 ≠ .ok "010101" := by
  have fixed : (repeatedGroup "ab").FixedShape := by
    simp [FixedShape, Every, repeatedGroup, walk, walkFrom, walkAll, IsRigid]
  have near : (repeatedGroup "ab").confound? = some (repeatedGroup "01") := by rfl
  have drawn : ((repeatedGroup "01").emit 10 (.scripted [0] 0)).1 = .ok "010101" := by rfl
  exact ⟨fixed, near, drawn, confounded_apart fixed near 10 _ _ _ drawn⟩

end Pattern

end PatternForge
