import Mathlib.Data.List.Forall2
import PatternForge.Proofs.Pattern.ClassMap
import PatternForge.Proofs.Reading.TreeFacts

/-!
The same constructs over a smaller universe. Where case is minded, the universe matters to classes only. A
class over the smaller universe, if it is one over both, has the characters that it has over the larger one,
as far as they are in the smaller one (`CharClass.within`): that passes through the operations on sets
(`CharSet.Narrowed`) and from the items of a class to the class.
-/
namespace PatternForge

/-! ### Sets -/

namespace CharSet

/-- The members that lie in a universe, as a set over that universe. -/
def within (u : Universe) (set : CharSet) : CharSet := .ofPredicate u set.contains

/-- A set over a universe has those members of another set that lie in the universe. -/
structure Narrowed (u : Universe) (set set' : CharSet) : Prop where
  domain : set'.domain = u
  contains : ∀ c, set'.contains c = (u.contains c && set.contains c)

variable {u wide : Universe} {set set' : CharSet}

theorem narrowed_within (u : Universe) (set : CharSet) : Narrowed u set (set.within u) :=
  ⟨rfl, contains_ofPredicate u _⟩

/-- There is one such set, up to its being frozen. -/
theorem Narrowed.freeze_eq (narrowed : Narrowed u set set') : set'.freeze = set.freeze.within u := by
  refine ext narrowed.domain rfl fun c => ?_
  rw [contains_freeze, narrowed.contains, within, contains_ofPredicate, contains_freeze]

theorem narrowed_ofPredicate (inside : ∀ c, u.contains c = true → wide.contains c = true)
    (holds : Char → Bool) : Narrowed u (.ofPredicate wide holds) (.ofPredicate u holds) := by
  refine ⟨rfl, fun c => ?_⟩
  rw [contains_ofPredicate, contains_ofPredicate]
  by_cases known : u.contains c = true
  · rw [inside c known, Bool.true_and]
  · simp [known]

theorem Narrowed.complement (narrowed : Narrowed u set set')
    (inside : ∀ c, u.contains c = true → set.domain.contains c = true) :
    Narrowed u set.complement set'.complement := by
  refine ⟨narrowed.domain, fun c => ?_⟩
  rw [contains_complement, contains_complement, narrowed.contains, narrowed.domain]
  by_cases known : u.contains c = true
  · simp [known, inside c known]
  · simp [known]

theorem Narrowed.insertRange {a b : Char} {more more' : CharSet} (narrowed : Narrowed u set set')
    (added : set.insertRange a b = .ok more) (added' : set'.insertRange a b = .ok more') :
    Narrowed u more more' := by
  have ordered {lo hi : Char} (ordered : lo ≤ hi) (added : set.insertRange lo hi = .ok more)
      (added' : set'.insertRange lo hi = .ok more') : Narrowed u more more' := by
    refine ⟨(domain_of_insertRange added').trans narrowed.domain, fun c => ?_⟩
    have known (present : more'.contains c = true) : u.contains c = true := by
      rw [← narrowed.domain, ← domain_of_insertRange added']
      exact contains_domain present
    rw [contains_insertRange ordered added]
    rw [contains_insertRange ordered added', narrowed.contains] at known ⊢
    cases isKnown : u.contains c with
    | true => simp
    | false => simpa [isKnown] using known
  rcases Char.le_total a b with upwards | downwards
  · exact ordered upwards added added'
  · rw [insertRange_swap] at added added'
    exact ordered downwards added added'

theorem Narrowed.insertAll {other other' more more' : CharSet} (narrowed : Narrowed u set set')
    (narrowed' : Narrowed u other other') (added : set.insertAll other = .ok more)
    (added' : set'.insertAll other' = .ok more') : Narrowed u more more' := by
  refine ⟨(domain_of_insertAll added').1.trans narrowed.domain, fun c => ?_⟩
  rw [contains_insertAll added', contains_insertAll added, narrowed.contains, narrowed'.contains,
    Bool.and_or_distrib_left]

end CharSet

namespace CharClass

/-- The class with the characters of a universe only. -/
def within (u : Universe) (cls : CharClass) : CharClass := { cls with set := cls.set.within u }

variable {u : Universe}

theorem of_narrowed {set set' : CharSet} (narrowed : CharSet.Narrowed u set set') (negated : Bool) :
    of set' negated = (of set negated).within u := by
  simp only [of, within, narrowed.freeze_eq]

theorem narrowed_effective {cls : CharClass}
    (inside : ∀ c, u.contains c = true → cls.set.domain.contains c = true) :
    CharSet.Narrowed u cls.effective (cls.within u).effective := by
  have narrowed := CharSet.narrowed_within u cls.set
  unfold effective within
  cases cls.negated with
  | true => exact narrowed.complement inside
  | false => exact narrowed

end CharClass

/-! ### Readers -/

/-- The same settings over another universe. -/
def Settings.over (s : Settings) (u : Universe) : Settings := { s with domain := u }

/-- What an escape sequence or a class depends on, over another universe. -/
def Escape.Context.over (ctx : Escape.Context) (u : Universe) : Escape.Context :=
  { ctx with settings := ctx.settings.over u }

/-- The pattern with the characters of a universe only in its classes. -/
def Pattern.within (u : Universe) (p : Pattern) : Pattern := p.mapClasses (.within u)

/-- Where case is minded, a character is itself over every universe. -/
theorem Settings.charPattern_over {s : Settings} {u : Universe} {flags : Flags}
    (minding : flags.ignoreCase = false) (c : Char) :
    (s.over u).charPattern flags c = (s.charPattern flags c).within u := by
  simp only [charPattern, minding, Bool.false_eq_true, ↓reduceIte]
  rfl

/-- Where two readers both find something, what they find belongs together, and they are at the same place
behind it. -/
def Agree {α : Type} (same : α → α → Prop) (x y : Except Failure (α × Cursor)) : Prop :=
  ∀ found found', x = .ok found → y = .ok found' → same found.1 found'.1 ∧ found'.2 = found.2

theorem Agree.of_error {α : Type} {same : α → α → Prop} {x y : Except Failure (α × Cursor)}
    {failure : Failure} (failed : x = .error failure) : Agree same x y := by
  intro found _ read
  rw [failed] at read
  cases read

theorem Agree.of_ok {α : Type} {same : α → α → Prop} {first second : α} (belongs : same first second)
    (after : Cursor) : Agree same (.ok (first, after)) (.ok (second, after)) := by
  rintro _ _ ⟨⟩ ⟨⟩
  exact ⟨belongs, rfl⟩

section Leaves
variable {u : Universe} {ctx : Escape.Context} {start here after : Cursor}

/-- A leaf over the smaller universe. -/
structure Narrows (u : Universe) (leaf leaf' : Pattern) : Prop where
  same : leaf' = leaf.within u

theorem narrows_classPattern {set set' : CharSet} (narrowed : CharSet.Narrowed u set set')
    {negated : Bool} {leaf leaf' : Pattern}
    (made : Settings.classPattern start after set negated = .ok leaf)
    (made' : Settings.classPattern start after set' negated = .ok leaf') : Narrows u leaf leaf' := by
  refine ⟨?_⟩
  rw [(Settings.classPattern_eq_ok.mp made).2, (Settings.classPattern_eq_ok.mp made').2,
    CharClass.of_narrowed narrowed]
  rfl

/-- A leaf that is no class is the same leaf. -/
theorem agree_leaf {leaf : Pattern} (plain : leaf.within u = leaf) (after : Cursor) :
    Agree (Narrows u) (.ok (leaf, after)) (.ok (leaf, after)) :=
  .of_ok ⟨plain.symm⟩ after

namespace Escape

private theorem agree_backreference (digit : Char) :
    Agree (Narrows u) (backreference ctx start here digit)
      (backreference (ctx.over u) start here digit) := by
  by_cases isClosed : ctx.closed.contains (digit.toNat - '0'.toNat) = true
  · simp only [backreference, Context.over, isClosed, ↓reduceIte]
    refine agree_leaf ?_ _
    rfl
  · refine .of_error (if_neg isClosed)

variable (inside : ∀ c, u.contains c = true → ctx.settings.domain.contains c = true)
include inside

private theorem agree_namedProperty (name : List Char) (negated : Bool) :
    Agree (Narrows u) (namedProperty ctx start after name negated)
      (namedProperty (ctx.over u) start after name negated) := by
  intro found found' read read'
  unfold namedProperty at read read'
  have same : (ctx.over u).settings.data.property (ctx.over u).flags.ignoreCase (String.ofList name) =
      ctx.settings.data.property ctx.flags.ignoreCase (String.ofList name) := rfl
  rw [same] at read'
  cases known : ctx.settings.data.property ctx.flags.ignoreCase (String.ofList name) with
  | none => rw [known] at read; cases read
  | some holds =>
    simp only [known] at read read'
    split at read
    · cases read
    · rename_i made
      split at read'
      · cases read'
      · rename_i made'
        cases read
        cases read'
        exact ⟨narrows_classPattern (CharSet.narrowed_ofPredicate inside holds) made made', rfl⟩

private theorem agree_propertyClass (negated : Bool) :
    Agree (Narrows u) (propertyClass ctx start here negated)
      (propertyClass (ctx.over u) start here negated) := by
  unfold propertyClass
  split
  · exact .of_error rfl
  · dsimp only
    split
    · exact .of_error rfl
    · exact agree_namedProperty inside _ negated
  · exact agree_namedProperty inside _ negated

private theorem agree_perlClass (holds : Char → Bool) (negated : Bool) :
    Agree (Narrows u) (perlClass ctx start here holds negated)
      (perlClass (ctx.over u) start here holds negated) := by
  intro found found' read read'
  unfold perlClass at read read'
  split at read
  · cases read
  · rename_i made
    split at read'
    · cases read'
    · rename_i made'
      cases read
      cases read'
      exact ⟨narrows_classPattern (CharSet.narrowed_ofPredicate inside holds) made made', rfl⟩

end Escape

end Leaves

section Minding
variable {u : Universe} {ctx : Escape.Context} {start here : Cursor}
  (inside : ∀ c, u.contains c = true → ctx.settings.domain.contains c = true)
  (minding : ctx.flags.ignoreCase = false)
include minding

namespace Escape

private theorem agree_hexLeaf (count : Nat) :
    Agree (Narrows u) (hexLeaf ctx start here count) (hexLeaf (ctx.over u) start here count) := by
  unfold hexLeaf
  split
  · exact .of_error rfl
  · exact .of_ok ⟨Settings.charPattern_over minding _⟩ _

private theorem agree_single (c : Char) :
    Agree (Narrows u) (single ctx start here c) (single (ctx.over u) start here c) := by
  unfold single
  split
  · exact .of_ok ⟨Settings.charPattern_over minding _⟩ _
  · split
    · exact .of_ok ⟨Settings.charPattern_over minding _⟩ _
    · refine agree_leaf ?_ _
      rfl
    · exact .of_error rfl

include inside in
/-- **An escape sequence** over the smaller universe. -/
theorem agree_read : Agree (Narrows u) (read ctx start here) (read (ctx.over u) start here) := by
  unfold read
  split
  · exact .of_error rfl
  · dsimp only
    split
    case h_1 | h_2 => exact agree_propertyClass inside _
    case h_3 | h_4 | h_5 => exact agree_hexLeaf minding _
    case h_6 | h_7 | h_8 | h_9 | h_10 | h_11 => exact agree_perlClass inside _ _
    case h_12 | h_13 | h_14 => exact .of_error rfl
    case h_15 =>
      split
      · exact agree_backreference _
      · exact agree_single minding _

end Escape

namespace ClassSet

/-- An item of a class over the smaller universe. -/
inductive NarrowsItem (u : Universe) : Item → Item → Prop
  | range (lo hi : Char) : NarrowsItem u (.range lo hi) (.range lo hi)
  | set {members members' : CharSet} (narrowed : CharSet.Narrowed u members members') :
    NarrowsItem u (.set members) (.set members')

omit minding in
include inside in
/-- A POSIX class that is found over the larger universe is found over the smaller one. -/
private theorem posix_over {set : CharSet} {after : Cursor} (found : posix? ctx here = some (set, after)) :
    ∃ set', posix? (ctx.over u) here = some (set', after) ∧ CharSet.Narrowed u set set' := by
  unfold posix? at found ⊢
  split at found
  · cases found
  · dsimp only at found ⊢
    split at found
    · rename_i stop ranges _ _
      cases found
      have table : CharSet.Narrowed u (setOfRanges ctx.settings ranges)
          (setOfRanges (ctx.over u).settings ranges) := CharSet.narrowed_ofPredicate inside _
      refine ⟨_, rfl, ?_⟩
      split
      · exact table.complement inside
      · exact table
    · cases found

include inside in
private theorem agree_primitive :
    Agree (Narrows u) (primitive ctx here) (primitive (ctx.over u) here) := by
  unfold primitive
  split
  · exact .of_error rfl
  · exact Escape.agree_read inside minding
  · refine agree_leaf ?_ _
    rfl

omit minding in
/-- A class that is read inside a class is one over the same universe. -/
private theorem domain_of_primitive {cls : CharClass} {after : Cursor}
    (read : primitive ctx here = .ok (.oneOf cls, after)) : cls.set.domain = ctx.settings.domain := by
  unfold primitive at read
  split at read
  · cases read
  · exact (Escape.every_isRead_of_read read).here.1
  · cases read

omit minding in
include inside in
private theorem narrows_asItem {position : Nat} {after : Cursor} {leaf leaf' : Pattern} {one one' : Item}
    (isFirst : primitive ctx here = .ok (leaf, after)) (narrows : Narrows u leaf leaf')
    (single : asItem position leaf = .ok one) (single' : asItem position leaf' = .ok one') :
    NarrowsItem u one one' := by
  obtain ⟨rfl⟩ := narrows
  cases leaf with
  | oneOf cls =>
    cases single
    cases single'
    exact .set (CharClass.narrowed_effective (domain_of_primitive isFirst ▸ inside))
  | literal text =>
    have same := single.symm.trans single'
    cases same
    obtain ⟨c, -, rfl⟩ := map_eq_ok single
    exact .range c c
  | anchor _ | sequence _ | alternation _ | repetition _ _ | group _ _ _ | backreference _ => cases single

omit minding in
private theorem asChar_within (position : Nat) (leaf : Pattern) :
    asChar position (leaf.within u) = asChar position leaf := by
  cases leaf <;> rfl

omit minding in
/-- What is read alone belongs together with the place behind it. -/
private theorem agree_single {α : Type} {same : α → α → Prop} {x y : Except Failure α} (after : Cursor)
    (each : ∀ one one', x = .ok one → y = .ok one' → same one one') :
    Agree same ((fun one => (one, after)) <$> x) ((fun one => (one, after)) <$> y) := by
  intro found found' read read'
  obtain ⟨one, single, rfl⟩ := map_eq_ok read
  obtain ⟨one', single', rfl⟩ := map_eq_ok read'
  exact ⟨each one one' single single', rfl⟩

include inside in
private theorem agree_range {first first' : Pattern} (narrows : Narrows u first first') (position : Nat) :
    Agree (NarrowsItem u)
      (match primitive ctx here with
        | .error failure => .error failure
        | .ok (second, stop) => (fun range => (range, stop)) <$> asRange position first second)
      (match primitive (ctx.over u) here with
        | .error failure => .error failure
        | .ok (second, stop) => (fun range => (range, stop)) <$> asRange position first' second) := by
  obtain ⟨rfl⟩ := narrows
  intro found found' read read'
  cases isSecond : primitive ctx here with
  | error failure => rw [isSecond] at read; cases read
  | ok second =>
    cases isSecond' : primitive (ctx.over u) here with
    | error failure => rw [isSecond'] at read'; cases read'
    | ok second' =>
      obtain ⟨⟨same⟩, stop⟩ := agree_primitive inside minding _ _ isSecond isSecond'
      rw [isSecond] at read
      rw [isSecond'] at read'
      dsimp only at read read'
      rw [stop] at read'
      refine agree_single second.2 (fun one one' range range' => ?_) _ _ read read'
      have equal : asRange position (first.within u) second'.1 = asRange position first second.1 := by
        simp only [asRange, same, asChar_within]
      rw [equal, range] at range'
      cases range'
      obtain ⟨lo, hi, -, -, -, rfl⟩ := asRange_eq_ok.mp range
      exact .range lo hi

include inside in
private theorem agree_item : Agree (NarrowsItem u) (item ctx start here) (item (ctx.over u) start here) := by
  cases isFirst : primitive ctx here with
  | error failure => exact .of_error (by rw [item, isFirst])
  | ok first =>
    cases isFirst' : primitive (ctx.over u) here with
    | error failure =>
      intro _ _ _ read'
      rw [item, isFirst'] at read'
      cases read'
    | ok first' =>
      obtain ⟨first, after⟩ := first
      obtain ⟨first', after'⟩ := first'
      obtain ⟨narrows, rfl⟩ := agree_primitive inside minding _ _ isFirst isFirst'
      have alone : Agree (NarrowsItem u) ((fun single => (single, after')) <$> asItem here.offset first)
          ((fun single => (single, after')) <$> asItem here.offset first') :=
        agree_single after' fun one one' => narrows_asItem inside isFirst narrows
      unfold item
      rw [isFirst, isFirst']
      dsimp only
      split
      · exact .of_error rfl
      · exact .of_error rfl
      · split
        · exact alone
        · exact agree_range inside minding narrows _
      · exact alone

omit minding in
private theorem narrowed_addItems {items items' : List Item} {set set' more more' : CharSet}
    (each : List.Forall₂ (NarrowsItem u) items items') (narrowed : CharSet.Narrowed u set set')
    (added : items.foldlM addItem set = .ok more) (added' : items'.foldlM addItem set' = .ok more') :
    CharSet.Narrowed u more more' := by
  induction each generalizing set set' with
  | nil =>
    cases added
    cases added'
    exact narrowed
  | @cons one one' rest rest' belongs _ ih =>
    rw [List.foldlM_cons] at added added'
    cases first : addItem set one with
    | error failure => rw [first] at added; cases added
    | ok between =>
      cases first' : addItem set' one' with
      | error failure => rw [first'] at added'; cases added'
      | ok between' =>
        rw [first] at added
        rw [first'] at added'
        refine ih ?_ added added'
        cases belongs with
        | range lo hi => exact narrowed.insertRange first first'
        | set members => exact narrowed.insertAll members first first'

private theorem narrows_build {stop : Cursor} {items items' : List Item} {negated : Bool}
    {leaf leaf' : Pattern} (each : List.Forall₂ (NarrowsItem u) items items')
    (built : build ctx start stop negated items = .ok leaf)
    (built' : build (ctx.over u) start stop negated items' = .ok leaf') : Narrows u leaf leaf' := by
  have empty : CharSet.Narrowed u (.builder ctx.settings.domain) (.builder u) := ⟨rfl, by simp⟩
  have minding' : (ctx.over u).flags.ignoreCase = false := minding
  unfold build at built built'
  split at built
  · cases built
  · rename_i set added
    split at built'
    · cases built'
    · rename_i set' added'
      rw [minding] at built
      rw [minding'] at built'
      exact narrows_classPattern (narrowed_addItems each empty added added') built built'

include inside in
/-- The items of a class up to the closing bracket: induction on the run over them. -/
private theorem agree_readItems (negated : Bool) {found found' : List Item}
    (each : List.Forall₂ (NarrowsItem u) found found') :
    Agree (Narrows u) (readItems ctx start negated here found)
      (readItems (ctx.over u) start negated here found') := by
  fun_induction readItems ctx start negated here found generalizing found' with
  | case1 here found none => exact .of_error rfl
  | case2 here found rest set after shown next ih =>
    obtain ⟨set', shown', narrowed⟩ := posix_over inside shown
    rw [readItems_posix next shown']
    exact ih (.cons (.set narrowed) each)
  | case3 here found rest none next => exact .of_error rfl
  | case4 here found rest next notOpen =>
    rw [readItems_close next]
    exact agree_single _ fun leaf leaf' built built' =>
      narrows_build minding (List.rel_reverse each) built built'
  | case5 here found c rest next notOpen notClose twice => exact .of_error rfl
  | case6 here found c rest next notOpen notClose notOperator failure refused => exact .of_error rfl
  | case7 here found c rest next notOpen notClose notOperator one after single ih =>
    rw [readItems_more next, if_neg notOpen, if_neg notClose, if_neg notOperator]
    cases single' : item (ctx.over u) start here with
    | error failure =>
      intro _ _ _ read'
      cases read'
    | ok one' =>
      obtain ⟨belongs, stop⟩ := agree_item inside minding _ _ single single'
      dsimp only
      rw [stop]
      exact ih (.cons belongs each)

include inside in
/-- **A class** over the smaller universe. -/
theorem agree_read : Agree (Narrows u) (read ctx start) (read (ctx.over u) start) := by
  unfold read
  dsimp only
  split
  · exact .of_error rfl
  · split
    · exact .of_error rfl
    · rename_i hyphens here isHyphens
      have same : List.Forall₂ (NarrowsItem u) hyphens hyphens := by
        unfold readHyphens at isHyphens
        dsimp only at isHyphens
        split at isHyphens <;> cases isHyphens
        exact List.forall₂_same.mpr fun one member => List.eq_of_mem_replicate member ▸ .range '-' '-'
      split
      · split
        · exact .of_error rfl
        · exact agree_readItems inside minding _ (.cons (.range ']' ']') .nil)
      · exact agree_readItems inside minding _ same

end ClassSet

end Minding

end PatternForge
