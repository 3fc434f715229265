import Mathlib.Data.List.Forall2
import PatternForge.Proofs.Emission.Language
import PatternForge.Proofs.Matching.Marks

/-!
Expressions that match what patterns give. `Pattern.MatchedBy` says that an expression takes the start
of each text that a pattern can give to its end, wherever the text stands. Leaves have that by what they
allow; the nodes that the reader makes of other patterns have it if those have it one by one.
-/
namespace PatternForge.Pattern

open Expression (Takes TakesAll takesAll_nil takesAll_cons)

/-! ### What assembled patterns give -/

section Giving
variable {cap : UInt32} {env env' : Environment} {text : String}

theorem producesAll_cons {p : Pattern} {rest : List Pattern} :
    ProducesAll cap (p :: rest) env text env' ↔
      ∃ first middle others, Produces cap p env first middle ∧
        ProducesAll cap rest middle others env' ∧ text = first ++ others :=
  ⟨fun given => by cases given with | cons first others => exact ⟨_, _, _, first, others, rfl⟩,
    fun ⟨_, _, _, first, others, same⟩ => same ▸ .cons first others⟩

theorem producesAll_nil : ProducesAll cap [] env text env' ↔ text = "" ∧ env' = env :=
  ⟨fun given => by cases given; exact ⟨rfl, rfl⟩, fun ⟨same, same'⟩ => same ▸ same' ▸ .nil⟩

theorem producesAll_singleton {p : Pattern} :
    ProducesAll cap [p] env text env' ↔ Produces cap p env text env' := by
  constructor
  · intro given
    obtain ⟨first, middle, others, isFirst, isRest, rfl⟩ := producesAll_cons.mp given
    obtain ⟨rfl, rfl⟩ := producesAll_nil.mp isRest
    rwa [String.append_empty]
  · intro given
    exact producesAll_cons.mpr ⟨text, env', "", given, .nil, String.append_empty.symm⟩

theorem producesAll_append {ps qs : List Pattern} :
    ProducesAll cap (ps ++ qs) env text env' ↔
      ∃ first middle others, ProducesAll cap ps env first middle ∧
        ProducesAll cap qs middle others env' ∧ text = first ++ others := by
  induction ps generalizing env text with
  | nil =>
    constructor
    · exact fun given => ⟨"", env, text, .nil, given, String.empty_append.symm⟩
    · rintro ⟨first, middle, others, none, given, rfl⟩
      obtain ⟨rfl, rfl⟩ := producesAll_nil.mp none
      rwa [List.nil_append, String.empty_append]
  | cons p rest ih =>
    simp only [List.cons_append, producesAll_cons, ih]
    constructor
    · rintro ⟨a, m, _, isFirst, ⟨b, m', c, isRest, isLast, rfl⟩, rfl⟩
      exact ⟨a ++ b, m', c, ⟨a, m, b, isFirst, isRest, rfl⟩, isLast, (String.append_assoc ..).symm⟩
    · rintro ⟨_, m', c, ⟨a, m, b, isFirst, isRest, rfl⟩, isLast, rfl⟩
      exact ⟨a, m, b ++ c, isFirst, ⟨b, m', c, isRest, isLast, rfl⟩, String.append_assoc ..⟩

/-- A literal that was joined gives what its parts give one after another. -/
private theorem producesAll_of_pushMerging {latestFirst others : List Pattern} {item : Pattern}
    (given : ProducesAll cap ((pushMerging latestFirst item).reverse ++ others) env text env') :
    ProducesAll cap (latestFirst.reverse ++ item :: others) env text env' := by
  unfold pushMerging at given
  split at given
  · rename_i before rest own
    simp only [List.reverse_cons, List.append_assoc, List.cons_append, List.nil_append] at given ⊢
    obtain ⟨a, m, _, isEarlier, isBehind, rfl⟩ := producesAll_append.mp given
    obtain ⟨_, m', b, joined, isRest, rfl⟩ := producesAll_cons.mp isBehind
    cases joined
    refine producesAll_append.mpr ⟨a, m, _, isEarlier, .cons .literal (.cons .literal isRest), ?_⟩
    rw [@String.append_assoc before]
  · simpa using given

private theorem producesAll_of_fold {items latestFirst : List Pattern}
    (given : ProducesAll cap (items.foldl pushMerging latestFirst).reverse env text env') :
    ProducesAll cap (latestFirst.reverse ++ items) env text env' := by
  induction items generalizing latestFirst with
  | nil => simpa using given
  | cons item rest ih =>
    exact producesAll_of_pushMerging (ih given)

private theorem producesAll_of_spliced {items : List Pattern}
    (given : ProducesAll cap (items.flatMap spliced) env text env') :
    ProducesAll cap items env text env' := by
  induction items generalizing env text with
  | nil => exact given
  | cons item rest ih =>
    rw [List.flatMap_cons] at given
    obtain ⟨first, middle, others, isFirst, isRest, rfl⟩ := producesAll_append.mp given
    refine .cons ?_ (ih isRest)
    cases item with
    | sequence items => exact .sequence isFirst
    | literal _ | oneOf _ | anchor _ | alternation _ | repetition _ _ | group _ _ _ | backreference _ =>
      exact producesAll_singleton.mp isFirst

/-- Items that were put together give no more than the items one after another. -/
theorem producesAll_of_concat {items : List Pattern}
    (given : Produces cap (concat items) env text env') : ProducesAll cap items env text env' := by
  have fold : ∀ {spliced : List Pattern},
      ProducesAll cap (spliced.foldl pushMerging []).reverse env text env' →
        ProducesAll cap spliced env text env' := fun given => producesAll_of_fold given
  refine producesAll_of_spliced (fold ?_)
  change ProducesAll cap (flattened items).reverse env text env'
  unfold concat at given
  split at given
  · rename_i item single
    rw [single]
    exact producesAll_singleton.mpr given
  · cases given with
    | sequence inRow => exact inRow

theorem produces_of_choice {branches : List Pattern}
    (given : Produces cap (choice branches) env text env') :
    ∃ branch ∈ branches, Produces cap branch env text env' := by
  unfold choice at given
  split at given
  · exact ⟨_, List.mem_cons_self, given⟩
  · cases given with
    | alternation member chosen => exact ⟨_, member, chosen⟩

end Giving

/-! ### What assembled expressions match -/

section Matching
variable {places : List Place} {i j : Nat}

private theorem takes_ofItems {items : List Expression} (taken : TakesAll places items i j) :
    Takes places (.ofItems items) i j := by
  unfold Expression.ofItems
  split
  · obtain ⟨m, first, last⟩ := takesAll_cons.mp taken
    exact takesAll_nil.mp last ▸ first
  · exact .sequence taken

private theorem takes_ofBranches {branches : List Expression} {branch : Expression}
    (member : branch ∈ branches) (taken : Takes places branch i j) :
    Takes places (.ofBranches branches) i j := by
  unfold Expression.ofBranches
  split
  · exact List.mem_singleton.mp member ▸ taken
  · exact .choice member taken

end Matching

/-! ### Inclusion -/

/-- An expression matches whatever a pattern can give, between any texts. -/
def MatchedBy (cap : UInt32) (p : Pattern) (e : Expression) : Prop :=
  ∀ env text env', Produces cap p env text env' → ∀ before after : List Char,
    Takes (Place.ofText none (before ++ (text.toList ++ after))) e before.length
      (before.length + text.toList.length)

section Inclusion
variable {cap : UInt32}

private theorem takes_char {test : CharTest} {c : Char} (allowed : test.allows c = true)
    (before after : List Char) :
    Takes (Place.ofText none (before ++ c :: after)) (.one test) before.length
      (before.length + 1) := by
  have inside : before.length < (Place.ofText none (before ++ c :: after)).length := by
    simp only [Expression.length_ofText, List.length_append, List.length_cons]
    omega
  have here := List.getElem?_eq_getElem inside
  refine .one here ?_ allowed
  rw [Expression.after_ofText here, List.getElem?_append_right (Nat.le_refl _), Nat.sub_self]
  rfl

theorem matchedBy_char {c : Char} {test : CharTest} (allowed : test.allows c = true) :
    MatchedBy cap (.literal c.toString) (.one test) := by
  intro env text env' given before after
  cases given
  have only : c.toString.toList = [c] := by simp [Char.toString]
  exact only ▸ takes_char allowed before after

theorem matchedBy_class {cls : CharClass} {test : CharTest}
    (allowed : ∀ c, cls.effective.contains c = true → test.allows c = true) :
    MatchedBy cap (.oneOf cls) (.one test) := by
  intro env text env' given before after
  cases given with
  | @oneOf _ _ c member =>
    have only : c.toString.toList = [c] := by simp [Char.toString]
    exact only ▸ takes_char (allowed c member) before after

/-- Texts in a row are matched in a row. -/
private theorem takesAll_of_producesAll {ps : List Pattern} {es : List Expression}
    (each : List.Forall₂ (MatchedBy cap) ps es) {env env' : Environment} {text : String}
    (given : ProducesAll cap ps env text env') (before after : List Char) :
    TakesAll (Place.ofText none (before ++ (text.toList ++ after))) es before.length
      (before.length + text.toList.length) := by
  induction each generalizing env text before with
  | nil =>
    obtain ⟨rfl, -⟩ := producesAll_nil.mp given
    exact .nil
  | @cons p e ps es matched _ ih =>
    obtain ⟨first, middle, others, isFirst, isRest, rfl⟩ := producesAll_cons.mp given
    have head := matched _ _ _ isFirst before (others.toList ++ after)
    have tail := ih isRest (before ++ first.toList)
    simp only [String.toList_append, List.append_assoc, List.length_append, ← Nat.add_assoc] at tail ⊢
    exact .cons head tail

theorem matchedBy_concat {ps : List Pattern} {es : List Expression}
    (each : List.Forall₂ (MatchedBy cap) ps es) : MatchedBy cap (concat ps) (.ofItems es) :=
  fun _ _ _ given before after =>
    takes_ofItems (takesAll_of_producesAll each (producesAll_of_concat given) before after)

theorem matchedBy_choice {ps : List Pattern} {es : List Expression}
    (each : List.Forall₂ (MatchedBy cap) ps es) : MatchedBy cap (choice ps) (.ofBranches es) := by
  intro env text env' given before after
  obtain ⟨p, member, chosen⟩ := produces_of_choice given
  obtain ⟨k, found⟩ := List.mem_iff_getElem?.mp member
  obtain ⟨inside, rfl⟩ := List.getElem?_eq_some_iff.mp found
  have inside' : k < es.length := each.length_eq ▸ inside
  exact takes_ofBranches (List.getElem_mem inside') (each.get inside inside' _ _ _ chosen before after)

theorem matchedBy_repetition {bounds : Bounds} {body : Pattern} {e : Expression} {greedy : Bool}
    (matched : MatchedBy cap body e) :
    MatchedBy cap (.repetition bounds body)
      (.repeated bounds.least.toNat (bounds.most.map UInt32.toNat) greedy e) := by
  intro env text env' given before after
  cases given with
  | @repetition _ _ n _ _ _ enough within inRow =>
    have each : List.Forall₂ (MatchedBy cap) (List.replicate n body) (List.replicate n e) := by
      clear enough within inRow
      induction n with
      | zero => exact .nil
      | succ n ih => exact .cons matched ih
    refine .repeated enough (fun limit isMost => ?_) (takesAll_of_producesAll each inRow before after)
    obtain ⟨most, known, rfl⟩ := Option.map_eq_some_iff.mp isMost
    rw [mostRepeats, known] at within
    simp only at within
    omega

theorem matchedBy_group {index : Nat} {name : Option String} {body : Pattern} {e : Expression}
    (matched : MatchedBy cap body e) (index' : Option Nat) :
    MatchedBy cap (.group index name body) (.group index' e) := by
  intro env text env' given before after
  cases given with
  | group inside => exact .group (matched _ _ _ inside before after)

/-- Parentheses that have no number do not show in the tree. -/
theorem MatchedBy.inGroup {p : Pattern} {e : Expression} (matched : MatchedBy cap p e)
    (index : Option Nat) : MatchedBy cap p (.group index e) :=
  fun _ _ _ given before after => .group (matched _ _ _ given before after)

end Inclusion

end PatternForge.Pattern
