import PatternForge.Emission
import PatternForge.Proofs.CharSet.Order
import PatternForge.Proofs.Pattern.Nodes
import PatternForge.Proofs.Random.Choice

/-!
The texts that a pattern can give, said without a source of random words. `Produces` relates a
pattern and the texts bound to its groups to a text and the bindings after it; one constructor for
each kind of node leaves open whatever is left to chance.

Drawing is sound for this relation whatever the source plays (`produces_of_emitFrom`), and every text
of the relation is drawn from some scripted source (`emitFrom_of_produces`). Soundness needs nothing
of the tree. For completeness a choice among branches has to be within reach of one 64-bit word
(`Addressable`), as it is for every list that fits into memory.
-/
namespace PatternForge.Pattern

/-- The text that each group is bound to, if it is. -/
abbrev Environment := Nat → Option String

namespace Environment

/-- No group is bound. -/
def unbound : Environment := fun _ => none

/-- The group `index` is bound to a text, whatever it was bound to before. -/
def bind (env : Environment) (index : Nat) (text : String) : Environment :=
  fun i => if i = index then some text else env i

/-- What a list of bindings says about each group. -/
def ofBindings (bound : Bindings) : Environment := fun index => bound.lookup index

@[simp] theorem ofBindings_nil : ofBindings [] = unbound := rfl

@[simp] theorem ofBindings_cons (index : Nat) (text : String) (bound : Bindings) :
    ofBindings ((index, text) :: bound) = (ofBindings bound).bind index text := by
  funext i
  by_cases same : i = index
  · subst same
    simp [ofBindings, bind]
  · have different : (i == index) = false := beq_false_of_ne same
    simp [ofBindings, bind, List.lookup_cons, same, different]

end Environment

open Environment (unbound)

/-- The most times that a body is repeated under a cap. The minimum is always honoured. -/
def mostRepeats (bounds : Bounds) (cap : UInt32) : Nat :=
  max bounds.least.toNat
    (match bounds.most with
      | some most => min most.toNat cap.toNat
      | none => cap.toNat)

mutual

/-- A pattern can give a text under some bindings, and leaves others behind. -/
inductive Produces (cap : UInt32) : Pattern → Environment → String → Environment → Prop where
  | literal {text env} : Produces cap (.literal text) env text env
  | oneOf {cls env c} (allowed : cls.effective.contains c = true) :
      Produces cap (.oneOf cls) env c.toString env
  | anchor {kind env} : Produces cap (.anchor kind) env "" env
  | sequence {items env text env'} (inRow : ProducesAll cap items env text env') :
      Produces cap (.sequence items) env text env'
  | alternation {branches branch env text env'} (member : branch ∈ branches)
      (chosen : Produces cap branch env text env') :
      Produces cap (.alternation branches) env text env'
  | repetition {bounds body n env text env'} (enough : bounds.least.toNat ≤ n)
      (within : n ≤ mostRepeats bounds cap)
      (inRow : ProducesAll cap (List.replicate n body) env text env') :
      Produces cap (.repetition bounds body) env text env'
  | group {index name body env text env'} (inside : Produces cap body env text env') :
      Produces cap (.group index name body) env text (env'.bind index text)
  | backreference {index env text} (isBound : env index = some text) :
      Produces cap (.backreference index) env text env

/-- Several patterns in a row can give a text, each under the bindings that the last one left. -/
inductive ProducesAll (cap : UInt32) : List Pattern → Environment → String → Environment → Prop where
  | nil {env} : ProducesAll cap [] env "" env
  | cons {item rest env text env' text' env''} (first : Produces cap item env text env')
      (others : ProducesAll cap rest env' text' env'') :
      ProducesAll cap (item :: rest) env (text ++ text') env''

end

/-! ### What is drawn is produced -/

private theorem toNat_max (a b : UInt32) : (max a b).toNat = max a.toNat b.toNat := by
  change (if a ≤ b then b else a).toNat = _
  split <;> rename_i order <;> rw [UInt32.le_iff_toNat_le] at order <;> omega

private theorem toNat_min (a b : UInt32) : (min a b).toNat = min a.toNat b.toNat := by
  change (if a ≤ b then a else b).toNat = _
  split <;> rename_i order <;> rw [UInt32.le_iff_toNat_le] at order <;> omega

theorem toNat_highest (bounds : Bounds) (cap : UInt32) :
    (bounds.highest cap).toNat = mostRepeats bounds cap := by
  have top := cap.toNat_lt
  have unlimited : (0xFFFFFFFF : UInt32).toNat = 4294967295 := rfl
  rw [Bounds.highest, mostRepeats, toNat_max, toNat_min]
  cases bounds.most with
  | some most => rfl
  | none =>
    simp only [Option.getD_none, unlimited]
    omega

theorem least_le_highest (bounds : Bounds) (cap : UInt32) : bounds.least ≤ bounds.highest cap := by
  rw [UInt32.le_iff_toNat_le, toNat_highest]
  exact Nat.le_max_left _ _

theorem produces_of_emitClass {cap : UInt32} {cls : CharClass} {bound bound' : Bindings}
    {source source' : Source} {text : String}
    (drawn : emitClass cls bound source = (.ok (text, bound'), source')) :
    Produces cap (.oneOf cls) (.ofBindings bound) text (.ofBindings bound') := by
  unfold emitClass at drawn
  dsimp only at drawn
  split at drawn
  · cases drawn
  · split at drawn
    · rename_i c found
      cases drawn
      rw [CharSet.nth_eq] at found
      exact .oneOf (CharSet.mem_members.mp (List.mem_of_getElem? found))
    · cases drawn

/-- What drawing a pattern is required to mean. -/
def Sound (cap : UInt32) (p : Pattern) : Prop :=
  ∀ (bound : Bindings) (source : Source) (text : String) (bound' : Bindings) (source' : Source),
    emitFrom cap p bound source = (.ok (text, bound'), source') →
      Produces cap p (.ofBindings bound) text (.ofBindings bound')

private theorem producesAll_of_emitItems {cap : UInt32} {items : List Pattern}
    (sound : ∀ item ∈ items, Sound cap item) (before : String) (bound : Bindings) (source : Source)
    {text : String} {bound' : Bindings} {source' : Source}
    (drawn : emitItems cap items before bound source = (.ok (text, bound'), source')) :
    ∃ own, text = before ++ own ∧
      ProducesAll cap items (.ofBindings bound) own (.ofBindings bound') := by
  induction items generalizing before bound source with
  | nil =>
    cases drawn
    exact ⟨"", by simp, .nil⟩
  | cons item rest ih =>
    rw [emitItems] at drawn
    split at drawn
    · rename_i first middle source'' isFirst
      obtain ⟨own, rfl, others⟩ := ih (fun q member => sound q (List.mem_cons_of_mem _ member))
        _ _ _ drawn
      exact ⟨first ++ own, String.append_assoc ..,
        .cons (sound item List.mem_cons_self _ _ _ _ _ isFirst) others⟩
    · cases drawn

private theorem producesAll_of_emitTimes {cap : UInt32} {body : Pattern} (sound : Sound cap body)
    (n : Nat) (before : String) (bound : Bindings) (source : Source) {text : String}
    {bound' : Bindings} {source' : Source}
    (drawn : emitTimes (emitFrom cap body) n before bound source = (.ok (text, bound'), source')) :
    ∃ own, text = before ++ own ∧
      ProducesAll cap (List.replicate n body) (.ofBindings bound) own (.ofBindings bound') := by
  induction n generalizing before bound source with
  | zero =>
    cases drawn
    exact ⟨"", by simp, .nil⟩
  | succ n ih =>
    rw [emitTimes] at drawn
    split at drawn
    · rename_i first middle source'' isFirst
      obtain ⟨own, rfl, others⟩ := ih _ _ _ drawn
      exact ⟨first ++ own, String.append_assoc .., .cons (sound _ _ _ _ _ isFirst) others⟩
    · cases drawn

private theorem produces_of_emitBranch {cap : UInt32} {branches : List Pattern}
    (sound : ∀ branch ∈ branches, Sound cap branch) (i : Nat) (bound : Bindings) (source : Source)
    {text : String} {bound' : Bindings} {source' : Source}
    (drawn : emitBranch cap branches i bound source = (.ok (text, bound'), source')) :
    ∃ branch ∈ branches, Produces cap branch (.ofBindings bound) text (.ofBindings bound') := by
  induction branches generalizing i with
  | nil => cases drawn
  | cons branch rest ih =>
    cases i with
    | zero => exact ⟨branch, List.mem_cons_self, sound branch List.mem_cons_self _ _ _ _ _ drawn⟩
    | succ i =>
      obtain ⟨chosen, member, produced⟩ :=
        ih (fun q member => sound q (List.mem_cons_of_mem _ member)) i drawn
      exact ⟨chosen, List.mem_cons_of_mem _ member, produced⟩

/-- Whatever is drawn is one of the texts that the pattern can give. -/
theorem produces_of_emitFrom (cap : UInt32) (p : Pattern) : Sound cap p := by
  induction p with
  | literal _ =>
    intro bound source text bound' source' drawn
    cases drawn
    exact .literal
  | oneOf cls =>
    intro bound source text bound' source' drawn
    exact produces_of_emitClass drawn
  | anchor _ =>
    intro bound source text bound' source' drawn
    cases drawn
    exact .anchor
  | sequence items ih =>
    intro bound source text bound' source' drawn
    obtain ⟨own, rfl, inRow⟩ := producesAll_of_emitItems ih _ _ _ drawn
    rw [String.empty_append]
    exact .sequence inRow
  | alternation branches ih =>
    intro bound source text bound' source' drawn
    rw [emitFrom] at drawn
    split at drawn
    · cases drawn
    · obtain ⟨branch, member, chosen⟩ := produces_of_emitBranch ih _ _ _ drawn
      exact .alternation member chosen
  | repetition bounds body ih =>
    intro bound source text bound' source' drawn
    obtain ⟨own, rfl, inRow⟩ := producesAll_of_emitTimes ih _ _ _ _ drawn
    have range := source.between_mem (least_le_highest bounds cap)
    simp only [UInt32.le_iff_toNat_le, toNat_highest] at range
    rw [String.empty_append]
    exact .repetition range.1 range.2 inRow
  | group index name body ih =>
    intro bound source text bound' source' drawn
    rw [emitFrom] at drawn
    split at drawn
    · rename_i inner middle source'' isInside
      cases drawn
      rw [Environment.ofBindings_cons]
      exact .group (ih _ _ _ _ _ isInside)
    · cases drawn
  | backreference index =>
    intro bound source text bound' source' drawn
    rw [emitFrom] at drawn
    split at drawn
    · rename_i found
      cases drawn
      exact .backreference found
    · cases drawn

/-! ### What can be produced is drawn -/

/-- Some words make a draw give a text and new bindings, and are used up by it. -/
def Scripted (draw : Source → Drawn × Source) (text : String) (bound : Bindings) : Prop :=
  ∃ words, ∀ rest counter,
    draw (.scripted (words ++ rest) counter) = (.ok (text, bound), .scripted rest counter)

theorem scripted_emitClass {cls : CharClass} {c : Char} (allowed : cls.effective.contains c = true)
    (bound : Bindings) : Scripted (emitClass cls bound) c.toString bound := by
  obtain ⟨n, found⟩ := List.mem_iff_getElem?.mp (CharSet.mem_members.mpr allowed)
  have inside : n < cls.effective.size := by
    rw [CharSet.size_eq]
    exact (List.getElem?_eq_some_iff.mp found).1
  have some : cls.effective.isEmpty = false := CharSet.isEmpty_eq_false_iff.mpr ⟨c, allowed⟩
  obtain ⟨word, chosen⟩ := Source.exists_word_below inside (CharSet.size_le_words _)
  refine ⟨[word], fun rest counter => ?_⟩
  simp [emitClass, some, chosen, CharSet.nth_eq, found]

/-- What producing a text is required to come from. -/
def Complete (cap : UInt32) (p : Pattern) : Prop :=
  ∀ (bound : Bindings) (text : String) (env' : Environment),
    Produces cap p (.ofBindings bound) text env' →
      ∃ bound', Environment.ofBindings bound' = env' ∧ Scripted (emitFrom cap p bound) text bound'

private theorem scripted_emitItems {cap : UInt32} {items : List Pattern}
    (complete : ∀ item ∈ items, Complete cap item) (before : String) (bound : Bindings)
    {text : String} {env' : Environment}
    (inRow : ProducesAll cap items (.ofBindings bound) text env') :
    ∃ bound', Environment.ofBindings bound' = env' ∧
      Scripted (emitItems cap items before bound) (before ++ text) bound' := by
  induction items generalizing before bound text with
  | nil =>
    cases inRow
    exact ⟨bound, rfl, [], fun rest counter => by simp [emitItems]⟩
  | cons item rest ih =>
    cases inRow with
    | @cons _ _ _ text _ _ _ first others =>
      obtain ⟨middle, rfl, words, draws⟩ := complete item List.mem_cons_self _ _ _ first
      obtain ⟨bound', final, words', draws'⟩ :=
        ih (fun q member => complete q (List.mem_cons_of_mem _ member)) (before ++ text) middle others
      refine ⟨bound', final, words ++ words', fun rest counter => ?_⟩
      rw [emitItems, List.append_assoc, draws]
      simp only
      rw [draws', String.append_assoc]

private theorem scripted_emitTimes {cap : UInt32} {body : Pattern} (complete : Complete cap body)
    (n : Nat) (before : String) (bound : Bindings) {text : String} {env' : Environment}
    (inRow : ProducesAll cap (List.replicate n body) (.ofBindings bound) text env') :
    ∃ bound', Environment.ofBindings bound' = env' ∧
      Scripted (emitTimes (emitFrom cap body) n before bound) (before ++ text) bound' := by
  induction n generalizing before bound text with
  | zero =>
    cases inRow
    exact ⟨bound, rfl, [], fun rest counter => by simp [emitTimes]⟩
  | succ n ih =>
    cases inRow with
    | @cons _ _ _ text _ _ _ first others =>
      obtain ⟨middle, rfl, words, draws⟩ := complete _ _ _ first
      obtain ⟨bound', final, words', draws'⟩ := ih (before ++ text) middle others
      refine ⟨bound', final, words ++ words', fun rest counter => ?_⟩
      rw [emitTimes, List.append_assoc, draws]
      simp only
      rw [draws', String.append_assoc]

private theorem emitBranch_eq {cap : UInt32} {branches : List Pattern} {i : Nat} {branch : Pattern}
    (found : branches[i]? = some branch) (bound : Bindings) (source : Source) :
    emitBranch cap branches i bound source = emitFrom cap branch bound source := by
  induction branches generalizing i with
  | nil => simp at found
  | cons first rest ih =>
    cases i with
    | zero =>
      cases found
      rfl
    | succ i => exact ih (by simpa using found)

/-- No node has more branches than one 64-bit word can tell apart. -/
def Addressable (p : Pattern) : Prop :=
  p.Every fun node => ∀ branches, node = .alternation branches → branches.length ≤ 1 <<< 64

/-- Whatever a pattern can give is drawn from some source. -/
theorem emitFrom_of_produces (cap : UInt32) {p : Pattern} (addressable : p.Addressable) :
    Complete cap p := by
  induction p with
  | literal text =>
    intro bound text env' produced
    cases produced
    exact ⟨bound, rfl, [], fun rest counter => rfl⟩
  | oneOf cls =>
    intro bound text env' produced
    cases produced with
    | oneOf allowed => exact ⟨bound, rfl, scripted_emitClass allowed bound⟩
  | anchor kind =>
    intro bound text env' produced
    cases produced
    exact ⟨bound, rfl, [], fun rest counter => rfl⟩
  | sequence items ih =>
    intro bound text env' produced
    cases produced with
    | sequence inRow =>
      have complete : ∀ item ∈ items, Complete cap item :=
        fun item member => ih item member (addressable.below member)
      obtain ⟨bound', final, words, draws⟩ := scripted_emitItems complete "" bound inRow
      refine ⟨bound', final, words, fun rest counter => ?_⟩
      rw [emitFrom, draws, String.empty_append]
  | alternation branches ih =>
    intro bound text env' produced
    cases produced with
    | alternation member chosen =>
      obtain ⟨i, found⟩ := List.mem_iff_getElem?.mp member
      have inside := (List.getElem?_eq_some_iff.mp found).1
      obtain ⟨bound', final, words, draws⟩ :=
        ih _ member (addressable.below member) _ _ _ chosen
      obtain ⟨word, picks⟩ := Source.exists_word_below inside (addressable.here branches rfl)
      refine ⟨bound', final, word :: words, fun rest counter => ?_⟩
      rw [emitFrom, List.cons_append, picks, if_neg (by simp [List.ne_nil_of_mem member])]
      exact (emitBranch_eq found bound _).trans (draws rest counter)
  | repetition bounds body ih =>
    intro bound text env' produced
    cases produced with
    | @repetition _ _ n _ _ _ enough within inRow =>
      have complete : Complete cap body := ih (addressable.below (by simp [children]))
      obtain ⟨bound', final, words, draws⟩ := scripted_emitTimes complete n "" bound inRow
      rw [← toNat_highest] at within
      have small : n.toUInt32.toNat = n := by
        have top := (bounds.highest cap).toNat_lt
        rw [Nat.toUInt32, UInt32.toNat_ofNat']
        omega
      rw [← small, ← UInt32.le_iff_toNat_le] at enough within
      obtain ⟨word, picks⟩ := Source.exists_word_between enough within
      refine ⟨bound', final, word :: words, fun rest counter => ?_⟩
      rw [emitFrom, List.cons_append, picks]
      simpa only [small, String.empty_append] using draws rest counter
  | group index name body ih =>
    intro bound text env' produced
    cases produced with
    | group inside =>
      obtain ⟨bound', rfl, words, draws⟩ :=
        ih (addressable.below (by simp [children])) _ _ _ inside
      refine ⟨(index, text) :: bound', Environment.ofBindings_cons .., words,
        fun rest counter => ?_⟩
      rw [emitFrom, draws]
  | backreference index =>
    intro bound text env' produced
    cases produced with
    | backreference isBound =>
      refine ⟨bound, rfl, [], fun rest counter => ?_⟩
      have found : bound.lookup index = some text := isBound
      rw [emitFrom, found]
      rfl

theorem produces_of_emit {cap : UInt32} {p : Pattern} {source : Source} {text : String}
    (drawn : (p.emit cap source).1 = .ok text) : ∃ env, Produces cap p unbound text env := by
  unfold emit at drawn
  split at drawn
  · rename_i bound source' isDrawn
    cases drawn
    exact ⟨_, produces_of_emitFrom cap p _ _ _ _ _ isDrawn⟩
  · cases drawn

/-- **Drawing gives exactly the texts of a pattern.** Whatever the source, a drawn text is one that
the pattern can give; and each text that it can give is drawn from some source. -/
theorem emit_exact (cap : UInt32) (p : Pattern) :
    (∀ source text, (p.emit cap source).1 = .ok text → ∃ env, Produces cap p unbound text env) ∧
      (p.Addressable → ∀ text env, Produces cap p unbound text env →
        ∃ source, (p.emit cap source).1 = .ok text) := by
  refine ⟨fun source text drawn => produces_of_emit drawn, fun addressable text env produced => ?_⟩
  obtain ⟨bound, -, words, draws⟩ := emitFrom_of_produces cap addressable [] text env produced
  refine ⟨.scripted words 0, ?_⟩
  have drawn := draws [] 0
  rw [List.append_nil] at drawn
  rw [emit, drawn]

/-- A group that is bound anew by each of two rounds, and referred to in both. -/
def twoRounds : Pattern :=
  .repetition { least := 2, most := some 2, greedy := true }
    (.sequence [.group 1 none (.alternation [.literal "a", .literal "b"]), .backreference 1])

theorem emit_exact_twoRounds :
    twoRounds.Addressable ∧ (∃ env, Produces 10 twoRounds unbound "aabb" env) ∧
      ∃ source, (twoRounds.emit 10 source).1 = .ok "aabb" := by
  have addressable : twoRounds.Addressable := by
    simp [Addressable, Every, twoRounds, walk, walkFrom, walkAll]
  have round : ∀ env, ∀ letter ∈ ["a", "b"],
      Produces 10 (.sequence [.group 1 none (.alternation [.literal "a", .literal "b"]),
        .backreference 1]) env (letter ++ (letter ++ "")) (env.bind 1 letter) := by
    intro env letter member
    have listed : Pattern.literal letter ∈ [Pattern.literal "a", Pattern.literal "b"] := by
      simpa using member
    exact .sequence (.cons (.group (.alternation listed .literal))
      (.cons (.backreference (by simp [Environment.bind])) .nil))
  have produced : Produces 10 twoRounds unbound "aabb" ((unbound.bind 1 "a").bind 1 "b") :=
    .repetition (n := 2) (by decide) (by decide)
      (.cons (round unbound "a" (by simp)) (.cons (round _ "b" (by simp)) .nil))
  obtain ⟨source, drawn⟩ := (emit_exact 10 twoRounds).2 addressable _ _ produced
  exact ⟨addressable, (emit_exact 10 twoRounds).1 source _ drawn, source, drawn⟩

end PatternForge.Pattern
