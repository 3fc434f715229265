import PatternForge.Proofs.Emission.Language
import PatternForge.Proofs.Pattern.Paths
import PatternForge.Proofs.Pattern.WellNumbered

/-!
How drawing can fail. A group that a tree closes is bound behind every text of the tree, unless the text
left it out (`binds_of_produces`). So a reference to a group that is closed in front of it is unbound
only where the group was left out: drawing from a tree whose marks are in order, whose classes allow some
character and whose alternations have some branch gives a text, or comes to a reference that stands
outside of what its group was left out with (`emit_of_recordAll`).
-/
namespace PatternForge.Pattern

/-! ### What is bound behind a text -/

/-- What a text leaves bound: all that was, and each group that is closed in the text's patterns and that
none of them leaves out. -/
private structure Binds (ps : List Pattern) (env env' : Environment) : Prop where
  kept : ∀ index, (env index).isSome → (env' index).isSome
  closed : ∀ p ∈ ps, ∀ index, .closed index ∈ p.marks →
    (env' index).isSome ∨ ∃ outer, p.LeavesOut index outer

private theorem isSome_bind {env : Environment} {index : Nat} {text : String} {i : Nat}
    (isBound : (env i).isSome) : (env.bind index text i).isSome := by
  unfold Environment.bind
  split
  · rfl
  · exact isBound

private theorem binds_leaf {p : Pattern} {env : Environment}
    (none : p.marks = [] ∨ ∃ i, p.marks = [.reference i]) :
    Binds [p] env env where
  kept := fun _ => id
  closed := by
    intro q member index closes
    rw [List.mem_singleton.mp member] at closes
    rcases none with none | ⟨i, none⟩ <;> simp [none] at closes

private theorem binds_of_producesAll {cap : UInt32} {ps : List Pattern}
    (each : ∀ p ∈ ps, ∀ env text env', Produces cap p env text env' → Binds [p] env env')
    {env env' : Environment} {text : String} (inRow : ProducesAll cap ps env text env') :
    Binds ps env env' := by
  induction ps generalizing env text with
  | nil =>
    cases inRow
    exact ⟨fun _ => id, by simp⟩
  | cons p rest ih =>
    cases inRow with
    | cons first others =>
      have here := each p List.mem_cons_self _ _ _ first
      have later := ih (fun q member => each q (List.mem_cons_of_mem _ member)) others
      refine ⟨fun index isBound => later.kept index (here.kept index isBound), fun q member index closes => ?_⟩
      rcases List.mem_cons.mp member with rfl | member
      · exact (here.closed q (List.mem_singleton_self q) index closes).imp_left (later.kept index)
      · exact later.closed q member index closes

/-- A child's groups are bound, or the parent leaves them out with the child. -/
private theorem leavesOut_below {p child : Pattern} {index : Nat} (member : child ∈ p.children)
    (leavesOut : ∃ outer, child.LeavesOut index outer) : ∃ outer, p.LeavesOut index outer := by
  obtain ⟨outer, leavesOut⟩ := leavesOut
  obtain ⟨k, found⟩ := List.mem_iff_getElem?.mp member
  exact ⟨k :: outer, leavesOut.below found⟩

/-- Behind a text, each group of the pattern is bound or left out. -/
private theorem binds_of_produces {cap : UInt32} (p : Pattern) :
    ∀ env text env', Produces cap p env text env' → Binds [p] env env' := by
  induction p with
  | literal _ | oneOf _ | anchor _ =>
    intro env text env' produced
    cases produced
    exact binds_leaf (.inl rfl)
  | backreference index =>
    intro env text env' produced
    cases produced
    exact binds_leaf (.inr ⟨index, rfl⟩)
  | sequence items ih =>
    intro env text env' produced
    cases produced with
    | sequence inRow =>
      have all := binds_of_producesAll ih inRow
      refine ⟨all.kept, fun q member index closes => ?_⟩
      rw [List.mem_singleton.mp member] at closes ⊢
      rw [marks_sequence, List.mem_flatMap] at closes
      obtain ⟨item, isItem, closes⟩ := closes
      exact (all.closed item isItem index closes).imp_right (leavesOut_below isItem)
  | alternation branches ih =>
    intro env text env' produced
    cases produced with
    | @alternation _ branch _ _ _ isBranch chosen =>
      refine ⟨(ih branch isBranch _ _ _ chosen).kept, fun q member index closes => ?_⟩
      rw [List.mem_singleton.mp member] at closes ⊢
      rw [marks_alternation, List.mem_flatMap] at closes
      obtain ⟨other, isOther, closes⟩ := closes
      obtain ⟨k, found⟩ := List.mem_iff_getElem?.mp isOther
      exact .inr ⟨[k], leavesOut_of_branch found closes⟩
  | repetition bounds body ih =>
    intro env text env' produced
    cases produced with
    | @repetition _ _ n _ _ _ enough within inRow =>
      have all := binds_of_producesAll
        (fun q member => List.eq_of_mem_replicate member ▸ ih) inRow
      refine ⟨all.kept, fun q member index closes => ?_⟩
      rw [List.mem_singleton.mp member] at closes ⊢
      by_cases never : bounds.least = 0
      · exact .inr ⟨[], leavesOut_of_repetition never closes⟩
      · have positive : 0 < bounds.least.toNat :=
          Nat.pos_of_ne_zero fun zero => never (UInt32.toNat_inj.mp zero)
        have occurs : body ∈ List.replicate n body := List.mem_replicate.mpr ⟨by omega, rfl⟩
        exact (all.closed body occurs index closes).imp_right
          (leavesOut_below (p := repetition bounds body) (List.mem_singleton_self body))
  | group number name body ih =>
    intro env text env' produced
    cases produced with
    | @group _ _ _ _ _ env' inside =>
      have below := ih _ _ _ inside
      refine ⟨fun index isBound => isSome_bind (below.kept index isBound), fun q member index closes => ?_⟩
      rw [List.mem_singleton.mp member] at closes ⊢
      rw [marks, List.cons_append, List.mem_cons, List.mem_append, List.mem_singleton] at closes
      rcases closes with opens | closes | itself
      · cases opens
      · exact (below.closed body (List.mem_singleton_self body) index closes).imp isSome_bind
          (leavesOut_below (p := group number name body) (List.mem_singleton_self body))
      · cases itself
        exact .inl (by simp [Environment.bind])

/-! ### How a draw fails -/

/-- Nodes that give some text unless something below them fails. -/
def Drawable : Pattern → Prop
  | oneOf cls => ∃ c, cls.effective.contains c = true
  | alternation branches => branches ≠ []
  | _ => True

/-- Each group that is closed so far is bound or excused. -/
private def Accounted (ledger : Ledger) (bound : Bindings) (excused : Nat → Prop) : Prop :=
  ∀ index ∈ ledger.closed, (bound.lookup index).isSome ∨ excused index

/-- A failure comes from a reference to a group that is left out, or that was excused before. -/
private def FailsBy (p : Pattern) (excused : Nat → Prop) (failure : Failure) : Prop :=
  ∃ index, failure = .unboundReference index ∧
    (p.OmitsReferent index ∨ p.RefersTo index ∧ excused index)

/-- What drawing a pattern is required to fail by. -/
private def FailsWell (cap : UInt32) (p : Pattern) : Prop :=
  ∀ (ledger after : Ledger) (excused : Nat → Prop) (bound : Bindings) (source : Source)
    (failure : Failure) (source' : Source),
    ledger.recordAll p.marks = some after → Accounted ledger bound excused →
      emitFrom cap p bound source = (.error failure, source') → FailsBy p excused failure

/-- One of several patterns fails; the groups that earlier ones left out are excused for it. -/
private def SomeFails (ps : List Pattern) (left : Pattern → Nat → Prop) (excused : Nat → Prop)
    (failure : Failure) : Prop :=
  ∃ k p, ps[k]? = some p ∧
    FailsBy p (fun index => excused index ∨
      ∃ (j : Nat) (earlier : Pattern), j < k ∧ ps[j]? = some earlier ∧ left earlier index) failure

private theorem FailsBy.imp {p : Pattern} {excused excused' : Nat → Prop} {failure : Failure}
    (fails : FailsBy p excused failure) (weaker : ∀ index, excused index → excused' index) :
    FailsBy p excused' failure := by
  obtain ⟨index, same, cause⟩ := fails
  exact ⟨index, same, cause.imp_right fun both => ⟨both.1, weaker index both.2⟩⟩

private theorem someFails_head {p : Pattern} {rest : List Pattern} {left : Pattern → Nat → Prop}
    {excused : Nat → Prop} {failure : Failure} (fails : FailsBy p excused failure) :
    SomeFails (p :: rest) left excused failure :=
  ⟨0, p, rfl, fails.imp fun _ => .inl⟩

private theorem someFails_cons {p : Pattern} {rest : List Pattern} {left : Pattern → Nat → Prop}
    {excused : Nat → Prop} {failure : Failure}
    (fails : SomeFails rest left (fun index => excused index ∨ left p index) failure) :
    SomeFails (p :: rest) left excused failure := by
  obtain ⟨k, q, found, fails⟩ := fails
  refine ⟨k + 1, q, found, fails.imp fun index cause => ?_⟩
  rcases cause with (before | here) | ⟨j, earlier, order, isEarlier, leaves⟩
  · exact .inl before
  · exact .inr ⟨0, p, Nat.succ_pos k, rfl, here⟩
  · exact .inr ⟨j + 1, earlier, Nat.succ_lt_succ order, isEarlier, leaves⟩

/-- A failure below a node is a failure of the node, if the groups that its children leave out are left
out by the node as well. -/
private theorem failsBy_of_children {p : Pattern} {left : Pattern → Nat → Prop}
    {excused : Nat → Prop} {failure : Failure}
    (leaves : ∀ j earlier index, p.children[j]? = some earlier → left earlier index →
      ∃ outer, p.LeavesOut index (j :: outer))
    (fails : SomeFails p.children left excused failure) : FailsBy p excused failure := by
  obtain ⟨k, child, isChild, index, rfl, omits | ⟨refers, cause⟩⟩ := fails
  · exact ⟨index, rfl, .inl (omits.below isChild)⟩
  · rcases cause with before | ⟨j, earlier, order, isEarlier, isLeft⟩
    · exact ⟨index, rfl, .inr ⟨refers.below isChild, before⟩⟩
    · obtain ⟨outer, leavesOut⟩ := leaves j earlier index isEarlier isLeft
      exact ⟨index, rfl, .inl (leavesOut.omitsReferent isChild refers (Nat.ne_of_lt order))⟩

private theorem failsBy_of_body {p body : Pattern} {excused : Nat → Prop} {failure : Failure}
    (only : p.children = [body]) (fails : FailsBy body excused failure) : FailsBy p excused failure :=
  have some : SomeFails p.children (fun _ _ => False) excused failure := only ▸ someFails_head fails
  failsBy_of_children (fun _ _ _ _ never => never.elim) some

/-- What is accounted for in front of a pattern is accounted for behind its text, if the groups that the
text left out are excused. -/
private theorem accounted_of_drawn {cap : UInt32} {p : Pattern} {ledger after : Ledger}
    {bound bound' : Bindings} {excused : Nat → Prop} {source source' : Source} {text : String}
    (recorded : ledger.recordAll p.marks = some after) (accounted : Accounted ledger bound excused)
    (drawn : emitFrom cap p bound source = (.ok (text, bound'), source')) :
    Accounted ledger bound' excused ∧
      Accounted after bound' fun index => excused index ∨ ∃ outer, p.LeavesOut index outer := by
  have binds := binds_of_produces p _ _ _ (produces_of_emitFrom cap p _ _ _ _ _ drawn)
  have kept : Accounted ledger bound' excused :=
    fun index isClosed => (accounted index isClosed).imp_left (binds.kept index)
  refine ⟨kept, fun index isClosed => ?_⟩
  rcases (Ledger.mem_closed recorded).mp isClosed with before | closes
  · exact (kept index before).imp_right .inl
  · exact (binds.closed p (List.mem_singleton_self p) index closes).imp_right .inr

private theorem someFails_of_emitItems {cap : UInt32} {items : List Pattern}
    (each : ∀ item ∈ items, FailsWell cap item) {ledger after : Ledger} {excused : Nat → Prop}
    {before : String} {bound : Bindings} {source source' : Source} {failure : Failure}
    (recorded : ledger.recordAll (items.flatMap marks) = some after)
    (accounted : Accounted ledger bound excused)
    (failed : emitItems cap items before bound source = (.error failure, source')) :
    SomeFails items (fun item index => ∃ outer, item.LeavesOut index outer) excused failure := by
  induction items generalizing ledger excused before bound source with
  | nil => cases failed
  | cons item rest ih =>
    obtain ⟨between, isFirst, others⟩ := Ledger.recordAll_append.mp recorded
    rw [emitItems] at failed
    split at failed
    · rename_i text bound' source'' drawn
      exact someFails_cons (ih (fun q member => each q (List.mem_cons_of_mem _ member)) others
        (accounted_of_drawn isFirst accounted drawn).2 failed)
    · rename_i failure' source'' failed'
      cases failed
      exact someFails_head (each item List.mem_cons_self _ _ _ _ _ _ _ isFirst accounted failed')

private theorem someFails_of_emitBranch {cap : UInt32} {branches : List Pattern}
    (each : ∀ branch ∈ branches, FailsWell cap branch) {ledger after : Ledger}
    {excused : Nat → Prop} {i : Nat} (inside : i < branches.length) {bound : Bindings}
    {source source' : Source} {failure : Failure}
    (recorded : ledger.recordAll (branches.flatMap marks) = some after)
    (accounted : Accounted ledger bound excused)
    (failed : emitBranch cap branches i bound source = (.error failure, source')) :
    SomeFails branches (fun branch index => .closed index ∈ branch.marks) excused failure := by
  induction branches generalizing ledger excused i with
  | nil => cases inside
  | cons branch rest ih =>
    obtain ⟨between, isFirst, others⟩ := Ledger.recordAll_append.mp recorded
    cases i with
    | zero => exact someFails_head (each branch List.mem_cons_self _ _ _ _ _ _ _ isFirst accounted failed)
    | succ i =>
      refine someFails_cons (ih (fun q member => each q (List.mem_cons_of_mem _ member))
        (Nat.lt_of_succ_lt_succ inside) others (fun index isClosed => ?_) failed)
      rcases (Ledger.mem_closed isFirst).mp isClosed with before | closes
      · exact (accounted index before).imp_right .inl
      · exact .inr (.inr closes)

private theorem failsBy_of_emitTimes {cap : UInt32} {body : Pattern} (well : FailsWell cap body)
    {ledger after : Ledger} {excused : Nat → Prop} {n : Nat} {before : String} {bound : Bindings}
    {source source' : Source} {failure : Failure} (recorded : ledger.recordAll body.marks = some after)
    (accounted : Accounted ledger bound excused)
    (failed : emitTimes (emitFrom cap body) n before bound source = (.error failure, source')) :
    FailsBy body excused failure := by
  induction n generalizing before bound source with
  | zero => cases failed
  | succ n ih =>
    rw [emitTimes] at failed
    split at failed
    · rename_i text bound' source'' drawn
      exact ih (accounted_of_drawn recorded accounted drawn).1 failed
    · rename_i failure' source'' failed'
      cases failed
      exact well _ _ _ _ _ _ _ recorded accounted failed'

private theorem emitClass_ne_error {cls : CharClass} (allows : ∃ c, cls.effective.contains c = true)
    (bound : Bindings) (source : Source) (failure : Failure) (source' : Source) :
    emitClass cls bound source ≠ (.error failure, source') := by
  intro failed
  have some : cls.effective.isEmpty = false := CharSet.isEmpty_eq_false_iff.mpr allows
  have positive : 0 < cls.effective.size := by
    obtain ⟨c, allowed⟩ := allows
    rw [CharSet.size_eq]
    exact List.length_pos_of_mem (CharSet.mem_members.mpr allowed)
  have inside := source.below_lt positive
  rw [CharSet.size_eq] at inside
  simp only [emitClass, some, Bool.false_eq_true, ↓reduceIte, CharSet.nth_eq, CharSet.size_eq,
    List.getElem?_eq_getElem inside] at failed
  cases failed

private theorem failsWell (cap : UInt32) {p : Pattern} (drawable : p.Every Drawable) :
    FailsWell cap p := by
  induction p with
  | literal text => exact fun _ _ _ _ _ _ _ _ _ failed => nomatch failed
  | anchor kind => exact fun _ _ _ _ _ _ _ _ _ failed => nomatch failed
  | oneOf cls =>
    intro _ _ _ bound source failure source' _ _ failed
    exact absurd failed (emitClass_ne_error drawable.here bound source failure source')
  | sequence items ih =>
    intro ledger after excused bound source failure source' recorded accounted failed
    rw [marks_sequence] at recorded
    rw [emitFrom] at failed
    refine failsBy_of_children (fun j item index isItem leavesOut => ?_) (someFails_of_emitItems
      (fun item member => ih item member (drawable.below member)) recorded accounted failed)
    obtain ⟨outer, leavesOut⟩ := leavesOut
    exact ⟨outer, leavesOut.below isItem⟩
  | alternation branches ih =>
    intro ledger after excused bound source failure source' recorded accounted failed
    rw [marks_alternation] at recorded
    have some : branches ≠ [] := drawable.here
    rw [emitFrom, List.isEmpty_eq_false_iff.mpr some] at failed
    have inside := source.below_lt (List.length_pos_iff.mpr some)
    refine failsBy_of_children (fun j branch index isBranch closes => ?_) (someFails_of_emitBranch
      (fun branch member => ih branch member (drawable.below member)) inside recorded accounted failed)
    exact ⟨[], leavesOut_of_branch isBranch closes⟩
  | repetition bounds body ih =>
    intro ledger after excused bound source failure source' recorded accounted failed
    have well := ih (drawable.below (List.mem_singleton_self body))
    exact failsBy_of_body rfl (failsBy_of_emitTimes well recorded accounted failed)
  | group index name body ih =>
    intro ledger after excused bound source failure source' recorded accounted failed
    have well := ih (drawable.below (List.mem_singleton_self body))
    obtain ⟨between, opens, rest⟩ := Ledger.recordAll_cons.mp recorded
    obtain ⟨inner, inside, -⟩ := Ledger.recordAll_append.mp rest
    obtain ⟨-, rfl⟩ := Ledger.recordAll_opened.mp (by simpa [Ledger.recordAll] using opens)
    rw [emitFrom] at failed
    split at failed
    · cases failed
    · rename_i failure' source'' failed'
      cases failed
      exact failsBy_of_body rfl (well _ _ _ _ _ _ _ inside accounted failed')
  | backreference index =>
    intro ledger after excused bound source failure source' recorded accounted failed
    obtain ⟨isClosed, -⟩ := Ledger.recordAll_reference.mp recorded
    rw [emitFrom] at failed
    split at failed
    · cases failed
    · rename_i none
      cases failed
      refine ⟨index, rfl, .inr ⟨⟨[], rfl⟩, ?_⟩⟩
      exact (accounted index isClosed).resolve_left (by simp [none])

/-- Drawing from a tree whose marks are in order gives a text, or comes to a reference whose group was
left out with something that does not contain the reference. -/
theorem emit_of_recordAll {p : Pattern} {after : Ledger} (drawable : p.Every Drawable)
    (recorded : ({} : Ledger).recordAll p.marks = some after) (cap : UInt32) (source : Source) :
    (∃ text, (p.emit cap source).1 = .ok text) ∨
      ∃ index, (p.emit cap source).1 = .error (.unboundReference index) ∧ p.OmitsReferent index := by
  unfold emit
  split
  · exact .inl ⟨_, rfl⟩
  · rename_i failure source' failed
    obtain ⟨index, rfl, omits | ⟨-, never⟩⟩ :=
      failsWell cap drawable _ _ (fun _ => False) _ _ _ _ recorded (fun _ none => nomatch none) failed
    · exact .inr ⟨index, rfl, omits⟩
    · exact never.elim

end PatternForge.Pattern
