import PatternForge.Proofs.Pattern.Numbering
import PatternForge.Proofs.Reading.ClassSpelling
import PatternForge.Proofs.Reading.Operators
import PatternForge.Proofs.Reading.Steps

/-!
What is true of every tree that was read. `Pattern.IsRead` says it node by node, and the marks of the
tree are in order for a ledger that starts empty. Both are invariants of the reader's state
(`Parser.State.Sound`): each step puts a leaf, a repetition or a finished level where they hold, and
records the marks that its text stands for.
-/
namespace PatternForge

open Pattern (Every every_iff every_literal)

/-- What is true of each node of a tree that was read. -/
def Pattern.IsRead (s : Settings) : Pattern → Prop
  | literal text => text ≠ ""
  | oneOf cls => cls.set.domain = s.domain ∧ cls.set.frozen = true
  | anchor _ => True
  | sequence items =>
    items.length ≠ 1 ∧ (∀ item ∈ items, item.isSequence = false) ∧ Unmerged items
  | alternation branches => 2 ≤ branches.length
  | repetition bounds _ => ∀ most ∈ bounds.most, bounds.least ≤ most
  | group _ name _ => ∀ given ∈ name, IsName s.data given
  | backreference index => 1 ≤ index ∧ index ≤ 9

namespace Pattern

theorem assembles_isRead (s : Settings) : Assembles (IsRead s) where
  joined := by
    intro text text' some _ none
    exact some (String.append_eq_empty_iff.mp none).1
  sequence := fun several flat unmerged => ⟨several, flat, unmerged⟩
  alternation := fun several => several

theorem every_concat_isRead {s : Settings} {items : List Pattern}
    (all : ∀ item ∈ items, item.Every (IsRead s)) : (concat items).Every (IsRead s) :=
  every_concat (assembles_isRead s) (fun _ sound => sound.2.1) all

theorem every_ofLevel_isRead {s : Settings} {branches items : List Pattern}
    (finished : ∀ branch ∈ branches, branch.Every (IsRead s))
    (all : ∀ item ∈ items, item.Every (IsRead s)) : (ofLevel branches items).Every (IsRead s) := by
  refine every_choice (assembles_isRead s) (by simp) fun branch member => ?_
  rw [List.mem_reverse, List.mem_cons] at member
  rcases member with rfl | member
  · exact every_concat_isRead fun item isItem => all item (List.mem_reverse.mp isItem)
  · exact finished branch member

/-- A node without children. -/
theorem every_leaf {fact : Pattern → Prop} {p : Pattern} (none : p.children = [])
    (here : fact p) : p.Every fact := by
  rw [every_iff, none]
  exact ⟨here, by simp⟩

theorem every_anchor_isRead (s : Settings) (kind : Anchor) : (anchor kind).Every (IsRead s) :=
  every_leaf rfl trivial

theorem every_oneOf_isRead {s : Settings} {set : CharSet} (negated : Bool)
    (same : set.domain = s.domain) : (oneOf (.of set negated)).Every (IsRead s) :=
  every_leaf rfl ⟨same, rfl⟩

theorem every_charPattern_isRead (s : Settings) (flags : Flags) (c : Char) :
    (s.charPattern flags c).Every (IsRead s) := by
  have single : (literal c.toString).Every (IsRead s) :=
    every_leaf rfl fun none => by simpa [Char.toString] using congrArg String.toList none
  unfold Settings.charPattern
  dsimp only
  split
  · split
    · exact every_oneOf_isRead false (s.domain_setOf _)
    · exact single
  · exact single

theorem every_dotPattern_isRead (s : Settings) (flags : Flags) :
    (s.dotPattern flags).Every (IsRead s) := by
  refine every_oneOf_isRead true ?_
  split
  · rfl
  · exact s.domain_setOf _

end Pattern

/-! ### What the readers of single constructs give -/

theorem Escape.every_isRead_of_read {ctx : Escape.Context} {start here after : Cursor} {leaf : Pattern}
    (read : Escape.read ctx start here = .ok (leaf, after)) :
    leaf.Every (Pattern.IsRead ctx.settings) := by
  cases ClassSet.reads_of_escape read with
  | character => exact Pattern.every_charPattern_isRead _ _ _
  | named => exact Pattern.every_oneOf_isRead _ rfl
  | anchor => exact Pattern.every_anchor_isRead _ _
  | reference _ digit => exact Pattern.every_leaf rfl digit

theorem CharSet.domain_of_insertRange {s t : CharSet} {a b : Char}
    (inserted : s.insertRange a b = .ok t) : t.domain = s.domain := by
  rcases Char.le_total a b with ordered | ordered
  · obtain ⟨-, low, high, rfl⟩ := (insertRange_eq_ok ordered).mp inserted
    rfl
  · rw [insertRange_swap] at inserted
    obtain ⟨-, low, high, rfl⟩ := (insertRange_eq_ok ordered).mp inserted
    rfl

namespace ClassSet

private theorem domain_of_addItems {items : List Item} {set added : CharSet}
    (adds : items.foldlM addItem set = .ok added) : added.domain = set.domain := by
  induction items generalizing set with
  | nil => cases adds; rfl
  | cons item rest ih =>
    rw [List.foldlM_cons] at adds
    cases first : addItem set item with
    | error failure => rw [first] at adds; cases adds
    | ok between =>
      rw [first] at adds
      rw [ih adds]
      cases item with
      | range lo hi => exact CharSet.domain_of_insertRange first
      | set members => exact (CharSet.domain_of_insertAll first).1

private theorem every_isRead_of_build {ctx : Escape.Context} {start after : Cursor} {negated : Bool}
    {items : List Item} {leaf : Pattern} (built : build ctx start after negated items = .ok leaf) :
    leaf.Every (Pattern.IsRead ctx.settings) := by
  unfold build at built
  split at built
  · cases built
  · rename_i set adds
    rw [(Settings.classPattern_eq_ok.mp built).2]
    apply Pattern.every_oneOf_isRead
    split
    · rfl
    · exact domain_of_addItems adds

theorem every_isRead_of_read {ctx : Escape.Context} {start after : Cursor} {leaf : Pattern}
    (read : ClassSet.read ctx start = .ok (leaf, after)) :
    leaf.Every (Pattern.IsRead ctx.settings) := by
  obtain ⟨negated, items, -, -, built⟩ := spells_of_read read
  exact every_isRead_of_build built

end ClassSet

/-- Bounds that are read are in order. -/
theorem Repeat.ordered_of_read {data : CharacterData} {flags : Flags} {start after : Cursor} {c : Char}
    {bounds : Bounds} (read : Repeat.read data flags start c = .ok (bounds, after)) :
    ∀ most ∈ bounds.most, bounds.least ≤ most := by
  unfold Repeat.read at read
  split at read
  · obtain ⟨greedy, -, rfl⟩ := plain_eq_ok.mp read
    simp
  · obtain ⟨greedy, -, rfl⟩ := plain_eq_ok.mp read
    simp
  · obtain ⟨greedy, -, rfl⟩ := plain_eq_ok.mp read
    simp
  · obtain ⟨least, most, close, greedy, -, -, ordered, rfl⟩ := counted_eq_ok.mp read
    exact fun bound isMost => UInt32.not_lt.mp (ordered bound isMost)

/-- The name of a group that is read is new, and it is read as the same name again. -/
theorem GroupPrefix.isName_of_read {data : CharacterData} {flags : Flags} {taken : List String}
    {start after : Cursor} {name : Option String}
    (read : GroupPrefix.read data flags taken start = .ok (.capturing name, after)) :
    ∀ given ∈ name, IsName data given ∧ given ∉ taken := by
  intro given isGiven
  obtain ⟨-, ⟨nameStart, found, -, isName, same⟩ | ⟨-, ⟨-, isFlags⟩ | ⟨-, same, -⟩⟩⟩ :=
    read_eq_ok.mp read
  · cases same
    cases isGiven
    obtain ⟨isName, isNew, -⟩ := name_eq_ok.mp isName
    exact ⟨isName, isNew⟩
  · obtain ⟨_, _, -, ⟨-, -, same, -⟩ | ⟨-, same, -⟩⟩ := readFlags_eq_ok.mp isFlags <;> cases same
  · cases same
    cases isGiven

/-! ### The invariant of the reader -/

/-- The mark of an opening parenthesis. -/
def openingMarks : Option (Nat × Option String) → List Mark
  | some (index, name) => [.opened index name]
  | none => []

/-- The marks of an open group up to its body. -/
def OpenGroup.marks (opened : OpenGroup) : List Mark :=
  opened.branches.reverse.flatMap Pattern.marks ++ opened.items.reverse.flatMap Pattern.marks ++
    openingMarks opened.capture

/-- What is true of the parts of an open group. -/
structure OpenGroup.Sound (s : Settings) (opened : OpenGroup) : Prop where
  branches : ∀ branch ∈ opened.branches, branch.Every (Pattern.IsRead s)
  items : ∀ item ∈ opened.items, item.Every (Pattern.IsRead s)
  capture : ∀ index name, opened.capture = some (index, name) → ∀ given ∈ name, IsName s.data given

namespace Parser

/-- The marks of everything read so far. -/
def State.marks (st : State) : List Mark :=
  st.enclosing.reverse.flatMap OpenGroup.marks ++ st.branches.reverse.flatMap Pattern.marks ++
    st.items.reverse.flatMap Pattern.marks

/-- What is true of the reader at every place. -/
structure State.Sound (s : Settings) (st : State) : Prop where
  enclosing : ∀ opened ∈ st.enclosing, opened.Sound s
  branches : ∀ branch ∈ st.branches, branch.Every (Pattern.IsRead s)
  items : ∀ item ∈ st.items, item.Every (Pattern.IsRead s)
  recorded : ({} : Ledger).recordAll st.marks = some st.ledger

theorem sound_initial (s : Settings) (text : List Char) : (State.initial s text).Sound s where
  enclosing := by simp [State.initial]
  branches := by simp [State.initial]
  items := by simp [State.initial]
  recorded := rfl

variable {s : Settings} {st st' : State}

theorem State.Sound.push (sound : st.Sound s) {leaf : Pattern} (every : leaf.Every (Pattern.IsRead s))
    (kept : st.ledger.recordAll leaf.marks = some st.ledger) (after : Cursor) :
    (st.push leaf after).Sound s where
  enclosing := sound.enclosing
  branches := sound.branches
  items := by
    intro item member
    rcases List.mem_cons.mp member with rfl | member
    · exact every
    · exact sound.items item member
  recorded := by
    have more : (st.push leaf after).marks = st.marks ++ leaf.marks := by
      simp [State.marks, State.push]
    rw [more, Ledger.recordAll_append]
    exact ⟨st.ledger, sound.recorded, kept⟩

private theorem sound_enter (sound : st.Sound s) {capture : Option (Nat × Option String)}
    {flags : Flags} {after : Cursor} {count : Nat} {names : List String}
    (named : ∀ index name, capture = some (index, name) → ∀ given ∈ name, IsName s.data given)
    (recorded : st.ledger.recordAll (openingMarks capture) = some ⟨count, st.closed, names⟩)
    (entered : { st with count, names }.enter s capture flags after = .ok st') : st'.Sound s := by
  unfold State.enter at entered
  split at entered
  · cases entered
  · cases entered
    refine ⟨fun opened member => ?_, by simp, by simp, ?_⟩
    · rcases List.mem_cons.mp member with rfl | member
      · exact ⟨sound.branches, sound.items, named⟩
      · exact sound.enclosing opened member
    · have more : ({} : Ledger).recordAll (st.marks ++ openingMarks capture) =
          some ⟨count, st.closed, names⟩ :=
        Ledger.recordAll_append.mpr ⟨st.ledger, sound.recorded, recorded⟩
      simpa [State.marks, OpenGroup.marks, State.ledger] using more

private theorem sound_openGroup (sound : st.Sound s) (opens : st.openGroup s = .ok st') :
    st'.Sound s := by
  unfold State.openGroup at opens
  split at opens
  · cases opens
  · cases opens
    exact ⟨sound.enclosing, sound.branches, sound.items, sound.recorded⟩
  · exact @sound_enter s st st' sound none _ _ st.count st.names (by simp) rfl opens
  · rename_i name after isPrefix
    have names := GroupPrefix.isName_of_read isPrefix
    refine sound_enter sound ?_ ?_ opens
    · intro index given same
      cases same
      exact fun text isText => (names text isText).1
    · have isNew : ∀ taken ∈ name, taken ∉ st.names := fun text isText => (names text isText).2
      simpa [openingMarks, Ledger.recordAll, Ledger.record, State.ledger] using isNew

private theorem sound_closeGroup (sound : st.Sound s) (closes : st.closeGroup = .ok st') :
    st'.Sound s := by
  unfold State.closeGroup at closes
  split at closes
  · cases closes
  · rename_i opened outer isEnclosing
    cases closes
    have soundOpened := sound.enclosing opened (by simp [isEnclosing])
    have body := Pattern.every_ofLevel_isRead sound.branches sound.items
    refine ⟨fun other member => ?_, soundOpened.branches, fun item member => ?_, ?_⟩
    · exact sound.enclosing other (by rw [isEnclosing]; exact List.mem_cons_of_mem _ member)
    · rcases List.mem_cons.mp member with rfl | member
      · unfold OpenGroup.close
        split
        · exact body
        · rename_i index name isCapture
          exact Pattern.every_iff.mpr ⟨soundOpened.capture index name isCapture,
            by simpa [Pattern.children] using body⟩
      · exact soundOpened.items item member
    · have inside : st.marks = outer.reverse.flatMap OpenGroup.marks ++
          opened.branches.reverse.flatMap Pattern.marks ++
            opened.items.reverse.flatMap Pattern.marks ++ openingMarks opened.capture ++
              (Pattern.ofLevel st.branches st.items).marks := by
        simp [State.marks, isEnclosing, OpenGroup.marks, Pattern.marks_ofLevel]
      cases isCapture : opened.capture with
      | none =>
        have recorded := sound.recorded
        rw [inside] at recorded
        simpa [State.marks, OpenGroup.close, isCapture, openingMarks, State.ledger] using recorded
      | some capture =>
        have recorded := Ledger.recordAll_append.mpr
          ⟨st.ledger, sound.recorded, (rfl : _ = st.ledger.recordAll [.closed capture.1])⟩
        rw [inside] at recorded
        simpa [State.marks, OpenGroup.close, isCapture, openingMarks, State.ledger, Pattern.marks]
          using recorded

private theorem sound_nextBranch (sound : st.Sound s) : st.nextBranch.Sound s where
  enclosing := sound.enclosing
  branches := by
    intro branch member
    rcases List.mem_cons.mp member with rfl | member
    · exact Pattern.every_concat_isRead fun item isItem => sound.items item (List.mem_reverse.mp isItem)
    · exact sound.branches branch member
  items := by simp [State.nextBranch]
  recorded := by
    have same : st.nextBranch.marks = st.marks := by
      simp [State.marks, State.nextBranch, Pattern.marks_concat]
    rw [same]
    exact sound.recorded

private theorem sound_repeatLast (sound : st.Sound s) {c : Char}
    (repeats : st.repeatLast s c = .ok st') : st'.Sound s := by
  unfold State.repeatLast at repeats
  split at repeats
  · cases repeats
  · rename_i item earlier isItems
    split at repeats
    · cases repeats
    · rename_i bounds after isRepeat
      cases repeats
      refine ⟨sound.enclosing, sound.branches, fun other member => ?_, ?_⟩
      · rcases List.mem_cons.mp member with rfl | member
        · refine Pattern.every_iff.mpr ⟨Repeat.ordered_of_read isRepeat, ?_⟩
          simpa [Pattern.children] using sound.items item (by simp [isItems])
        · exact sound.items other (by rw [isItems]; exact List.mem_cons_of_mem _ member)
      · have recorded := sound.recorded
        simpa [State.marks, isItems, Pattern.marks, State.ledger] using recorded

private theorem sound_pushRead (sound : st.Sound s) {read : Except Failure (Pattern × Cursor)}
    (every : ∀ leaf after, read = .ok (leaf, after) → leaf.Every (Pattern.IsRead s))
    (kept : ∀ leaf after, read = .ok (leaf, after) → st.ledger.recordAll leaf.marks = some st.ledger)
    (pushed : st.pushRead read = .ok st') : st'.Sound s := by
  unfold State.pushRead at pushed
  split at pushed
  · cases pushed
  · rename_i leaf after
    cases pushed
    exact sound.push (every leaf after rfl) (kept leaf after rfl) after

/-- A single character has no marks. -/
private theorem marks_charPattern (s : Settings) (flags : Flags) (c : Char) :
    (s.charPattern flags c).marks = [] := by
  unfold Settings.charPattern
  dsimp only
  repeat' split
  all_goals rfl

private theorem kept_of_escape {leaf : Pattern} {here after : Cursor}
    (read : Escape.read (st.context s) st.here here = .ok (leaf, after)) :
    st.ledger.recordAll leaf.marks = some st.ledger := by
  cases ClassSet.reads_of_escape read with
  | character => rw [marks_charPattern]; rfl
  | named => rfl
  | anchor => rfl
  | reference closed =>
    have isClosed : _ ∈ st.closed := closed
    simp [Pattern.marks, Ledger.recordAll, Ledger.record, State.ledger, isClosed]

private theorem kept_of_class {leaf : Pattern} {after : Cursor}
    (read : ClassSet.read (st.context s) st.here = .ok (leaf, after)) :
    st.ledger.recordAll leaf.marks = some st.ledger := by
  obtain ⟨negated, items, -, -, built⟩ := ClassSet.spells_of_read read
  unfold ClassSet.build at built
  split at built
  · cases built
  · rw [(Settings.classPattern_eq_ok.mp built).2]
    rfl

/-- Each step keeps the invariant. -/
theorem sound_step {c : Char} (sound : st.Sound s) (stepped : step s st c = .ok st') :
    st'.Sound s := by
  unfold step at stepped
  split at stepped
  case h_1 => exact sound_openGroup sound stepped
  case h_2 => exact sound_closeGroup sound stepped
  case h_3 => cases stepped; exact sound_nextBranch sound
  case h_4 =>
    exact sound_pushRead sound (fun leaf after read => ClassSet.every_isRead_of_read read)
      (fun leaf after read => kept_of_class read) stepped
  case h_9 =>
    exact sound_pushRead sound (fun leaf after read => Escape.every_isRead_of_read read)
      (fun leaf after read => kept_of_escape read) stepped
  case h_10 => cases stepped; exact sound.push (Pattern.every_dotPattern_isRead s _) rfl _
  case h_11 => cases stepped; exact sound.push (Pattern.every_anchor_isRead s _) rfl _
  case h_12 => cases stepped; exact sound.push (Pattern.every_anchor_isRead s _) rfl _
  case h_13 =>
    cases stepped
    exact sound.push (Pattern.every_charPattern_isRead s _ _) (by rw [marks_charPattern]; rfl) _
  all_goals exact sound_repeatLast sound stepped

/-- So it holds when the text has been read. -/
theorem sound_run (sound : st.Sound s) (ends : run s st = .ok st') : st'.Sound s := by
  fun_induction run s st with
  | case1 => cases ends; exact sound
  | case2 => cases ends
  | case3 st c rest next between stepped ih => exact ih (sound_step sound stepped) ends

end Parser

/-- **What is true of every tree that is read.** -/
theorem Settings.isRead_of_parse {s : Settings} {text : String} {tree : Pattern}
    (parsed : s.parse text = .ok tree) :
    tree.Every (Pattern.IsRead s) ∧ (∃ ledger, ({} : Ledger).recordAll tree.marks = some ledger) ∧
      tree.DeepestWithin s.nestLimit 0 := by
  obtain ⟨last, ends, closed, rfl, within⟩ := parse_eq_ok.mp parsed
  have sound := Parser.sound_run (Parser.sound_initial s text.toList) ends
  refine ⟨Pattern.every_ofLevel_isRead sound.branches sound.items, ⟨last.ledger, ?_⟩, within⟩
  rw [Pattern.marks_ofLevel]
  simpa [Parser.State.marks, closed] using sound.recorded

end PatternForge
