import Mathlib.Data.List.Infix
import Mathlib.Data.List.TakeWhile
import PatternForge.Generator
import PatternForge.Proofs.Matching.Constructs
import PatternForge.Proofs.Reading.Anchors
import PatternForge.Proofs.Reading.Leaves
import PatternForge.Proofs.Reading.Steps

/-!
The finite engine reads patterns as the reader does. Where no flag is set, none is listed and no
condition on a place is written, the two go through the constructs of a pattern hand in hand: whatever
stands in the reader's state is matched by what stands at the same place of the engine's
(`Regular.Abreast`). So a generator with that engine accepts every string that it draws
(`Generator.accepts_of_emit`).

The finite engine has no references. The backtracking engine takes all the digits of a reference for its
number, of which the reader takes the first (`Search.escape?_reference_iff`).
-/
namespace PatternForge

namespace Parser

/-- From here on, no parenthesis is followed by a list of flags. -/
def State.ListsNoFlags (s : Settings) (st : State) : Prop :=
  ∀ later, Relation.ReflTransGen (Reads s) st later → GroupPrefix.opensFlags later.here.rest = false

theorem State.ListsNoFlags.step {s : Settings} {st st' : State} (none : st.ListsNoFlags s)
    (reads : Reads s st st') : st'.ListsNoFlags s :=
  fun later onwards => none later (.head reads onwards)

end Parser

/-- The text of a pattern sets no flags. -/
def Settings.ListsNoFlags (s : Settings) (pattern : String) : Prop :=
  (Parser.State.initial s pattern.toList).ListsNoFlags s

/-- That is so at least if no parenthesis at all, not even an escaped one, is followed by flags. -/
theorem Settings.listsNoFlags_of_tails (s : Settings) {pattern : String}
    (none : ∀ rest ∈ pattern.toList.tails, GroupPrefix.opensFlags rest = false) : s.ListsNoFlags pattern := by
  intro later onwards
  refine none _ ((List.mem_tails _ _).mpr ?_)
  induction onwards with
  | refl => exact List.suffix_refl _
  | @tail between after _ reads ih =>
    obtain ⟨c, rest, -, stepped⟩ := reads
    obtain ⟨n, moved⟩ := (Cursor.reaches_skip _).trans (Parser.reaches_step stepped)
    rw [moved, Cursor.rest_skipMany]
    exact (List.drop_suffix n _).trans ih

/-- Letters stand for themselves alone and the dot for no line feed. -/
structure Flags.Plain (flags : Flags) : Prop where
  minding : flags.ignoreCase = false
  halting : flags.dotNewLine = false

namespace Regular

open Pattern (MatchedBy)

variable {cap : UInt32}

/-! ### Levels -/

/-- An item is an expression that matches what a pattern gives. -/
def Stands (cap : UInt32) (p : Pattern) (item : Item) : Prop :=
  ∃ e, item = .expression e ∧ MatchedBy cap p e

private theorem matchedBy_expressions {ps : List Pattern} {items : List Item}
    (each : List.Forall₂ (Stands cap) ps items) :
    MatchedBy cap (.concat ps.reverse) (.ofItems (Item.expressions items)) := by
  refine Pattern.matchedBy_concat ?_
  unfold Item.expressions
  refine List.rel_reverse ?_
  induction each with
  | nil => exact .nil
  | cons stands _ ih =>
    obtain ⟨e, rfl, matched⟩ := stands
    exact .cons matched ih

/-- What the reader and the engine hold of a level that is not finished yet. -/
structure SameLevel (cap : UInt32) (items : List Pattern) (items' : List Item)
    (branches : List Pattern) (branches' : List Expression) : Prop where
  items : List.Forall₂ (Stands cap) items items'
  branches : List.Forall₂ (MatchedBy cap) branches branches'

theorem SameLevel.nil : SameLevel cap [] [] [] [] := ⟨.nil, .nil⟩

theorem SameLevel.matchedBy {items branches : List Pattern} {items' : List Item}
    {branches' : List Expression} (same : SameLevel cap items items' branches branches') :
    MatchedBy cap (.ofLevel branches items)
      (.ofBranches (.ofItems (Item.expressions items') :: branches').reverse) :=
  Pattern.matchedBy_choice (List.rel_reverse (.cons (matchedBy_expressions same.items) same.branches))

/-- An open group as both hold it. -/
structure SameGroup (cap : UInt32) (opened : PatternForge.OpenGroup) (opened' : OpenGroup) : Prop where
  level : SameLevel cap opened.items opened'.items opened.branches opened'.branches
  plain : opened.outer.Plain
  mode : opened'.outer = {}

/-! ### States -/

/-- The engine stands where the reader does, inside one more group and with more text behind the
pattern. -/
structure Abreast (cap : UInt32) (more : List Char) (around : OpenGroup) (st : Parser.State)
    (st' : State) : Prop where
  here : st'.here.rest = st.here.rest ++ more
  plain : st.flags.Plain
  mode : st'.mode = {}
  names : st'.names = st.names
  level : SameLevel cap st.items st'.items st.branches st'.branches
  enclosing : ∃ inner, List.Forall₂ (SameGroup cap) st.enclosing inner ∧ st'.enclosing = inner ++ [around]

section Steps
variable {s : Settings} {more rest : List Char} {around : OpenGroup} {st later : Parser.State} {st' : State}
  {after after' : Cursor} {c : Char}

theorem Abreast.skip (abreast : Abreast cap more around st st') (next : st.here.rest = c :: rest) :
    st'.here.skip.rest = st.here.skip.rest ++ more := by
  rw [Cursor.rest_skip, abreast.here, Cursor.rest_skip, next]
  rfl

theorem Abreast.push (abreast : Abreast cap more around st st') {leaf : Pattern} {e : Expression}
    (matched : MatchedBy cap leaf e) (same : after'.rest = after.rest ++ more) :
    Abreast cap more around (st.push leaf after) (st'.push e after') where
  here := same
  plain := abreast.plain
  mode := abreast.mode
  names := abreast.names
  level := ⟨.cons ⟨e, rfl, matched⟩ abreast.level.items, abreast.level.branches⟩
  enclosing := abreast.enclosing

private theorem Abreast.enter (abreast : Abreast cap more around st st')
    {capture : Option (Nat × Option String)} {flags : Flags} {mode : Mode}
    (entered : st.enter s capture flags after = .ok later) (plain : flags.Plain) (plain' : mode = {})
    (same : after'.rest = after.rest ++ more) (index : Option Nat) :
    Abreast cap more around later (st'.enter index mode after') := by
  unfold Parser.State.enter at entered
  split at entered <;> cases entered
  obtain ⟨inner, groups, isInner⟩ := abreast.enclosing
  exact {
    here := same
    plain
    mode := plain'
    names := abreast.names
    level := .nil
    enclosing := ⟨_ :: inner, .cons ⟨abreast.level, abreast.plain, abreast.mode⟩ groups,
      congrArg (List.cons _) isInner⟩ }

private theorem Abreast.openGroup (abreast : Abreast cap more around st st')
    (next : st.here.rest = '(' :: rest) (calm : more.head? ≠ some '?')
    (noFlags : GroupPrefix.opensFlags st.here.rest = false) (opened : st.openGroup s = .ok later) :
    ∃ later', Regular.openGroup s.data st' = some later' ∧ Abreast cap more around later later' := by
  unfold Parser.State.openGroup at opened
  rw [← abreast.names] at opened
  split at opened
  · cases opened
  · rename_i found close isPrefix
    obtain ⟨_, _, ⟨same, -⟩ | ⟨_, same, -⟩⟩ :=
      opens_of_read isPrefix next noFlags calm abreast.mode abreast.here <;> cases same
  · rename_i flags after isPrefix
    obtain ⟨after', stop, ⟨same, opens⟩ | ⟨_, same, -⟩⟩ :=
      opens_of_read isPrefix next noFlags calm abreast.mode abreast.here <;> cases same
    exact ⟨_, opens, abreast.enter opened abreast.plain rfl stop none⟩
  · rename_i name after isPrefix
    obtain ⟨after', stop, ⟨same, -⟩ | ⟨name, same, opens⟩⟩ :=
      opens_of_read isPrefix next noFlags calm abreast.mode abreast.here <;> cases same
    have named : Abreast cap more around { st with count := st.count + 1, names := name.toList ++ st.names }
        { st' with count := st'.count + 1, names := name.toList ++ st'.names } :=
      { abreast with names := congrArg (name.toList ++ ·) abreast.names }
    rw [abreast.names] at opened
    exact ⟨_, opens, named.enter opened abreast.plain abreast.mode stop _⟩

private theorem Abreast.closeGroup (abreast : Abreast cap more around st st')
    (next : st.here.rest = c :: rest) (closed : st.closeGroup = .ok later) :
    ∃ later', Regular.closeGroup st' = some later' ∧ Abreast cap more around later later' := by
  unfold Parser.State.closeGroup at closed
  split at closed
  · cases closed
  · rename_i opened outer isOpen
    cases closed
    obtain ⟨inner, groups, isInner⟩ := abreast.enclosing
    rw [isOpen] at groups
    cases groups with
    | @cons _ opened' _ inner' same others =>
      unfold Regular.closeGroup
      rw [isInner]
      refine ⟨_, rfl, ?_⟩
      have body : MatchedBy cap (opened.close (.ofLevel st.branches st.items))
          (.group opened'.index st'.level) := by
        unfold OpenGroup.close
        split
        · exact abreast.level.matchedBy.inGroup _
        · exact Pattern.matchedBy_group abreast.level.matchedBy _
      exact {
        here := abreast.skip next
        plain := same.plain
        mode := same.mode
        names := abreast.names
        level := ⟨.cons ⟨_, rfl, body⟩ same.level.items, same.level.branches⟩
        enclosing := ⟨inner', others, rfl⟩ }

private theorem Abreast.nextBranch (abreast : Abreast cap more around st st')
    (next : st.here.rest = c :: rest) :
    Abreast cap more around st.nextBranch (Regular.nextBranch st') where
  here := abreast.skip next
  plain := abreast.plain
  mode := abreast.mode
  names := abreast.names
  level := ⟨.nil, .cons (matchedBy_expressions abreast.level.items) abreast.level.branches⟩
  enclosing := abreast.enclosing

private theorem Abreast.repeatLast (abreast : Abreast cap more around st st')
    (operator : c ∈ ['?', '*', '+', '\x7b']) (next : st.here.rest = c :: rest)
    (calm : more.head? ≠ some '?') (repeated : st.repeatLast s c = .ok later) :
    ∃ later', step s.data st' c = some later' ∧ Abreast cap more around later later' := by
  unfold Parser.State.repeatLast at repeated
  split at repeated
  · cases repeated
  · rename_i item earlier isItem
    split at repeated
    · cases repeated
    · rename_i bounds after read
      cases repeated
      have items := abreast.level.items
      rw [isItem] at items
      obtain ⟨_, earlier', ⟨e, rfl, matched⟩, others, isItem'⟩ := List.forall₂_cons_left_iff.mp items
      obtain ⟨greedy, after', stop, repeats⟩ :=
        repeats_of_read operator read next calm abreast.mode abreast.here isItem'
      refine ⟨_, repeats, ?_⟩
      exact {
        here := stop
        plain := abreast.plain
        mode := abreast.mode
        names := abreast.names
        level := ⟨.cons ⟨_, rfl, Pattern.matchedBy_repetition matched⟩ others, abreast.level.branches⟩
        enclosing := abreast.enclosing }

private theorem matchedBy_dot {flags : Flags} {mode : Mode} (halting : flags.dotNewLine = false)
    (plain : mode = {}) : MatchedBy cap (s.dotPattern flags) (.one { allows := mode.dot }) := by
  subst plain
  unfold Settings.dotPattern
  rw [halting]
  refine Pattern.matchedBy_class fun c allowed => ?_
  refine decide_eq_true (p := c ≠ '\n') ?_
  rintro rfl
  have feed := s.contains_setOf ['\n'] '\n'
  rw [CharClass.contains_of, if_neg Bool.false_ne_true, Settings.domain_setOf, Bool.and_eq_true] at allowed
  rw [feed.mpr ⟨allowed.1, List.mem_singleton_self _⟩] at allowed
  exact absurd allowed.2 Bool.false_ne_true

private theorem read_of_pushRead {read : Except Failure (Pattern × Cursor)}
    (pushed : st.pushRead read = .ok later) :
    ∃ leaf after, read = .ok (leaf, after) ∧ later = st.push leaf after := by
  unfold Parser.State.pushRead at pushed
  split at pushed <;> cases pushed
  exact ⟨_, _, rfl, rfl⟩

private theorem Abreast.charGroup (consistent : s.data.Consistent) (abreast : Abreast cap more around st st')
    (pushed : st.pushRead (ClassSet.read (st.context s) st.here) = .ok later) :
    ∃ later', Regular.step s.data st' '[' = some later' ∧ Abreast cap more around later later' := by
  obtain ⟨leaf, after, read, rfl⟩ := read_of_pushRead pushed
  obtain ⟨test, after', group, stop, matched⟩ :=
    charGroup_of_read consistent abreast.plain.minding read abreast.here
  refine ⟨_, ?_, abreast.push (matched cap) stop⟩
  change (Regular.charGroup s.data st'.mode st'.here).map _ = _
  rw [abreast.mode, show Regular.charGroup s.data {} st'.here = _ from group]
  rfl

private theorem escape_of_step {data : CharacterData} {later' : State}
    (stepped : Regular.step data st' '\\' = some later') :
    ∃ leaf after e, escape data st'.mode st'.here.skip = some (leaf, after) ∧
      leaf.expression? data st'.mode = some e ∧ later' = st'.push e after := by
  simp only [Regular.step] at stepped
  split at stepped
  · cases stepped
  · rename_i leaf after read
    obtain ⟨e, isLeaf, same⟩ := Option.map_eq_some_iff.mp stepped
    exact ⟨leaf, after, e, read, isLeaf, same.symm⟩

private theorem Abreast.escape (consistent : s.data.Consistent) (abreast : Abreast cap more around st st')
    (next : st.here.rest = c :: rest)
    (pushed : st.pushRead (Escape.read (st.context s) st.here st.here.skip) = .ok later)
    (free : later.AnchorFree) {later' : State} (stepped' : Regular.step s.data st' '\\' = some later') :
    Abreast cap more around later later' := by
  obtain ⟨leaf, after, read, rfl⟩ := read_of_pushRead pushed
  obtain ⟨leaf', after', e, read', isLeaf, rfl⟩ := escape_of_step stepped'
  rw [abreast.mode] at read' isLeaf
  have noAnchor := (free.items leaf List.mem_cons_self).here
  obtain ⟨stop, e', isLeaf', matched⟩ :=
    expression_of_read consistent abreast.plain.minding read (abreast.skip next) noAnchor read'
  cases isLeaf.symm.trans isLeaf'
  exact abreast.push (matched cap) stop

private theorem Abreast.dot (abreast : Abreast cap more around st st') (next : st.here.rest = c :: rest) :
    ∃ later', Regular.step s.data st' '.' = some later' ∧
      Abreast cap more around (st.push (s.dotPattern st.flags) st.here.skip) later' := by
  refine ⟨st'.push (.one { allows := st'.mode.dot }) st'.here.skip, ?_,
    abreast.push (matchedBy_dot abreast.plain.halting abreast.mode) (abreast.skip next)⟩
  change (if st'.mode.allCharacters then _ else _) = _
  rw [abreast.mode]
  rfl

private theorem Abreast.char (abreast : Abreast cap more around st st') (next : st.here.rest = c :: rest) :
    Abreast cap more around (st.push (s.charPattern st.flags c) st.here.skip)
      (st'.push (.one (st'.mode.char s.data c)) st'.here.skip) := by
  refine abreast.push ?_ (abreast.skip next)
  rw [Settings.charPattern, abreast.plain.minding, abreast.mode]
  exact Pattern.matchedBy_char (beq_self_eq_true c)

/-- Where the reader reads a construct other than a condition on a place, and the engine takes it too,
both still stand at the same place. -/
theorem Abreast.step (consistent : s.data.Consistent) (abreast : Abreast cap more around st st')
    (next : st.here.rest = c :: rest) (calm : more.head? ≠ some '?')
    (noFlags : GroupPrefix.opensFlags st.here.rest = false) (stepped : Parser.step s st c = .ok later)
    (free : later.AnchorFree) {later' : State} (stepped' : Regular.step s.data st' c = some later') :
    Abreast cap more around later later' := by
  have found : (∃ found, Regular.step s.data st' c = some found ∧ Abreast cap more around later found) →
      Abreast cap more around later later' := by
    rintro ⟨found, isFound, abreast⟩
    exact Option.some.inj (isFound.symm.trans stepped') ▸ abreast
  unfold Parser.step at stepped
  split at stepped
  case h_1 => exact found (abreast.openGroup next calm noFlags stepped)
  case h_2 => exact found (abreast.closeGroup next stepped)
  case h_3 =>
    cases stepped
    exact found ⟨_, rfl, abreast.nextBranch next⟩
  case h_4 => exact found (abreast.charGroup consistent stepped)
  case h_9 => exact abreast.escape consistent next stepped free stepped'
  case h_10 =>
    cases stepped
    exact found (abreast.dot next)
  case h_11 | h_12 =>
    -- a condition on a place cannot have been read
    cases stepped
    exact absurd rfl ((free.items _ List.mem_cons_self).here _)
  case h_13 =>
    cases stepped
    refine found ⟨_, ?_, abreast.char next⟩
    unfold Regular.step
    split <;> first
      | rfl
      | contradiction
  all_goals exact found (abreast.repeatLast (by decide) next calm stepped)

/-- The engine reads one construct and goes on behind it. -/
private theorem run_cons {data : CharacterData} (plain : st'.mode = {}) (next : st'.here.rest = c :: rest) :
    run data st' =
      match Regular.step data st' c with
      | none => none
      | some later' =>
        if later'.here.rest.length < st'.here.rest.length then run data later' else none := by
  cases st'
  cases plain
  rw [run, skipBlanks_plain]
  split
  · rename_i none
    rw [next] at none
    cases none
  · rename_i next'
    cases next.symm.trans next'
    rfl

private theorem run_more {data : CharacterData} {last : State} (plain : st'.mode = {})
    (next : st'.here.rest = c :: rest) (ends : run data st' = some last) :
    ∃ later', Regular.step data st' c = some later' ∧ run data later' = some last := by
  rw [run_cons plain next] at ends
  split at ends
  · cases ends
  · rename_i later' stepped
    split at ends
    · exact ⟨later', stepped, ends⟩
    · cases ends

theorem run_of_step {data : CharacterData} {later' : State} (plain : st'.mode = {})
    (next : st'.here.rest = c :: rest) (stepped : Regular.step data st' c = some later')
    (shorter : later'.here.rest.length < st'.here.rest.length) : run data st' = run data later' := by
  rw [run_cons plain next, stepped]
  exact if_pos shorter

theorem run_of_end {data : CharacterData} (plain : st'.mode = {}) (none : st'.here.rest = []) :
    run data st' = some st' := by
  rw [run, plain, skipBlanks_plain]
  split
  · rfl
  · rename_i next
    rw [none] at next
    cases next

/-- So both go through the pattern side by side, up to what the engine has behind it. -/
theorem Abreast.run (consistent : s.data.Consistent) (abreast : Abreast cap more around st st')
    (calm : more.head? ≠ some '?') (noFlags : st.ListsNoFlags s) (ends : Parser.run s st = .ok later)
    (free : later.AnchorFree) {last : State} (ends' : Regular.run s.data st' = some last) :
    ∃ between, Abreast cap more around later between ∧ between.here.rest = more ∧
      Regular.run s.data between = some last := by
  fun_induction Parser.run s st generalizing st' with
  | case1 st none =>
    cases ends
    exact ⟨st', abreast, by rw [abreast.here, none]; rfl, ends'⟩
  | case2 => cases ends
  | case3 st c rest next between stepped ih =>
    have next' : st'.here.rest = c :: (rest ++ more) := by rw [abreast.here, next]; rfl
    obtain ⟨between', stepped', going⟩ := run_more abreast.mode next' ends'
    have free' := Parser.anchorFree_of_run ends free
    have abreast' := abreast.step consistent next calm (noFlags st .refl) stepped free' stepped'
    exact ih abreast' (noFlags.step ⟨c, rest, next, stepped⟩) ends going

end Steps

/-! ### Between anchors -/

/-- The group that a pattern is put into behind the first anchor. -/
private def anchoredGroup : OpenGroup where
  index := none
  outer := {}
  branches := []
  items := [.expression (.look ({} : Mode).lineStart)]

/-- What stands behind the pattern. -/
private def closing : List Char := [')', '$']

private theorem run_opening {s : Settings} {pattern : String} {whole : State} (plain : s.flags.Plain)
    (ends : run s.data { here := .ofText (Matcher.anchored pattern).toList } = some whole) :
    ∃ st', Abreast cap closing anchoredGroup (.initial s pattern.toList) st' ∧
      run s.data st' = some whole := by
  have text : (Matcher.anchored pattern).toList =
      '^' :: '(' :: '?' :: ':' :: (pattern.toList ++ closing) := by
    simp [Matcher.anchored, String.toList_append, closing]
  obtain ⟨behindAnchor, isAnchor, going⟩ := run_more rfl text ends
  cases isAnchor
  have next : (Cursor.ofText (Matcher.anchored pattern).toList).skip.rest =
      '(' :: '?' :: ':' :: (pattern.toList ++ closing) := by
    rw [Cursor.rest_skip]
    exact congrArg List.tail text
  obtain ⟨inside, opens, going'⟩ := run_more rfl next going
  have colon := congrArg List.tail next
  rw [← Cursor.rest_skip] at colon
  cases (openGroup_colon rfl colon).symm.trans opens
  refine ⟨_, ?_, going'⟩
  exact {
    here := by simp [State.enter, State.push, text, Parser.State.initial]
    plain
    mode := rfl
    names := rfl
    level := .nil
    enclosing := ⟨[], .nil, rfl⟩ }

private theorem level_of_closing {data : CharacterData} {st whole : State} (plain : st.mode = {})
    (rest : st.here.rest = closing) (alone : st.enclosing = [anchoredGroup])
    (ends : run data st = some whole) :
    whole.level =
      .sequence [.look ({} : Mode).lineStart, .group none st.level, .look ({} : Mode).lineEnd] := by
  obtain ⟨closed, closes, going⟩ := run_more plain rest ends
  change closeGroup st = some closed at closes
  unfold closeGroup at closes
  rw [alone] at closes
  cases closes
  have next : st.here.skip.rest = ['$'] := by rw [Cursor.rest_skip, rest]; rfl
  obtain ⟨behindAnchor, isAnchor, going'⟩ := run_more rfl next going
  cases isAnchor
  rw [run_of_end rfl (by simp [State.push, rest, closing])] at going'
  cases going'
  rfl

/-- A pattern between anchors is read as one level in a group of its own, which matches whatever the tree
gives. -/
theorem between_of_read {s : Settings} {pattern : String} {tree : Pattern} {e : Expression}
    (consistent : s.data.Consistent) (plain : s.flags.Plain) (noFlags : s.ListsNoFlags pattern)
    (parsed : s.parse pattern = .ok tree) (free : tree.AnchorFree)
    (read : Expression.read? s.data (Matcher.anchored pattern) = some e) :
    ∃ body, MatchedBy cap tree body ∧
      e = .sequence [.look ({} : Mode).lineStart, .group none body, .look ({} : Mode).lineEnd] := by
  obtain ⟨last, ends, closed, rfl, -⟩ := Settings.parse_eq_ok.mp parsed
  unfold Expression.read? at read
  split at read
  · cases read
  · rename_i whole ends'
    split at read
    · obtain ⟨st', abreast, going⟩ := @run_opening cap _ _ _ plain ends'
      have all := Parser.anchorFree_of_closed closed free
      obtain ⟨between, abreast', rest, going'⟩ :=
        abreast.run consistent (by decide) noFlags ends all going
      obtain ⟨inner, groups, isInner⟩ := abreast'.enclosing
      rw [closed] at groups
      cases groups
      have isWhole := level_of_closing abreast'.mode rest isInner going'
      refine ⟨between.level, abreast'.level.matchedBy, ?_⟩
      rw [← isWhole]
      unfold withinLimits at read
      split at read <;> cases read
      rfl
    · cases read

end Regular

/-! ### References -/

namespace Search

variable {here after : Cursor} {rest : List Char} {c : Char} {n : Nat}

theorem rest_of_decimal (read : decimal? here = some (n, after)) :
    after.rest = here.rest.dropWhile Char.isDigit := by
  simp only [decimal?] at read
  split at read <;> cases read
  exact Cursor.rest_skipWhile _ _

private theorem digit_small {d : Char} (digit : d ∈ ['1', '2', '3', '4', '5', '6', '7', '8', '9']) :
    d.isDigit = true ∧ d.toNat - '0'.toNat < UInt64.size := by
  simp only [List.mem_cons, List.not_mem_nil, or_false] at digit
  rcases digit with rfl | rfl | rfl | rfl | rfl | rfl | rfl | rfl | rfl <;> exact ⟨rfl, by decide⟩

theorem decimal?_of_digit (next : here.rest = c :: rest)
    (digit : c ∈ ['1', '2', '3', '4', '5', '6', '7', '8', '9']) (alone : rest.dropWhile Char.isDigit = rest) :
    decimal? here = some (c.toNat - '0'.toNat, here.skip) := by
  obtain ⟨isDigit, small⟩ := digit_small digit
  have none : rest.takeWhile Char.isDigit = [] := by
    simpa [alone] using List.takeWhile_append_dropWhile (p := Char.isDigit) (l := rest)
  have stop : here.skipWhile Char.isDigit = here.skip := by
    simp [Cursor.skipWhile, next, isDigit, none, Cursor.skipMany]
  simpa [decimal?, stop, Cursor.charsTo_skip next] using small

theorem numberedReference?_eq_some {length : Nat} {st : ReadState} {node : Node} :
    numberedReference? length st here = some (node, after) ↔
      ∃ n, decimal? here = some (n, after) ∧ n < length / 2 ∧ n ≤ st.count ∧ node = .reference n := by
  unfold numberedReference? reference?
  cases decimal? here with
  | none => simp
  | some found =>
    obtain ⟨n, stop⟩ := found
    by_cases long : length / 2 ≤ n
    · simp [long, Nat.not_lt.mpr long]
    · by_cases opened : n ≤ st.count
      · simpa [long, opened, Nat.not_le.mp long] using and_comm.trans (and_congr_right' eq_comm)
      · simp [long, opened]

/-- **The backtracking engine takes a reference for the same group and up to the same place as the reader
of patterns just if no digit follows.** It takes all digits for one number, the reader takes one. -/
theorem escape?_reference_iff {data : CharacterData} {ctx : Escape.Context} {start after : Cursor}
    {index length : Nat} {st : ReadState} (opened : index ≤ st.count) (short : index < length / 2)
    (read : Escape.read ctx start st.here.skip = .ok (.backreference index, after)) :
    escape? data length st = some { st.push (.reference index) after with numbered := true } ↔
      ∀ d ∈ after.rest.head?, d.isDigit = false := by
  obtain ⟨c, rest, next, member, rfl, rfl⟩ := Escape.number_of_reference read
  have digit := (digit_small member).1
  have behind : st.here.skip.skip.rest = rest := by rw [Cursor.rest_skip, next, List.tail_cons]
  have alone : rest.dropWhile Char.isDigit = rest ↔ ∀ d ∈ rest.head?, d.isDigit = false := by
    rw [List.dropWhile_eq_self_iff]
    cases rest <;> simp
  rw [behind, ← alone]
  simp only [escape?, next, digit, ↓reduceIte, Option.map_eq_some_iff, Prod.exists,
    numberedReference?_eq_some]
  constructor
  · rintro ⟨_, stop, ⟨n, isNumber, -, -, rfl⟩, same⟩
    have stops : stop = st.here.skip.skip := congrArg ReadState.here same
    have rests := rest_of_decimal isNumber
    rwa [next, List.dropWhile_cons_of_pos digit, stops, behind, eq_comm] at rests
  · intro single
    exact ⟨_, _, ⟨_, decimal?_of_digit next member single, short, opened, rfl⟩, rfl⟩

end Search

/-! ### The strings of a generator -/

namespace Matcher

/-- Only the finite engine gives a matcher that needs no other. -/
private theorem read_of_finite {data : CharacterData} {pattern : String} {m : Matcher}
    (made : ofPattern pattern data = .ok m) (finite : m.isBacktracking = false) :
    ∃ e, m.engine = .finite e ∧ Expression.read? data (anchored pattern) = some e := by
  unfold ofPattern at made
  split at made
  · rename_i engine isEngine
    cases made
    unfold engine? at isEngine
    split at isEngine
    · cases isEngine
      exact ⟨_, rfl, ‹_›⟩
    · obtain ⟨node, -, isEngine⟩ := Option.bind_eq_some_iff.mp isEngine
      unfold engineOf? at isEngine
      split at isEngine <;> obtain ⟨_, -, rfl⟩ := Option.map_eq_some_iff.mp isEngine <;> cases finite
  · cases made

end Matcher

/-- An expression for a level between anchors takes a whole text that the level gives. -/
private theorem accepts_between {cap : UInt32} {tree : Pattern} {body : Expression} {text : String}
    {env : Pattern.Environment} (matched : tree.MatchedBy cap body)
    (given : Pattern.Produces cap tree .unbound text env) :
    (Expression.sequence [.look ({} : Mode).lineStart, .group none body, .look ({} : Mode).lineEnd]).accepts
      text.toList = true := by
  have taken := matched _ _ _ given [] []
  rw [List.append_nil, List.nil_append, List.length_nil, Nat.zero_add] at taken
  have first : 0 < (Place.ofText none text.toList).length := by rw [Expression.length_ofText]; omega
  have last : text.toList.length < (Place.ofText none text.toList).length := by
    rw [Expression.length_ofText]
    omega
  have starts := List.getElem?_eq_getElem first
  have ends := List.getElem?_eq_getElem last
  refine Expression.accepts_iff.mpr ⟨0, text.toList.length, Nat.zero_le _, .sequence ?_⟩
  refine .cons (.look starts ?_) (.cons (.group taken) (.cons (.look ends ?_) .nil))
  · rw [Mode.lineStart, Expression.before_ofText starts]
  · rw [Mode.lineEnd, Expression.after_ofText ends, List.getElem?_eq_none (Nat.le_refl _)]

/-- **With the finite engine, a generator accepts every string that it draws**, if no flag is set or
listed and the tree has no condition on a place. -/
theorem Generator.accepts_of_emit {s : Settings} {cap : UInt32} {pattern : String} {g : Generator}
    (consistent : s.data.Consistent) (plain : s.flags.Plain)
    (made : Generator.ofPattern s cap pattern = .ok g) (noFlags : s.ListsNoFlags pattern)
    (free : g.tree.AnchorFree) (finite : g.matcher.isBacktracking = false)
    {source : Source} {text : String} (drawn : (g.emit source).1 = .ok text) :
    g.accepts text = .ok true := by
  unfold Generator.ofPattern at made
  split at made
  · cases made
  · rename_i tree parsed
    split at made
    · cases made
    · rename_i matcher isMatcher
      cases made
      have spelled : s.spelledOut pattern = pattern := by
        simp only [Settings.spelledOut, plain.minding, plain.halting]
      rw [spelled] at isMatcher
      obtain ⟨e, isEngine, read⟩ := Matcher.read_of_finite isMatcher finite
      obtain ⟨body, matched, rfl⟩ := Regular.between_of_read consistent plain noFlags parsed free read
      obtain ⟨env, given⟩ := Pattern.produces_of_emit drawn
      rw [Generator.accepts, Matcher.accepts, isEngine]
      exact congrArg Except.ok (accepts_between matched given)

/-- Two letters, a third one, or none. -/
def optionalLettersBody : Expression :=
  .repeated 0 (some 1) true (.group (some 1) (.choice [
    .sequence [.one (({} : Mode).char .standard 'a'), .one (({} : Mode).char .standard 'b')],
    .one (({} : Mode).char .standard 'c')]))

/-- A generator for two letters, a third one, or none. -/
def optionalLetters : Generator where
  pattern := "(ab|c)?"
  tree := .repetition ⟨0, some 1, true⟩ (.group 1 none (.alternation [.literal "ab", .literal "c"]))
  matcher := { pattern := "(ab|c)?", engine := .finite (.sequence [
      .look ({} : Mode).lineStart, .group none optionalLettersBody, .look ({} : Mode).lineEnd]) }
  cap := 10
  isConfounded := false

theorem Generator.accepts_of_emit_optionalLetters :
    Generator.ofPattern {} 10 "(ab|c)?" = .ok optionalLetters ∧
      ∀ source text, (optionalLetters.emit source).1 = .ok text →
        optionalLetters.accepts text = .ok true := by
  have reads : Parser.run {} (.initial {} "(ab|c)?".toList) =
      .ok {
        here := ⟨7, []⟩, flags := {}, count := 1, closed := [1], items := [optionalLetters.tree] } := by
    iterate 7 refine (Parser.run_of_step rfl rfl).trans ?_
    exact Parser.run_of_end rfl
  have reads' : Regular.run .standard { here := .ofText (Matcher.anchored "(ab|c)?").toList } =
      some {
        here := ⟨13, []⟩, count := 1
        items := [
          .expression (.look ({} : Mode).lineEnd), .expression (.group none optionalLettersBody),
          .expression (.look ({} : Mode).lineStart)] } := by
    iterate 11 refine (Regular.run_of_step rfl rfl rfl (by decide)).trans ?_
    exact Regular.run_of_end rfl rfl
  have parsed : ({} : Settings).parse "(ab|c)?" = .ok optionalLetters.tree := by
    unfold Settings.parse
    rw [reads]
    rfl
  have prepared : Matcher.ofPattern (({} : Settings).spelledOut "(ab|c)?") ({} : Settings).data =
      .ok optionalLetters.matcher := by
    change Matcher.ofPattern "(ab|c)?" .standard = _
    unfold Matcher.ofPattern Matcher.engine? Expression.read?
    rw [reads']
    rfl
  have made : Generator.ofPattern {} 10 "(ab|c)?" = .ok optionalLetters := by
    unfold Generator.ofPattern
    rw [parsed, prepared]
    rfl
  have free : optionalLetters.tree.AnchorFree := by
    simp [Pattern.AnchorFree, Pattern.Every, optionalLetters, Pattern.walk, Pattern.walkFrom, Pattern.walkAll]
  refine ⟨made, fun source text drawn => ?_⟩
  exact accepts_of_emit CharacterData.consistent_standard ⟨rfl, rfl⟩ made
    (Settings.listsNoFlags_of_tails {} (by decide)) free rfl drawn

end PatternForge
