import PatternForge.Proofs.Pattern.Gathering
import PatternForge.Proofs.Reading.Steps
import PatternForge.Reading.Parser

/-!
What a step of the reader can do. `Parser.Takes` lists the ways in which a construct is taken, one for each
kind of construct, with what each of them does to the state; `takes_of_step` is the only place where the
choice among the readers is opened. `State.Holds` is the invariant that most facts of trees need: what is
true of every leaf is true of every tree that the reader holds.
-/
namespace PatternForge.Parser

variable {s : Settings} {st st' last : State} {c : Char} {rest : List Char}

/-- A construct that gives a leaf by itself. -/
inductive ReadsLeaf (s : Settings) (st : State) : Char → Pattern → Cursor → Prop
  | bracketed {leaf : Pattern} {after : Cursor}
    (read : ClassSet.read (st.context s) st.here = .ok (leaf, after)) : ReadsLeaf s st '[' leaf after
  | escape {leaf : Pattern} {after : Cursor}
    (read : Escape.read (st.context s) st.here st.here.skip = .ok (leaf, after)) :
    ReadsLeaf s st '\\' leaf after
  | dot : ReadsLeaf s st '.' (s.dotPattern st.flags) st.here.skip
  | anchor {c : Char} {kind : Anchor} (named : (c, kind) ∈ [('^', .start), ('$', .finish)]) :
    ReadsLeaf s st c (.anchor kind) st.here.skip
  | char {c : Char} (plain : c ∉ ['(', ')', '|', '[', '?', '*', '+', '\x7b', '\\', '.', '^', '$']) :
    ReadsLeaf s st c (s.charPattern st.flags c) st.here.skip

/-- One construct, by the character that it starts with, and the state behind it. -/
inductive Takes (s : Settings) (st : State) : Char → State → Prop
  | leaf {c : Char} {leaf : Pattern} {after : Cursor} (read : ReadsLeaf s st c leaf after) :
    Takes s st c (st.push leaf after)
  | directive {flags : Flags} {close : Cursor}
    (read : GroupPrefix.read s.data st.flags st.names st.here = .ok (.directive flags, close)) :
    Takes s st '(' { st with here := close.skip, flags }
  | flagged {flags : Flags} {after : Cursor} {st' : State}
    (read : GroupPrefix.read s.data st.flags st.names st.here = .ok (.flagged flags, after))
    (entered : st.enter s none flags after = .ok st') : Takes s st '(' st'
  | capturing {name : Option String} {after : Cursor} {st' : State}
    (read : GroupPrefix.read s.data st.flags st.names st.here = .ok (.capturing name, after))
    (entered : { st with count := st.count + 1, names := name.toList ++ st.names }.enter s
      (some (st.count + 1, name)) st.flags after = .ok st') : Takes s st '(' st'
  | closes {opened : OpenGroup} {outer : List OpenGroup} (isEnclosing : st.enclosing = opened :: outer) :
    Takes s st ')' { st with
      here := st.here.skip
      flags := opened.outer
      closed := (opened.capture.map (·.1)).toList ++ st.closed
      enclosing := outer
      branches := opened.branches
      items := opened.close (.ofLevel st.branches st.items) :: opened.items }
  | bar : Takes s st '|' st.nextBranch
  | repeats {c : Char} {item : Pattern} {earlier : List Pattern} {bounds : Bounds} {after : Cursor}
    (sign : c ∈ ['?', '*', '+', '\x7b']) (isItems : st.items = item :: earlier)
    (read : Repeat.read s.data st.flags st.here c = .ok (bounds, after)) :
    Takes s st c { st with here := after, items := .repetition bounds item :: earlier }

private theorem takes_of_openGroup (opens : st.openGroup s = .ok st') : Takes s st '(' st' := by
  unfold State.openGroup at opens
  split at opens
  · cases opens
  · rename_i read
    cases opens
    exact .directive read
  · rename_i read
    exact .flagged read opens
  · rename_i read
    exact .capturing read opens

private theorem takes_of_closeGroup (closes : st.closeGroup = .ok st') : Takes s st ')' st' := by
  unfold State.closeGroup at closes
  split at closes
  · cases closes
  · rename_i isEnclosing
    cases closes
    exact .closes isEnclosing

private theorem takes_of_repeatLast (sign : c ∈ ['?', '*', '+', '\x7b'])
    (repeats : st.repeatLast s c = .ok st') : Takes s st c st' := by
  unfold State.repeatLast at repeats
  split at repeats
  · cases repeats
  · rename_i isItems
    split at repeats
    · cases repeats
    · rename_i read
      cases repeats
      exact .repeats sign isItems read

private theorem takes_of_pushRead {read : Except Failure (Pattern × Cursor)}
    (leaf : ∀ leaf after, read = .ok (leaf, after) → ReadsLeaf s st c leaf after)
    (pushed : st.pushRead read = .ok st') : Takes s st c st' := by
  unfold State.pushRead at pushed
  split at pushed <;> cases pushed
  exact .leaf (leaf _ _ rfl)

/-- A step takes one construct. -/
theorem takes_of_step (stepped : step s st c = .ok st') : Takes s st c st' := by
  unfold step at stepped
  split at stepped
  case h_1 => exact takes_of_openGroup stepped
  case h_2 => exact takes_of_closeGroup stepped
  case h_3 =>
    cases stepped
    exact .bar
  case h_4 => exact takes_of_pushRead (fun _ _ => .bracketed) stepped
  case h_5 => exact takes_of_repeatLast (by simp) stepped
  case h_6 => exact takes_of_repeatLast (by simp) stepped
  case h_7 => exact takes_of_repeatLast (by simp) stepped
  case h_8 => exact takes_of_repeatLast (by simp) stepped
  case h_9 => exact takes_of_pushRead (fun _ _ => .escape) stepped
  case h_10 =>
    cases stepped
    exact .leaf .dot
  case h_11 =>
    cases stepped
    exact .leaf (.anchor (by simp))
  case h_12 =>
    cases stepped
    exact .leaf (.anchor (by simp))
  case h_13 open' close bar bracket lazy star plus brace backslash dot caret dollar =>
    cases stepped
    refine .leaf (.char ?_)
    simp only [List.mem_cons, List.not_mem_nil, or_false, not_or]
    exact ⟨open', close, bar, bracket, lazy, star, plus, brace, backslash, dot, caret, dollar⟩

/-- What entering a group does where groups do not nest too deep. -/
theorem enter_eq_ok {capture : Option (Nat × Option String)} {flags : Flags} {after : Cursor} :
    st.enter s capture flags after = .ok st' ↔
      st.enclosing.length + 1 ≤ s.nestLimit ∧ st' = { st with
        here := after
        flags
        enclosing :=
          { start := st.here.offset, capture, outer := st.flags, branches := st.branches,
            items := st.items } :: st.enclosing
        branches := []
        items := [] } := by
  unfold State.enter
  by_cases deep : s.nestLimit < st.enclosing.length + 1
  · simp [deep, Nat.not_le.mpr deep]
  · simp [deep, Nat.not_lt.mp deep, eq_comm]

/-! ### Facts of leaves -/

/-- A fact of every node of the trees that the reader holds. -/
structure State.Holds (fact : Pattern → Prop) (st : State) : Prop where
  enclosing : ∀ opened ∈ st.enclosing, ∀ p ∈ opened.branches ++ opened.items, p.Every fact
  branches : ∀ branch ∈ st.branches, branch.Every fact
  items : ∀ item ∈ st.items, item.Every fact

variable {fact : Pattern → Prop}

private theorem holds_enter (holds : st.Holds fact) {capture : Option (Nat × Option String)}
    {flags : Flags} {after : Cursor} {count : Nat} {names : List String}
    (entered : { st with count, names }.enter s capture flags after = .ok st') : st'.Holds fact := by
  obtain ⟨-, rfl⟩ := enter_eq_ok.mp entered
  refine ⟨List.forall_mem_cons.mpr ⟨fun p member => ?_, holds.enclosing⟩, by simp, by simp⟩
  exact (List.mem_append.mp member).elim (holds.branches p) (holds.items p)

/-- Each step keeps a fact that putting trees together keeps, if the leaf that it reads has it. -/
theorem State.Holds.step (gathers : Pattern.Gathers fact) (holds : st.Holds fact)
    (leaf : ∀ leaf after, ReadsLeaf s st c leaf after → leaf.Every fact)
    (stepped : step s st c = .ok st') : st'.Holds fact := by
  cases takes_of_step stepped with
  | leaf read => exact ⟨holds.enclosing, holds.branches, List.forall_mem_cons.mpr ⟨leaf _ _ read, holds.items⟩⟩
  | directive read => exact ⟨holds.enclosing, holds.branches, holds.items⟩
  | flagged read entered => exact @holds_enter s st _ fact holds _ _ _ st.count st.names entered
  | capturing read entered => exact holds_enter holds entered
  | @closes opened outer isEnclosing =>
    have around := List.forall_mem_cons.mp (isEnclosing ▸ holds.enclosing)
    refine ⟨around.2, fun p member => around.1 p (List.mem_append_left _ member),
      List.forall_mem_cons.mpr ⟨?_, fun p member => around.1 p (List.mem_append_right _ member)⟩⟩
    have body := gathers.every_ofLevel holds.branches holds.items
    unfold OpenGroup.close
    split
    · exact body
    · exact Pattern.every_iff.mpr ⟨gathers.inner rfl, by simpa [Pattern.children] using body⟩
  | bar =>
    refine ⟨holds.enclosing, List.forall_mem_cons.mpr ⟨?_, holds.branches⟩, by simp [State.nextBranch]⟩
    exact gathers.every_concat fun item member => holds.items item (List.mem_reverse.mp member)
  | repeats sign isItems read =>
    obtain ⟨latest, others⟩ := List.forall_mem_cons.mp (isItems ▸ holds.items)
    refine ⟨holds.enclosing, holds.branches, List.forall_mem_cons.mpr ⟨?_, others⟩⟩
    exact Pattern.every_iff.mpr ⟨gathers.inner rfl, by simpa [Pattern.children] using latest⟩

/-- A run keeps it too where an invariant of the reader makes for the leaves: induction on the run. -/
theorem holds_of_run {stands : State → Prop} (gathers : Pattern.Gathers fact)
    (keeps : ∀ st st' c rest, stands st → st.here.rest = c :: rest → step s st c = .ok st' → stands st')
    (leaf : ∀ st c leaf after, stands st → ReadsLeaf s st c leaf after → leaf.Every fact)
    (start : stands st) (holds : st.Holds fact) (ends : run s st = .ok last) : last.Holds fact := by
  fun_induction run s st with
  | case1 =>
    cases ends
    exact holds
  | case2 => cases ends
  | case3 st c rest next st' stepped ih =>
    apply ih (keeps st st' c rest start next stepped) ?_ ends
    exact holds.step gathers (fun _ _ => leaf st c _ _ start) stepped

/-- **What every leaf has, every node of the tree has.** The fact may depend on an invariant of the reader. -/
theorem every_of_parse {stands : State → Prop} {text : String} {tree : Pattern} (gathers : Pattern.Gathers fact)
    (keeps : ∀ st st' c rest, stands st → st.here.rest = c :: rest → step s st c = .ok st' → stands st')
    (leaf : ∀ st c leaf after, stands st → ReadsLeaf s st c leaf after → leaf.Every fact)
    (start : stands (.initial s text.toList)) (parsed : s.parse text = .ok tree) : tree.Every fact := by
  obtain ⟨last, ends, -, rfl, -⟩ := Settings.parse_eq_ok.mp parsed
  have holds := holds_of_run gathers keeps leaf start ⟨nofun, nofun, nofun⟩ ends
  exact gathers.every_ofLevel holds.branches holds.items

/-! ### Nothing is lost -/

/-- What the reader holds behind a step, it held before: nothing but literals, sequences and alternations is
taken apart or done away with. -/
theorem holds_before_step (scatters : Pattern.Scatters fact) (stepped : step s st c = .ok st')
    (holds : st'.Holds fact) : st.Holds fact := by
  cases takes_of_step stepped with
  | leaf read => exact ⟨holds.enclosing, holds.branches, (List.forall_mem_cons.mp holds.items).2⟩
  | directive read => exact ⟨holds.enclosing, holds.branches, holds.items⟩
  | flagged read entered | capturing read entered =>
    obtain ⟨-, rfl⟩ := enter_eq_ok.mp entered
    obtain ⟨around, others⟩ := List.forall_mem_cons.mp holds.enclosing
    exact ⟨others, fun p member => around p (List.mem_append_left _ member),
      fun p member => around p (List.mem_append_right _ member)⟩
  | @closes opened outer isEnclosing =>
    obtain ⟨closed, items⟩ := List.forall_mem_cons.mp holds.items
    have body : (Pattern.ofLevel st.branches st.items).Every fact := by
      unfold OpenGroup.close at closed
      split at closed
      · exact closed
      · exact closed.below (List.mem_singleton.mpr rfl)
    obtain ⟨branches', items'⟩ := scatters.every_of_ofLevel body
    refine ⟨?_, branches', items'⟩
    rw [isEnclosing]
    refine List.forall_mem_cons.mpr ⟨fun p member => ?_, holds.enclosing⟩
    exact (List.mem_append.mp member).elim (holds.branches p) (items p)
  | bar =>
    obtain ⟨branch, others⟩ := List.forall_mem_cons.mp holds.branches
    exact ⟨holds.enclosing, others, fun item member =>
      scatters.every_of_concat branch item (List.mem_reverse.mpr member)⟩
  | repeats sign isItems read =>
    obtain ⟨latest, others⟩ := List.forall_mem_cons.mp holds.items
    refine ⟨holds.enclosing, holds.branches, ?_⟩
    rw [isItems]
    exact List.forall_mem_cons.mpr ⟨latest.below (List.mem_singleton.mpr rfl), others⟩

/-- The same along a run. -/
theorem holds_before_run (scatters : Pattern.Scatters fact) (ends : run s st = .ok last)
    (holds : last.Holds fact) : st.Holds fact := by
  fun_induction run s st with
  | case1 =>
    cases ends
    exact holds
  | case2 => cases ends
  | case3 st c rest next st' stepped ih => exact holds_before_step scatters stepped (ih ends)

end PatternForge.Parser
