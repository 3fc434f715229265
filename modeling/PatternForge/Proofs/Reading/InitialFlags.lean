import PatternForge.Generator
import PatternForge.Proofs.Placement.Runs
import PatternForge.Proofs.RoundTrip.Prefixes

/-!
Flags at the start of a pattern and flags written in front of it. Where the flags of the settings are
spelled out, the reader comes to the pattern with the same flags, only further on, so it reads what it read
before. The generator reads the pattern under its flags, the matcher the pattern that is spelled out; this
is why they mean the same.
-/
namespace PatternForge

open PatternForge.Parser (State run step)

namespace Settings

/-- The same settings, with the flags off that can be spelled out. -/
def unflagged (s : Settings) : Settings :=
  s.adjusted s.nestLimit { s.flags with ignoreCase := false, dotNewLine := false }

/-- The pattern can be read to its end, but its tree is deeper than the limit. -/
def Outgrown (s : Settings) (pattern : String) : Prop :=
  ∃ st tree, run s (.initial s pattern.toList) = .ok st ∧ st.tree = .ok tree ∧
    tree.nestedWithin s.nestLimit = false

variable {s : Settings}

theorem spelledOut_eq (s : Settings) (pattern : String) :
    s.spelledOut pattern = s.spelledOut "" ++ pattern := by
  unfold spelledOut
  split <;> simp

/-- The letters of the flags that are spelled out. -/
def flagLetters (s : Settings) : List Char :=
  (if s.flags.ignoreCase then ['i'] else []) ++ if s.flags.dotNewLine then ['s'] else []

/-- One of the flags that can be spelled out is set. -/
def Spells (s : Settings) : Prop := s.flags.ignoreCase = true ∨ s.flags.dotNewLine = true

private theorem flagLetters_cases (spells : s.Spells) :
    (s.flagLetters = ['i'] ∧ s.flags.ignoreCase = true ∧ s.flags.dotNewLine = false) ∨
      (s.flagLetters = ['s'] ∧ s.flags.ignoreCase = false ∧ s.flags.dotNewLine = true) ∨
      (s.flagLetters = ['i', 's'] ∧ s.flags.ignoreCase = true ∧ s.flags.dotNewLine = true) := by
  obtain ⟨domain, limit, ⟨ignoreCase, multiLine, dotNewLine, swapGreed⟩, data⟩ := s
  cases ignoreCase <;> cases dotNewLine <;> simp_all [Spells, flagLetters]

theorem toList_spelledOut (spells : s.Spells) (pattern : String) :
    (s.spelledOut pattern).toList = '(' :: '?' :: (s.flagLetters ++ ')' :: pattern.toList) := by
  unfold spelledOut
  obtain ⟨letters, minding, halting⟩ | ⟨letters, minding, halting⟩ | ⟨letters, minding, halting⟩ :=
    flagLetters_cases spells <;>
    rw [letters, minding, halting] <;> simp

private theorem flagList_flagLetters (spells : s.Spells) {here : Cursor} {rest : List Char}
    (next : here.rest = s.flagLetters ++ ')' :: rest) :
    GroupPrefix.flagList { flags := s.unflagged.flags } here =
      .ok (s.flags, here.skipMany s.flagLetters.length) := by
  obtain ⟨domain, limit, ⟨ignoreCase, multiLine, dotNewLine, swapGreed⟩, data⟩ := s
  obtain ⟨letters, minding, halting⟩ | ⟨letters, minding, halting⟩ | ⟨letters, minding, halting⟩ :=
    flagLetters_cases spells <;> rw [letters] at next ⊢ <;> dsimp only at minding halting <;>
      subst minding halting
  · have ends : here.skip.rest = ')' :: rest := by simp [next]
    rw [GroupPrefix.flagList_letter next (by decide) rfl (by simp), GroupPrefix.flagList_more _ ends]
    rfl
  · have ends : here.skip.rest = ')' :: rest := by simp [next]
    rw [GroupPrefix.flagList_letter next (by decide) rfl (by simp), GroupPrefix.flagList_more _ ends]
    rfl
  · have another : here.skip.rest = 's' :: ')' :: rest := by simp [next]
    have ends : here.skip.skip.rest = ')' :: rest := by simp [next]
    rw [GroupPrefix.flagList_letter next (by decide) rfl (by simp),
      GroupPrefix.flagList_letter another (by decide) rfl (by simp), GroupPrefix.flagList_more _ ends]
    rfl

/-- Reading what is spelled out sets the flags. -/
private theorem openGroup_flagLetters (spells : s.Spells) {st : State} {rest : List Char}
    (same : st.flags = s.unflagged.flags)
    (next : st.here.rest = '(' :: '?' :: (s.flagLetters ++ ')' :: rest)) :
    st.openGroup s.unflagged =
      .ok { st with here := (st.here.skip.skip.skipMany s.flagLetters.length).skip, flags := s.flags } := by
  have listed : st.here.skip.skip.rest = s.flagLetters ++ ')' :: rest := by simp [next]
  have stop := Cursor.skipMany_append listed
  obtain ⟨c, letters, form, isLetter⟩ :
      ∃ c letters, s.flagLetters = c :: letters ∧ (c = 'i' ∨ c = 's') := by
    obtain ⟨form, -⟩ | ⟨form, -⟩ | ⟨form, -⟩ := flagLetters_cases spells <;> simp [form]
  have further : (st.here.skip.skip.skipMany s.flagLetters.length).offset ≠ st.here.skip.skip.offset := by
    have positive := c.utf8Size_pos
    rw [stop, form]
    simp
    omega
  have next' : st.here.rest = '(' :: '?' :: c :: (letters ++ ')' :: rest) := by rw [next, form]; rfl
  have isDirective : GroupPrefix.read s.unflagged.data st.flags st.names st.here =
      .ok (.directive s.flags, st.here.skip.skip.skipMany s.flagLetters.length) := by
    rw [same]
    exact GroupPrefix.read_directive next' (by rcases isLetter with rfl | rfl <;> decide)
      (flagList_flagLetters spells listed) (by rw [stop]) further
  unfold State.openGroup
  rw [isDirective]

/-- The reader comes to the pattern with the flags that are spelled out in front of it. -/
theorem run_spelledOut (s : Settings) (pattern : String) :
    run s.unflagged (.initial s.unflagged (s.spelledOut pattern).toList) =
      run s.unflagged ((State.initial s pattern.toList).placed (s.spelledOut "").utf8ByteSize [] [] none) := by
  by_cases spells : s.Spells
  · have text := toList_spelledOut spells pattern
    have mark := toList_spelledOut spells ""
    have place : ((Cursor.ofText (s.spelledOut pattern).toList).skip.skip.skipMany s.flagLetters.length).skip =
        (Cursor.ofText pattern.toList).inside (s.spelledOut "").utf8ByteSize [] := by
      have whole : (Cursor.ofText (s.spelledOut pattern).toList).rest =
          (s.spelledOut "").toList ++ pattern.toList := by
        rw [Cursor.rest_ofText, spelledOut_eq, String.toList_append]
      have behind := Cursor.skipMany_append whole
      have length : (s.spelledOut "").toList.length = s.flagLetters.length + 2 + 1 := by
        rw [mark]
        simp
      rw [length, Cursor.skipMany_add, String.ofList_toList] at behind
      refine behind.trans ?_
      rw [Cursor.inside, Cursor.rest_ofText, List.append_nil]
      rfl
    refine Parser.run_of_step text ((openGroup_flagLetters spells rfl text).trans ?_)
    exact congrArg (fun here => Except.ok { State.initial s pattern.toList with here }) place
  · obtain ⟨domain, limit, ⟨ignoreCase, multiLine, dotNewLine, swapGreed⟩, data⟩ := s
    obtain ⟨minding, halting⟩ : ignoreCase = false ∧ dotNewLine = false := by simpa [Spells] using spells
    subst minding halting
    have none : (Cursor.ofText pattern.toList).inside 0 [] = .ofText pattern.toList := by
      rw [Cursor.inside, Cursor.rest_ofText, List.append_nil]
      rfl
    change _ = run _ { State.initial _ pattern.toList with here := (Cursor.ofText pattern.toList).inside 0 [] }
    rw [none]
    rfl

/-- Further on the tree of a state is the same, and so is the group that is not closed. -/
private theorem tree_placed (n : Nat) (st : State) :
    Carried n [] id st.tree (st.placed n [] [] none).tree := by
  obtain ⟨here, flags, count, closed, names, enclosing, branches, items⟩ := st
  cases enclosing with
  | nil => rfl
  | cons opened outer => exact fun _ => rfl

/-- What is spelled out is read as the pattern is, except for the place of a failure. -/
private theorem parse_spelledOut_eq (s : Settings) (pattern : String) :
    s.unflagged.parse (s.spelledOut pattern) =
      match run s (.initial s pattern.toList) with
      | .error failure => .error (failure.moved (s.spelledOut "").utf8ByteSize)
      | .ok st =>
        match st.tree with
        | .error failure => .error (failure.moved (s.spelledOut "").utf8ByteSize)
        | .ok tree =>
          if tree.nestedWithin s.nestLimit then .ok tree else .error (.malformed 0 .tooMuchNesting) := by
  have again : Carried (s.spelledOut "").utf8ByteSize []
      (State.placed (s.spelledOut "").utf8ByteSize [] [] none)
      (run s (.initial s pattern.toList))
      (run s.unflagged (.initial s.unflagged (s.spelledOut pattern).toList)) := by
    rw [run_spelledOut]
    exact Parser.carried_run _ s _ _
  rw [parse]
  cases ends : run s (.initial s pattern.toList) with
  | error failure =>
    rw [ends] at again
    rw [again rfl]
  | ok st =>
    rw [ends] at again
    have again' := tree_placed (s.spelledOut "").utf8ByteSize st
    rw [again]
    dsimp only
    cases isTree : st.tree with
    | error failure =>
      rw [isTree] at again'
      rw [again' rfl]
    | ok tree =>
      rw [isTree] at again'
      rw [again']
      rfl

/-- **Flags at the start of a pattern mean the same as flags written in front of it.** Either both are read
as the same tree, or both fail for the same reason, the second further on by what is in front; but a tree
that is too deep has no place, so its failure has none either. -/
theorem parse_spelledOut (s : Settings) (pattern : String) :
    (∀ tree, s.unflagged.parse (s.spelledOut pattern) = .ok tree ↔ s.parse pattern = .ok tree) ∧
    (∀ failure, s.parse pattern = .error failure → ¬s.Outgrown pattern →
      s.unflagged.parse (s.spelledOut pattern) =
        .error (failure.moved (s.spelledOut "").utf8ByteSize)) ∧
    (s.Outgrown pattern →
      s.parse pattern = .error (.malformed 0 .tooMuchNesting) ∧
        s.unflagged.parse (s.spelledOut pattern) = .error (.malformed 0 .tooMuchNesting)) := by
  rw [parse_spelledOut_eq, parse]
  unfold Outgrown
  cases run s (.initial s pattern.toList) with
  | error failure => simp
  | ok st =>
    cases isTree : st.tree with
    | error failure => simp [isTree]
    | ok tree => cases nested : tree.nestedWithin s.nestLimit <;> simp [isTree, nested]

end Settings

end PatternForge
