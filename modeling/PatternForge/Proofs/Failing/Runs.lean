import PatternForge.Proofs.Failing.Constructs
import PatternForge.Proofs.Reading.StepCases
import PatternForge.Proofs.RoundTrip.Moves

/-!
Where a refused pattern is said to be wrong. The reader always stands at a place of the text, and remembers the
places where the open groups start (`Parser.State.Within`), so a refusal of any construct is at a place of the
text, and so is what is found wrong at the end. In bytes this says that the position of a failure lies between
two characters of the pattern, and that the text which is named stands there (`Failure.PointsInto`).
-/
namespace PatternForge

namespace Parser

variable {s : Settings} {text : List Char} {st st' last : State} {c : Char} {rest : List Char}

/-- The reader stands at a place of the text, as it did where the open groups start. -/
structure State.Within (st : State) (text : List Char) : Prop where
  here : st.here.Within text
  starts : ∀ opened ∈ st.enclosing, ∃ place : Cursor, place.Within text ∧ place.offset = opened.start

theorem within_initial (s : Settings) (text : List Char) : (State.initial s text).Within text :=
  ⟨.refl _, nofun⟩

private theorem citing_enter {capture : Option (Nat × Option String)} {flags : Flags} {after : Cursor}
    (place : after.Within text) : Citing text (st.enter s capture flags after) := by
  unfold State.enter
  split
  · exact .error (.malformed place _)
  · exact .ok _

private theorem citing_openGroup (place : st.here.Within text) (next : st.here.rest = c :: rest) :
    Citing text (st.openGroup s) := by
  unfold State.openGroup
  split
  · rename_i failed
    exact .error (GroupPrefix.citing_read place next _ failed)
  · exact .ok _
  · rename_i isPrefix
    exact citing_enter (place.skip.on (GroupPrefix.reaches_read isPrefix))
  · rename_i isPrefix
    exact citing_enter (place.skip.on (GroupPrefix.reaches_read isPrefix))

private theorem citing_closeGroup (place : st.here.Within text) : Citing text st.closeGroup := by
  unfold State.closeGroup
  split
  · exact .error (.malformed place _)
  · exact .ok _

private theorem citing_repeatLast (place : st.here.Within text) (next : st.here.rest = c :: rest) :
    Citing text (st.repeatLast s c) := by
  unfold State.repeatLast
  split
  · exact .error (.malformed place _)
  · split
    · rename_i failed
      exact .error (Repeat.citing_read place next _ failed)
    · exact .ok _

private theorem citing_pushRead {read : Except Failure (Pattern × Cursor)} (citing : Citing text read) :
    Citing text (st.pushRead read) := by
  unfold State.pushRead
  split
  · exact .error (citing _ rfl)
  · exact .ok _

/-- A refused construct. -/
theorem citing_step (place : st.here.Within text) (next : st.here.rest = c :: rest) :
    Citing text (step s st c) := by
  unfold step
  split
  case h_1 => exact citing_openGroup place next
  case h_2 => exact citing_closeGroup place
  case h_4 => exact citing_pushRead (ClassSet.citing_read place next)
  case h_5 => exact citing_repeatLast place next
  case h_6 => exact citing_repeatLast place next
  case h_7 => exact citing_repeatLast place next
  case h_8 => exact citing_repeatLast place next
  case h_9 => exact citing_pushRead (Escape.citing_read place next)
  all_goals exact .ok _

/-- A step goes on to a place of the text, and opens groups where it stands. -/
theorem State.Within.step (within : st.Within text) (stepped : step s st c = .ok st') : st'.Within text := by
  refine ⟨within.here.skip.on (reaches_step stepped), ?_⟩
  cases takes_of_step stepped with
  | leaf | directive | bar | repeats => exact within.starts
  | flagged read entered =>
    obtain ⟨-, rfl⟩ := enter_eq_ok.mp entered
    exact List.forall_mem_cons.mpr ⟨⟨st.here, within.here, rfl⟩, within.starts⟩
  | capturing read entered =>
    obtain ⟨-, rfl⟩ := enter_eq_ok.mp entered
    exact List.forall_mem_cons.mpr ⟨⟨st.here, within.here, rfl⟩, within.starts⟩
  | closes isEnclosing =>
    have starts := within.starts
    rw [isEnclosing] at starts
    exact (List.forall_mem_cons.mp starts).2

/-- **A run that is refused** is refused at a place of the text: induction on the run. -/
theorem citing_run (within : st.Within text) : Citing text (run s st) := by
  fun_induction run s st with
  | case1 => exact .ok _
  | case2 st c rest next failure refused => exact .error (citing_step within.here next _ refused)
  | case3 st c rest next st' stepped ih => exact ih (within.step stepped)

theorem within_of_run (within : st.Within text) (ends : run s st = .ok last) : last.Within text := by
  fun_induction run s st with
  | case1 =>
    cases ends
    exact within
  | case2 => cases ends
  | case3 st c rest next st' stepped ih => exact ih (within.step stepped) ends

theorem citing_tree (within : st.Within text) : Citing text st.tree := by
  unfold State.tree
  split
  · rename_i opened outer isEnclosing
    obtain ⟨place, inText, offset⟩ := within.starts opened (by simp [isEnclosing])
    rw [← offset]
    exact .error (.malformed inText _)
  · exact .ok _

end Parser

theorem Settings.citing_parse (s : Settings) (pattern : String) :
    Citing pattern.toList (s.parse pattern) := by
  have start := Parser.within_initial s pattern.toList
  unfold parse
  split
  · rename_i failed
    exact .error (Parser.citing_run start _ failed)
  · rename_i last ends
    split
    · rename_i failed
      exact .error (Parser.citing_tree (Parser.within_of_run start ends) _ failed)
    · split
      · exact .ok _
      · exact .error (.malformed start.here _)

/-! ### Positions in bytes -/

namespace Failure

/-- What a failure says about the text that stands at its position: the construct that is not supported is no
empty text and stands there, and so does a reference, with the digit of its number. -/
def Names (behind : String) : Failure → Prop
  | unsupported _ token => token ≠ "" ∧ ∃ more, behind = token ++ more
  | danglingReference _ index => index ≤ 9 ∧ ∃ more, behind = "\\" ++ index.digitChar.toString ++ more
  | malformed _ _ | differentUniverses _ _ | outOfUniverse _ _ | illegalState _ | unboundReference _
  | matcher _ => True

/-- A failure has a position in a pattern: it counts the bytes of some whole characters at the front, so it is
not past the end, and what stands behind them is what the failure names. -/
def PointsInto (failure : Failure) (pattern : String) : Prop :=
  ∃ before behind : String, pattern = before ++ behind ∧ failure.position? = some before.utf8ByteSize ∧
    before.utf8ByteSize ≤ pattern.utf8ByteSize ∧ failure.Names behind

variable {failure : Failure} {pattern : String} {place : Cursor}

private theorem pointsInto_of_within (within : place.Within pattern.toList)
    (position : failure.position? = some place.offset) (names : failure.Names (String.ofList place.rest)) :
    failure.PointsInto pattern := by
  obtain ⟨before, split, offset⟩ := within.exists_between
  have whole : pattern = String.ofList before ++ String.ofList place.rest := by
    rw [← String.ofList_append, ← split, Cursor.rest_ofText, String.ofList_toList]
  have counted : place.offset = (String.ofList before).utf8ByteSize := by
    rw [offset, Cursor.ofText, Nat.zero_add]
  refine ⟨_, _, whole, counted ▸ position, ?_, names⟩
  rw [whole, String.utf8ByteSize_append]
  exact Nat.le_add_right _ _

private theorem eq_digitChar {digit : Char} (isDigit : '1' ≤ digit ∧ digit ≤ '9') :
    digit.toNat - '0'.toNat ≤ 9 ∧ digit = (digit.toNat - '0'.toNat).digitChar := by
  have low : 49 ≤ digit.toNat := isDigit.1
  have high : digit.toNat ≤ 57 := isDigit.2
  have digits : ∀ n < 10, Nat.digitChar n = Char.ofNat (n + 48) := by decide
  have zero : '0'.toNat = 48 := rfl
  rw [zero]
  refine ⟨by omega, ?_⟩
  rw [digits _ (by omega), Nat.sub_add_cancel (by omega), Char.ofNat_toNat]

theorem pointsInto_of_cites (cites : failure.Cites pattern.toList) : failure.PointsInto pattern := by
  cases cites with
  | malformed within reason => exact pointsInto_of_within within rfl trivial
  | @unsupported place after within reaches taken =>
    obtain ⟨token, split, -⟩ := reaches.exists_between
    refine pointsInto_of_within within rfl ⟨?_, String.ofList after.rest, ?_⟩
    · rw [Cursor.textTo, Cursor.charsTo_eq split]
      intro none
      have none' : token = [] := by simpa using congrArg String.toList none
      rw [split, none', List.nil_append] at taken
      exact absurd taken (Nat.lt_irrefl _)
    · rw [Cursor.textTo, Cursor.charsTo_eq split, split, String.ofList_append]
  | @danglingReference place digit rest within next isDigit =>
    obtain ⟨small, isChar⟩ := eq_digitChar isDigit
    refine pointsInto_of_within within rfl ⟨small, String.ofList rest, ?_⟩
    rw [← isChar, next]
    exact String.toList_inj.mp (by simp)

end Failure

/-- **Failures to parse point into the pattern.** Whatever the settings, a pattern that is refused is refused at a
position between two of its characters, and the text that the failure names stands there. -/
theorem Settings.pointsInto_of_parse {s : Settings} {pattern : String} {failure : Failure}
    (refused : s.parse pattern = .error failure) : failure.PointsInto pattern :=
  Failure.pointsInto_of_cites (s.citing_parse pattern failure refused)

/-- A class inside a class whose name is not known is refused at its own bracket. -/
theorem Settings.pointsInto_of_parse_unknownClass :
    ({} : Settings).parse "é[[:loower:]]" = .error (.unsupported 3 "[") ∧
      (Failure.unsupported 3 "[").PointsInto "é[[:loower:]]" := by
  have refused : ∀ ctx, ClassSet.read ctx ⟨2, "[[:loower:]]".toList⟩ = .error (.unsupported 3 "[") := by
    intro ctx
    have opens : ClassSet.opening ⟨2, "[[:loower:]]".toList⟩ = .ok ([], ⟨3, "[:loower:]]".toList⟩) := by rfl
    have unknown : ClassSet.posix? ctx ⟨3, "[:loower:]]".toList⟩ = none := by rfl
    have next : (Cursor.mk 3 "[:loower:]]".toList).rest = '[' :: ":loower:]]".toList := by rfl
    rw [ClassSet.read_opening, opens]
    dsimp only
    rw [ClassSet.readItems_more next, if_pos rfl, unknown]
    rfl
  have stops : Parser.run {} (.initial {} "é[[:loower:]]".toList) = .error (.unsupported 3 "[") := by
    refine (Parser.run_of_step rfl rfl).trans ?_
    apply Parser.run_of_refused rfl
    exact congrArg (Parser.State.pushRead _) (refused _)
  have failed : ({} : Settings).parse "é[[:loower:]]" = .error (.unsupported 3 "[") := by
    unfold parse
    rw [stops]
  exact ⟨failed, pointsInto_of_parse failed⟩

end PatternForge
