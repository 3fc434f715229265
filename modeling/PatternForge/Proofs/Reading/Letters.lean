import PatternForge.Proofs.Emission.Exchange
import PatternForge.Proofs.Pattern.NormalForm
import PatternForge.Proofs.Reading.StepCases

/-!
The characters that stand for themselves, in the order of the text. The literals of a tree have them one after
another (`Pattern.letters`), and so have those that the reader has read so far (`State.letters`), which every step
only adds to (`letters_of_run`). So a character of a literal stands in the tree behind just those that were read
before it: what is in front of a place in a tree are the letters of the frames around it (`lettersBefore`).
-/
namespace PatternForge

namespace Pattern

mutual

/-- The characters of all literals, in the order of the text. -/
def letters (p : Pattern) : List Char :=
  match p with
  | literal text => text.toList
  | oneOf _ | anchor _ | backreference _ => []
  | sequence items => lettersAll items
  | alternation branches => lettersAll branches
  | repetition _ body | group _ _ body => letters body

/-- The characters of several patterns, one pattern after another. -/
def lettersAll (ps : List Pattern) : List Char :=
  match ps with
  | [] => []
  | p :: rest => letters p ++ lettersAll rest

end

theorem lettersAll_eq (ps : List Pattern) : lettersAll ps = ps.flatMap letters := by
  induction ps with
  | nil => rfl
  | cons p rest ih => rw [lettersAll, ih, List.flatMap_cons]

theorem letters_sequence (items : List Pattern) : (sequence items).letters = items.flatMap letters := by
  rw [letters, lettersAll_eq]

theorem letters_alternation (branches : List Pattern) :
    (alternation branches).letters = branches.flatMap letters := by
  rw [letters, lettersAll_eq]

theorem letters_inOrder : ListedInOrder letters where
  joined _ _ := String.toList_append
  sequence := letters_sequence
  alternation := letters_alternation

theorem letters_ofLevel (branches items : List Pattern) :
    (ofLevel branches items).letters = branches.reverse.flatMap letters ++ items.reverse.flatMap letters := by
  rw [ofLevel, letters_inOrder.choice]
  simp [letters_inOrder.concat]

/-! ### Places in a tree -/

/-- The letters of a node in front of the part that it is around. -/
def Frame.lettersBefore : Frame → List Char
  | .sequence before _ | .alternation before _ => before.flatMap letters
  | .repetition _ | .group _ _ => []

/-- The letters of a node behind the part that it is around. -/
def Frame.lettersBehind : Frame → List Char
  | .sequence _ behind | .alternation _ behind => behind.flatMap letters
  | .repetition _ | .group _ _ => []

/-- The letters of all nodes around a part in front of it. The nearest node comes first, so its letters
stand last. -/
def lettersBefore (frames : List Frame) : List Char := frames.reverse.flatMap Frame.lettersBefore

theorem letters_around (frame : Frame) (p : Pattern) :
    (frame.around p).letters = frame.lettersBefore ++ p.letters ++ frame.lettersBehind := by
  cases frame <;> simp [Frame.around, Frame.lettersBefore, Frame.lettersBehind, letters, lettersAll_eq]

theorem letters_framed (frames : List Frame) (p : Pattern) :
    (framed frames p).letters =
      lettersBefore frames ++ p.letters ++ frames.flatMap Frame.lettersBehind := by
  induction frames generalizing p with
  | nil => simp [framed, lettersBefore]
  | cons frame frames ih =>
    have inner : framed (frame :: frames) p = framed frames (frame.around p) := rfl
    rw [inner, ih, letters_around]
    simp [lettersBefore]

/-- Two lists that are told apart by one character have it at the same place. -/
private theorem eq_of_append_cons {c d : Char} (other : c ≠ d) {before before' more behind behind' : List Char}
    (same : before ++ c :: more = before' ++ c :: behind) (same' : before ++ d :: more = before' ++ d :: behind') :
    before = before' := by
  induction before generalizing before' with
  | nil =>
    cases before' with
    | nil => rfl
    | cons e before' =>
      rw [List.nil_append, List.cons_append, List.cons.injEq] at same same'
      exact absurd (same.1.trans same'.1.symm) other
  | cons e before ih =>
    cases before' with
    | nil =>
      rw [List.nil_append, List.cons_append, List.cons.injEq] at same same'
      exact absurd (same.1.symm.trans same'.1) other
    | cons e' before' =>
      rw [List.cons_append, List.cons_append, List.cons.injEq] at same same'
      rw [same.1, ih same.2 same'.2]

/-- Where one character of a tree is written in two ways, the letters tell the place. -/
theorem lettersBefore_of_letters {c d : Char} (other : c ≠ d) {frames : List Frame}
    {front before rest behind behind' : List Char}
    (letters : (framed frames (.literal (String.ofList (before ++ c :: rest)))).letters = front ++ c :: behind)
    (letters' : (framed frames (.literal (String.ofList (before ++ d :: rest)))).letters = front ++ d :: behind') :
    lettersBefore frames ++ before = front := by
  rw [letters_framed, Pattern.letters, String.toList_ofList] at letters letters'
  refine @eq_of_append_cons c d other _ _ (rest ++ frames.flatMap Frame.lettersBehind) behind behind' ?_ ?_
  · simpa using letters
  · simpa using letters'

/-- A letter among those of a row of parts is one of a part. -/
private theorem exists_part {parts : List Pattern} {front behind : List Char} {c : Char}
    (letters : parts.flatMap letters = front ++ c :: behind) :
    ∃ before part rest inside behind', parts = before ++ part :: rest ∧
      part.letters = inside ++ c :: behind' ∧ before.flatMap Pattern.letters ++ inside = front := by
  induction parts generalizing front with
  | nil => cases front <;> cases letters
  | cons part parts ih =>
    rw [List.flatMap_cons] at letters
    rcases List.append_eq_append_iff.mp letters with ⟨more, rfl, more'⟩ | ⟨more, own, more'⟩
    · obtain ⟨before, part', rest, inside, behind', rfl, own, rfl⟩ := ih more'
      exact ⟨part :: before, part', rest, inside, behind', rfl, own, by simp⟩
    · cases more with
      | nil =>
        obtain ⟨before, part', rest, inside, behind', rfl, own', same⟩ := @ih [] more'.symm
        exact ⟨part :: before, part', rest, inside, behind', rfl, own', by simp [own, same]⟩
      | cons e more =>
        rw [List.cons_append, List.cons.injEq] at more'
        obtain ⟨rfl, -⟩ := more'
        exact ⟨[], part, parts, front, more, rfl, own, rfl⟩

/-- A place in a part of a node is a place in the node, behind what the node has in front of the part. -/
private theorem place_around (frame : Frame) {p : Pattern} {front : List Char} {c : Char}
    (place : ∃ frames before rest, p = framed frames (.literal (String.ofList (before ++ c :: rest))) ∧
      lettersBefore frames ++ before = front) :
    ∃ frames before rest, frame.around p = framed frames (.literal (String.ofList (before ++ c :: rest))) ∧
      lettersBefore frames ++ before = frame.lettersBefore ++ front := by
  obtain ⟨frames, before, rest, rfl, rfl⟩ := place
  exact ⟨frames ++ [frame], before, rest, by simp [framed], by simp [lettersBefore]⟩

/-- Every letter of a tree has a place in it. -/
theorem exists_place {p : Pattern} {front behind : List Char} {c : Char}
    (letters : p.letters = front ++ c :: behind) :
    ∃ frames before rest, p = framed frames (.literal (String.ofList (before ++ c :: rest))) ∧
      lettersBefore frames ++ before = front := by
  induction p generalizing front behind with
  | literal text => exact ⟨[], front, behind, by rw [← letters]; simp [framed, Pattern.letters], rfl⟩
  | oneOf _ | anchor _ | backreference _ => cases front <;> cases letters
  | sequence items ih =>
    rw [letters_sequence] at letters
    obtain ⟨before, part, rest, inside, behind', rfl, own, rfl⟩ := exists_part letters
    exact place_around (.sequence before rest) (ih part (by simp) own)
  | alternation branches ih =>
    rw [letters_alternation] at letters
    obtain ⟨before, part, rest, inside, behind', rfl, own, rfl⟩ := exists_part letters
    exact place_around (.alternation before rest) (ih part (by simp) own)
  | repetition bounds body ih => exact place_around (.repetition bounds) (ih letters)
  | group index name body ih => exact place_around (.group index name) (ih letters)

end Pattern

/-! ### What was read -/

/-- The letters in front of an open group. -/
def OpenGroup.letters (opened : OpenGroup) : List Char :=
  opened.branches.reverse.flatMap Pattern.letters ++ opened.items.reverse.flatMap Pattern.letters

namespace Parser

variable {s : Settings} {st st' last : State} {c : Char}

/-- The letters of everything read so far. -/
def State.letters (st : State) : List Char :=
  st.enclosing.reverse.flatMap OpenGroup.letters ++ st.branches.reverse.flatMap Pattern.letters ++
    st.items.reverse.flatMap Pattern.letters

theorem letters_push (st : State) (leaf : Pattern) (after : Cursor) :
    (st.push leaf after).letters = st.letters ++ leaf.letters := by
  simp [State.letters, State.push]

private theorem letters_enter {capture : Option (Nat × Option String)} {flags : Flags} {after : Cursor}
    {count : Nat} {names : List String} (entered : { st with count, names }.enter s capture flags after = .ok st') :
    st'.letters = st.letters := by
  obtain ⟨-, rfl⟩ := enter_eq_ok.mp entered
  simp [State.letters, OpenGroup.letters]

/-- Each step adds the letters of a leaf, or none. -/
theorem letters_of_step (stepped : step s st c = .ok st') : ∃ more, st'.letters = st.letters ++ more := by
  cases takes_of_step stepped with
  | @leaf _ leaf after read => exact ⟨leaf.letters, letters_push st leaf after⟩
  | directive read => exact ⟨[], (List.append_nil _).symm⟩
  | flagged read entered =>
    exact ⟨[], (@letters_enter s st _ none _ _ st.count st.names entered).trans (List.append_nil _).symm⟩
  | capturing read entered => exact ⟨[], (letters_enter entered).trans (List.append_nil _).symm⟩
  | @closes opened outer isEnclosing =>
    have body : (opened.close (.ofLevel st.branches st.items)).letters =
        st.branches.reverse.flatMap Pattern.letters ++ st.items.reverse.flatMap Pattern.letters := by
      rw [← Pattern.letters_ofLevel]
      unfold OpenGroup.close
      split <;> rfl
    exact ⟨[], by simp [State.letters, OpenGroup.letters, isEnclosing, body]⟩
  | bar => exact ⟨[], by simp [State.letters, State.nextBranch, Pattern.letters_inOrder.concat]⟩
  | repeats sign isItems read => exact ⟨[], by simp [State.letters, isItems, Pattern.letters]⟩

/-- So does a run: induction on the run, one step after another. -/
theorem letters_of_run (ends : run s st = .ok last) : ∃ more, last.letters = st.letters ++ more := by
  fun_induction run s st with
  | case1 st none =>
    cases ends
    exact ⟨[], (List.append_nil _).symm⟩
  | case2 => cases ends
  | case3 st c rest next between stepped ih =>
    obtain ⟨more, first⟩ := letters_of_step stepped
    obtain ⟨more', others⟩ := ih ends
    exact ⟨more ++ more', by rw [others, first, List.append_assoc]⟩

end Parser

/-- In a tree, the letters of what was read up to some place come first. -/
theorem Settings.letters_of_parse {s : Settings} {text : String} {tree : Pattern} {st : Parser.State}
    (parsed : s.parse text = .ok tree)
    (comes : Relation.ReflTransGen (Parser.Reads s) (.initial s text.toList) st) :
    ∃ more, tree.letters = st.letters ++ more := by
  obtain ⟨last, ends, closed, rfl, -⟩ := parse_eq_ok.mp parsed
  rw [Parser.run_of_reads comes] at ends
  obtain ⟨more, letters⟩ := Parser.letters_of_run ends
  refine ⟨more, ?_⟩
  rw [Pattern.letters_ofLevel, ← letters]
  simp [Parser.State.letters, closed]

end PatternForge
