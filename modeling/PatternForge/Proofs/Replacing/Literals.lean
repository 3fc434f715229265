import PatternForge.Proofs.Replacing.Escapes
import PatternForge.Proofs.Replacing.Runs

/-!
A character of a pattern written as its escape sequence. Wherever the reader takes a character for itself, its
number in braces stands for the same, and the tree is the same (`Settings.parse_numbered`). There is one
exception. A character that has another case is, where case is ignored, the class of its cases as soon as it is
escaped, and a range of a class does not end with a class. Some of the hyphens and brackets that open a class are
no such characters, since it is their place that makes them stand for themselves (`ClassSet.Stands`).
-/
namespace PatternForge

open Escape (Codes numbered)

namespace Parser

/-- Outside of brackets, a character that the reader does not take for itself. -/
def isSyntax (c : Char) : Bool :=
  ['(', ')', '|', '[', '?', '*', '+', '\x7b', '\\', '.', '^', '$'].contains c

variable {s : Settings} {st : State} {c : Char} {front behind : List Char}

theorem step_of_not_syntax (plain : isSyntax c = false) :
    step s st c = .ok (st.push (s.charPattern st.flags c) st.here.skip) := by
  unfold step
  split
  case h_13 => rfl
  all_goals cases plain

/-- A character stands for itself in a pattern between two texts. The flags are those in force there, and a range
of a class may end with the character. -/
inductive Literal (s : Settings) (front : List Char) (c : Char) (behind : List Char) : Flags → Bool → Prop
  | outside {st : State} (comes : Relation.ReflTransGen (Reads s) (.initial s (front ++ c :: behind)) st)
    (place : st.here.rest = c :: behind) (plain : isSyntax c = false) : Literal s front c behind st.flags false
  | inside {st : State} {rest : List Char} {isEnd : Bool}
    (comes : Relation.ReflTransGen (Reads s) (.initial s (front ++ c :: behind)) st)
    (bracket : st.here.rest = '[' :: rest) (stands : ClassSet.Stands (st.context s) st.here c behind isEnd) :
    Literal s front c behind st.flags isEnd

end Parser

open PatternForge.Parser

namespace Settings

variable {s : Settings} {front behind digits : List Char} {c : Char} {flags : Flags} {isEnd : Bool}
  {tree : Pattern}

/-- A bracket that the reader comes to opens a class, if the pattern parses. -/
private theorem exists_class {text : List Char} {st : State} {rest : List Char}
    (parsed : s.parse (String.ofList text) = .ok tree)
    (comes : Relation.ReflTransGen (Reads s) (.initial s text) st) (bracket : st.here.rest = '[' :: rest) :
    ∃ leaf e, ClassSet.read (st.context s) st.here = .ok (leaf, e) := by
  obtain ⟨last, ends, -⟩ := parse_eq_ok.mp parsed
  rw [String.toList_ofList, run_of_reads comes] at ends
  obtain ⟨next, stepped, -⟩ := exists_step_of_run bracket ends
  simp only [step, State.pushRead] at stepped
  cases isRead : ClassSet.read (st.context s) st.here with
  | error failure => rw [isRead] at stepped; cases stepped
  | ok found => exact ⟨found.1, found.2, rfl⟩

/-- **A character and its escape sequence are read alike.** In a pattern that parses, a character that stands for
itself, outside of brackets or as a member or an end of a range in a class, is written by its number: the tree is
the same. The exception is an end of a range that has another case where case is ignored. There the pattern is
refused. -/
theorem parse_numbered (variants : Equivalence fun c d => d ∈ s.data.variants c) (codes : Codes digits c)
    (parsed : s.parse (String.ofList (front ++ c :: behind)) = .ok tree)
    (literal : Literal s front c behind flags isEnd) :
    (¬(isEnd = true ∧ s.Folds flags c) →
        s.parse (String.ofList (front ++ (numbered digits ++ behind))) = .ok tree) ∧
      (isEnd = true ∧ s.Folds flags c → ∃ position,
        s.parse (String.ofList (front ++ (numbered digits ++ behind))) =
          .error (.malformed position .classRangeNotCharacter)) := by
  cases literal with
  | @outside st comes place plain =>
    refine ⟨fun _ => ?_, nofun⟩
    have stepped : Reads s st (st.push (s.charPattern st.flags c) st.here.skip) :=
      ⟨c, behind, place, step_of_not_syntax plain⟩
    obtain ⟨e, rest, isNumber⟩ := @Escape.read_codes (st.context s)
      (Cursor.mk st.here.offset (numbered digits ++ behind)).skip digits behind c codes
      ⟨st.here.offset, numbered digits ++ behind⟩ (by rw [Cursor.rest_skip]; simp [numbered])
    have stepped' : Reads s (st.goingOn (numbered digits ++ behind))
        ((st.goingOn (numbered digits ++ behind)).push (s.charPattern st.flags c) e) :=
      ⟨'\\', _, rfl, congrArg ((st.goingOn (numbered digits ++ behind)).pushRead) isNumber⟩
    refine parse_leaf_replaced (List.cons_ne_nil _ _) (by simp [numbered]) parsed comes place stepped stepped' ?_
    rw [rest, Cursor.rest_skip, place, List.tail_cons]
  | @inside st rest isEnd comes bracket stands =>
    obtain ⟨within, split⟩ := stands.exists_front
    rw [Cursor.rest_skip, bracket, List.tail_cons] at split
    subst split
    obtain ⟨before, text⟩ := (reaches_of_reads comes).exists_append
    obtain rfl : front = before ++ '[' :: within := by
      refine (List.append_left_inj (c :: behind)).mp ?_
      rw [bracket] at text
      simpa [State.initial] using text
    -- The class, cut in front of the character.
    have recut (more : List Char) : before ++ '[' :: within ++ more = before ++ ('[' :: within ++ more) := by simp
    have place : st.here = (Cursor.mk st.here.offset ('[' :: within)).inside 0 (c :: behind) := by
      simp only [Cursor.inside, Nat.add_zero, List.cons_append, ← bracket]
    rw [recut] at parsed comes ⊢
    rw [place] at stands
    obtain ⟨leaf, e, isClass⟩ := exists_class parsed comes bracket
    have stepped : Reads s st (st.push leaf e) :=
      ⟨'[', _, bracket, congrArg st.pushRead isClass⟩
    rw [place] at isClass
    obtain ⟨replaced, refused⟩ := ClassSet.read_numbered variants codes rfl stands isClass
    have notEmpty : '[' :: within ++ c :: behind ≠ [] := List.cons_ne_nil _ _
    constructor
    · intro single
      obtain ⟨e', rest, isClass'⟩ := replaced single
      have stepped' : Reads s (st.goingOn ('[' :: within ++ (numbered digits ++ behind)))
          ((st.goingOn ('[' :: within ++ (numbered digits ++ behind))).push leaf e') :=
        ⟨'[', _, rfl, congrArg (st.goingOn _).pushRead isClass'⟩
      exact parse_leaf_replaced notEmpty (by simp) parsed comes bracket stepped stepped' rest
    · intro folds
      obtain ⟨position, isRefused⟩ := refused folds
      exact ⟨position, parse_refused notEmpty (by simp) comes bracket rfl
        (congrArg (st.goingOn ('[' :: within ++ (numbered digits ++ behind))).pushRead isRefused)⟩

/-- Reading of letters, where case may be ignored. -/
def letters (ignoreCase : Bool) : Settings :=
  { ClassSet.ignoringCase.settings with flags := { ignoreCase } }

/-- A range of letters parses, and its lower end stands for itself. -/
private theorem reads_letters (ignoreCase : Bool) :
    (∃ tree, (letters ignoreCase).parse "[a-c]" = .ok tree) ∧
      Literal (letters ignoreCase) ['['] 'a' ['-', 'c', ']'] { ignoreCase } true := by
  have passes : ClassSet.Passes ((State.initial (letters ignoreCase) []).context (letters ignoreCase))
      ⟨0, "[a-c]".toList⟩ [] [] ⟨1, "a-c]".toList⟩ := ⟨_, rfl, .nil _⟩
  refine ⟨?_, .inside .refl rfl (.lower passes rfl (by decide) ⟨'c', [']'], rfl, by decide⟩)⟩
  obtain ⟨cls, built⟩ : ∃ cls, ClassSet.build
      ((State.initial (letters ignoreCase) []).context (letters ignoreCase)) ⟨0, "[a-c]".toList⟩ ⟨5, []⟩ false
        [.range 'a' 'c'] = .ok (.oneOf cls) := by
    cases ignoreCase <;> exact ⟨_, rfl⟩
  have isClass : ClassSet.read ((State.initial (letters ignoreCase) []).context (letters ignoreCase))
      ⟨0, "[a-c]".toList⟩ = .ok (.oneOf cls, ⟨5, []⟩) :=
    ClassSet.read_eq_ok.mpr ⟨[], [.range 'a' 'c'], ⟨4, [']']⟩, [],
      ⟨_, rfl, .cons (.item rfl ⟨by decide, by decide⟩ (by decide) rfl) (.nil _)⟩, rfl, built, rfl⟩
  have stepped : step (letters ignoreCase) (.initial (letters ignoreCase) "[a-c]".toList) '[' =
      .ok ((State.initial (letters ignoreCase) "[a-c]".toList).push (.oneOf cls) ⟨5, []⟩) :=
    congrArg (State.initial (letters ignoreCase) "[a-c]".toList).pushRead isClass
  have leaf : (Pattern.oneOf cls).DeepestWithin (letters ignoreCase).nestLimit 0 :=
    Pattern.deepestWithin_iff.mpr ⟨Nat.zero_le _, nofun⟩
  exact ⟨.oneOf cls, parse_eq_ok.mpr ⟨_, (run_of_step rfl stepped).trans (run_of_end rfl), rfl, rfl, leaf⟩⟩

/-- The lower end of a range of letters by its number. -/
theorem parse_numbered_letters :
    (∃ tree, (letters false).parse "[a-c]" = .ok tree ∧ (letters false).parse "[\\x\x7b61\x7d-c]" = .ok tree) ∧
      (∃ tree, (letters true).parse "[a-c]" = .ok tree) ∧
        ∃ position, (letters true).parse "[\\x\x7b61\x7d-c]" =
          .error (.malformed position .classRangeNotCharacter) := by
  have codes : Codes ['6', '1'] 'a' := Escape.codes_hexCapital 'a' 2
  have raw : "[a-c]" = String.ofList (['['] ++ 'a' :: ['-', 'c', ']']) := rfl
  have escaped : "[\\x\x7b61\x7d-c]" = String.ofList (['['] ++ (numbered ['6', '1'] ++ ['-', 'c', ']'])) := rfl
  obtain ⟨⟨tree, parsed⟩, literal⟩ := reads_letters false
  obtain ⟨⟨tree', parsed'⟩, literal'⟩ := reads_letters true
  have folds : (letters true).Folds { ignoreCase := true } 'a' := ⟨rfl, by decide⟩
  have minds : ¬(letters false).Folds { ignoreCase := false } 'a' := fun folds => nomatch folds.1
  rw [raw] at parsed parsed' ⊢
  rw [escaped]
  exact ⟨⟨tree, parsed, (parse_numbered ClassSet.sevenBit_foldsCase.variants codes parsed literal).1
      fun other => minds other.2⟩, ⟨tree', parsed'⟩,
    (parse_numbered ClassSet.sevenBit_foldsCase.variants codes parsed' literal').2 ⟨rfl, folds⟩⟩

end Settings

end PatternForge
