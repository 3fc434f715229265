import PatternForge.Proofs.Parentheses.Constructs
import PatternForge.Proofs.Reading.StepCases

/-!
The reader goes from one parenthesis of the text to the next. Each construct that it takes stands for one
parenthesis of `Parenthesis.scan` or for none (`Crosses`): an opening one adds a level, a closing one takes
one off, flags change what holds on this level, and nothing else does anything of that kind.
-/
namespace PatternForge.Parser

open Parenthesis (scan IsPlain)
open GroupPrefix (Accords)

variable {s : Settings} {st st' : State} {c : Char} {rest : List Char}

/-- What happens to the open groups and to the flags where the reader goes on behind a construct. -/
inductive Crosses (st st' : State) : Prop
  | nothing (signs : scan st.here.rest = scan st'.here.rest) (level : st'.enclosing = st.enclosing)
    (flags : st'.flags = st.flags)
  | opening {sign : Parenthesis} {opened : OpenGroup} (isOpening : sign.IsOpening)
    (signs : scan st.here.rest = sign :: scan st'.here.rest) (level : st'.enclosing = opened :: st.enclosing)
    (outer : opened.outer = st.flags) (flags : Accords sign st.flags st'.flags)
  | setting {listed : List Char} (signs : scan st.here.rest = .sets listed :: scan st'.here.rest)
    (level : st'.enclosing = st.enclosing) (flags : Accords (.sets listed) st.flags st'.flags)
  | closing {opened : OpenGroup} (signs : scan st.here.rest = .closes :: scan st'.here.rest)
    (level : st.enclosing = opened :: st'.enclosing) (flags : st'.flags = opened.outer)

private theorem scan_of_through (next : st.here.rest = c :: rest) (plain : IsPlain c) {after : Cursor}
    (plainly : st.here.skip.Through IsPlain after) : scan st.here.rest = scan after.rest := by
  rw [← plainly.scan_eq, next, Parenthesis.scan_plain plain, Cursor.rest_skip, next, List.tail_cons]

private theorem scan_of_leaf {leaf : Pattern} {after : Cursor} (next : st.here.rest = c :: rest)
    (read : ReadsLeaf s st c leaf after) : scan st.here.rest = scan after.rest := by
  cases read with
  | bracketed read =>
    rw [next, Parenthesis.scan_bracket, ClassSet.rest_of_read read, Cursor.rest_skip, next, List.tail_cons]
  | escape read =>
    rw [next, Parenthesis.scan_backslash, Escape.rest_of_read read, Cursor.rest_skip, next, List.tail_cons]
  | dot => exact scan_of_through next (by decide) (Cursor.Through.refl _)
  | anchor named =>
    refine scan_of_through next ?_ (Cursor.Through.refl _)
    simp only [List.mem_cons, Prod.mk.injEq, List.not_mem_nil, or_false] at named
    rcases named with ⟨rfl, -⟩ | ⟨rfl, -⟩ <;> decide
  | char plain =>
    refine scan_of_through next ⟨?_, ?_, ?_, ?_⟩ (Cursor.Through.refl _)
    all_goals
      rintro rfl
      simp at plain

private theorem scan_opening {sign : Parenthesis} {behind : List Char} (next : st.here.rest = '(' :: rest)
    (opens : Parenthesis.opening rest = (sign, behind)) : scan st.here.rest = sign :: scan behind := by
  rw [next, Parenthesis.scan_open, opens]

/-- Each step crosses what its construct stands for. -/
theorem crosses_of_step (punctuated : s.data.Punctuated) (next : st.here.rest = c :: rest)
    (stepped : step s st c = .ok st') : Crosses st st' := by
  cases takes_of_step stepped with
  | leaf read => exact .nothing (scan_of_leaf next read) rfl rfl
  | directive read =>
    obtain ⟨listed, opens, accords⟩ := GroupPrefix.opening_of_directive next read
    exact .setting (scan_opening next opens) rfl accords
  | flagged read entered =>
    obtain ⟨listed, opens, accords⟩ := GroupPrefix.opening_of_flagged next read
    obtain ⟨-, rfl⟩ := enter_eq_ok.mp entered
    exact @Crosses.opening _ _ (.opensWith listed) _ trivial (scan_opening next opens) rfl rfl accords
  | capturing read entered =>
    have opens := GroupPrefix.opening_of_capturing punctuated next read
    obtain ⟨-, rfl⟩ := enter_eq_ok.mp entered
    exact @Crosses.opening _ _ .opens _ trivial (scan_opening next opens) rfl rfl fun ignoring _ => ignoring
  | closes isEnclosing =>
    refine .closing ?_ isEnclosing rfl
    rw [next, Parenthesis.scan_close, Cursor.rest_skip, next, List.tail_cons]
  | bar => exact .nothing (scan_of_through next (by decide) (Cursor.Through.refl _)) rfl rfl
  | repeats sign isItems read =>
    refine .nothing (scan_of_through next ?_ (Repeat.plainly_of_read punctuated read)) rfl rfl
    simp only [List.mem_cons, List.not_mem_nil, or_false] at sign
    rcases sign with rfl | rfl | rfl | rfl <;> decide

end PatternForge.Parser
