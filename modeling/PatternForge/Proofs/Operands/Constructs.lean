import PatternForge.Proofs.Parentheses.Constructs
import PatternForge.Proofs.Reading.StepCases

/-!
The constructs of a pattern, read off its text. `constructs` cuts a text where the reader goes from one construct
to the next, by punctuation alone: escape sequences, bracketed classes, counts in braces, the mark of laziness
behind an operator, and what a parenthesis opens are one construct each. The reader takes the first construct of
what is left (`constructs_of_step`), and does with its items what that kind of construct does (`Acts`).
-/
namespace PatternForge

open Parenthesis (afterClass afterEscape opening)

/-- What a construct is to the operators beside it. -/
inductive Construct.Kind where
  /-- A character, a dot, an anchor, an escape sequence or a bracketed class. -/
  | element
  /-- The start of a group, with its name or its flags. -/
  | opens
  /-- Flags in parentheses of their own. -/
  | directive
  /-- A bar between branches. -/
  | bar
  /-- The end of a group. -/
  | closes
  /-- A repetition operator with its mark. -/
  | operator
  deriving DecidableEq, Repr

/-- A construct of a pattern as it is written. -/
structure Construct where
  /-- What it is. -/
  kind : Construct.Kind
  /-- Its text. -/
  chars : List Char
  deriving DecidableEq, Repr

namespace Construct

/-! ### Cutting a text -/

/-- What is behind a mark of laziness, if there is one. -/
def afterMark (text : List Char) : List Char := if text.head? = some '?' then text.tail else text

/-- What is behind a count whose opening brace has been read. -/
def afterCount (text : List Char) : List Char := (text.dropWhile (· ≠ '\x7d')).tail

/-- What the construct is that starts with a character, and what is behind it. -/
def first (c : Char) (rest : List Char) : Kind × List Char :=
  match c with
  | '(' =>
    match opening rest with
    | (.sets _, behind) => (.directive, behind)
    | (_, behind) => (.opens, behind)
  | ')' => (.closes, rest)
  | '|' => (.bar, rest)
  | '[' => (.element, afterClass rest)
  | '\\' => (.element, afterEscape rest)
  | '?' | '*' | '+' => (.operator, afterMark rest)
  | '\x7b' => (.operator, afterMark (afterCount rest))
  | _ => (.element, rest)

theorem length_afterMark_le (text : List Char) : (afterMark text).length ≤ text.length := by
  unfold afterMark
  split
  · rw [List.length_tail]
    omega
  · exact Nat.le_refl _

theorem length_afterCount_le (text : List Char) : (afterCount text).length ≤ text.length := by
  have shorter := List.length_dropWhile_le (· ≠ '\x7d') text
  rw [afterCount, List.length_tail]
  omega

theorem length_first_le (c : Char) (rest : List Char) : (first c rest).2.length ≤ rest.length := by
  unfold first
  split
  case h_1 =>
    have shorter := Parenthesis.length_opening_le rest
    split
    all_goals
      rename_i same
      rw [same] at shorter
      exact shorter
  case h_4 => exact Parenthesis.length_afterClass_le rest
  case h_5 => exact Parenthesis.length_afterEscape_le rest
  case h_6 => exact length_afterMark_le rest
  case h_7 => exact length_afterMark_le rest
  case h_8 => exact length_afterMark_le rest
  case h_9 => exact Nat.le_trans (length_afterMark_le _) (length_afterCount_le rest)
  all_goals exact Nat.le_refl _

end Construct

open Construct (first afterMark afterCount)

/-- The constructs of a text. -/
def constructs (text : List Char) : List Construct :=
  match text with
  | [] => []
  | c :: rest =>
    { kind := (first c rest).1, chars := (c :: rest).take (rest.length + 1 - (first c rest).2.length) } ::
      constructs ((c :: rest).drop (rest.length + 1 - (first c rest).2.length))
  termination_by text.length
  decreasing_by
    have shorter := Construct.length_first_le c rest
    rw [List.length_drop, List.length_cons]
    omega

/-- Nothing of a text is left out by its constructs. -/
theorem flatMap_constructs (text : List Char) : (constructs text).flatMap Construct.chars = text := by
  fun_induction constructs text with
  | case1 => rfl
  | case2 c rest ih => rw [List.flatMap_cons, ih, List.take_append_drop]

theorem constructs_nil : constructs [] = [] := by rw [constructs]

/-- The first construct, where what is behind it is known. -/
theorem constructs_cons {c : Char} {front behind : List Char} {kind : Construct.Kind}
    (cut : first c (front ++ behind) = (kind, behind)) :
    constructs (c :: (front ++ behind)) = { kind, chars := c :: front } :: constructs behind := by
  have size : (front ++ behind).length + 1 - behind.length = (c :: front).length := by
    simp only [List.length_append, List.length_cons]
    omega
  rw [constructs, cut, size, ← List.cons_append, List.take_left, List.drop_left]

/-! ### What the reader takes -/

namespace Repeat

variable {data : CharacterData} {flags : Flags} {start after : Cursor} {c : Char} {rest : List Char}

private theorem rest_of_greediness {last : Cursor} {greedy : Bool}
    (read : greediness flags start last = .ok (greedy, after)) : after.rest = afterMark last.skip.rest := by
  unfold afterMark
  rcases greediness_eq_ok.mp read with ⟨isMark, -, rfl⟩ | ⟨noMark, -, -, rfl⟩
  · rw [if_pos isMark, Cursor.rest_skip]
  · rw [if_neg noMark]

private theorem rest_of_plain {bounds : Bounds} {least : UInt32} {most : Option UInt32}
    (read : plain flags start least most = .ok (bounds, after)) : after.rest = afterMark start.skip.rest := by
  unfold plain at read
  simp only [bind, Except.bind, pure, Except.pure] at read
  split at read
  · cases read
  · rename_i isMark
    cases read
    exact rest_of_greediness isMark

/-- A count ends at the first closing brace. -/
private theorem rest_of_counted (brace : data.space '\x7d' = false) {bounds : Bounds}
    (read : counted data flags start = .ok (bounds, after)) :
    after.rest = afterMark (afterCount start.skip.rest) := by
  obtain ⟨least, most, close, greedy, isCount, isMark, -, rfl⟩ := counted_eq_ok.mp read
  obtain ⟨more, isClose⟩ := brace_of_count isCount
  have space : ∀ c, data.space c = true → c ≠ '\x7d' := by
    rintro c isSpace rfl
    rw [brace] at isSpace
    cases isSpace
  have digit : ∀ c : Char, c.isDigit = true → c ≠ '\x7d' := by
    rintro c isDigit rfl
    cases isDigit
  obtain ⟨text, between, others⟩ := through_of_count space digit (by decide) isCount
  have absent : '\x7d' ∉ text := fun member => others _ member rfl
  rw [rest_of_greediness isMark, between, isClose, afterCount, dropWhile_ne_append absent, List.tail_cons,
    Cursor.rest_skip, isClose, List.tail_cons]

/-- An operator is one construct. -/
theorem first_of_read (brace : data.space '\x7d' = false) {bounds : Bounds}
    (next : start.rest = c :: rest) (sign : c ∈ ['?', '*', '+', '\x7b'])
    (read' : read data flags start c = .ok (bounds, after)) : first c rest = (.operator, after.rest) := by
  have behind : start.skip.rest = rest := by rw [Cursor.rest_skip, next, List.tail_cons]
  simp only [List.mem_cons, List.not_mem_nil, or_false] at sign
  rcases sign with rfl | rfl | rfl | rfl
  · rw [first, rest_of_plain read', behind]
  · rw [first, rest_of_plain read', behind]
  · rw [first, rest_of_plain read', behind]
  · rw [first, rest_of_counted brace read', behind]

end Repeat

namespace Parser

variable {s : Settings} {st st' : State} {c : Char} {rest : List Char}

/-- What a kind of construct does with the items of the reader, and with the groups that are open. -/
inductive Acts (st st' : State) : Construct.Kind → Prop
  | element {item : Pattern} (items : st'.items = item :: st.items) (branches : st'.branches = st.branches)
    (level : st'.enclosing = st.enclosing) : Acts st st' .element
  | directive (items : st'.items = st.items) (branches : st'.branches = st.branches)
    (level : st'.enclosing = st.enclosing) : Acts st st' .directive
  | opens {opened : OpenGroup} (items : st'.items = []) (branches : st'.branches = [])
    (level : st'.enclosing = opened :: st.enclosing) (around : opened.items = st.items)
    (finished : opened.branches = st.branches) : Acts st st' .opens
  | bar (items : st'.items = []) (branches : st'.branches = .concat st.items.reverse :: st.branches)
    (level : st'.enclosing = st.enclosing) : Acts st st' .bar
  | closes {opened : OpenGroup}
    (items : st'.items = opened.close (.ofLevel st.branches st.items) :: opened.items)
    (branches : st'.branches = opened.branches) (level : st.enclosing = opened :: st'.enclosing) :
    Acts st st' .closes
  | operator {item : Pattern} {earlier : List Pattern} {bounds : Bounds} (operand : st.items = item :: earlier)
    (items : st'.items = .repetition bounds item :: earlier) (branches : st'.branches = st.branches)
    (level : st'.enclosing = st.enclosing) : Acts st st' .operator

/-- Only the start and the end of a group change which groups are open. -/
theorem Acts.enclosing_eq {kind : Construct.Kind} (acts : Acts st st' kind)
    (within : kind ≠ .opens ∧ kind ≠ .closes) : st'.enclosing = st.enclosing := by
  cases acts with
  | element _ _ level | directive _ _ level | bar _ _ level | operator _ _ _ level => exact level
  | opens => exact absurd rfl within.1
  | closes => exact absurd rfl within.2

private theorem first_of_leaf {leaf : Pattern} {after : Cursor} (next : st.here.rest = c :: rest)
    (read : ReadsLeaf s st c leaf after) : first c rest = (.element, after.rest) := by
  have behind : st.here.skip.rest = rest := by rw [Cursor.rest_skip, next, List.tail_cons]
  cases read with
  | bracketed read => rw [first, ClassSet.rest_of_read read, behind]
  | escape read => rw [first, Escape.rest_of_read read, behind]
  | dot => rw [behind]; rfl
  | anchor named =>
    rw [behind]
    simp only [List.mem_cons, Prod.mk.injEq, List.not_mem_nil, or_false] at named
    rcases named with ⟨rfl, -⟩ | ⟨rfl, -⟩ <;> rfl
  | char plain =>
    rw [behind]
    unfold first
    split
    case h_10 => rfl
    all_goals simp at plain

/-- The reader takes the construct that comes first. -/
private theorem first_of_step (punctuated : s.data.Punctuated) (brace : s.data.space '\x7d' = false)
    (next : st.here.rest = c :: rest) (stepped : step s st c = .ok st') :
    ∃ kind, first c rest = (kind, st'.here.rest) ∧ Acts st st' kind := by
  have behind : st.here.skip.rest = rest := by rw [Cursor.rest_skip, next, List.tail_cons]
  cases takes_of_step stepped with
  | leaf read => exact ⟨_, first_of_leaf next read, .element rfl rfl rfl⟩
  | directive read =>
    obtain ⟨listed, opens, -⟩ := GroupPrefix.opening_of_directive next read
    exact ⟨_, by rw [first, opens], .directive rfl rfl rfl⟩
  | flagged read entered =>
    obtain ⟨listed, opens, -⟩ := GroupPrefix.opening_of_flagged next read
    obtain ⟨-, rfl⟩ := enter_eq_ok.mp entered
    exact ⟨_, by rw [first, opens], .opens rfl rfl rfl rfl rfl⟩
  | capturing read entered =>
    have opens := GroupPrefix.opening_of_capturing punctuated next read
    obtain ⟨-, rfl⟩ := enter_eq_ok.mp entered
    exact ⟨_, by rw [first, opens], .opens rfl rfl rfl rfl rfl⟩
  | closes isEnclosing => exact ⟨_, by rw [behind]; rfl, .closes rfl rfl isEnclosing⟩
  | bar => exact ⟨_, by rw [State.nextBranch, behind]; rfl, .bar rfl rfl rfl⟩
  | repeats sign isItems read =>
    exact ⟨_, Repeat.first_of_read brace next sign read, .operator isItems rfl rfl rfl⟩

/-- **The reader goes from one construct of the text to the next.** -/
theorem constructs_of_step (punctuated : s.data.Punctuated) (brace : s.data.space '\x7d' = false)
    (next : st.here.rest = c :: rest) (stepped : step s st c = .ok st') :
    ∃ construct, constructs st.here.rest = construct :: constructs st'.here.rest ∧
      Acts st st' construct.kind := by
  obtain ⟨kind, cut, acts⟩ := first_of_step punctuated brace next stepped
  obtain ⟨front, taken⟩ := (reaches_step stepped).exists_append
  rw [Cursor.rest_skip, next, List.tail_cons] at taken
  rw [next]
  subst taken
  exact ⟨_, constructs_cons cut, acts⟩

end Parser

end PatternForge
