import PatternForge.Proofs.Placement.Operators
import PatternForge.Proofs.Replacing.Places
import PatternForge.Proofs.RoundTrip.Prefixes

/-!
Repetition operators and the prefixes of groups in front of another text. An operator looks behind itself for a
mark, and an opening parenthesis for a question mark, so neither may begin the other text.
-/
namespace PatternForge

open Cursor (cons_of_skip cons_of_skipWhile rest_inside_of_cons skip_inside_of_cons
  skipWhile_inside_of_cons)

variable {t t' : List Char} {a e : Cursor} {c : Char} {rest : List Char}

/-- In front of more than `t` there is something. -/
private theorem cons_of_reaches (reaches : (a.inside 0 t).Reaches e) (before : t.length < e.rest.length) :
    ∃ c rest, a.rest = c :: rest := by
  refine List.exists_cons_of_ne_nil fun none => ?_
  have shorter := reaches.length_le
  rw [Cursor.rest_inside, none, List.nil_append] at shorter
  omega

/-- Behind characters that satisfy a condition there is more than `t`. -/
private theorem cons_of_farther {holds : Char → Bool} (notEmpty : t ≠ [])
    (before : t.length < ((a.inside 0 t).skipWhile holds).rest.length) :
    ∃ c rest, (a.skipWhile holds).rest = c :: rest := by
  refine @cons_of_skipWhile 0 t a holds notEmpty ?_
  rw [Cursor.rest_skip, List.length_tail]
  omega

namespace Repeat

variable {data : CharacterData} {flags : Flags} {start start' : Cursor}

private theorem decimal_alike {value : UInt32} (notEmpty : t ≠ [])
    (read : decimal data (a.inside 0 t) = .ok (value, e)) (before : t.length < e.rest.length) :
    ∃ b : Cursor, e = b.inside 0 t ∧ decimal data (a.inside 0 t') = .ok (value, b.inside 0 t') := by
  unfold decimal at read ⊢
  dsimp only at read ⊢
  split at read
  · cases read
  · rename_i some
    split at read
    · rename_i small
      cases read
      have digits := Nat.lt_of_lt_of_le before (Cursor.reaches_skipWhile data.space _).length_le
      have blanks := Nat.lt_of_lt_of_le digits (Cursor.reaches_skipWhile Char.isDigit _).length_le
      obtain ⟨c, rest, isBlank⟩ := cons_of_farther notEmpty blanks
      rw [skipWhile_inside_of_cons isBlank] at before digits some small ⊢
      obtain ⟨d, rest', isDigit⟩ := cons_of_farther notEmpty digits
      rw [skipWhile_inside_of_cons isDigit] at before some small ⊢
      obtain ⟨f, rest'', isLast⟩ := cons_of_farther notEmpty before
      rw [Cursor.charsTo_inside] at some small
      refine ⟨_, skipWhile_inside_of_cons isLast, ?_⟩
      rw [skipWhile_inside_of_cons isBlank, skipWhile_inside_of_cons isDigit, skipWhile_inside_of_cons isLast,
        Cursor.charsTo_inside, Cursor.charsTo_inside, if_neg some, if_pos small]
    · cases read

theorem alike_greediness (notEmpty : t ≠ []) (notMark : t'.head? ≠ some '?' ∧ t'.head? ≠ some '+')
    (next : a.rest = c :: rest) (start start' : Cursor) :
    Alike t t' (greediness flags start (a.inside 0 t)) (greediness flags start' (a.inside 0 t')) := by
  intro greedy e read before
  simp only [greediness_eq_ok, skip_inside_of_cons next] at read ⊢
  obtain ⟨isMark, rfl, rfl⟩ | ⟨notLazy, notPossessive, rfl, rfl⟩ := read
  · obtain ⟨d, others, following⟩ := cons_of_skip notEmpty before
    rw [rest_inside_of_cons following] at isMark
    refine ⟨a.skip.skip, skip_inside_of_cons following, .inl ⟨?_, rfl, (skip_inside_of_cons following).symm⟩⟩
    rw [rest_inside_of_cons following]
    exact isMark
  · refine ⟨a.skip, rfl, .inr ?_⟩
    cases following : a.skip.rest with
    | nil =>
      rw [Cursor.rest_inside, following]
      exact ⟨notMark.1, notMark.2, rfl, rfl⟩
    | cons d others =>
      rw [rest_inside_of_cons following] at notLazy notPossessive ⊢
      exact ⟨notLazy, notPossessive, rfl, rfl⟩

theorem alike_plain (notEmpty : t ≠ []) (notMark : t'.head? ≠ some '?' ∧ t'.head? ≠ some '+')
    (next : a.rest = c :: rest) (least : UInt32) (most : Option UInt32) :
    Alike t t' (plain flags (a.inside 0 t) least most) (plain flags (a.inside 0 t') least most) := by
  refine (alike_greediness notEmpty notMark next _ _).bind (fun _ e _ e' read => ?_) fun _ b => .of_ok b
  cases read
  exact Nat.le_refl _

private theorem count_alike {least : UInt32} {most : Option UInt32} (notEmpty : t ≠ [])
    (next : a.rest = c :: rest) (read : count data (a.inside 0 t) = .ok (least, most, e))
    (before : t.length < e.rest.length) :
    ∃ b : Cursor, e = b.inside 0 t ∧ count data (a.inside 0 t') = .ok (least, most, b.inside 0 t') := by
  have going := reaches_count read
  rw [skip_inside_of_cons next] at going
  obtain ⟨d, others, following⟩ := cons_of_reaches going before
  obtain ⟨-, behind, isLeast, found⟩ := count_eq_ok.mp read
  have onward : behind.Reaches e := by
    obtain ⟨-, -, rfl⟩ | ⟨-, -, rfl⟩ | ⟨-, bound, isMost, -⟩ := found
    · exact .refl _
    · exact Cursor.reaches_skip _
    · exact (Cursor.reaches_skip _).trans (reaches_decimal isMost)
  rw [skip_inside_of_cons next] at isLeast
  obtain ⟨b, rfl, again⟩ := @decimal_alike t t' _ _ _ _ notEmpty isLeast
    (Nat.lt_of_lt_of_le before onward.length_le)
  obtain ⟨f, more, first⟩ := cons_of_reaches onward before
  have going' : (a.skip.inside 0 t').rest ≠ [] := by
    rw [rest_inside_of_cons following]
    exact List.cons_ne_nil _ _
  simp only [count_eq_ok, skip_inside_of_cons next]
  rw [rest_inside_of_cons first, skip_inside_of_cons first] at found
  rcases found with ⟨⟨text, brace⟩, rfl, rfl⟩ | ⟨⟨text, comma⟩, rfl, rfl⟩ |
    ⟨⟨g, text, comma, notBrace⟩, bound, isMost, ⟨_, brace⟩, rfl⟩
  · cases brace
    exact ⟨b, rfl, going', _, again, .inl ⟨⟨_, rest_inside_of_cons first⟩, rfl, rfl⟩⟩
  · obtain ⟨g, others', second⟩ := cons_of_reaches (.refl _) before
    rw [Cursor.rest_skip, first, List.tail_cons] at second
    subst second
    cases comma
    exact ⟨b.skip, rfl, going', _, again,
      .inr (.inl ⟨⟨_, rest_inside_of_cons first⟩, rfl, (skip_inside_of_cons first).symm⟩)⟩
  · obtain ⟨g', others', second⟩ := cons_of_reaches (reaches_decimal isMost) before
    rw [Cursor.rest_skip, first, List.tail_cons] at second
    subst second
    cases comma
    obtain ⟨b', rfl, again'⟩ := @decimal_alike t t' _ _ _ _ notEmpty isMost before
    obtain ⟨h, text', closing⟩ := cons_of_reaches (.refl _) before
    rw [rest_inside_of_cons closing] at brace
    cases brace
    refine ⟨b', rfl, going', _, again, .inr (.inr ⟨⟨_, _, rest_inside_of_cons first, notBrace⟩, bound, ?_,
      ⟨_, rest_inside_of_cons closing⟩, rfl⟩)⟩
    rwa [skip_inside_of_cons first]

theorem alike_counted (notEmpty : t ≠ []) (notMark : t'.head? ≠ some '?' ∧ t'.head? ≠ some '+')
    (next : a.rest = c :: rest) :
    Alike t t' (counted data flags (a.inside 0 t)) (counted data flags (a.inside 0 t')) := by
  intro bounds e read before
  obtain ⟨least, most, close, greedy, isCount, isMark, ordered, rfl⟩ := counted_eq_ok.mp read
  obtain ⟨others, atBrace⟩ := brace_of_count isCount
  have farther : t.length < close.rest.length :=
    Nat.lt_of_le_of_lt before (Cursor.Reaches.length_lt atBrace (reaches_greediness isMark))
  obtain ⟨b, rfl, isCount'⟩ := count_alike notEmpty next isCount farther
  obtain ⟨f, more, brace⟩ : ∃ f more, b.rest = f :: more := by
    refine List.exists_cons_of_ne_nil fun none => ?_
    rw [Cursor.rest_inside, none, List.nil_append] at farther
    omega
  obtain ⟨b', rfl, isMark'⟩ := alike_greediness notEmpty notMark brace (a.inside 0 t) (a.inside 0 t') greedy e
    isMark before
  exact ⟨b', rfl, counted_eq_ok.mpr ⟨least, most, _, greedy, isCount', isMark', ordered, rfl⟩⟩

/-- **An operator.** -/
theorem alike_read (notEmpty : t ≠ []) (notMark : t'.head? ≠ some '?' ∧ t'.head? ≠ some '+')
    (next : a.rest = c :: rest) (sign : Char) :
    Alike t t' (read data flags (a.inside 0 t) sign) (read data flags (a.inside 0 t') sign) := by
  unfold read
  split
  · exact alike_plain notEmpty notMark next 0 (some 1)
  · exact alike_plain notEmpty notMark next 0 none
  · exact alike_plain notEmpty notMark next 1 none
  · exact alike_counted notEmpty notMark next

end Repeat

namespace GroupPrefix

variable {data : CharacterData} {flags : Flags} {taken : List String} {start : Cursor} {kind : GroupPrefix}

private theorem name_alike {found : String} (read : name data taken (a.inside 0 t) = .ok (found, e))
    (before : t.length ≤ e.rest.length) (t' : List Char) :
    ∃ b : Cursor, e = b.inside 0 t ∧ name data taken (a.inside 0 t') = .ok (found, b.inside 0 t') := by
  obtain ⟨isName, isNew, rest, spelled, rfl⟩ := name_eq_ok.mp read
  have whole : a.rest ++ t = found.toList ++ '>' :: rest := spelled
  -- the other text begins behind the closing angle
  obtain ⟨u, rfl⟩ : t <:+ rest := by
    refine List.suffix_of_suffix_length_le (List.suffix_append a.rest t) ?_ ?_
    · exact whole ▸ (List.suffix_cons '>' rest).trans (List.suffix_append _ _)
    · rwa [Cursor.rest_skip, Cursor.rest_skipMany, spelled, List.drop_left] at before
  have text : a.rest = found.toList ++ '>' :: u := by
    refine (List.append_left_inj t).mp ?_
    rw [whole, List.append_assoc, List.cons_append]
  have stops : (a.skipMany found.toList.length).rest = '>' :: u := by
    rw [Cursor.rest_skipMany, text, List.drop_left]
  have placed (more : List Char) : ((a.inside 0 more).skipMany found.toList.length).skip =
      (a.skipMany found.toList.length).skip.inside 0 more := by
    rw [Cursor.skipMany_inside (.inl (by rw [text, List.length_append]; exact Nat.le_add_right _ _)),
      skip_inside_of_cons stops]
  refine ⟨_, placed t, name_eq_ok.mpr ⟨isName, isNew, u ++ t', ?_, (placed t').symm⟩⟩
  rw [Cursor.rest_inside, text, List.append_assoc, List.cons_append]

private theorem flagStep_of_flagStep {state state' : FlagState} {here : Cursor}
    (stepped : flagStep state here c = .ok state') (other : Cursor) : flagStep state other c = .ok state' := by
  unfold flagStep at stepped ⊢
  split at stepped
  · rename_i isSign
    rw [if_pos isSign]
    split at stepped
    · cases stepped
    · rename_i first
      rw [if_neg first]
      exact stepped
  · rename_i isLetter
    rw [if_neg isLetter]
    split at stepped
    · cases stepped
    · split at stepped
      · cases stepped
      · rename_i isNew
        rw [if_neg isNew]
        exact stepped

/-- The flags before the colon or the parenthesis that ends them: induction on the run over them. -/
private theorem flagList_alike {state : FlagState} {flags' : Flags}
    (read : flagList state (a.inside 0 t) = .ok (flags', e)) (before : t.length < e.rest.length)
    (t' : List Char) :
    ∃ b : Cursor, e = b.inside 0 t ∧ flagList state (a.inside 0 t') = .ok (flags', b.inside 0 t') := by
  obtain ⟨c, rest, next⟩ := cons_of_reaches (reaches_flagList read) before
  generalize isPlace : a.inside 0 t = place at read
  fun_induction flagList state place generalizing a c rest with
  | case1 => cases read
  | case2 => cases read
  | case3 state place d others next' ends complete =>
    subst isPlace
    cases read
    cases (rest_inside_of_cons next).symm.trans next'
    refine ⟨a, rfl, ?_⟩
    rw [flagList_more state (rest_inside_of_cons next), if_pos ends, if_neg complete]
  | case4 => cases read
  | case5 state place d others next' going state' stepped ih =>
    subst isPlace
    cases (rest_inside_of_cons next).symm.trans next'
    rw [skip_inside_of_cons next] at read ih
    obtain ⟨f, others, following⟩ := cons_of_reaches (reaches_flagList read) before
    obtain ⟨b, rfl, again⟩ := ih f others following rfl read
    refine ⟨b, rfl, ?_⟩
    rw [flagList_more state (rest_inside_of_cons next), if_neg going, flagStep_of_flagStep stepped,
      skip_inside_of_cons next]
    exact again

/-- In front of more than `t` stands what ends the flags of a prefix. -/
private theorem farther_of_flags {here stop : Cursor} {flags' : Flags}
    (isFlags : flagList { flags } here = .ok (flags', stop))
    (found : stop.rest.head? = some ')' ∧ stop.offset ≠ here.offset ∧ kind = .directive flags' ∧ e = stop ∨
      stop.rest.head? ≠ some ')' ∧ kind = .flagged flags' ∧ e = stop.skip)
    (before : t.length ≤ e.rest.length)
    (past : ∀ flags', kind = .directive flags' → t.length < e.rest.length) :
    t.length < stop.rest.length := by
  obtain ⟨d, others, atStop, -⟩ := stop_of_flagList isFlags
  rcases found with ⟨-, -, isDirective, rfl⟩ | ⟨-, -, rfl⟩
  · exact past flags' isDirective
  · exact Nat.lt_of_le_of_lt before (Cursor.length_skip_lt atStop)

private theorem readFlags_alike (read : readFlags flags start (a.inside 0 t) = .ok (kind, e))
    (before : t.length ≤ e.rest.length) (past : ∀ flags', kind = .directive flags' → t.length < e.rest.length)
    (start' : Cursor) (t' : List Char) :
    ∃ b : Cursor, e = b.inside 0 t ∧ readFlags flags start' (a.inside 0 t') = .ok (kind, b.inside 0 t') := by
  obtain ⟨flags', stop, isFlags, found⟩ := readFlags_eq_ok.mp read
  have farther := farther_of_flags isFlags found before past
  obtain ⟨b, rfl, again⟩ := flagList_alike isFlags farther t'
  obtain ⟨d, others, atStop⟩ := cons_of_reaches (Cursor.Reaches.refl (b.inside 0 t)) farther
  rw [rest_inside_of_cons atStop, List.head?_cons, skip_inside_of_cons atStop] at found
  rcases found with ⟨isClose, some, rfl, rfl⟩ | ⟨isOpen, rfl, rfl⟩
  · refine ⟨b, rfl, readFlags_eq_ok.mpr ⟨flags', _, again, .inl ⟨?_, some, rfl, rfl⟩⟩⟩
    rw [rest_inside_of_cons atStop]
    exact isClose
  · refine ⟨b.skip, rfl, readFlags_eq_ok.mpr
      ⟨flags', _, again, .inr ⟨?_, rfl, (skip_inside_of_cons atStop).symm⟩⟩⟩
    rw [rest_inside_of_cons atStop]
    exact isOpen

/-- Behind one character alone, the flags of a prefix are none. -/
private theorem colon_of_flags {d : Char} (single : a.rest = [d])
    (read : readFlags flags start (a.inside 0 t) = .ok (kind, e)) (before : t.length ≤ e.rest.length)
    (past : ∀ flags', kind = .directive flags' → t.length < e.rest.length) :
    d = ':' ∧ kind = .flagged flags ∧ e = a.skip.inside 0 t := by
  obtain ⟨flags', stop, isFlags, found⟩ := readFlags_eq_ok.mp read
  have farther := farther_of_flags isFlags found before past
  rw [flagList_more _ (rest_inside_of_cons single)] at isFlags
  split at isFlags
  · rename_i ends
    cases isFlags
    rw [rest_inside_of_cons single, List.head?_cons, skip_inside_of_cons single] at found
    rcases found with ⟨-, moved, -⟩ | ⟨notClose, rfl, rfl⟩
    · exact absurd rfl moved
    · exact ⟨ends.resolve_right fun isClose => notClose (by rw [isClose]), rfl, rfl⟩
  · split at isFlags
    · cases isFlags
    · have shorter := (reaches_flagList isFlags).length_le
      rw [skip_inside_of_cons single, Cursor.rest_inside, Cursor.rest_skip, single] at shorter
      exact absurd farther (Nat.not_lt.mpr shorter)

/-- Whether one of some short marks comes next is settled in front of `t`. -/
private theorem marks_inside {marks : List (List Char)} {n : Nat} (long : n ≤ a.rest.length)
    (brief : ∀ mark ∈ marks, mark.length ≤ n) (more : List Char) :
    marks.findSome? (a.inside 0 more).afterText? = (marks.findSome? a.afterText?).map (Cursor.inside 0 more) := by
  induction marks with
  | nil => rfl
  | cons mark marks ih =>
    have short := Nat.le_trans (brief mark List.mem_cons_self) long
    have same : (a.inside 0 more).afterText? mark = (a.afterText? mark).map (Cursor.inside 0 more) := by
      unfold Cursor.afterText?
      have settled : mark.isPrefixOf (a.inside 0 more).rest = mark.isPrefixOf a.rest := by
        rw [Bool.eq_iff_iff, List.isPrefixOf_iff_prefix, List.isPrefixOf_iff_prefix, Cursor.rest_inside]
        exact ⟨fun front => List.prefix_of_prefix_length_le front (List.prefix_append _ _) short,
          fun front => front.trans (List.prefix_append _ _)⟩
      rw [settled, Cursor.skipMany_inside (.inl short)]
      split <;> rfl
    rw [List.findSome?_cons, List.findSome?_cons, same,
      ih fun other member => brief other (List.mem_cons_of_mem _ member)]
    cases a.afterText? mark <;> rfl

private theorem behind_nameOpening {nameStart : Cursor} (found : nameOpening? a = some nameStart) :
    (a.skipMany 2).Reaches nameStart := by
  obtain ⟨mark, listed, isFound⟩ := List.exists_of_findSome?_eq_some found
  obtain ⟨-, rfl⟩ := Cursor.afterText_eq_some.mp isFound
  obtain rfl | rfl : mark = ['?', 'P', '<'] ∨ mark = ['?', '<'] := by simpa using listed
  · exact ⟨1, rfl⟩
  · exact Cursor.Reaches.refl _

private theorem length_lt_of_name {found : String} (read : name data taken start = .ok (found, e)) :
    e.rest.length < start.rest.length := by
  obtain ⟨-, -, rest, spelled, rfl⟩ := name_eq_ok.mp read
  have stops : (start.skipMany found.toList.length).rest = '>' :: rest := by
    rw [Cursor.rest_skipMany, spelled, List.drop_left]
  exact Nat.lt_of_lt_of_le (Cursor.length_skip_lt stops) (Cursor.reaches_skipMany _ _).length_le

/-- A prefix that begins with a question mark ends behind another character at least. -/
private theorem behind_question (isQuestion : start.skip.rest.head? = some '?')
    (read' : read data flags taken start = .ok (kind, e)) : start.skip.skip.Reaches e := by
  obtain ⟨-, ⟨nameStart, found, isOpening, isName, -⟩ | ⟨-, ⟨-, isFlags⟩ | ⟨noQuestion, -⟩⟩⟩ :=
    read_eq_ok.mp read'
  · exact (Cursor.reaches_skip _).trans ((behind_nameOpening isOpening).trans (reaches_name isName))
  · exact reaches_readFlags isFlags
  · exact absurd isQuestion noQuestion

/-- Fewer characters in front of `t` than a look-around or a name needs: the group has no number. -/
private theorem read_alike_of_few (next : a.rest = '(' :: rest) {more : List Char}
    (following : a.skip.rest = '?' :: more) (few : a.skip.rest.length < 3)
    (read' : read data flags taken (a.inside 0 t) = .ok (kind, e)) (before : t.length ≤ e.rest.length)
    (past : ∀ flags', kind = .directive flags' → t.length < e.rest.length) (t' : List Char) :
    ∃ b : Cursor, e = b.inside 0 t ∧ read data flags taken (a.inside 0 t') = .ok (kind, b.inside 0 t') := by
  have brief : ((a.skip.inside 0 t).skipMany 2).rest.length ≤ t.length := by
    rw [Cursor.rest_skipMany, Cursor.rest_inside, List.length_drop, List.length_append]
    omega
  have isQuestion : (a.skip.inside 0 t).rest.head? = some '?' := by rw [rest_inside_of_cons following]; rfl
  have found := (read_eq_ok.mp read').2
  rw [skip_inside_of_cons next, skip_inside_of_cons following] at found
  obtain ⟨nameStart, text, isOpening, isName, -⟩ | ⟨-, ⟨-, isRead⟩ | ⟨noQuestion, -⟩⟩ := found
  · have shorter := (behind_nameOpening isOpening).length_le
    have further := length_lt_of_name isName
    omega
  · rw [Cursor.rest_skip, next, List.tail_cons] at following
    subst following
    obtain ⟨d, single⟩ : ∃ d, a.skip.skip.rest = [d] := by
      obtain ⟨flags', stop, isFlags, found⟩ := readFlags_eq_ok.mp isRead
      have farther := farther_of_flags isFlags found before past
      obtain ⟨d, others, next'⟩ := cons_of_reaches (reaches_flagList isFlags) farther
      refine ⟨d, ?_⟩
      have few : a.skip.skip.rest.length ≤ 1 := by
        rw [Cursor.rest_skip, List.length_tail]
        omega
      rw [next', List.length_cons] at few
      rw [next', List.eq_nil_of_length_eq_zero (by omega : others.length = 0)]
    obtain ⟨rfl, rfl, rfl⟩ := colon_of_flags single isRead before past
    obtain rfl : more = [':'] := by
      rw [Cursor.rest_skip, Cursor.rest_skip, next] at single
      exact single
    refine ⟨a.skip.skip.skip, rfl, ?_⟩
    rw [read_flagged (rest_inside_of_cons next)]
    have third : (a.inside 0 t').skipMany 3 = a.skip.skip.skip.inside 0 t' := by
      rw [Cursor.skipMany_inside (.inl (by rw [next]; exact Nat.le_refl 3))]
      rfl
    rw [third]
  · exact absurd isQuestion noQuestion

/-- **The prefix of a group.** Where it only sets flags, its parenthesis stands in front of `t` too. -/
theorem read_alike (notEmpty : t ≠ []) (plain : t'.head? ≠ some '?') (next : a.rest = '(' :: rest)
    (read' : read data flags taken (a.inside 0 t) = .ok (kind, e)) (before : t.length ≤ e.rest.length)
    (past : ∀ flags', kind = .directive flags' → t.length < e.rest.length) :
    ∃ b : Cursor, e = b.inside 0 t ∧ read data flags taken (a.inside 0 t') = .ok (kind, b.inside 0 t') := by
  by_cases isQuestion : (a.inside 0 t).skip.rest.head? = some '?'
  · have toEnd := behind_question isQuestion read'
    rw [skip_inside_of_cons next] at toEnd isQuestion
    obtain ⟨d, more, following⟩ := cons_of_skip notEmpty (Nat.le_trans before toEnd.length_le)
    obtain rfl : d = '?' := by
      rw [rest_inside_of_cons following] at isQuestion
      exact Option.some.inj isQuestion
    have isQuestion' : (a.skip.inside 0 t').rest.head? = some '?' := by rw [rest_inside_of_cons following]; rfl
    by_cases long : 3 ≤ a.skip.rest.length
    · have look (text : List Char) : lookAround? (a.skip.inside 0 text) =
          (lookAround? a.skip).map (Cursor.inside 0 text) := marks_inside long (by decide) text
      have opening (text : List Char) : nameOpening? (a.skip.inside 0 text) =
          (nameOpening? a.skip).map (Cursor.inside 0 text) := marks_inside long (by decide) text
      have found := read_eq_ok.mp read'
      simp only [read_eq_ok, skip_inside_of_cons next, look, opening, skip_inside_of_cons following,
        Option.map_eq_none_iff, Option.map_eq_some_iff] at found ⊢
      obtain ⟨noLook, ⟨_, text, ⟨nameStart, isOpening, rfl⟩, isName, rfl⟩ |
        ⟨unnamed, ⟨-, isFlags⟩ | ⟨noQuestion, -⟩⟩⟩ := found
      · obtain ⟨b, place, again⟩ := name_alike isName before t'
        exact ⟨b, place, noLook, .inl ⟨_, text, ⟨nameStart, isOpening, rfl⟩, again, rfl⟩⟩
      · obtain ⟨b, place, again⟩ := readFlags_alike isFlags before past _ t'
        exact ⟨b, place, noLook, .inr ⟨unnamed, .inl ⟨isQuestion', again⟩⟩⟩
      · exact absurd isQuestion noQuestion
    · exact read_alike_of_few next following (Nat.not_le.mp long) read' before past t'
  · rw [read_unnamed (rest_inside_of_cons next)] at read'
    · cases read'
      refine ⟨a.skip, skip_inside_of_cons next, ?_⟩
      rw [read_unnamed (rest_inside_of_cons next), skip_inside_of_cons next]
      cases rest with
      | nil => exact plain
      | cons d rest =>
        rw [Cursor.rest_skip, rest_inside_of_cons next] at isQuestion
        exact isQuestion
    · rw [Cursor.rest_skip, rest_inside_of_cons next] at isQuestion
      exact isQuestion

end GroupPrefix

end PatternForge
