import PatternForge.Proofs.Descent.Escapes

/-!
Bracketed classes, read by moving registers. A named class inside a class is tried out, and where there is
none the registers go back to its bracket; every reading of the current character comes behind a move that
found one (`bracketed_at`).
-/
namespace PatternForge.Descent

open Escape (Context)
open ClassSet (Item asItem asRange addItem isSetOperator posixRanges?)

variable (input : Input)

/-- Takes over an answer that refuses. -/
def refuse {α : Type} (found : Except Failure α) : Act α :=
  match found with
  | .ok value => pure value
  | .error failure => fail failure

/-- Goes on to the next colon. -/
def skipToColon : Nat → Act Unit
  | 0 => fault .endless
  | rounds + 1 => do
    if (← current) ≠ ':' then
      if ← bump input.text then skipToColon rounds else pure ()
    else pure ()

/-- The class that a table has for the name that stands here, up to the closing bracket. -/
def tabledClass? (negated : Bool) : Act (Option CharSet) := do
  let nameStart ← offset
  skipToColon input input.rounds
  if ← isDone input.text then pure none
  else
    let name ← slice input.text nameStart (← offset)
    if ← bumpIf input.text [':', ']'] then
      match posixRanges? name with
      | none => pure none
      | some table =>
        let set ← check (tableSet input.settings.domain table)
        pure (some (if negated then set.complement else set))
    else pure none

/-- A named class from behind its bracket, if there is one. -/
def namedClass? : Act (Option CharSet) := do
  if ← bump input.text then
    if (← current) = ':' then
      if ← bump input.text then
        let negated := (← current) == '^'
        if ← (if negated then bump input.text else pure true) then tabledClass? input negated
        else pure none
      else pure none
    else pure none
  else pure none

/-- A named class, if one stands here; otherwise the registers go back. -/
def posix? : Act (Option CharSet) := do
  let c ← current
  if c = '[' then
    let before ← get
    match ← namedClass? input with
    | some set => pure (some set)
    | none =>
      modify fun r => { r with pos := before.pos, char := before.char }
      pure none
  else fault (.unexpected c)

/-- A character or an escape sequence inside a class. -/
def primitive : Act Pattern := do
  let start ← offset
  let c ← current
  discard (bump input.text)
  if c = '\\' then escape input start else pure (.literal c.toString)

/-- The next item, a single one or a range. -/
def classItem (start : Nat) : Act Item := do
  let itemStart ← offset
  let first ← primitive input
  if ← isDone input.text then fail (.malformed start .classUnclosedAfterItem)
  else if (← current) ≠ '-' then refuse (asItem itemStart first)
  else
    let next ← peek input.text
    if next = some ']' ∨ next = some '-' then refuse (asItem itemStart first)
    else if ← bump input.text then
      let second ← primitive input
      refuse (asRange itemStart first second)
    else fail (.malformed start .classUnclosedAfterDash)

/-- The class of some items. -/
def buildClass (start : Nat) (items : List Item) (negated : Bool) : Act Pattern := do
  match items.foldlM addItem (CharSet.builder input.settings.domain) with
  | .error _ => unsupported input.text start
  | .ok set =>
    if (← flags).ignoreCase then
      let set ← check (input.caseFold set)
      classLeaf input start set negated
    else classLeaf input start set negated

/-- The items up to the closing bracket, and the class of them. `found` holds the items so far, latest
first. -/
def classItems (start : Nat) (negated : Bool) (found : List Item) : Nat → Act Pattern
  | 0 => fault .endless
  | rounds + 1 => do
    if ← isDone input.text then fail (.malformed start .classUnclosed)
    else
      let c ← current
      if c = '[' then
        match ← posix? input with
        | some set => classItems start negated (.set set :: found) rounds
        | none =>
          discard (bump input.text)
          let first ← distance 1 (← offset)
          unsupported input.text first
      else if c = ']' then
        discard (bump input.text)
        buildClass input start found.reverse negated
      else if isSetOperator c then
        if (← peek input.text) = some c then
          let first ← offset
          discard (bump input.text)
          discard (bump input.text)
          unsupported input.text first
        else
          let item ← classItem input start
          classItems start negated (item :: found) rounds
      else
        let item ← classItem input start
        classItems start negated (item :: found) rounds

/-- The hyphens that open a class and stand for themselves, put behind other items. -/
def hyphens (start : Nat) (found : List Item) : Nat → Act (List Item)
  | 0 => fault .endless
  | rounds + 1 => do
    if (← current) = '-' then
      if ← bump input.text then hyphens start (.range '-' '-' :: found) rounds
      else fail (.malformed start .classUnclosedAfterDash)
    else pure found

/-- The sign of negation, if there is one. -/
def negation (start : Nat) : Act Bool := do
  if (← current) = '^' then
    if ← bump input.text then pure true else fail (.malformed start .classUnclosedAfterNegation)
  else pure false

/-- What a class allows or forbids, from behind the sign of negation. A closing bracket that comes first
stands for itself. -/
def classBody (start : Nat) (negated : Bool) : Act Pattern := do
  let found ← hyphens input start [] input.rounds
  if found.isEmpty then
    if (← current) = ']' then
      if ← bump input.text then classItems input start negated [.range ']' ']'] input.rounds
      else fail (.malformed start .classUnclosedAfterBracket)
    else classItems input start negated found input.rounds
  else classItems input start negated found input.rounds

/-- Reads a bracketed class. The place is at its opening bracket. -/
def bracketed : Act Pattern := do
  let c ← current
  if c = '[' then
    let start ← offset
    if ← bump input.text then
      let negated ← negation input start
      classBody input start negated
    else fail (.malformed start .classUnclosed)
  else fault (.unexpected c)

/-! ### Classes are read as on cursors -/

variable {input} {r : Registers} {ctx : Context} {start here : Cursor}

theorem skipToColon_at (within : here.Within input.text) {c : Char} {rest : List Char}
    (next : here.rest = c :: rest) {rounds : Nat} (enough : here.rest.length < rounds) :
    skipToColon input rounds (r.at here) = .ok ((), r.at (here.skipWhile (· ≠ ':'))) := by
  induction rounds, here, enough using Cursor.induct_rounds generalizing c rest with
  | atEnd rounds here none => simp [none] at next
  | more rounds here _ _ _ _ _ ih =>
    rw [skipToColon]
    by_cases isColon : c = ':'
    · rw [Cursor.skipWhile_of_not next (by simp [isColon])]
      simp [current_at next, isColon]
    · rw [Cursor.skipWhile_of_holds next (by simp [isColon])]
      simp only [bind_apply, current_at next, andThen_ok, ne_eq, isColon, not_false_eq_true,
        ↓reduceIte, bump_at within]
      cases next' : here.skip.rest with
      | nil =>
        rw [Cursor.rest_of_atEnd.mpr next', Cursor.skipWhile_of_atEnd next']
        rfl
      | cons c' rest' =>
        rw [Cursor.atEnd_of_cons next']
        exact ih within.skip next'

private theorem afterText_cons (c : Char) (chars : List Char) :
    here.afterText? (c :: chars) =
      if here.rest.head? = some c then here.skip.afterText? chars else none := by
  unfold Cursor.afterText?
  cases next : here.rest with
  | nil => rfl
  | cons c' rest =>
    have next' : here.skip.rest = rest := by rw [Cursor.rest_skip, next, List.tail_cons]
    rw [next']
    by_cases same : c' = c
    · subst same
      simp [List.isPrefixOf, Cursor.skipMany]
    · simp [List.isPrefixOf, same, Ne.symm same]

private theorem afterText_nil : here.afterText? [] = some here := by
  simp [Cursor.afterText?, Cursor.skipMany]

/-- The outcome of trying out a class that may be there; where it is not, the registers are left at some
place. -/
private def Tries (r : Registers) (outcome : Outcome (Option CharSet))
    (found : Option (CharSet × Cursor)) : Prop :=
  match found with
  | some (set, after) => outcome = .ok (some set, r.at after)
  | none => ∃ place, outcome = .ok (none, r.at place)

/-- The class for a name that starts at a place. -/
private def tabled? (ctx : Context) (negated : Bool) (nameStart : Cursor) :
    Option (CharSet × Cursor) :=
  let nameEnd := nameStart.skipWhile (· ≠ ':')
  match nameEnd.afterText? [':', ']'], posixRanges? (nameStart.textTo nameEnd) with
  | some after, some ranges =>
    let set := ClassSet.setOfRanges ctx.settings ranges
    some (if negated then set.complement else set, after)
  | _, _ => none

private theorem tabled_atEnd (negated : Bool) (none : here.rest = []) :
    tabled? ctx negated here = Option.none := by
  simp [tabled?, Cursor.skipWhile_of_atEnd none, afterText_cons, none]

private theorem tries_tabledClass (settings : ctx.settings = input.settings)
    (within : here.Within input.text) {c : Char} {rest : List Char} (next : here.rest = c :: rest)
    (negated : Bool) :
    Tries r (tabledClass? input negated (r.at here)) (tabled? ctx negated here) := by
  have moved := Cursor.reaches_skipWhile (· ≠ ':') here
  simp only [tabledClass?, tabled?, bind_apply, offset_at, andThen_ok,
    skipToColon_at within next (input.enough_at within)]
  generalize here.skipWhile (· ≠ ':') = nameEnd at moved ⊢
  have atName := within.on moved
  simp only [isDone_at atName, andThen_ok]
  cases next' : nameEnd.rest with
  | nil =>
    rw [Cursor.rest_of_atEnd.mpr next', afterText_cons, next']
    exact ⟨nameEnd, rfl⟩
  | cons c' rest' =>
    simp only [Cursor.atEnd_of_cons next', Bool.false_eq_true, ↓reduceIte, bind_apply, offset_at,
      andThen_ok, slice_at within moved, bumpIf_at atName]
    cases nameEnd.afterText? [':', ']'] with
    | none => exact ⟨nameEnd, rfl⟩
    | some after =>
      simp only [andThen_ok, ↓reduceIte]
      cases known : posixRanges? (here.textTo nameEnd) with
      | none => exact ⟨after, rfl⟩
      | some table =>
        simp only [tableSet_eq _ (posixRanges_low known), check_ok, pure_bind, pure_apply,
          ClassSet.setOfRanges, settings, Tries]

private theorem tries_namedClass (settings : ctx.settings = input.settings)
    (within : here.Within input.text) {rest : List Char} (next : here.rest = '[' :: rest) :
    Tries r (namedClass? input (r.at here)) (ClassSet.posix? ctx here) := by
  have whole : ClassSet.posix? ctx here =
      (here.afterText? ['[', ':']).bind fun opened =>
        tabled? ctx (opened.rest.head? = some '^')
          (if opened.rest.head? = some '^' then opened.skip else opened) := by
    unfold ClassSet.posix? tabled?
    cases here.afterText? ['[', ':'] with
    | none => rfl
    | some opened =>
      simp only [decide_eq_true_eq]
      rfl
  rw [whole]
  have within' := within.skip
  have within'' := within'.skip
  simp only [namedClass?, bind_apply, bump_at within, andThen_ok, afterText_cons, afterText_nil, next,
    List.head?_cons, ↓reduceIte]
  cases second : here.skip.rest with
  | nil =>
    rw [Cursor.rest_of_atEnd.mpr second]
    exact ⟨here.skip, rfl⟩
  | cons c' rest' =>
    simp only [Cursor.atEnd_of_cons second, Bool.not_false, ↓reduceIte, bind_apply,
      current_at second, andThen_ok, List.head?_cons, Option.some.injEq]
    by_cases isColon : c' = ':'
    · simp only [isColon, ↓reduceIte, bind_apply, bump_at within', andThen_ok, Option.bind_some]
      cases third : here.skip.skip.rest with
      | nil =>
        rw [Cursor.rest_of_atEnd.mpr third]
        simp only [List.head?_nil, reduceCtorEq, ↓reduceIte, decide_false, tabled_atEnd false third]
        exact ⟨here.skip.skip, rfl⟩
      | cons name rest'' =>
        simp only [Cursor.atEnd_of_cons third, Bool.not_false, ↓reduceIte, bind_apply,
          current_at third, andThen_ok, List.head?_cons, Option.some.injEq, beq_iff_eq]
        by_cases isCaret : name = '^'
        · simp only [isCaret, ↓reduceIte, bump_at within'', andThen_ok, decide_true]
          cases fourth : here.skip.skip.skip.rest with
          | nil =>
            rw [Cursor.rest_of_atEnd.mpr fourth, tabled_atEnd true fourth]
            exact ⟨here.skip.skip.skip, rfl⟩
          | cons name' rest''' =>
            simp only [Cursor.atEnd_of_cons fourth, Bool.not_false, ↓reduceIte, beq_self_eq_true]
            exact tries_tabledClass settings within''.skip fourth true
        · simp only [isCaret, ↓reduceIte, decide_false, pure_apply, andThen_ok,
            beq_eq_false_iff_ne.mpr isCaret]
          exact tries_tabledClass settings within'' third false
    · simp only [isColon, ↓reduceIte]
      exact ⟨here.skip, rfl⟩

theorem posix_at (settings : ctx.settings = input.settings) (within : here.Within input.text)
    {rest : List Char} (next : here.rest = '[' :: rest) :
    posix? input (r.at here) =
      match ClassSet.posix? ctx here with
      | some (set, after) => .ok (some set, r.at after)
      | none => .ok (none, r.at here) := by
  have tries := tries_namedClass (r := r) settings within next
  simp only [posix?, bind_apply, current_at next, andThen_ok, ↓reduceIte, get_apply]
  cases isClass : ClassSet.posix? ctx here with
  | none =>
    rw [isClass] at tries
    obtain ⟨place, tried⟩ := tries
    rw [tried]
    rfl
  | some found =>
    rw [isClass] at tries
    rw [show namedClass? input (r.at here) = _ from tries]
    rfl

theorem primitive_at (fits : r.Fits input ctx) (within : here.Within input.text) {c : Char}
    {rest : List Char} (next : here.rest = c :: rest) :
    primitive input (r.at here) = answer r (ClassSet.primitive ctx here) := by
  have span : Span input.text here here.skip := ⟨within, Cursor.reaches_skip here⟩
  simp only [primitive, bind_apply, offset_at, andThen_ok, current_at next, discard_apply,
    bump_at within, pure_apply, ite_act]
  generalize isRead : ClassSet.primitive ctx here = found
  unfold ClassSet.primitive at isRead
  rw [next] at isRead
  by_cases escaped : c = '\\'
  · subst escaped
    subst isRead
    exact escape_at fits span
  · rw [if_neg escaped]
    split at isRead
    · contradiction
    · rename_i same
      exact absurd (List.cons.inj same).1 escaped
    · subst isRead
      simp_all

@[simp] theorem refuse_at {α : Type} (found : Except Failure α) :
    refuse found (r.at here) = answer r ((fun value => (value, here)) <$> found) := by
  cases found <;> rfl

theorem classItem_at (fits : r.Fits input ctx) (within : here.Within input.text) {c : Char}
    {rest : List Char} (next : here.rest = c :: rest) :
    classItem input start.offset (r.at here) = answer r (ClassSet.item ctx start here) := by
  simp only [classItem, ClassSet.item, bind_apply, offset_at, andThen_ok,
    primitive_at fits within next]
  cases isFirst : ClassSet.primitive ctx here with
  | error failure => rfl
  | ok found =>
    obtain ⟨first, after⟩ := found
    have place : after.Within input.text :=
      within.skip.on (ClassSet.reaches_primitive isFirst)
    simp only [answer_ok, andThen_ok, bind_apply, isDone_at place, ite_act]
    cases next' : after.rest with
    | nil => simp [Cursor.rest_of_atEnd.mpr next']
    | cons c' rest' =>
      have rest_skip : after.skip.rest = rest' := by rw [Cursor.rest_skip, next', List.tail_cons]
      simp only [Cursor.atEnd_of_cons next', Bool.false_eq_true, ↓reduceIte, current_at next',
        andThen_ok, ite_act, bind_apply, peek_at place, refuse_at]
      by_cases isHyphen : c' = '-'
      · subst isHyphen
        simp only [ne_eq, not_true_eq_false, ↓reduceIte, rest_skip, andThen_ok, bump_at place]
        cases rest' with
        | nil => simp [Cursor.rest_of_atEnd.mpr rest_skip]
        | cons c'' rest'' =>
          simp only [List.head?_cons, Option.some.injEq, Cursor.atEnd_of_cons rest_skip, Bool.not_false,
            ↓reduceIte, bind_apply, primitive_at fits place.skip rest_skip]
          split
          · rfl
          · cases isSecond : ClassSet.primitive ctx after.skip with
            | error failure => rfl
            | ok found => exact refuse_at _
      · simp only [ne_eq, isHyphen, not_false_eq_true, ↓reduceIte]
        split
        · contradiction
        · rename_i same
          exact absurd (List.cons.inj same).1 isHyphen
        · rename_i same
          exact absurd (List.cons.inj same).1 isHyphen
        · rfl

theorem buildClass_at (fits : r.Fits input ctx) (span : Span input.text start here)
    (items : List Item) (negated : Bool) :
    buildClass input start.offset items negated (r.at here) =
      answer r ((fun leaf => (leaf, here)) <$> ClassSet.build ctx start here negated items) := by
  simp only [buildClass, ClassSet.build, fits.settings]
  cases items.foldlM addItem (CharSet.builder input.settings.domain) with
  | error failure =>
    simp only [unsupported_at span.within span.reaches]
    rfl
  | ok set =>
    have leaf (set : CharSet) : classLeaf input start.offset set negated (r.at here) =
        answer r ((fun leaf => (leaf, here)) <$> Settings.classPattern start here set negated) := by
      rw [classLeaf_at span]
      cases Settings.classPattern start here set negated <;> rfl
    simp only [bind_apply, flags_at, andThen_ok, ite_act, caseFold_eq, check_ok, pure_bind, leaf,
      ← fits.flags]
    split <;> rfl

private theorem classItems_item (within : here.Within input.text) {c : Char} {rest : List Char}
    (next : here.rest = c :: rest) (notOpen : c ≠ '[') (notClose : c ≠ ']')
    (notOperator : ¬(isSetOperator c ∧ rest.head? = some c)) {negated : Bool} {found : List Item}
    {rounds : Nat} :
    classItems input start.offset negated found (rounds + 1) (r.at here) =
      andThen (classItem input start.offset (r.at here)) fun item =>
        classItems input start.offset negated (item :: found) rounds := by
  rw [classItems]
  have next' : here.skip.rest = rest := by rw [Cursor.rest_skip, next, List.tail_cons]
  simp only [bind_apply, isDone_at within, Cursor.atEnd_of_cons next, andThen_ok, ite_act,
    Bool.false_eq_true, ↓reduceIte, current_at next, notOpen, notClose, peek_at within, next']
  split
  · rename_i isOperator
    rw [if_neg (fun twice => notOperator ⟨isOperator, twice⟩)]
  · rfl

/-- The items of a class are read as on cursors. -/
theorem classItems_at (fits : r.Fits input ctx) (span : Span input.text start here) (negated : Bool)
    (found : List Item) {rounds : Nat} (enough : here.rest.length < rounds) :
    classItems input start.offset negated found rounds (r.at here) =
      answer r (ClassSet.readItems ctx start negated here found) := by
  obtain ⟨rounds, rfl⟩ := Nat.exists_eq_add_one_of_ne_zero (Nat.ne_zero_of_lt enough)
  fun_induction ClassSet.readItems ctx start negated here found generalizing rounds with
  | case1 here found none =>
    rw [classItems]
    simp [isDone_at span.place, Cursor.rest_of_atEnd.mpr none]
  | case2 here found rest set after nested next ih =>
    rw [classItems]
    simp only [bind_apply, isDone_at span.place, Cursor.atEnd_of_cons next, andThen_ok,
      Bool.false_eq_true, ↓reduceIte, current_at next, posix_at fits.settings span.place next, nested]
    have moved := ClassSet.reaches_posix nested
    have further := Nat.lt_of_lt_of_le (Cursor.Reaches.length_lt next moved) (Nat.le_of_lt_succ enough)
    obtain ⟨rounds, rfl⟩ := Nat.exists_eq_add_one_of_ne_zero (Nat.ne_zero_of_lt further)
    exact ih (span.skip.on moved) rounds further
  | case3 here found rest none next =>
    rw [classItems]
    have one : here.skip.offset = here.offset + 1 := (skip_offset next).symm
    simp only [bind_apply, isDone_at span.place, Cursor.atEnd_of_cons next, andThen_ok,
      Bool.false_eq_true, ↓reduceIte, current_at next, posix_at fits.settings span.place next, none,
      discard_apply, bump_at span.place, pure_apply, offset_at, distance, one, Nat.le_add_left,
      Nat.add_sub_cancel, unsupported_at span.place (Cursor.reaches_skip here)]
    rfl
  | case4 here found rest next notOpen =>
    rw [classItems]
    simp only [bind_apply, isDone_at span.place, Cursor.atEnd_of_cons next, andThen_ok,
      Bool.false_eq_true, ↓reduceIte, current_at next, notOpen, discard_apply, bump_at span.place,
      pure_apply, buildClass_at fits span.skip]
  | case5 here found c rest next notOpen notClose twice =>
    rw [classItems]
    have next' : here.skip.rest.head? = some c := by
      rw [Cursor.rest_skip, next, List.tail_cons, twice.2]
    simp only [bind_apply, isDone_at span.place, Cursor.atEnd_of_cons next, andThen_ok,
      Bool.false_eq_true, ↓reduceIte, current_at next, notOpen, notClose, twice.1, peek_at span.place,
      next', offset_at, discard_apply, bump_at span.place, bump_at span.skip.place, pure_apply,
      unsupported_at span.place ((Cursor.reaches_skip here).trans (Cursor.reaches_skip here.skip))]
    rfl
  | case6 here found c rest next notOpen notClose notOperator failure refused =>
    rw [classItems_item span.place next notOpen notClose notOperator,
      classItem_at fits span.place next, refused]
    rfl
  | case7 here found c rest next notOpen notClose notOperator one after single ih =>
    rw [classItems_item span.place next notOpen notClose notOperator,
      classItem_at fits span.place next, single]
    have moved := ClassSet.reaches_item single
    have further := Nat.lt_of_lt_of_le (Cursor.Reaches.length_lt next moved) (Nat.le_of_lt_succ enough)
    obtain ⟨rounds, rfl⟩ := Nat.exists_eq_add_one_of_ne_zero (Nat.ne_zero_of_lt further)
    exact ih (span.skip.on moved) rounds further

/-- The hyphens at a place, unless they are all that is left. -/
theorem hyphens_at (within : here.Within input.text) {c : Char} {rest : List Char}
    (next : here.rest = c :: rest) (found : List Item) {rounds : Nat}
    (enough : here.rest.length < rounds) :
    let after := here.skipWhile (· = '-')
    hyphens input start.offset found rounds (r.at here) =
      if after.atEnd then .error (.failure (.malformed start.offset .classUnclosedAfterDash))
      else
        .ok
          (List.replicate (here.charsTo after).length (.range '-' '-') ++ found, r.at after) := by
  induction rounds, here, enough using Cursor.induct_rounds generalizing c rest found with
  | atEnd rounds here none => simp [none] at next
  | more rounds here _ _ _ _ _ ih =>
    rw [hyphens]
    simp only [bind_apply, current_at next, andThen_ok, ite_act]
    by_cases isHyphen : c = '-'
    · subst isHyphen
      have whole := Cursor.charsTo_skipWhile (· = '-') here
      rw [next, List.takeWhile_cons_of_pos (by simp), Cursor.skipWhile_of_holds next (by simp)] at whole
      have others := Cursor.charsTo_skipWhile (· = '-') here.skip
      rw [Cursor.rest_skip, next, List.tail_cons] at others
      rw [Cursor.skipWhile_of_holds next (by simp)]
      simp only [↓reduceIte, bump_at within, andThen_ok, ite_act]
      cases next' : here.skip.rest with
      | nil =>
        simp [Cursor.rest_of_atEnd.mpr next', Cursor.skipWhile_of_atEnd next']
      | cons c' rest' =>
        simp only [Cursor.atEnd_of_cons next', Bool.not_false, ↓reduceIte,
          ih within.skip next', whole, others, List.length_cons, List.replicate_succ',
          List.append_assoc, List.singleton_append]
    · rw [Cursor.skipWhile_of_not next (by simp [isHyphen])]
      simp [isHyphen, Cursor.atEnd_of_cons next, Cursor.charsTo]

theorem negation_at (within : here.Within input.text) {c : Char} {rest : List Char}
    (next : here.rest = c :: rest) :
    negation input start.offset (r.at here) =
      if c = '^' then
        if here.skip.atEnd then
          .error (.failure (.malformed start.offset .classUnclosedAfterNegation))
        else .ok (true, r.at here.skip)
      else .ok (false, r.at here) := by
  simp only [negation, bind_apply, current_at next, andThen_ok, ite_act, bump_at within, pure_apply,
    fail_apply]
  cases here.skip.atEnd <;> rfl

private theorem classBody_at (fits : r.Fits input ctx) (span : Span input.text start here) {c : Char}
    {rest : List Char} (next : here.rest = c :: rest) (negated : Bool) :
    classBody input start.offset negated (r.at here) =
      answer r
        (match ClassSet.readHyphens start here with
        | .error failure => .error failure
        | .ok (hyphens, after) =>
          if hyphens.isEmpty ∧ after.rest.head? = some ']' then
            if after.skip.atEnd then .error (.malformed start.offset .classUnclosedAfterBracket)
            else ClassSet.readItems ctx start negated after.skip [.range ']' ']']
          else ClassSet.readItems ctx start negated after hyphens) := by
  have moved := Cursor.reaches_skipWhile (· = '-') here
  simp only [classBody, bind_apply, hyphens_at span.place next [] (input.enough_at span.place),
    List.append_nil, ClassSet.readHyphens]
  have atEnd_iff : (here.skipWhile (· = '-')).atEnd = true ∧ here.rest.head? = some '-' ↔
      (here.skipWhile (· = '-')).atEnd = true := by
    refine ⟨And.left, fun ended => ⟨ended, ?_⟩⟩
    by_cases isHyphen : c = '-'
    · rw [next, isHyphen, List.head?_cons]
    · rw [Cursor.skipWhile_of_not next (by simp [isHyphen]), Cursor.atEnd_of_cons next] at ended
      contradiction
  simp only [atEnd_iff]
  generalize List.replicate (here.charsTo (here.skipWhile (· = '-'))).length (Item.range '-' '-') = found
  generalize here.skipWhile (· = '-') = after at moved ⊢
  have spanAfter := span.on moved
  cases next' : after.rest with
  | nil =>
    simp only [Cursor.rest_of_atEnd.mpr next', ↓reduceIte]
    rfl
  | cons c' rest' =>
    simp only [Cursor.atEnd_of_cons next', Bool.false_eq_true, ↓reduceIte, andThen_ok, ite_act,
      bind_apply, current_at next', bump_at spanAfter.place, fail_apply,
      classItems_at fits spanAfter _ _ (input.enough_at spanAfter.place),
      classItems_at fits spanAfter.skip _ _ (input.enough_at spanAfter.skip.place)]
    cases found.isEmpty with
    | false => simp
    | true =>
      by_cases isClose : c' = ']'
      · cases after.skip.atEnd <;> simp [isClose, next']
      · simp [isClose, next']

/-- **A bracketed class is read as on cursors**, and no part of its reading is a fault. -/
theorem bracketed_at (fits : r.Fits input ctx) (within : start.Within input.text) {rest : List Char}
    (next : start.rest = '[' :: rest) :
    bracketed input (r.at start) = answer r (ClassSet.read ctx start) := by
  have span : Span input.text start start.skip := ⟨within, Cursor.reaches_skip start⟩
  have opened : bracketed input (r.at start) =
      if start.skip.atEnd then .error (.failure (.malformed start.offset .classUnclosed))
      else andThen (negation input start.offset (r.at start.skip)) (classBody input start.offset) := by
    simp only [bracketed, bind_apply, current_at next, andThen_ok, ↓reduceIte, offset_at,
      bump_at within, ite_act]
    cases start.skip.atEnd <;> rfl
  cases next' : start.skip.rest with
  | nil =>
    simp [opened, ClassSet.read, ClassSet.firstItem, ClassSet.isNegated,
      Cursor.rest_of_atEnd.mpr next', next', -Cursor.rest_skip]
  | cons c rest' =>
    simp only [opened, Cursor.atEnd_of_cons next', Bool.false_eq_true, ↓reduceIte,
      negation_at span.place next', ClassSet.read, ClassSet.firstItem]
    by_cases isCaret : c = '^'
    · have isNegated : ClassSet.isNegated start = true := by
        simp [ClassSet.isNegated, next', isCaret, -Cursor.rest_skip]
      simp only [isCaret, ↓reduceIte, isNegated]
      cases next'' : start.skip.skip.rest with
      | nil => simp [Cursor.rest_of_atEnd.mpr next'']
      | cons c' rest'' =>
        simp only [Cursor.atEnd_of_cons next'', Bool.false_eq_true, ↓reduceIte, andThen_ok]
        exact classBody_at fits span.skip next'' true
    · have isNegated : ClassSet.isNegated start = false := by
        simp [ClassSet.isNegated, next', isCaret, -Cursor.rest_skip]
      simp only [isCaret, ↓reduceIte, isNegated, Cursor.atEnd_of_cons next', Bool.false_eq_true,
        andThen_ok]
      exact classBody_at fits span next' false

end PatternForge.Descent
