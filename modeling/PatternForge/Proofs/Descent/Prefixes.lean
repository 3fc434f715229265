import PatternForge.Proofs.Descent.Escapes
import PatternForge.Reading.GroupPrefix

/-!
What may follow an opening parenthesis, read by moving registers. The table of flags has an entry for
each flag that there is, a group name stops at its closing angle, and behind the flags stands one of the
two characters that end them (`opening_at`).
-/
namespace PatternForge.Descent

variable (input : Input)

/-- Goes on behind the first of some texts that comes next, and says whether one does. -/
def firstOf : List (List Char) → Act Bool
  | [] => pure false
  | chars :: others => do
    if ← bumpIf input.text chars then pure true else firstOf others

/-- The number of the next group. -/
def nextIndex : Act Nat := do
  let r ← get
  if fits (r.count + 1) then
    modify fun r => { r with count := r.count + 1, closed := r.closed ++ [false] }
    pure (r.count + 1)
  else throw (.tooManyGroups r.pos)

/-- Takes down a group name, which has to be new. -/
def addName (start : Nat) (name : String) : Act Unit := do
  if (← get).names.contains name then fail (.malformed start .duplicateGroupName)
  else modify fun r => { r with names := name :: r.names }

/-- Goes on to the end of a group name that starts at an offset. -/
def skipName (start : Nat) : Nat → Act Unit
  | 0 => fault .endless
  | rounds + 1 => do
    let c ← current
    if c = '>' then pure ()
    else
      let here ← offset
      if GroupPrefix.isNameChar input.settings.data (here == start) c then
        if ← bump input.text then skipName start rounds else pure ()
      else fail (.malformed here .invalidGroupName)

/-- A group name with its closing angle. -/
def groupName : Act String := do
  if ← isDone input.text then fail (.malformed (← offset) .missingGroupName)
  else
    let start ← offset
    skipName input start input.rounds
    let stop ← offset
    if ← isDone input.text then fail (.malformed start .unclosedGroupName)
    else
      let close ← current
      if close = '>' then
        discard (bump input.text)
        let name ← slice input.text start stop
        if name.isEmpty then fail (.malformed start .emptyGroupName)
        else
          addName start name
          pure name
      else fault (.unexpected close)

/-- The flags with the one at the place set or cleared. -/
def flag (flags : Flags) (on : Bool) : Act Flags := do
  let c ← current
  match GroupPrefix.applyFlag flags on c with
  | some flags => pure flags
  | none => fail (.unsupported (← offset) c.toString)

/-- Goes on to the next flag. -/
def bumpFlag : Act Unit := do
  if ← bump input.text then pure () else fail (.malformed (← offset) .unfinishedFlags)

/-- The flags up to a colon or a closing parenthesis. `seen` says for each seven-bit code whether it was
seen as a flag. -/
def flagList (flags : Flags) (negated afterSign : Bool) (seen : List Bool) : Nat → Act Flags
  | 0 => fault .endless
  | rounds + 1 => do
    let c ← current
    if c ≠ ':' ∧ c ≠ ')' then
      if c = '-' then
        if negated then fail (.malformed (← offset) .repeatedFlagNegation)
        else
          bumpFlag input
          flagList flags true true seen rounds
      else
        let flags ← flag flags !negated
        match seen[c.toNat]? with
        | none => fault (.untabledFlag c)
        | some true => fail (.malformed (← offset) .duplicateFlag)
        | some false =>
          bumpFlag input
          flagList flags negated false (seen.set c.toNat true) rounds
    else if afterSign then fail (.malformed (← offset) .danglingFlagNegation)
    else pure flags

/-- What an opening parenthesis and its prefix announce. -/
inductive Opening where
  /-- A group, with a number perhaps and then a name perhaps. -/
  | group (capture : Option (Nat × Option String))
  /-- No group. -/
  | directive

/-- Reads flags from behind the question mark, and the character that ends them. They hold from here
on. -/
def flagged (start : Nat) : Act Opening := do
  if ← isDone input.text then fail (.malformed start .unclosedGroupQuestion)
  else
    let first ← offset
    let found ← flagList input (← flags) false false (List.replicate 128 false) input.rounds
    setFlags found
    let consumed ← distance first (← offset)
    let close ← current
    if close = ')' then
      if consumed = 0 then fail (.malformed start .emptyFlags) else pure .directive
    else if close = ':' then
      discard (bump input.text)
      pure (.group none)
    else fault (.unexpected close)

/-- Reads an opening parenthesis with its prefix. Flags that the prefix has set hold from here on. -/
def opening : Act Opening := do
  let c ← current
  if c = '(' then
    let start ← offset
    discard (bump input.text)
    if ← firstOf input [['?', '='], ['?', '!'], ['?', '<', '='], ['?', '<', '!'], ['?', '>']] then
      unsupported input.text start
    else if ← firstOf input [['?', 'P', '<'], ['?', '<']] then
      let index ← nextIndex
      let name ← groupName input
      pure (.group (some (index, some name)))
    else if ← bumpIf input.text ['?'] then flagged input start
    else
      let index ← nextIndex
      pure (.group (some (index, none)))
  else fault (.unexpected c)

/-! ### Prefixes are read as on cursors -/

variable {input} {r : Registers} {start here : Cursor}

theorem firstOf_at (within : here.Within input.text) (texts : List (List Char)) :
    firstOf input texts (r.at here) =
      match texts.findSome? here.afterText? with
      | some after => .ok (true, r.at after)
      | none => .ok (false, r.at here) := by
  induction texts with
  | nil => rfl
  | cons chars others ih =>
    simp only [firstOf, bind_apply, bumpIf_at within, List.findSome?_cons]
    cases here.afterText? chars with
    | none => simp [ih]
    | some after => rfl

/-- A closing angle is no part of a name. -/
def ClosesNames (data : CharacterData) : Prop :=
  ∀ isFirst, GroupPrefix.isNameChar data isFirst '>' = false

/-- Behind its first character a name goes on as long as there are characters for it. -/
private theorem skipName_behind (closes : ClosesNames input.settings.data)
    (within : here.Within input.text) {c : Char} {rest : List Char} (next : here.rest = c :: rest)
    {start : Nat} (behind : start < here.offset) {rounds : Nat} (enough : here.rest.length < rounds) :
    let stop := here.skipWhile (GroupPrefix.isNameChar input.settings.data false)
    skipName input start rounds (r.at here) =
      if stop.atEnd ∨ stop.rest.head? = some '>' then .ok ((), r.at stop)
      else .error (.failure (.malformed stop.offset .invalidGroupName)) := by
  induction rounds, here, enough using Cursor.induct_rounds generalizing c rest with
  | atEnd rounds here none => simp [none] at next
  | more rounds here _ _ _ _ _ ih =>
    have notStart : (here.offset == start) = false := beq_false_of_ne (Nat.ne_of_gt behind)
    rw [skipName]
    simp only [bind_apply, current_at next, andThen_ok, ite_act, offset_at, notStart]
    by_cases isClose : c = '>'
    · rw [Cursor.skipWhile_of_not next (by rw [isClose, closes])]
      simp [isClose, next]
    · by_cases isName : GroupPrefix.isNameChar input.settings.data false c = true
      · simp only [isClose, isName, ↓reduceIte, bump_at within, andThen_ok,
          Cursor.skipWhile_of_holds next isName]
        cases next' : here.skip.rest with
        | nil =>
          rw [Cursor.skipWhile_of_atEnd next']
          simp [Cursor.rest_of_atEnd.mpr next']
        | cons c' rest' =>
          have further : start < here.skip.offset := by
            have positive := c.utf8Size_pos
            rw [← skip_offset next]
            omega
          rw [Cursor.atEnd_of_cons next']
          exact ih within.skip next' further
      · rw [Cursor.skipWhile_of_not next (by simpa using isName)]
        simp [isClose, isName, next, Cursor.atEnd_of_cons next]

/-- A name goes on as long as there are characters for it, and stops at a closing angle or the end. -/
private theorem skipName_at (closes : ClosesNames input.settings.data) (within : here.Within input.text)
    {c : Char} {rest : List Char} (next : here.rest = c :: rest) {rounds : Nat}
    (enough : here.rest.length < rounds) :
    let stop := here.skipMany (GroupPrefix.nameChars input.settings.data here.rest).length
    skipName input here.offset rounds (r.at here) =
      if stop.atEnd ∨ stop.rest.head? = some '>' then .ok ((), r.at stop)
      else .error (.failure (.malformed stop.offset .invalidGroupName)) := by
  obtain ⟨rounds, rfl⟩ := Nat.exists_eq_add_one_of_ne_zero (Nat.ne_zero_of_lt enough)
  rw [skipName]
  simp only [bind_apply, current_at next, andThen_ok, ite_act, offset_at, beq_self_eq_true, next,
    GroupPrefix.nameChars]
  by_cases isClose : c = '>'
  · simp [isClose, closes true, Cursor.skipMany, next]
  · by_cases isName : GroupPrefix.isNameChar input.settings.data true c = true
    · have next'' : here.skip.rest = rest := by rw [Cursor.rest_skip, next, List.tail_cons]
      have same : here.skipMany (rest.takeWhile
          (GroupPrefix.isNameChar input.settings.data false)).length.succ =
            here.skip.skipWhile (GroupPrefix.isNameChar input.settings.data false) := by
        rw [Cursor.skipMany, Cursor.skipWhile, next'']
      simp only [isClose, isName, ↓reduceIte, bump_at within, andThen_ok, List.length_cons,
        Nat.add_one, same]
      cases next' : here.skip.rest with
      | nil =>
        rw [Cursor.skipWhile_of_atEnd next']
        simp [Cursor.rest_of_atEnd.mpr next']
      | cons c' rest' =>
        have further : here.offset < here.skip.offset := by
          have positive := c.utf8Size_pos
          rw [← skip_offset next]
          omega
        rw [Cursor.atEnd_of_cons next']
        exact skipName_behind closes within.skip next' further
          (Nat.lt_of_lt_of_le (Cursor.length_skip_lt next) (Nat.le_of_lt_succ enough))
    · simp [isClose, isName, Cursor.skipMany, next, Cursor.atEnd_of_cons next]

/-- The outcome of reading a group name: the name is taken down. -/
private def answerName (r : Registers) (found : Except Failure (String × Cursor)) : Outcome String :=
  match found with
  | .error failure => .error (.failure failure)
  | .ok (name, after) => .ok (name, { r with names := name :: r.names }.at after)

theorem addName_at (start : Nat) (name : String) :
    addName start name (r.at here) =
      if r.names.contains name then .error (.failure (.malformed start .duplicateGroupName))
      else .ok ((), { r with names := name :: r.names }.at here) := by
  simp only [addName, bind_apply, get_apply, andThen_ok, ite_act, fail_apply, modify_apply]
  rfl

theorem groupName_at (closes : ClosesNames input.settings.data) (within : here.Within input.text) :
    groupName input (r.at here) =
      answerName r (GroupPrefix.name input.settings.data r.names here) := by
  simp only [groupName, GroupPrefix.name, bind_apply, isDone_at within, andThen_ok]
  cases next : here.rest with
  | nil =>
    rw [Cursor.rest_of_atEnd.mpr next]
    simp [GroupPrefix.nameChars, Cursor.skipMany, next, answerName]
  | cons c rest =>
    have moved := Cursor.reaches_skipMany here
      (GroupPrefix.nameChars input.settings.data here.rest).length
    have split := GroupPrefix.nameChars_append_drop input.settings.data here.rest
    rw [← Cursor.rest_skipMany] at split
    have chars := Cursor.charsTo_eq split.symm
    simp only [Cursor.atEnd_of_cons next, Bool.false_eq_true, ↓reduceIte, bind_apply, offset_at,
      andThen_ok, skipName_at closes within next (input.enough_at within)]
    rw [next] at moved split chars ⊢
    generalize GroupPrefix.nameChars input.settings.data (c :: rest) = name at moved split chars ⊢
    generalize here.skipMany name.length = stop at moved split chars ⊢
    have atStop := within.on moved
    have empty : (String.ofList name).isEmpty = name.isEmpty := by
      rw [Bool.eq_iff_iff, String.isEmpty_iff, String.ofList_eq_empty_iff, List.isEmpty_iff]
    cases next' : stop.rest with
    | nil =>
      have nonempty : name.isEmpty = false := by
        rw [next', List.append_nil] at split
        rw [split]
        rfl
      simp [Cursor.rest_of_atEnd.mpr next', isDone_at atStop, nonempty, answerName]
    | cons c' rest' =>
      by_cases isClose : c' = '>'
      · simp only [isClose, Cursor.atEnd_of_cons next', List.head?_cons, or_true, ↓reduceIte,
          andThen_ok, bind_apply, offset_at, isDone_at atStop, Bool.false_eq_true, current_at next',
          discard_apply, bump_at atStop, pure_apply, slice_at within moved, Cursor.textTo, chars,
          empty, ite_act, ne_eq, not_true_eq_false]
        split
        · rfl
        · rw [addName_at]
          split
          · rfl
          · rfl
      · simp [isClose, Cursor.atEnd_of_cons next', answerName]

/-- A table that says for each seven-bit code whether a flag with that code was seen. -/
private structure Tabled (table : List Bool) (seen : List Char) : Prop where
  length : table.length = 128
  entries : ∀ c : Char, c.toNat < 128 → table[c.toNat]? = some (seen.contains c)

private theorem tabled_start : Tabled (List.replicate 128 false) [] where
  length := List.length_replicate
  entries c small := by rw [List.getElem?_replicate, if_pos small]; rfl

private theorem Tabled.set {table : List Bool} {seen : List Char} (tabled : Tabled table seen) {c : Char}
    (small : c.toNat < 128) : Tabled (table.set c.toNat true) (c :: seen) where
  length := by rw [List.length_set, tabled.length]
  entries d small' := by
    have inside : d.toNat < table.length := by rw [tabled.length]; exact small'
    rw [List.getElem?_set, List.contains_cons]
    by_cases same : d = c
    · subst same
      simp [inside]
    · have apart : c.toNat ≠ d.toNat := fun codes => same (Char.toNat_inj.mp codes.symm)
      simp [apart, same, tabled.entries d small']

/-- Every flag is a seven-bit character. -/
private theorem small_of_applyFlag {flags flags' : Flags} {on : Bool} {c : Char}
    (applied : GroupPrefix.applyFlag flags on c = some flags') : c.toNat < 128 := by
  unfold GroupPrefix.applyFlag at applied
  split at applied <;> first
    | decide
    | cases applied

theorem bumpFlag_at (within : here.Within input.text) :
    bumpFlag input (r.at here) =
      if here.skip.atEnd then
        .error (.failure (.malformed here.skip.offset .unfinishedFlags))
      else .ok ((), r.at here.skip) := by
  simp only [bumpFlag, bind_apply, bump_at within, andThen_ok]
  cases here.skip.atEnd <;> rfl

private theorem flagList_at (within : here.Within input.text) {c : Char} {rest : List Char}
    (next : here.rest = c :: rest) (state : GroupPrefix.FlagState) {table : List Bool}
    (tabled : Tabled table state.seen) {rounds : Nat} (enough : here.rest.length < rounds) :
    flagList input state.flags state.negated state.afterSign table rounds (r.at here) =
      answer r (GroupPrefix.flagList state here) := by
  induction rounds, here, enough using Cursor.induct_rounds generalizing c rest state table with
  | atEnd rounds here none => simp [none] at next
  | more rounds here _ _ _ _ _ ih =>
    -- one more flag was taken: there is another character, or the pattern ends too early
    have goOn : ∀ (state' : GroupPrefix.FlagState) {table' : List Bool}, Tabled table' state'.seen →
        andThen (bumpFlag input (r.at here))
            (fun _ => flagList input state'.flags state'.negated state'.afterSign table' rounds) =
          answer r (GroupPrefix.flagList state' here.skip) := by
      intro state' table' tabled'
      rw [bumpFlag_at within]
      cases next' : here.skip.rest with
      | nil =>
        rw [GroupPrefix.flagList_atEnd state' next', Cursor.rest_of_atEnd.mpr next']
        rfl
      | cons c' rest' =>
        rw [Cursor.atEnd_of_cons next']
        exact ih within.skip next' state' tabled'
    rw [flagList, GroupPrefix.flagList_more state next]
    simp only [bind_apply, current_at next, andThen_ok, ite_act]
    by_cases ends : c = ':' ∨ c = ')'
    · have stops : ¬(c ≠ ':' ∧ c ≠ ')') := by
        rintro ⟨notColon, notClose⟩
        exact ends.elim notColon notClose
      rw [if_neg stops, if_pos ends]
      simp only [offset_at, andThen_ok, fail_apply, pure_apply]
      split <;> rfl
    · rw [if_pos (not_or.mp ends), if_neg ends]
      unfold GroupPrefix.flagStep
      by_cases isSign : c = '-'
      · rw [if_pos isSign, if_pos isSign]
        cases state.negated with
        | true => rfl
        | false => exact goOn { state with negated := true, afterSign := true } tabled
      · rw [if_neg isSign, if_neg isSign]
        simp only [flag, bind_apply, current_at next, andThen_ok]
        cases applied : GroupPrefix.applyFlag state.flags (!state.negated) c with
        | none => simp
        | some flags =>
          simp only [pure_apply, andThen_ok, tabled.entries c (small_of_applyFlag applied)]
          cases state.seen.contains c with
          | true => simp
          | false =>
            simp only [Bool.false_eq_true, ↓reduceIte, bind_apply]
            exact goOn { state with flags, afterSign := false, seen := c :: state.seen }
              (tabled.set (small_of_applyFlag applied))

/-- The outcome of reading an opening parenthesis with its prefix. -/
def answerOpening (r : Registers) (found : Except Failure (GroupPrefix × Cursor)) : Outcome Opening :=
  match found with
  | .error failure => .error (.failure failure)
  | .ok (.directive flags, close) => .ok (.directive, { r with flags }.at close)
  | .ok (.flagged flags, after) => .ok (.group none, { r with flags }.at after)
  | .ok (.capturing name, after) =>
    .ok (.group (some (r.count + 1, name)),
      { r with
        count := r.count + 1
        closed := r.closed ++ [false]
        names := name.toList ++ r.names }.at after)

theorem nextIndex_at (few : fits (r.count + 1) = true) :
    nextIndex (r.at here) =
      .ok (r.count + 1, { r with count := r.count + 1, closed := r.closed ++ [false] }.at here) := by
  simp only [nextIndex, bind_apply, get_apply, andThen_ok, count_of_at, few, ↓reduceIte,
    modify_apply, pure_apply]
  rfl

private theorem afterText_single (c : Char) :
    here.afterText? [c] = if here.rest.head? = some c then some here.skip else none := by
  unfold Cursor.afterText?
  cases next : here.rest with
  | nil => rfl
  | cons c' rest =>
    by_cases same : c' = c
    · subst same
      simp [List.isPrefixOf, Cursor.skipMany]
    · simp [List.isPrefixOf, same, Ne.symm same]

theorem flagged_at (span : Span input.text start here) :
    flagged input start.offset (r.at here) =
      answerOpening r (GroupPrefix.readFlags r.flags start here) := by
  simp only [flagged, GroupPrefix.readFlags, bind_apply, isDone_at span.place, andThen_ok]
  cases next : here.rest with
  | nil =>
    rw [Cursor.rest_of_atEnd.mpr next]
    rfl
  | cons c rest =>
    have flagged : flagList input r.flags false false _ input.rounds (r.at here) =
        answer r (GroupPrefix.flagList { flags := r.flags } here) :=
      flagList_at span.place next { flags := r.flags } tabled_start (input.enough_at span.place)
    simp only [Cursor.atEnd_of_cons next, Bool.false_eq_true, ↓reduceIte, bind_apply, offset_at,
      flags_at, andThen_ok, flagged]
    cases isFlags : GroupPrefix.flagList { flags := r.flags } here with
    | error failure => rfl
    | ok found =>
      obtain ⟨flags, stop⟩ := found
      obtain ⟨c', rest', next', ends⟩ := GroupPrefix.stop_of_flagList isFlags
      have moved := GroupPrefix.reaches_flagList isFlags
      have forward := offset_le_of_reaches moved
      have none : stop.offset - here.offset = 0 ↔ stop.offset = here.offset := by omega
      simp only [answer_ok, andThen_ok, bind_apply, setFlags_at, offset_at, distance, forward,
        ↓reduceIte, pure_apply, current_at next', none, next', List.head?_cons, Option.some.injEq]
      rcases ends with isColon | isClose
      · simp only [isColon, Char.reduceEq, ↓reduceIte, bind_apply, discard_apply,
          bump_at (span.on moved).place, andThen_ok, pure_apply]
        rfl
      · simp only [isClose, ↓reduceIte]
        split <;> rfl

/-- **An opening parenthesis and its prefix are read as on cursors**, and no part of their reading is a
fault. -/
theorem opening_at (closes : ClosesNames input.settings.data) (few : fits (r.count + 1) = true)
    (within : start.Within input.text) {rest : List Char} (next : start.rest = '(' :: rest) :
    opening input (r.at start) =
      answerOpening r (GroupPrefix.read input.settings.data r.flags r.names start) := by
  have span : Span input.text start start.skip := ⟨within, Cursor.reaches_skip start⟩
  simp only [opening, GroupPrefix.read, GroupPrefix.lookAround?, GroupPrefix.nameOpening?, bind_apply,
    current_at next, andThen_ok, ↓reduceIte, offset_at, discard_apply, bump_at within, pure_apply,
    firstOf_at span.place]
  cases isLook : [['?', '='], ['?', '!'], ['?', '<', '='], ['?', '<', '!'], ['?', '>']].findSome?
      start.skip.afterText? with
  | some after =>
    obtain ⟨text, -, isFound⟩ := List.exists_of_findSome?_eq_some isLook
    simp [unsupported_at within (span.on (Cursor.reaches_afterText isFound)).reaches, answerOpening]
  | none =>
    simp only [andThen_ok, Bool.false_eq_true, ↓reduceIte, bind_apply, firstOf_at span.place]
    cases isName : [['?', 'P', '<'], ['?', '<']].findSome? start.skip.afterText? with
    | some nameStart =>
      obtain ⟨text, -, isFound⟩ := List.exists_of_findSome?_eq_some isName
      have atName := (span.on (Cursor.reaches_afterText isFound)).place
      simp only [andThen_ok, ↓reduceIte, bind_apply, nextIndex_at few, groupName_at closes atName]
      cases GroupPrefix.name input.settings.data r.names nameStart with
      | error failure => rfl
      | ok found => rfl
    | none =>
      simp only [andThen_ok, Bool.false_eq_true, ↓reduceIte, bind_apply, bumpIf_at span.place,
        afterText_single]
      by_cases isQuestion : start.skip.rest.head? = some '?'
      · simp only [isQuestion, ↓reduceIte, andThen_ok]
        exact flagged_at span.skip
      · simp only [isQuestion, ↓reduceIte, andThen_ok, Bool.false_eq_true, bind_apply, nextIndex_at few]
        rfl

end PatternForge.Descent
