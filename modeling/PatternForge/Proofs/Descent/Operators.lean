import PatternForge.Proofs.Descent.Escapes
import PatternForge.Reading.Repeat

/-!
Repetition operators, read by moving registers. The loops over white space and digits end with the text
at the latest, and the operator and the closing brace are where their readers take them to be
(`uncounted_at`, `counted_at`).
-/
namespace PatternForge.Descent

variable (input : Input)

/-- Goes on past white space. -/
def skipSpaces : Nat → Act Unit
  | 0 => fault .endless
  | rounds + 1 => do
    if ← isDone input.text then pure ()
    else if input.settings.data.space (← current) then
      discard (bump input.text)
      skipSpaces rounds
    else pure ()

/-- The decimal digits from here on, behind those that were read. -/
def decimalDigits (digits : List Char) : Nat → Act (List Char)
  | 0 => fault .endless
  | rounds + 1 => do
    if ← isDone input.text then pure digits
    else
      let c ← current
      if '0' ≤ c ∧ c ≤ '9' then
        discard (bump input.text)
        decimalDigits (digits ++ [c]) rounds
      else pure digits

/-- A number, with white space around it perhaps. -/
def decimal : Act UInt32 := do
  skipSpaces input input.rounds
  let start ← offset
  let digits ← decimalDigits input [] input.rounds
  skipSpaces input input.rounds
  if digits.isEmpty then fail (.malformed start .noDecimalDigits)
  else
    match number? 10 (fun c => c.toNat - '0'.toNat) digits with
    | none => fail (.malformed start .invalidDecimal)
    | some n => pure n.toUInt32

/-- Whether an operator goes without a mark of laziness. The place is at its last character. -/
def unmarked (start : Nat) : Act Bool := do
  if ← bump input.text then
    let c ← current
    if c = '?' then
      discard (bump input.text)
      pure false
    else if c = '+' then
      discard (bump input.text)
      unsupported input.text start
    else pure true
  else pure true

/-- Whether an operator is greedy. -/
def greediness (start : Nat) : Act Bool := do
  let greedy ← unmarked input start
  if (← flags).swapGreed then pure !greedy else pure greedy

/-- The bounds that an operator of one character stands for. -/
def plainBounds? (c : Char) : Option (UInt32 × Option UInt32) :=
  match c with
  | '?' => some (0, some 1)
  | '*' => some (0, none)
  | '+' => some (1, none)
  | _ => none

/-- Puts an operator of one character on the latest item. -/
def uncounted (items : List Pattern) : Act (List Pattern) := do
  let start ← offset
  match items with
  | [] => fail (.malformed start .nothingToRepeat)
  | item :: earlier =>
    let c ← current
    match plainBounds? c with
    | none => fault (.unexpected c)
    | some (least, most) =>
      let greedy ← greediness input start
      pure (.repetition { least, most, greedy } item :: earlier)

/-- The most times, behind the least times. -/
def upperBound (start : Nat) (least : UInt32) : Act (Option UInt32) := do
  if ← isDone input.text then fail (.malformed start .unclosedCountMinimum)
  else if (← current) = ',' then
    if ← bump input.text then
      let most ← if (← current) ≠ '\x7d' then some <$> decimal input else pure none
      if ← isDone input.text then fail (.malformed start .unclosedCountMaximum) else pure most
    else fail (.malformed start .unclosedCountComma)
  else pure (some least)

/-- The count in braces with its mark. -/
def countedBounds (start : Nat) : Act Bounds := do
  if ← bump input.text then
    let least ← decimal input
    let most ← upperBound input start least
    let close ← current
    if close = '\x7d' then
      let greedy ← greediness input start
      match most with
      | some bound =>
        if bound < least then fail (.malformed start .reversedCount)
        else pure { least, most, greedy }
      | none => pure { least, most, greedy }
    else fail (.malformed (← offset) .invalidCount)
  else fail (.malformed start .unclosedCount)

/-- Puts a count on the latest item. -/
def counted (items : List Pattern) : Act (List Pattern) := do
  let c ← current
  if c = '\x7b' then
    let start ← offset
    match items with
    | [] => fail (.malformed start .nothingToRepeatCounted)
    | item :: earlier =>
      let bounds ← countedBounds input start
      pure (.repetition bounds item :: earlier)
  else fault (.unexpected c)

/-! ### Operators are read as on cursors -/

variable {input} {r : Registers} {start here : Cursor}

theorem skipSpaces_at (within : here.Within input.text) {rounds : Nat}
    (enough : here.rest.length < rounds) :
    skipSpaces input rounds (r.at here) =
      .ok ((), r.at (here.skipWhile input.settings.data.space)) := by
  induction rounds, here, enough using Cursor.induct_rounds with
  | atEnd rounds here none =>
    rw [skipSpaces, Cursor.skipWhile_of_atEnd none]
    simp [isDone_at within, Cursor.rest_of_atEnd.mpr none]
  | more rounds here c rest next _ _ ih =>
    rw [skipSpaces]
    simp only [bind_apply, isDone_at within, Cursor.atEnd_of_cons next, andThen_ok,
      Bool.false_eq_true, ↓reduceIte, current_at next]
    by_cases space : input.settings.data.space c = true
    · simp [space, bump_at within, ih within.skip, Cursor.skipWhile_of_holds next space]
    · simp [space, Cursor.skipWhile_of_not next (by simpa using space)]

theorem isDigit_iff {c : Char} : c.isDigit = true ↔ '0' ≤ c ∧ c ≤ '9' := by
  simp only [Char.isDigit, Bool.and_eq_true, decide_eq_true_eq]
  exact Iff.rfl

theorem decimalDigits_at (within : here.Within input.text) (digits : List Char) {rounds : Nat}
    (enough : here.rest.length < rounds) :
    let stop := here.skipWhile Char.isDigit
    decimalDigits input digits rounds (r.at here) =
      .ok (digits ++ here.charsTo stop, r.at stop) := by
  induction rounds, here, enough using Cursor.induct_rounds generalizing digits with
  | atEnd rounds here none =>
    rw [decimalDigits, Cursor.skipWhile_of_atEnd none]
    simp [isDone_at within, Cursor.rest_of_atEnd.mpr none, Cursor.charsTo]
  | more rounds here c rest next _ _ ih =>
    have step := ih within.skip
    have all := Cursor.charsTo_skipWhile Char.isDigit here
    rw [decimalDigits]
    simp only [bind_apply, isDone_at within, Cursor.atEnd_of_cons next, andThen_ok,
      Bool.false_eq_true, ↓reduceIte, current_at next, ite_act, ← isDigit_iff]
    by_cases digit : c.isDigit = true
    · have others := Cursor.charsTo_skipWhile Char.isDigit here.skip
      rw [Cursor.rest_skip, next, List.tail_cons] at others
      rw [next, List.takeWhile_cons_of_pos digit, ← others, Cursor.skipWhile_of_holds next digit] at all
      simp [digit, bump_at within, step, Cursor.skipWhile_of_holds next digit, all]
    · simp [digit, Cursor.skipWhile_of_not next (by simpa using digit), Cursor.charsTo]

theorem decimal_at (within : here.Within input.text) :
    decimal input (r.at here) = answer r (Repeat.decimal input.settings.data here) := by
  have first := within.on (Cursor.reaches_skipWhile input.settings.data.space here)
  simp only [decimal, Repeat.decimal, bind_apply, skipSpaces_at within (input.enough_at within),
    andThen_ok, offset_at, decimalDigits_at first [] (input.enough_at first), List.nil_append]
  have last := first.on (Cursor.reaches_skipWhile Char.isDigit _)
  simp only [skipSpaces_at last (input.enough_at last), andThen_ok]
  generalize (here.skipWhile input.settings.data.space).charsTo _ = digits
  cases digits with
  | nil => rfl
  | cons c rest =>
    simp only [List.isEmpty_cons, Bool.false_eq_true, ↓reduceIte, number?, fits, decide_eq_true_eq]
    split <;> rfl

theorem greediness_at (span : Span input.text start here) :
    greediness input start.offset (r.at here) =
      answer r (Repeat.greediness r.flags start here) := by
  simp only [greediness, unmarked, bind_apply, bump_at span.place, andThen_ok]
  cases next : here.skip.rest with
  | nil =>
    simp only [Cursor.rest_of_atEnd.mpr next, Repeat.greediness, next]
    cases swapped : r.flags.swapGreed <;> simp [swapped]
  | cons c rest =>
    simp only [Cursor.atEnd_of_cons next, Bool.not_false, ↓reduceIte, bind_apply, current_at next,
      andThen_ok]
    generalize isRead : Repeat.greediness r.flags start here = found
    unfold Repeat.greediness at isRead
    rw [next] at isRead
    split at isRead
    · rename_i same
      cases same
      subst isRead
      cases swapped : r.flags.swapGreed <;> simp [swapped, bump_at span.skip.place]
    · rename_i same
      cases same
      subst isRead
      simp [bump_at span.skip.place, unsupported_at span.within span.skip.skip.reaches]
    · rename_i notLazy notPossessive
      subst isRead
      have notLazy : c ≠ '?' := fun same => notLazy rest (by rw [same])
      have notPossessive : c ≠ '+' := fun same => notPossessive rest (by rw [same])
      cases swapped : r.flags.swapGreed <;> simp [notLazy, notPossessive, swapped]

/-- The outcome of putting an operator on an item. -/
def answerRepeated (r : Registers) (item : Pattern) (earlier : List Pattern)
    (found : Except Failure (Bounds × Cursor)) : Outcome (List Pattern) :=
  answer r
    (match found with
    | .error failure => .error failure
    | .ok (bounds, after) => .ok (.repetition bounds item :: earlier, after))

theorem uncounted_at (span : Span input.text here here) {c : Char} {rest : List Char}
    (next : here.rest = c :: rest) {least : UInt32} {most : Option UInt32}
    (known : plainBounds? c = some (least, most)) (item : Pattern) (earlier : List Pattern) :
    uncounted input (item :: earlier) (r.at here) =
      answerRepeated r item earlier (Repeat.plain r.flags here least most) := by
  simp only [uncounted, Repeat.plain, bind_apply, offset_at, andThen_ok, current_at next, known,
    greediness_at span]
  cases Repeat.greediness r.flags here here <;> rfl

/-- The most times behind the least times, and the place where the closing brace belongs. -/
private def boundBehind (data : CharacterData) (start : Cursor) (least : UInt32) (here : Cursor) :
    Except Failure (Option UInt32 × Cursor) :=
  match here.rest with
  | [] => .error (.malformed start.offset .unclosedCountMinimum)
  | c :: more =>
    if c = ',' then
      if more.isEmpty then .error (.malformed start.offset .unclosedCountComma)
      else if more.head? = some '\x7d' then .ok (none, here.skip)
      else
        match Repeat.decimal data here.skip with
        | .error failure => .error failure
        | .ok (most, after) =>
          if after.atEnd then .error (.malformed start.offset .unclosedCountMaximum)
          else .ok (some most, after)
    else .ok (some least, here)

/-- A count is the least times, the most times and the closing brace. -/
private theorem count_eq (data : CharacterData) (start : Cursor) :
    Repeat.count data start =
      if start.skip.atEnd then .error (.malformed start.offset .unclosedCount)
      else
        match Repeat.decimal data start.skip with
        | .error failure => .error failure
        | .ok (least, after) =>
          match boundBehind data start least after with
          | .error failure => .error failure
          | .ok (most, close) =>
            if close.rest.head? = some '\x7d' then .ok (least, most, close)
            else .error (.malformed close.offset .invalidCount) := by
  unfold Repeat.count
  simp only [bind, Except.bind, pure, Except.pure, throw, throwThe, MonadExceptOf.throw]
  split
  · rfl
  · cases Repeat.decimal data start.skip with
    | error failure => rfl
    | ok found =>
      obtain ⟨least, after⟩ := found
      dsimp only
      unfold boundBehind
      cases next : after.rest with
      | nil => rfl
      | cons c more =>
        split
        · contradiction
        · rename_i same
          cases same
          dsimp only
          rw [if_pos rfl]
          cases more with
          | nil => rfl
          | cons d more =>
            have next' : after.skip.rest = d :: more := by rw [Cursor.rest_skip, next, List.tail_cons]
            simp only [List.isEmpty_cons, Bool.false_eq_true, ↓reduceIte, List.head?_cons,
              Option.some.injEq]
            by_cases close : d = '\x7d'
            · simp only [close, ↓reduceIte, next', List.head?_cons]
            · simp only [close, ↓reduceIte]
              cases Repeat.decimal data after.skip with
              | error failure => rfl
              | ok found =>
                obtain ⟨most, behind⟩ := found
                dsimp only
                cases next'' : behind.rest with
                | nil =>
                  rw [Cursor.rest_of_atEnd.mpr next'']
                  rfl
                | cons e rest =>
                  rw [Cursor.atEnd_of_cons next'']
                  split
                  · contradiction
                  · rename_i same
                    cases same
                    simp [next'']
                  · rename_i notClose
                    have notClose : e ≠ '\x7d' := fun same => notClose rest (by rw [same])
                    simp [next'', notClose]
        · rename_i same
          cases same
          dsimp only
          rw [if_neg (by decide)]
          dsimp only
          rw [if_pos (by rw [next]; rfl)]
        · rename_i notComma notClose
          have notComma : c ≠ ',' := fun same => notComma more (by rw [same])
          have notClose : c ≠ '\x7d' := fun same => notClose more (by rw [same])
          dsimp only
          rw [if_neg notComma]
          dsimp only
          rw [if_neg (by rw [next, List.head?_cons, Option.some.injEq]; exact notClose)]

private theorem upperBound_at (within : here.Within input.text) (least : UInt32) :
    upperBound input start.offset least (r.at here) =
      answer r (boundBehind input.settings.data start least here) := by
  simp only [upperBound, boundBehind, bind_apply, isDone_at within, andThen_ok]
  cases next : here.rest with
  | nil =>
    rw [Cursor.rest_of_atEnd.mpr next]
    rfl
  | cons c more =>
    simp only [Cursor.atEnd_of_cons next, Bool.false_eq_true, ↓reduceIte, bind_apply,
      current_at next, andThen_ok]
    by_cases comma : c = ','
    · have next' : here.skip.rest = more := by rw [Cursor.rest_skip, next, List.tail_cons]
      simp only [comma, ↓reduceIte, bind_apply, bump_at within, andThen_ok]
      cases more with
      | nil =>
        rw [Cursor.rest_of_atEnd.mpr next']
        rfl
      | cons d more =>
        simp only [Cursor.atEnd_of_cons next', Bool.not_false, ↓reduceIte, bind_apply,
          current_at next', andThen_ok, List.isEmpty_cons, Bool.false_eq_true, List.head?_cons,
          Option.some.injEq]
        by_cases close : d = '\x7d'
        · simp only [close, ne_eq, not_true_eq_false, ↓reduceIte, bind_apply, pure_apply, andThen_ok,
            isDone_at within.skip, Cursor.atEnd_of_cons next', Bool.false_eq_true, answer_ok]
        · simp only [ne_eq, close, not_false_eq_true, ↓reduceIte, map_apply, bind_apply,
            decimal_at within.skip]
          cases isMost : Repeat.decimal input.settings.data here.skip with
          | error failure => rfl
          | ok found =>
            obtain ⟨most, after⟩ := found
            have behind := within.skip.on (Repeat.reaches_decimal isMost)
            simp only [answer_ok, andThen_ok, bind_apply, pure_apply, isDone_at behind, ite_act]
            split <;> rfl
    · simp [comma]

/-- Behind the bounds the text goes on. -/
private theorem exists_of_boundBehind {data : CharacterData} {start here after : Cursor}
    {least : UInt32} {most : Option UInt32}
    (read : boundBehind data start least here = .ok (most, after)) :
    here.Reaches after ∧ ∃ c rest, after.rest = c :: rest := by
  unfold boundBehind at read
  split at read
  · cases read
  · rename_i c more next
    split at read
    · split at read
      · cases read
      · split at read
        · rename_i some _
          cases read
          refine ⟨Cursor.reaches_skip here, List.exists_cons_of_ne_nil ?_⟩
          rw [Cursor.rest_skip, next]
          simpa using some
        · split at read
          · cases read
          · rename_i isMost
            split at read
            · cases read
            · rename_i going
              cases read
              exact ⟨(Cursor.reaches_skip here).trans (Repeat.reaches_decimal isMost),
                List.exists_cons_of_ne_nil fun none => going (Cursor.rest_of_atEnd.mpr none)⟩
    · cases read
      exact ⟨Cursor.Reaches.refl here, c, more, next⟩

theorem countedBounds_at (span : Span input.text start start) :
    countedBounds input start.offset (r.at start) =
      answer r (Repeat.counted input.settings.data r.flags start) := by
  simp only [countedBounds, Repeat.counted, count_eq, bind_apply, bump_at span.place, andThen_ok]
  cases ended : start.skip.atEnd with
  | true => rfl
  | false =>
    simp only [Bool.not_false, Bool.false_eq_true, ↓reduceIte, bind_apply, decimal_at span.skip.place]
    cases isLeast : Repeat.decimal input.settings.data start.skip with
    | error failure => rfl
    | ok found =>
      obtain ⟨least, afterLeast⟩ := found
      have span' := span.skip.on (Repeat.reaches_decimal isLeast)
      simp only [answer_ok, andThen_ok, bind_apply, upperBound_at span'.place]
      cases isMost : boundBehind input.settings.data start least afterLeast with
      | error failure => rfl
      | ok found =>
        obtain ⟨most, close⟩ := found
        obtain ⟨moved, c, rest, next⟩ := exists_of_boundBehind isMost
        simp only [answer_ok, andThen_ok, bind_apply, current_at next, next, List.head?_cons,
          Option.some.injEq, ite_act]
        by_cases isClose : c = '\x7d'
        · simp only [isClose, ↓reduceIte, greediness_at (span'.on moved), bind, Except.bind]
          cases Repeat.greediness r.flags start close with
          | error failure => rfl
          | ok found =>
            cases most with
            | none => rfl
            | some bound =>
              dsimp only [answer_ok, andThen_ok]
              split
              · rfl
              · rfl
        · simp only [isClose, ↓reduceIte]
          rfl

theorem counted_at (span : Span input.text here here) {rest : List Char} (next : here.rest = '\x7b' :: rest)
    (item : Pattern) (earlier : List Pattern) :
    counted input (item :: earlier) (r.at here) =
      answerRepeated r item earlier (Repeat.counted input.settings.data r.flags here) := by
  simp only [counted, bind_apply, current_at next, andThen_ok, ↓reduceIte, offset_at,
    countedBounds_at span]
  cases Repeat.counted input.settings.data r.flags here <;> rfl

end PatternForge.Descent
