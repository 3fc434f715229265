import PatternForge.Proofs.Descent.Sets
import PatternForge.Reading.Escape

/-!
Escape sequences, read by moving registers. Each reader takes for granted what its caller looked at: that
there is a character, that it is one of those the reader is for, that a loop stopped at the brace it looks
for. Started at a place where that is so, a reader has an outcome, and it is the answer of the reader on
cursors (`escape_at`).
-/
namespace PatternForge.Descent

open Escape (Context isHexDigit isEscapable controlChar? anchor? charOfHex?)

/-- Takes over what was built by hand. -/
def check {α : Type} (built : Except Fault α) : Act α :=
  match built with
  | .ok value => pure value
  | .error wrong => fault wrong

/-- The value of a decimal digit. -/
def digit? (c : Char) : Option Nat := if '0' ≤ c ∧ c ≤ '9' then some (c.toNat - '0'.toNat) else none

/-- The number that some digits write, if it fits into 32 bits. -/
def number? (base : Nat) (value : Char → Nat) (digits : List Char) : Option Nat :=
  let n := digits.foldl (fun n c => base * n + value c) 0
  if digits.isEmpty then none else if fits n then some n else none

/-- The character with a code. -/
def ofCode? (n : Nat) : Option Char :=
  if n < 0xD800 ∨ (0xDFFF < n ∧ n ≤ 0x10FFFF) then some (Char.ofNat n) else none

variable (input : Input)

/-- The leaf of a class, unless the class allows nothing. -/
def classLeaf (start : Nat) (set : CharSet) (negated : Bool) : Act Pattern :=
  if (CharClass.of set negated).effective.isEmpty then unsupported input.text start
  else pure (.oneOf (.of set negated))

/-- The leaf of a class that tables may know. -/
def tabledLeaf (start : Nat) (holds? : Option (Char → Bool)) (negated : Bool) : Act Pattern :=
  match holds? with
  | none => unsupported input.text start
  | some holds => do
    let set ← check (input.listed holds)
    classLeaf input start set negated

/-- The leaf of a character under the flags that hold here. -/
def singleLeaf (c : Char) : Act Pattern := do check (input.charLeaf (← flags) c)

/-- A reference. The place is at its digit. -/
def backreference (start : Nat) : Act Pattern := do
  let c ← current
  match digit? c with
  | none => fault (.unexpected c)
  | some index =>
    discard (bump input.text)
    if ((← get).closed[index]?).getD false then pure (.backreference index)
    else fail (.danglingReference start index)

/-- Goes on to the next closing brace. -/
def skipToBrace : Nat → Act Unit
  | 0 => fault .endless
  | rounds + 1 => do
    if ← bump input.text then
      if (← current) ≠ '\x7d' then skipToBrace rounds else pure ()
    else pure ()

/-- The class of a property with a name. -/
def namedProperty (start : Nat) (name : String) (negated : Bool) : Act Pattern := do
  tabledLeaf input start (input.settings.data.property (← flags).ignoreCase name) negated

/-- A property class. The place is at the letter that announces it. -/
def propertyClass (start : Nat) : Act Pattern := do
  let negated := (← current) == 'P'
  if ← bump input.text then
    if (← current) = '\x7b' then
      let nameStart := (← offset) + 1
      skipToBrace input input.rounds
      if ← isDone input.text then fail (.malformed start .unclosedProperty)
      else
        let name ← slice input.text nameStart (← offset)
        discard (bump input.text)
        namedProperty input start name negated
    else
      let nameStart ← offset
      discard (bump input.text)
      let name ← slice input.text nameStart (← offset)
      namedProperty input start name negated
  else fail (.malformed start .unfinishedProperty)

/-- The next digits of a number of fixed length. -/
def fixedDigits (start : Nat) (isFirst : Bool) : Nat → List Char → Act (List Char)
  | 0, digits => pure digits
  | n + 1, digits => do
    if ← (if isFirst then pure true else bump input.text) then
      let c ← current
      if isHexDigit c then fixedDigits start false n (digits ++ [c])
      else fail (.malformed (← offset) .invalidFixedHexDigit)
    else fail (.malformed start .unfinishedFixedHex)

/-- A character by a number of fixed length. The place is at the first digit. -/
def fixedHex (start count : Nat) : Act Pattern := do
  let digits ← fixedDigits input start true count []
  discard (bump input.text)
  match (number? 16 Unicode.hexDigitValue digits).bind ofCode? with
  | none => fail (.malformed start .invalidFixedHex)
  | some c => singleLeaf input c

/-- The digits up to the next closing brace. -/
def bracedDigits (digits : List Char) : Nat → Act (List Char)
  | 0 => fault .endless
  | rounds + 1 => do
    if ← bump input.text then
      let c ← current
      if c ≠ '\x7d' then
        if isHexDigit c then bracedDigits (digits ++ [c]) rounds
        else fail (.malformed (← offset) .invalidHexBraceDigit)
      else pure digits
    else pure digits

/-- A character by a number in braces. The place is at the opening brace. -/
def bracedHex (start : Nat) : Act Pattern := do
  let digits ← bracedDigits input [] input.rounds
  if ← isDone input.text then fail (.malformed start .unfinishedHexBrace)
  else
    let close ← current
    if close = '\x7d' then
      discard (bump input.text)
      if digits.isEmpty then fail (.malformed start .emptyHexBrace)
      else
        match (number? 16 Unicode.hexDigitValue digits).bind ofCode? with
        | none => fail (.malformed start .invalidHexBrace)
        | some c => singleLeaf input c
    else fault (.unexpected close)

/-- The number of digits that a letter announces. -/
def hexLength? (c : Char) : Option Nat :=
  match c with
  | 'x' => some 2
  | 'u' => some 4
  | 'U' => some 8
  | _ => none

/-- A character by its number. The place is at the letter that announces it. -/
def hex (start : Nat) : Act Pattern := do
  let c ← current
  match hexLength? c with
  | none => fault (.unexpected c)
  | some count =>
    if ← bump input.text then
      if (← current) = '\x7b' then bracedHex input start else fixedHex input start count
    else fail (.malformed start .unfinishedHex)

/-- The property that a letter stands for as a Perl class. -/
def perlProperty? (data : CharacterData) (c : Char) : Option (Char → Bool) :=
  match c with
  | 'd' | 'D' => some data.digit
  | 's' | 'S' => some data.space
  | 'w' | 'W' => some data.word
  | _ => none

/-- A Perl class. The place is at its letter. -/
def perlClass (start : Nat) : Act Pattern := do
  let c ← current
  discard (bump input.text)
  match perlProperty? input.settings.data c with
  | none => fault (.unexpected c)
  | some holds => tabledLeaf input start (some holds) c.isUpper

/-- A sequence of one character after the backslash. -/
def single (start : Nat) (c : Char) : Act Pattern := do
  discard (bump input.text)
  if isEscapable c then singleLeaf input c
  else
    match controlChar? c, anchor? c with
    | some control, _ => singleLeaf input control
    | none, some kind => pure (.anchor kind)
    | none, none => fail (.malformed start .unknownEscape)

/-- Reads an escape sequence from behind the backslash, whose offset is given. -/
def escape (start : Nat) : Act Pattern := do
  if ← isDone input.text then fail (.malformed start .unfinishedEscape)
  else
    let c ← current
    if '1' ≤ c ∧ c ≤ '9' then backreference input start
    else if c = 'p' ∨ c = 'P' then propertyClass input start
    else if c = 'x' ∨ c = 'u' ∨ c = 'U' then hex input start
    else if c = 'd' ∨ c = 's' ∨ c = 'w' ∨ c = 'D' ∨ c = 'S' ∨ c = 'W' then perlClass input start
    else if c = '0' ∨ c = 'c' ∨ c = 'k' then
      discard (bump input.text)
      if c ≠ '0' then discard (bump input.text)
      unsupported input.text start
    else single input start c

/-! ### Escape sequences are read as on cursors -/

/-- The registers hold what an escape sequence or class depends on. -/
structure Registers.Fits (r : Registers) (input : Input) (ctx : Context) : Prop where
  settings : ctx.settings = input.settings
  flags : ctx.flags = r.flags
  closed : ∀ index, (r.closed[index]?).getD false = ctx.closed.contains index

variable {input} {r : Registers} {ctx : Context} {start here : Cursor}

@[simp] theorem check_ok {α : Type} (value : α) : check (.ok value) = pure value := rfl

@[simp] theorem singleLeaf_at (c : Char) :
    singleLeaf input c (r.at here) =
      .ok (input.settings.charPattern r.flags c, r.at here) := by
  simp [singleLeaf, charLeaf_eq]

/-- A place that the reading of a construct has come to, and the place that it started at. -/
structure Span (text : List Char) (start place : Cursor) : Prop where
  within : start.Within text
  reaches : start.Reaches place

theorem Span.place (span : Span input.text start here) : here.Within input.text :=
  span.within.on span.reaches

theorem Span.on {after : Cursor} (span : Span input.text start here) (reaches : here.Reaches after) :
    Span input.text start after :=
  ⟨span.within, span.reaches.trans reaches⟩

theorem Span.skip (span : Span input.text start here) : Span input.text start here.skip :=
  span.on (Cursor.reaches_skip here)

theorem classLeaf_at (span : Span input.text start here) (set : CharSet) (negated : Bool) :
    classLeaf input start.offset set negated (r.at here) =
      answer r
        (match Settings.classPattern start here set negated with
        | .error failure => .error failure
        | .ok leaf => .ok (leaf, here)) := by
  unfold classLeaf Settings.classPattern
  split
  · rename_i none
    simp [none, unsupported_at span.within span.reaches]
  · rename_i some
    simp [some]

theorem backreference_at (fits : r.Fits input ctx) (span : Span input.text start here) {c : Char}
    {rest : List Char} (next : here.rest = c :: rest) (digit : '1' ≤ c ∧ c ≤ '9') :
    backreference input start.offset (r.at here) =
      answer r (Escape.backreference ctx start here c) := by
  have isDigit : digit? c = some (c.toNat - '0'.toNat) :=
    if_pos ⟨Char.le_trans (by decide) digit.1, digit.2⟩
  simp only [backreference, Escape.backreference, bind_apply, current_at next, andThen_ok, isDigit,
    discard_apply, bump_at span.place, pure_apply, get_apply, closed_of_at, fits.closed, ite_act]
  split <;> rfl

theorem skipToBrace_at (within : here.Within input.text) {rounds : Nat}
    (enough : here.rest.length < rounds) :
    skipToBrace input rounds (r.at here) =
      .ok ((), r.at (here.skip.skipWhile (· ≠ '\x7d'))) := by
  induction rounds, here, enough using Cursor.induct_rounds with
  | atEnd rounds here none =>
    rw [skipToBrace, skip_of_atEnd none, Cursor.skipWhile_of_atEnd none]
    simp [bump_at within, none, Cursor.rest_of_atEnd.mpr none]
  | more rounds here c rest next _ _ ih =>
    rw [skipToBrace]
    cases next' : here.skip.rest with
    | nil =>
      rw [Cursor.skipWhile_of_atEnd next']
      simp [bump_at within, Cursor.rest_of_atEnd.mpr next']
    | cons c' rest' =>
      by_cases isClose : c' = '\x7d'
      · rw [Cursor.skipWhile_of_not next' (by simp [isClose])]
        simp [bump_at within, Cursor.atEnd_of_cons next', current_at next', isClose]
      · rw [Cursor.skipWhile_of_holds next' (by simp [isClose]), ← ih within.skip]
        simp [bump_at within, Cursor.atEnd_of_cons next', current_at next', isClose]

theorem namedProperty_at (fits : r.Fits input ctx) (span : Span input.text start here)
    (name : List Char) (negated : Bool) :
    namedProperty input start.offset (String.ofList name) negated (r.at here) =
      answer r (Escape.namedProperty ctx start here name negated) := by
  simp only [namedProperty, Escape.namedProperty, bind_apply, flags_at, andThen_ok, ← fits.flags,
    ← fits.settings, tabledLeaf]
  cases ctx.settings.data.property ctx.flags.ignoreCase (String.ofList name) with
  | none => simp [unsupported_at span.within span.reaches]
  | some holds =>
    simp only [listed_eq, check_ok, bind_apply, pure_apply, andThen_ok, fits.settings]
    exact classLeaf_at span _ negated

theorem propertyClass_at (fits : r.Fits input ctx) (span : Span input.text start here) {c : Char}
    {rest : List Char} (next : here.rest = c :: rest) {negated : Bool} (capital : (c == 'P') = negated) :
    propertyClass input start.offset (r.at here) =
      answer r (Escape.propertyClass ctx start here negated) := by
  subst capital
  simp only [propertyClass, Escape.propertyClass, bind_apply, current_at next, andThen_ok,
    bump_at span.place]
  cases next' : here.skip.rest with
  | nil => simp [Cursor.rest_of_atEnd.mpr next']
  | cons c' rest' =>
    simp only [Cursor.atEnd_of_cons next', Bool.not_false, ↓reduceIte, bind_apply,
      current_at next', andThen_ok]
    by_cases isOpen : c' = '\x7b'
    · subst isOpen
      have one : here.skip.offset + 1 = here.skip.skip.offset := skip_offset next'
      have name := Cursor.reaches_skipWhile (· ≠ '\x7d') here.skip.skip
      have nameSpan := span.skip.skip.on name
      simp only [↓reduceIte, bind_apply, offset_at, andThen_ok, one,
        skipToBrace_at span.skip.place (input.enough_at span.skip.place), isDone_at nameSpan.place]
      cases ended : (here.skip.skip.skipWhile (· ≠ '\x7d')).atEnd with
      | true => rfl
      | false =>
        simp only [Bool.false_eq_true, ↓reduceIte, bind_apply, offset_at, andThen_ok,
          slice_at span.skip.skip.place name, discard_apply, bump_at nameSpan.place, pure_apply,
          Cursor.textTo, namedProperty_at fits nameSpan.skip]
    · have name := Cursor.reaches_skip here.skip
      simp only [isOpen, ↓reduceIte, bind_apply, offset_at, andThen_ok, discard_apply,
        bump_at span.skip.place, pure_apply, slice_at span.skip.place name, Cursor.textTo,
        Cursor.charsTo_skip next', namedProperty_at fits span.skip.skip]

theorem charOfHex_eq {digits : List Char} (some : digits ≠ []) :
    (number? 16 Unicode.hexDigitValue digits).bind ofCode? = charOfHex? digits := by
  have notEmpty : digits.isEmpty = false := List.isEmpty_eq_false_iff.mpr some
  simp only [number?, notEmpty, Bool.false_eq_true, ↓reduceIte, fits, decide_eq_true_eq, charOfHex?]
  generalize digits.foldl (fun n c => 16 * n + Unicode.hexDigitValue c) 0 = code
  have size : UInt32.size = 4294967296 := rfl
  by_cases small : code < UInt32.size
  · rw [if_pos small]
    rfl
  · rw [if_neg small, if_neg (by omega)]
    rfl

/-- The digits behind one that was read: all of them, or the place where they break off. -/
theorem fixedDigits_behind (within : here.Within input.text) (start n : Nat) (digits : List Char) :
    let found := (here.skip.rest.take n).takeWhile isHexDigit
    let stop := here.skip.skipMany found.length
    fixedDigits input start false n digits (r.at here) =
      if found.length < n then
        .error (.failure
          (if stop.atEnd then .malformed start .unfinishedFixedHex
            else .malformed stop.offset .invalidFixedHexDigit))
      else .ok (digits ++ found, r.at (here.skipMany n)) := by
  induction n generalizing here digits with
  | zero => simp [fixedDigits, Cursor.skipMany]
  | succ n ih =>
    have step := ih within.skip
    simp only [fixedDigits, Bool.false_eq_true, ↓reduceIte, bind_apply, bump_at within, andThen_ok]
    cases next : here.skip.rest with
    | nil => simp [Cursor.rest_of_atEnd.mpr next, Cursor.skipMany]
    | cons c rest =>
      have next' : here.skip.skip.rest = rest := by rw [Cursor.rest_skip, next, List.tail_cons]
      simp only [Cursor.atEnd_of_cons next, Bool.not_false, ↓reduceIte, bind_apply, current_at next,
        andThen_ok, List.take_succ_cons]
      by_cases isDigit : isHexDigit c = true
      · rw [next'] at step
        simp only [isDigit, ↓reduceIte, step, List.takeWhile_cons_of_pos, List.length_cons,
          Nat.add_lt_add_iff_right, Cursor.skipMany, List.append_assoc, List.singleton_append]
      · simp [isDigit, List.takeWhile_cons_of_neg, Cursor.skipMany, Cursor.atEnd_of_cons next]

/-- The digits of a number of fixed length from the first one on. -/
theorem fixedDigits_at (within : here.Within input.text) {c : Char} {rest : List Char}
    (next : here.rest = c :: rest) (start n : Nat) :
    let found := (here.rest.take (n + 1)).takeWhile isHexDigit
    let stop := here.skipMany found.length
    fixedDigits input start true (n + 1) [] (r.at here) =
      if found.length < n + 1 then
        .error (.failure
          (if stop.atEnd then .malformed start .unfinishedFixedHex
            else .malformed stop.offset .invalidFixedHexDigit))
      else .ok (found, r.at (here.skipMany n)) := by
  have behind := fixedDigits_behind (r := r) within start n [c]
  rw [Cursor.rest_skip, next, List.tail_cons] at behind
  dsimp only at behind
  simp only [next, fixedDigits, ↓reduceIte, bind_apply, pure_apply, current_at next, andThen_ok,
    List.take_succ_cons]
  by_cases isDigit : isHexDigit c = true
  · simp only [isDigit, ↓reduceIte, List.nil_append, behind, List.takeWhile_cons_of_pos,
      List.length_cons, Nat.add_lt_add_iff_right, Cursor.skipMany, List.singleton_append]
  · simp [isDigit, List.takeWhile_cons_of_neg, Cursor.skipMany, Cursor.atEnd_of_cons next]

/-- The outcome of reading a character by its number. -/
private def answerChar (r : Registers) (ctx : Context) (found : Except Failure (Char × Cursor)) :
    Outcome Pattern :=
  answer r
    (match found with
    | .error failure => .error failure
    | .ok (c, after) => .ok (ctx.settings.charPattern ctx.flags c, after))

theorem fixedHex_at (fits : r.Fits input ctx) (span : Span input.text start here) {c : Char}
    {rest : List Char} (next : here.rest = c :: rest) (n : Nat) :
    fixedHex input start.offset (n + 1) (r.at here) =
      answerChar r ctx (Escape.fixedHex start here (n + 1)) := by
  have last := span.on (Cursor.reaches_skipMany here n)
  have past : (here.skipMany n).skip = here.skipMany (n + 1) := (Cursor.skipMany_add here n 1).symm
  simp only [fixedHex, Escape.fixedHex, bind_apply, fixedDigits_at span.place next]
  generalize isFound : (here.rest.take (n + 1)).takeWhile isHexDigit = found
  by_cases short : found.length < n + 1
  · simp only [short, ↓reduceIte, andThen_error]
    split <;> rfl
  · have all : found.length = n + 1 := by
      have bound : found.length ≤ n + 1 := by
        rw [← isFound]
        exact Nat.le_trans (List.takeWhile_prefix _).length_le (List.length_take_le ..)
      omega
    have nonempty : found ≠ [] := List.ne_nil_of_length_eq_add_one all
    simp only [if_neg short, andThen_ok, discard_apply, bump_at last.place, bind_apply, pure_apply,
      charOfHex_eq nonempty, past]
    rw [all]
    cases charOfHex? found with
    | none => rfl
    | some c => simp [answerChar, fits.settings, fits.flags]

/-- The digits behind an opening brace or a digit, up to a closing brace or the end. -/
theorem bracedDigits_at (within : here.Within input.text) (digits : List Char) {rounds : Nat}
    (enough : here.rest.length < rounds) :
    let stop := here.skip.skipWhile isHexDigit
    bracedDigits input digits rounds (r.at here) =
      if stop.atEnd ∨ stop.rest.head? = some '\x7d' then
        .ok (digits ++ here.skip.charsTo stop, r.at stop)
      else .error (.failure (.malformed stop.offset .invalidHexBraceDigit)) := by
  induction rounds, here, enough using Cursor.induct_rounds generalizing digits with
  | atEnd rounds here none =>
    rw [bracedDigits, skip_of_atEnd none, Cursor.skipWhile_of_atEnd none]
    simp [bump_at within, none, Cursor.rest_of_atEnd.mpr none, Cursor.charsTo]
  | more rounds here c rest next _ _ ih =>
    have step := ih within.skip
    rw [bracedDigits]
    cases next' : here.skip.rest with
    | nil =>
      rw [Cursor.skipWhile_of_atEnd next']
      simp [bump_at within, Cursor.rest_of_atEnd.mpr next', Cursor.charsTo]
    | cons c' rest' =>
      simp only [bind_apply, bump_at within, Cursor.atEnd_of_cons next', Bool.not_false, andThen_ok,
        ↓reduceIte, current_at next']
      by_cases isClose : c' = '\x7d'
      · rw [Cursor.skipWhile_of_not next' (by rw [isClose]; rfl)]
        simp [isClose, next', Cursor.charsTo, -Cursor.rest_skip]
      · by_cases isDigit : isHexDigit c' = true
        · have whole := Cursor.charsTo_skipWhile isHexDigit here.skip
          rw [Cursor.skipWhile_of_holds next' isDigit, next', List.takeWhile_cons_of_pos isDigit] at whole
          have others := Cursor.charsTo_skipWhile isHexDigit here.skip.skip
          rw [Cursor.rest_skip here.skip, next', List.tail_cons] at others
          simp only [ne_eq, isClose, not_false_eq_true, ↓reduceIte, isDigit, step, whole, others,
            List.append_assoc, List.singleton_append, Cursor.skipWhile_of_holds next' isDigit]
        · rw [Cursor.skipWhile_of_not next' (by simpa using isDigit)]
          simp [isClose, isDigit, next', Cursor.atEnd_of_cons next', -Cursor.rest_skip]

theorem bracedHex_at (fits : r.Fits input ctx) (span : Span input.text start here) :
    bracedHex input start.offset (r.at here) =
      answerChar r ctx (Escape.bracedHex start here.skip) := by
  have stopSpan := span.skip.on (Cursor.reaches_skipWhile isHexDigit here.skip)
  simp only [bracedHex, Escape.bracedHex, bind_apply,
    bracedDigits_at span.place [] (input.enough_at span.place), List.nil_append]
  generalize here.skip.charsTo (here.skip.skipWhile isHexDigit) = digits
  generalize here.skip.skipWhile isHexDigit = stop at stopSpan ⊢
  cases next : stop.rest with
  | nil =>
    simp only [Cursor.rest_of_atEnd.mpr next, true_or, ↓reduceIte, andThen_ok, bind_apply,
      isDone_at stopSpan.place]
    rfl
  | cons c rest =>
    by_cases isClose : c = '\x7d'
    · subst isClose
      simp only [Cursor.atEnd_of_cons next, List.head?_cons, or_true, ↓reduceIte, andThen_ok,
        bind_apply, isDone_at stopSpan.place, Bool.false_eq_true, current_at next, discard_apply,
        bump_at stopSpan.place, pure_apply]
      by_cases none : digits = []
      · subst none
        rfl
      · have nonempty : digits.isEmpty = false := List.isEmpty_eq_false_iff.mpr none
        simp only [nonempty, Bool.false_eq_true, ↓reduceIte, charOfHex_eq none]
        cases charOfHex? digits with
        | none => rfl
        | some c => simp [answerChar, fits.settings, fits.flags]
    · simp only [Cursor.atEnd_of_cons next, Bool.false_eq_true, List.head?_cons, Option.some.injEq,
        isClose, or_self, ↓reduceIte, andThen_error]
      split
      · contradiction
      · rename_i same
        exact absurd (List.cons.inj same).1 isClose
      · rfl

theorem hex_at (fits : r.Fits input ctx) (span : Span input.text start here) {c : Char}
    {rest : List Char} (next : here.rest = c :: rest) {n : Nat} (length : hexLength? c = some (n + 1)) :
    hex input start.offset (r.at here) = answer r (Escape.hexLeaf ctx start here (n + 1)) := by
  have same : answer r (Escape.hexLeaf ctx start here (n + 1)) =
      answerChar r ctx (Escape.hex start here (n + 1)) := rfl
  simp only [hex, same, Escape.hex, bind_apply, current_at next, andThen_ok, length,
    bump_at span.place]
  cases next' : here.skip.rest with
  | nil =>
    simp only [Cursor.rest_of_atEnd.mpr next']
    rfl
  | cons c' rest' =>
    simp only [Cursor.atEnd_of_cons next', Bool.not_false, ↓reduceIte, bind_apply,
      current_at next', andThen_ok]
    by_cases isOpen : c' = '\x7b'
    · simp only [isOpen, ↓reduceIte, bracedHex_at fits span.skip]
    · simp only [isOpen, ↓reduceIte, fixedHex_at fits span.skip next']
      split
      · contradiction
      · rename_i same
        exact absurd (List.cons.inj same).1 isOpen
      · rfl

theorem perlClass_at (fits : r.Fits input ctx) (span : Span input.text start here) {c : Char}
    {rest : List Char} (next : here.rest = c :: rest) {holds : Char → Bool} {negated : Bool}
    (known : perlProperty? ctx.settings.data c = some holds) (capital : c.isUpper = negated) :
    perlClass input start.offset (r.at here) =
      answer r (Escape.perlClass ctx start here holds negated) := by
  rw [fits.settings] at known
  subst capital
  simp only [perlClass, Escape.perlClass, bind_apply, current_at next, andThen_ok, discard_apply,
    bump_at span.place, pure_apply, known, tabledLeaf, listed_eq, check_ok, fits.settings]
  exact classLeaf_at span.skip _ c.isUpper

theorem single_at (fits : r.Fits input ctx) (span : Span input.text start here) (c : Char) :
    single input start.offset c (r.at here) = answer r (Escape.single ctx start here c) := by
  simp only [single, Escape.single, bind_apply, andThen_ok, discard_apply, bump_at span.place,
    pure_apply, ite_act, singleLeaf_at, fits.settings, fits.flags]
  split
  · rfl
  · split <;> simp_all

/-- **An escape sequence is read as on cursors**, and no part of its reading is a fault. -/
theorem escape_at (fits : r.Fits input ctx) (span : Span input.text start here) :
    escape input start.offset (r.at here) = answer r (Escape.read ctx start here) := by
  simp only [escape, bind_apply, isDone_at span.place, andThen_ok]
  generalize isRead : Escape.read ctx start here = found
  unfold Escape.read at isRead
  cases next : here.rest with
  | nil =>
    rw [next] at isRead
    subst isRead
    rw [Cursor.rest_of_atEnd.mpr next]
    rfl
  | cons c rest =>
    rw [next] at isRead
    dsimp only at isRead
    simp only [Cursor.atEnd_of_cons next, Bool.false_eq_true, ↓reduceIte, bind_apply,
      current_at next, andThen_ok, ite_act]
    split at isRead
    case h_1 | h_2 =>
      subst isRead
      rw [if_neg (by decide), if_pos (by decide)]
      exact propertyClass_at fits span next (by decide)
    case h_3 | h_4 | h_5 =>
      subst isRead
      rw [if_neg (by decide), if_neg (by decide), if_pos (by decide)]
      exact hex_at fits span next rfl
    case h_6 | h_7 | h_8 | h_9 | h_10 | h_11 =>
      subst isRead
      rw [if_neg (by decide), if_neg (by decide), if_neg (by decide), if_pos (by decide)]
      exact perlClass_at fits span next rfl (by decide)
    case h_12 =>
      subst isRead
      rw [if_neg (by decide), if_neg (by decide), if_neg (by decide), if_neg (by decide),
        if_pos (by decide)]
      simp [bump_at span.place, unsupported_at span.within span.skip.reaches]
    case h_13 | h_14 =>
      subst isRead
      rw [if_neg (by decide), if_neg (by decide), if_neg (by decide), if_neg (by decide),
        if_pos (by decide)]
      simp [bump_at span.place, bump_at span.skip.place,
        unsupported_at span.within span.skip.skip.reaches]
    case h_15 =>
      subst isRead
      by_cases digit : '1' ≤ c ∧ c ≤ '9'
      · rw [if_pos digit, if_pos digit, backreference_at fits span next digit]
      · rw [if_neg digit, if_neg digit, ← single_at fits span c]
        simp_all

end PatternForge.Descent
