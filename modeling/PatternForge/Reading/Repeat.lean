import PatternForge.Reading.Settings

/-!
Repetition operators: `?`, `*`, `+` and counts in braces, each with an optional mark of laziness.
`Repeat.read` starts at the operator and answers with the bounds and the place after it.
-/
namespace PatternForge.Repeat

/-- A decimal number below `2^32`, white space around it allowed. -/
def decimal (data : CharacterData) (here : Cursor) : Except Failure (UInt32 × Cursor) :=
  let start := here.skipWhile data.space
  let stop := start.skipWhile Char.isDigit
  let digits := start.charsTo stop
  if digits.isEmpty then .error (.malformed start.offset .noDecimalDigits)
  else
    let value := digits.foldl (fun n c => 10 * n + (c.toNat - '0'.toNat)) 0
    if value < UInt32.size then .ok (value.toUInt32, stop.skipWhile data.space)
    else .error (.malformed start.offset .invalidDecimal)

/-- The mark after an operator. The cursor is at the operator's last character, `start` at its
first. A possessive operator is not supported. -/
def greediness (flags : Flags) (start last : Cursor) : Except Failure (Bool × Cursor) :=
  match last.skip.rest with
  | '?' :: _ => .ok (flags.swapGreed, last.skip.skip)
  | '+' :: _ => .error (.unsupported start.offset (start.textTo last.skip.skip))
  | _ => .ok (!flags.swapGreed, last.skip)

/-- The bounds between braces, and the place of the closing brace. The cursor is at the opening
brace. -/
def count (data : CharacterData) (start : Cursor) :
    Except Failure (UInt32 × Option UInt32 × Cursor) := do
  if start.skip.atEnd then throw (.malformed start.offset .unclosedCount)
  let (least, afterLeast) ← decimal data start.skip
  match afterLeast.rest with
  | [] => throw (.malformed start.offset .unclosedCountMinimum)
  | ',' :: more =>
    if more.isEmpty then throw (.malformed start.offset .unclosedCountComma)
    if more.head? = some '\x7d' then return (least, none, afterLeast.skip)
    let (most, afterMost) ← decimal data afterLeast.skip
    match afterMost.rest with
    | [] => throw (.malformed start.offset .unclosedCountMaximum)
    | '\x7d' :: _ => return (least, some most, afterMost)
    | _ => throw (.malformed afterMost.offset .invalidCount)
  | '\x7d' :: _ => return (least, some least, afterLeast)
  | _ => throw (.malformed afterLeast.offset .invalidCount)

/-- A counted repetition. -/
def counted (data : CharacterData) (flags : Flags) (start : Cursor) :
    Except Failure (Bounds × Cursor) := do
  let (least, most, close) ← count data start
  let (greedy, after) ← greediness flags start close
  match most with
  | some bound =>
    if bound < least then throw (.malformed start.offset .reversedCount)
    return ({ least, most, greedy }, after)
  | none => return ({ least, most, greedy }, after)

/-- One of the operators of a single character. -/
def plain (flags : Flags) (start : Cursor) (least : UInt32) (most : Option UInt32) :
    Except Failure (Bounds × Cursor) := do
  let (greedy, after) ← greediness flags start start
  return ({ least, most, greedy }, after)

/-- Reads the repetition operator that starts with the character `c`. -/
def read (data : CharacterData) (flags : Flags) (start : Cursor) (c : Char) :
    Except Failure (Bounds × Cursor) :=
  match c with
  | '?' => plain flags start 0 (some 1)
  | '*' => plain flags start 0 none
  | '+' => plain flags start 1 none
  | _ => counted data flags start

theorem reaches_decimal {data : CharacterData} {here after : Cursor} {n : UInt32}
    (read : decimal data here = .ok (n, after)) : here.Reaches after := by
  unfold decimal at read
  dsimp only at read
  split at read
  · cases read
  · split at read <;> cases read
    exact (Cursor.reaches_skipWhile _ _).trans
      ((Cursor.reaches_skipWhile _ _).trans (Cursor.reaches_skipWhile _ _))

theorem reaches_greediness {flags : Flags} {start last after : Cursor} {greedy : Bool}
    (read : greediness flags start last = .ok (greedy, after)) : last.skip.Reaches after := by
  unfold greediness at read
  split at read <;> cases read
  · exact Cursor.reaches_skip _
  · exact Cursor.Reaches.refl _

theorem reaches_count {data : CharacterData} {start close : Cursor} {least : UInt32}
    {most : Option UInt32} (read : count data start = .ok (least, most, close)) :
    start.skip.Reaches close := by
  unfold count at read
  simp only [bind, Except.bind, pure, Except.pure, throw, throwThe, MonadExceptOf.throw] at read
  split at read
  · cases read
  · split at read
    · cases read
    · rename_i first isFirst
      have moved := reaches_decimal isFirst
      split at read
      · cases read
      · split at read
        · cases read
        · split at read
          · cases read
            exact moved.trans (Cursor.reaches_skip _)
          · split at read
            · cases read
            · rename_i second isSecond
              have moved' := moved.trans
                ((Cursor.reaches_skip _).trans (reaches_decimal isSecond))
              split at read <;> cases read
              exact moved'
      · cases read
        exact moved
      · cases read

theorem reaches_counted {data : CharacterData} {flags : Flags} {start after : Cursor}
    {bounds : Bounds} (read : counted data flags start = .ok (bounds, after)) :
    start.skip.Reaches after := by
  unfold counted at read
  simp only [bind, Except.bind, pure, Except.pure, throw, throwThe, MonadExceptOf.throw] at read
  split at read
  · cases read
  · rename_i found isFound
    have moved := reaches_count isFound
    split at read
    · cases read
    · rename_i mark isMark
      have moved' := moved.trans ((Cursor.reaches_skip _).trans (reaches_greediness isMark))
      split at read
      · split at read <;> cases read
        exact moved'
      · cases read
        exact moved'

theorem reaches_plain {flags : Flags} {start after : Cursor} {least : UInt32}
    {most : Option UInt32} {bounds : Bounds}
    (read : plain flags start least most = .ok (bounds, after)) : start.skip.Reaches after := by
  unfold plain at read
  simp only [bind, Except.bind, pure, Except.pure] at read
  split at read
  · cases read
  · rename_i mark isMark
    cases read
    exact reaches_greediness isMark

theorem reaches_read {data : CharacterData} {flags : Flags} {start after : Cursor} {c : Char}
    {bounds : Bounds} (read' : read data flags start c = .ok (bounds, after)) :
    start.skip.Reaches after := by
  unfold read at read'
  split at read'
  · exact reaches_plain read'
  · exact reaches_plain read'
  · exact reaches_plain read'
  · exact reaches_counted read'

end PatternForge.Repeat
