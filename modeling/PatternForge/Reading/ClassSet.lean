import PatternForge.Reading.Escape

/-!
Bracketed classes. A class is a list of items, each a range of characters or a set that a nested
POSIX class, a Perl class or a property class resolves to. The items are united, widened by case
variants where case is ignored, and only then negated as a whole.
-/
namespace PatternForge.ClassSet

open Escape (Context)

/-- One item of a class. -/
inductive Item where
  /-- The characters between two. -/
  | range (lo hi : Char)
  /-- The characters of a class inside the class. -/
  | set (members : CharSet)

/-- The ranges of the POSIX class with a name. -/
def posixRanges? (name : String) : Option (List (Char × Char)) :=
  match name with
  | "alnum" => some [('0', '9'), ('A', 'Z'), ('a', 'z')]
  | "alpha" => some [('A', 'Z'), ('a', 'z')]
  | "ascii" => some [('\x00', '\x7f')]
  | "blank" => some [('\t', '\t'), (' ', ' ')]
  | "cntrl" => some [('\x00', '\x1f'), ('\x7f', '\x7f')]
  | "digit" => some [('0', '9')]
  | "graph" => some [('!', '~')]
  | "lower" => some [('a', 'z')]
  | "print" => some [(' ', '~')]
  | "punct" => some [('!', '/'), (':', '@'), ('[', '\x60'), ('\x7b', '~')]
  | "space" => some [('\t', '\r'), (' ', ' ')]
  | "upper" => some [('A', 'Z')]
  | "word" => some [('0', '9'), ('A', 'Z'), ('_', '_'), ('a', 'z')]
  | "xdigit" => some [('0', '9'), ('A', 'F'), ('a', 'f')]
  | _ => none

/-- The characters of a list of ranges, as far as they are in the universe. -/
def setOfRanges (s : Settings) (ranges : List (Char × Char)) : CharSet :=
  .ofPredicate s.domain fun c => ranges.any fun range => range.1 ≤ c && c ≤ range.2

/-- A POSIX class such as `[:alpha:]` or `[:^alpha:]`, if one stands here. The cursor is at its
opening bracket. -/
def posix? (ctx : Context) (here : Cursor) : Option (CharSet × Cursor) :=
  match here.afterText? ['[', ':'] with
  | none => none
  | some opened =>
    let negated := opened.rest.head? = some '^'
    let nameStart := if negated then opened.skip else opened
    let nameEnd := nameStart.skipWhile (· ≠ ':')
    match nameEnd.afterText? [':', ']'], posixRanges? (nameStart.textTo nameEnd) with
    | some after, some ranges =>
      let set := setOfRanges ctx.settings ranges
      some (if negated then set.complement else set, after)
    | _, _ => none

/-- A character or an escape sequence inside a class. The cursor is at its first character. -/
def primitive (ctx : Context) (here : Cursor) : Except Failure (Pattern × Cursor) :=
  match here.rest with
  | [] => .error (.malformed here.offset .classUnclosed)
  | '\\' :: _ => Escape.read ctx here here.skip
  | c :: _ => .ok (.literal c.toString, here.skip)

/-- The single character that a leaf stands for, as an end of a range. -/
def asChar (position : Nat) (leaf : Pattern) : Except Failure Char :=
  match leaf with
  | .literal text =>
    match text.toList with
    | [c] => .ok c
    | _ => .error (.malformed position .classRangeNotCharacter)
  | _ => .error (.malformed position .classRangeNotCharacter)

/-- A leaf as an item. -/
def asItem (position : Nat) (leaf : Pattern) : Except Failure Item :=
  match leaf with
  | .oneOf cls => .ok (.set cls.effective)
  | .literal _ => (fun c => .range c c) <$> asChar position leaf
  | _ => .error (.malformed position .classInvalidItem)

/-- Two leaves as a range. -/
def asRange (position : Nat) (first second : Pattern) : Except Failure Item := do
  let lo ← asChar position first
  let hi ← asChar position second
  if hi < lo then .error (.malformed position .classReversedRange)
  return .range lo hi

/-- The next item, a single one or a range. A hyphen before the closing bracket is a character, and
two hyphens are left for the caller to refuse. -/
def item (ctx : Context) (start here : Cursor) : Except Failure (Item × Cursor) :=
  match primitive ctx here with
  | .error failure => .error failure
  | .ok (first, after) =>
    match after.rest with
    | [] => .error (.malformed start.offset .classUnclosedAfterItem)
    | ['-'] => .error (.malformed start.offset .classUnclosedAfterDash)
    | '-' :: next :: _ =>
      if next = ']' ∨ next = '-' then
        (fun single => (single, after)) <$> asItem here.offset first
      else
        match primitive ctx after.skip with
        | .error failure => .error failure
        | .ok (second, stop) => (fun range => (range, stop)) <$> asRange here.offset first second
    | _ => (fun single => (single, after)) <$> asItem here.offset first

/-- Adds an item to a set. -/
def addItem (set : CharSet) : Item → Except Failure CharSet
  | .range lo hi => set.insertRange lo hi
  | .set members => set.insertAll members

/-- The class of some items. A class with a character outside the universe is not supported. -/
def build (ctx : Context) (start after : Cursor) (negated : Bool) (items : List Item) :
    Except Failure Pattern :=
  match items.foldlM addItem (CharSet.builder ctx.settings.domain) with
  | .error _ => .error (.unsupported start.offset (start.textTo after))
  | .ok set =>
    Settings.classPattern start after
      (if ctx.flags.ignoreCase then ctx.settings.foldCase set else set) negated

/-- Whether a character, written twice, is an operation on classes. -/
def isSetOperator (c : Char) : Bool := c = '&' || c = '-' || c = '~'

theorem reaches_posix {ctx : Context} {here after : Cursor} {set : CharSet}
    (found : posix? ctx here = some (set, after)) : here.skip.Reaches after := by
  unfold posix? at found
  split at found
  · cases found
  · rename_i opened isOpened
    dsimp only at found
    split at found
    · rename_i after' ranges isAfter _
      cases found
      have start : here.skip.Reaches opened := by
        unfold Cursor.afterText? at isOpened
        split at isOpened
        · cases isOpened
          exact Cursor.reaches_skipMany here.skip 1
        · cases isOpened
      have name :
          opened.Reaches (if opened.rest.head? = some '^' then opened.skip else opened) := by
        split
        · exact Cursor.reaches_skip opened
        · exact Cursor.Reaches.refl opened
      exact start.trans (name.trans ((Cursor.reaches_skipWhile _ _).trans
        (Cursor.reaches_afterText isAfter)))
    · cases found

theorem reaches_primitive {ctx : Context} {here after : Cursor} {leaf : Pattern}
    (read : primitive ctx here = .ok (leaf, after)) : here.skip.Reaches after := by
  unfold primitive at read
  split at read
  · cases read
  · exact Escape.reaches_read read
  · cases read
    exact Cursor.Reaches.refl _

private theorem map_item {single : Except Failure Item} {after stop : Cursor} {found : Item}
    (mapped : (fun single => (single, after)) <$> single = .ok (found, stop)) : stop = after := by
  cases single with
  | error failure => cases mapped
  | ok value => cases mapped; rfl

theorem reaches_item {ctx : Context} {start here after : Cursor} {found : Item}
    (read : item ctx start here = .ok (found, after)) : here.skip.Reaches after := by
  unfold item at read
  split at read
  · cases read
  · rename_i first next isFirst
    have moved := reaches_primitive isFirst
    split at read
    · cases read
    · cases read
    · split at read
      · rw [map_item read]; exact moved
      · split at read
        · cases read
        · rename_i second stop isSecond
          rw [map_item read]
          exact moved.trans ((Cursor.reaches_skip next).trans
            ((Cursor.reaches_skip next.skip).trans (reaches_primitive isSecond)))
    · rw [map_item read]; exact moved

/-- Reads the items up to the closing bracket, and what follows from them. `found` holds the items
so far, latest first. -/
def readItems (ctx : Context) (start : Cursor) (negated : Bool) (here : Cursor)
    (found : List Item) : Except Failure (Pattern × Cursor) :=
  match _next : here.rest with
  | [] => .error (.malformed start.offset .classUnclosed)
  | c :: rest =>
    if c = '[' then
      match _nested : posix? ctx here with
      | some (set, after) => readItems ctx start negated after (.set set :: found)
      | none => .error (.unsupported here.offset (here.textTo here.skip))
    else if c = ']' then
      (fun leaf => (leaf, here.skip)) <$> build ctx start here.skip negated found.reverse
    else if isSetOperator c ∧ rest.head? = some c then
      .error (.unsupported here.offset (here.textTo here.skip.skip))
    else
      match _single : item ctx start here with
      | .error failure => .error failure
      | .ok (one, after) => readItems ctx start negated after (one :: found)
termination_by here.rest.length
decreasing_by
  · exact Cursor.Reaches.length_lt _next (reaches_posix _nested)
  · exact Cursor.Reaches.length_lt _next (reaches_item _single)

theorem readItems_atEnd {ctx : Context} {start here : Cursor} (none : here.rest = []) (negated : Bool)
    (found : List Item) :
    readItems ctx start negated here found = .error (.malformed start.offset .classUnclosed) := by
  rw [readItems]
  split
  · rfl
  · rename_i next
    rw [none] at next
    cases next

theorem readItems_more {ctx : Context} {start here : Cursor} {c : Char} {rest : List Char}
    (next : here.rest = c :: rest) (negated : Bool) (found : List Item) :
    readItems ctx start negated here found =
      if c = '[' then
        match posix? ctx here with
        | some (set, after) => readItems ctx start negated after (.set set :: found)
        | none => .error (.unsupported here.offset (here.textTo here.skip))
      else if c = ']' then
        (fun leaf => (leaf, here.skip)) <$> build ctx start here.skip negated found.reverse
      else if isSetOperator c ∧ rest.head? = some c then
        .error (.unsupported here.offset (here.textTo here.skip.skip))
      else
        match item ctx start here with
        | .error failure => .error failure
        | .ok (one, after) => readItems ctx start negated after (one :: found) := by
  rw [readItems]
  split
  · rename_i none
    rw [next] at none
    cases none
  · rename_i next'
    cases next.symm.trans next'
    split
    · split <;> simp only [*]
    · split
      · rfl
      · split
        · rfl
        · split <;> simp only [*]

/-- The hyphens that open a class and stand for themselves. -/
def readHyphens (start : Cursor) (here : Cursor) : Except Failure (List Item × Cursor) :=
  let after := here.skipWhile (· = '-')
  if after.atEnd ∧ here.rest.head? = some '-' then
    .error (.malformed start.offset .classUnclosedAfterDash)
  else .ok (List.replicate (here.charsTo after).length (.range '-' '-'), after)

theorem reaches_readHyphens {start here after : Cursor} {hyphens : List Item}
    (read : readHyphens start here = .ok (hyphens, after)) : here.Reaches after := by
  unfold readHyphens at read
  dsimp only at read
  split at read
  · cases read
  · cases read
    exact Cursor.reaches_skipWhile _ _

/-- Whether the class that opens here is negated. -/
def isNegated (start : Cursor) : Bool := start.skip.rest.head? = some '^'

/-- The place of the first item of the class that opens here. -/
def firstItem (start : Cursor) : Cursor :=
  if isNegated start then start.skip.skip else start.skip

theorem reaches_firstItem (start : Cursor) : start.skip.Reaches (firstItem start) := by
  unfold firstItem
  split
  · exact Cursor.reaches_skip _
  · exact Cursor.Reaches.refl _

/-- Reads a bracketed class. The cursor is at its opening bracket. -/
def read (ctx : Context) (start : Cursor) : Except Failure (Pattern × Cursor) :=
  let negated := isNegated start
  let first := firstItem start
  if first.atEnd then
    .error (.malformed start.offset
      (if negated then .classUnclosedAfterNegation else .classUnclosed))
  else
    match readHyphens start first with
    | .error failure => .error failure
    | .ok (hyphens, here) =>
      if hyphens.isEmpty ∧ here.rest.head? = some ']' then
        if here.skip.atEnd then .error (.malformed start.offset .classUnclosedAfterBracket)
        else readItems ctx start negated here.skip [.range ']' ']']
      else readItems ctx start negated here hyphens

theorem reaches_readItems {ctx : Context} {start here after : Cursor} {negated : Bool}
    {found : List Item} {leaf : Pattern}
    (read : readItems ctx start negated here found = .ok (leaf, after)) : here.Reaches after := by
  fun_induction readItems ctx start negated here found with
  | case1 => cases read
  | case2 here found rest set next shown isOpen ih =>
    exact (Cursor.reaches_skip here).trans ((reaches_posix shown).trans (ih read))
  | case3 => cases read
  | case4 here found _ _ _ =>
    revert read
    cases build ctx start here.skip negated found.reverse with
    | error failure => intro read; cases read
    | ok value => intro read; cases read; exact Cursor.reaches_skip here
  | case5 => cases read
  | case6 => cases read
  | case7 here found c rest next notOpen notClose notOperator one stop single ih =>
    exact (Cursor.reaches_skip here).trans ((reaches_item single).trans (ih read))

theorem reaches_read {ctx : Context} {start after : Cursor} {leaf : Pattern}
    (read' : read ctx start = .ok (leaf, after)) : start.skip.Reaches after := by
  unfold read at read'
  dsimp only at read'
  split at read'
  · cases read'
  · split at read'
    · cases read'
    · rename_i hyphens here isHyphens
      have moved := (reaches_firstItem start).trans (reaches_readHyphens isHyphens)
      split at read'
      · split at read'
        · cases read'
        · exact moved.trans ((Cursor.reaches_skip here).trans (reaches_readItems read'))
      · exact moved.trans (reaches_readItems read')

end PatternForge.ClassSet
