import PatternForge.Proofs.Reading.Places
import PatternForge.Reading.Parser

/-!
A reader that keeps its place as a program on bytes does: the offset of the next character and that
character itself stand in two registers, beside the counters, flags and tables of the groups. What such
a program takes for granted is checked here, and a check that fails is a `Fault`, which is no answer:
asking for the current character at the end, cutting the text inside a character, counting past 32
bits, going round in a loop more often than there are characters.

A place of the pattern is a `Cursor`; `Registers.at` puts the registers there, and each move is followed
through such registers (`bump_at`, `bumpIf_at`, `slice_at` and others).
-/
namespace PatternForge

namespace Descent

/-- Mistakes of a program, which no input may bring about. -/
inductive Fault where
  /-- The current character was asked for at the end of the text. -/
  | pastEnd
  /-- The ends of a slice are out of order, or one of them lies inside a character or past the end. -/
  | brokenSlice (first last : Nat)
  /-- A number got larger than 32 bits can hold. -/
  | overflow
  /-- A number got smaller than zero. -/
  | underflow
  /-- A character stood where another one was taken for granted. -/
  | unexpected (found : Char)
  /-- A flag has no entry in the table of flags. -/
  | untabledFlag (flag : Char)
  /-- A set refused a character that was taken to fit. -/
  | refused (failure : Failure)
  /-- A loop went on for too long. -/
  | endless

/-- Why a computation stopped without a result: the pattern is refused, or the program is wrong. -/
inductive Stop where
  | failure (failure : Failure)
  /-- There are more groups than 32 bits can number. -/
  | tooManyGroups (position : Nat)
  | fault (fault : Fault)

/-- What the reader keeps while it reads. -/
structure Registers where
  /-- The number of bytes before the place. -/
  pos : Nat
  /-- The character at the place. -/
  char : Option Char
  /-- How many levels are being read. -/
  depth : Nat := 0
  /-- The number of numbered groups opened so far. -/
  count : Nat := 0
  /-- The flags that hold here. -/
  flags : Flags
  /-- The group names used so far. -/
  names : List String := []
  /-- For each number from zero on whether the group with that number is closed. -/
  closed : List Bool := [false]

/-- A computation on registers, which gives a result or stops. -/
abbrev Act := StateT Registers (Except Stop)

/-- What becomes of a computation. -/
abbrev Outcome (α : Type) := Except Stop (α × Registers)

def fail {α : Type} (failure : Failure) : Act α := throw (.failure failure)

def fault {α : Type} (fault : Fault) : Act α := throw (.fault fault)

/-- Numbers that have to fit into 32 bits. -/
def fits (n : Nat) : Bool := n < UInt32.size

/-! ### The text in bytes -/

/-- The number of bytes of some characters. -/
def byteLength (chars : List Char) : Nat := chars.foldr (fun c n => c.utf8Size + n) 0

/-- The characters from a byte on, if a character starts there or the text ends there. -/
def suffix? : List Char → Nat → Option (List Char)
  | chars, 0 => some chars
  | [], _ + 1 => none
  | c :: rest, n + 1 => if c.utf8Size ≤ n + 1 then suffix? rest (n + 1 - c.utf8Size) else none

/-- The characters between two bytes. -/
def slice? (text : List Char) (first last : Nat) : Option (List Char) :=
  if first ≤ last then
    match suffix? text first, suffix? text last with
    | some tail, some rest => some (tail.take (tail.length - rest.length))
    | _, _ => none
  else none

@[simp] theorem byteLength_cons (c : Char) (rest : List Char) :
    byteLength (c :: rest) = c.utf8Size + byteLength rest := rfl

/-! ### Moves -/

/-- The current character. -/
def current : Act Char := do
  match (← get).char with
  | some c => pure c
  | none => fault .pastEnd

/-- The current offset. -/
def offset : Act Nat := do return (← get).pos

/-- The flags that hold here. -/
def flags : Act Flags := do return (← get).flags

/-- Sets the flags that hold from here on. -/
def setFlags (flags : Flags) : Act Unit := modify fun r => { r with flags }

/-- Whether the text ends here. -/
def isDone (text : List Char) : Act Bool := do return (← get).pos == byteLength text

/-- The characters from a byte on. -/
def suffix (text : List Char) (first : Nat) : Act (List Char) :=
  match suffix? text first with
  | some tail => pure tail
  | none => fault (.brokenSlice first (byteLength text))

/-- The text between two bytes. -/
def slice (text : List Char) (first last : Nat) : Act String :=
  match slice? text first last with
  | some chars => pure (String.ofList chars)
  | none => fault (.brokenSlice first last)

/-- Goes on to the next character, and says whether there is one. -/
def bump (text : List Char) : Act Bool := do
  if ← isDone text then pure false
  else
    let c ← current
    let here ← offset
    let tail ← suffix text (here + c.utf8Size)
    modify fun r => { r with pos := here + c.utf8Size, char := tail.head? }
    pure tail.head?.isSome

/-- Goes on several times. -/
def bumpTimes (text : List Char) : Nat → Act Unit
  | 0 => pure ()
  | n + 1 => do
    discard (bump text)
    bumpTimes text n

/-- Goes on behind some characters if they come next, and says whether they do. -/
def bumpIf (text : List Char) (chars : List Char) : Act Bool := do
  let tail ← suffix text (← offset)
  if chars.isPrefixOf tail then
    bumpTimes text chars.length
    pure true
  else pure false

/-- The character after the current one. -/
def peek (text : List Char) : Act (Option Char) := do
  if ← isDone text then pure none
  else
    let c ← current
    let tail ← suffix text ((← offset) + c.utf8Size)
    pure tail.head?

/-- How far one offset lies behind another. -/
def distance (first last : Nat) : Act Nat :=
  if first ≤ last then pure (last - first) else fault .underflow

/-- Refuses the construct between an offset and the place. -/
def unsupported {α : Type} (text : List Char) (first : Nat) : Act α := do
  let token ← slice text first (← offset)
  fail (.unsupported first token)

/-! ### Following a computation -/

/-- Goes on with the result of a computation. -/
def andThen {α β : Type} (outcome : Outcome α) (next : α → Act β) : Outcome β :=
  match outcome with
  | .error stop => .error stop
  | .ok (value, r) => next value r

variable {α β : Type} {text : List Char} {r : Registers} {c : Cursor}

@[simp] theorem bind_apply (act : Act α) (next : α → Act β) (r : Registers) :
    (act >>= next) r = andThen (act r) next := by
  change (act r).bind _ = _
  cases act r <;> rfl

@[simp] theorem map_apply (f : α → β) (act : Act α) (r : Registers) :
    (f <$> act) r = andThen (act r) fun value => pure (f value) := by
  rw [← bind_apply, bind_pure_comp]

@[simp] theorem andThen_ok (value : α) (next : α → Act β) :
    andThen (.ok (value, r)) next = next value r := rfl

@[simp] theorem andThen_error (stop : Stop) (next : α → Act β) :
    andThen (.error stop) next = .error stop := rfl

@[simp] theorem pure_apply (value : α) : (pure value : Act α) r = .ok (value, r) := rfl

@[simp] theorem fail_apply (failure : Failure) :
    (fail failure : Act α) r = .error (.failure failure) := rfl

@[simp] theorem ite_act {p : Prop} [Decidable p] (act act' : Act α) :
    (if p then act else act') r = if p then act r else act' r := by split <;> rfl

@[simp] theorem get_apply : (get : Act Registers) r = .ok (r, r) := rfl

@[simp] theorem modify_apply (f : Registers → Registers) :
    (modify f : Act Unit) r = .ok ((), f r) := rfl

@[simp] theorem discard_apply (act : Act α) : (discard act) r = andThen (act r) fun _ => pure () :=
  map_apply ..

/-- Puts the registers at a place. -/
def Registers.at (r : Registers) (c : Cursor) : Registers :=
  { r with pos := c.offset, char := c.rest.head? }

@[simp] theorem Registers.at_at (r : Registers) (c c' : Cursor) : (r.at c).at c' = r.at c' := rfl

/-- The outcome that answers with a value and a place, or refuses. -/
def answer (r : Registers) (found : Except Failure (α × Cursor)) : Outcome α :=
  match found with
  | .error failure => .error (.failure failure)
  | .ok (value, after) => .ok (value, r.at after)

@[simp] theorem answer_ok (value : α) (after : Cursor) :
    answer r (.ok (value, after)) = .ok (value, r.at after) := rfl

@[simp] theorem answer_error (failure : Failure) :
    answer r (.error failure : Except Failure (α × Cursor)) = .error (.failure failure) := rfl

/-! ### Places in bytes -/

theorem suffix?_skipMany (a : Cursor) (n : Nat) :
    ∃ bytes, (a.skipMany n).offset = a.offset + bytes ∧
      suffix? a.rest bytes = some (a.skipMany n).rest := by
  induction n generalizing a with
  | zero => exact ⟨0, rfl, by simp [suffix?, Cursor.skipMany]⟩
  | succ n ih =>
    obtain ⟨bytes, moved, found⟩ := ih a.skip
    rw [Cursor.skipMany, moved]
    cases next : a.rest with
    | nil =>
      have stays : a.skip = a := by simp [Cursor.skip, next]
      rw [stays, next] at found
      exact ⟨bytes, by rw [stays], by rw [stays, found]⟩
    | cons x rest =>
      have goes : a.skip = ⟨a.offset + x.utf8Size, rest⟩ := by simp [Cursor.skip, next]
      rw [goes] at found ⊢
      obtain ⟨m, size⟩ := Nat.exists_eq_succ_of_ne_zero (Nat.pos_iff_ne_zero.mp x.utf8Size_pos)
      refine ⟨x.utf8Size + bytes, Nat.add_assoc .., ?_⟩
      have positive : x.utf8Size + bytes = (m + bytes) + 1 := by omega
      rw [positive, suffix?, if_pos (by omega), ← positive, Nat.add_sub_cancel_left]
      exact found

theorem suffix?_at (within : c.Within text) : suffix? text c.offset = some c.rest := by
  obtain ⟨n, rfl⟩ := within
  obtain ⟨bytes, moved, found⟩ := suffix?_skipMany (Cursor.ofText text) n
  rw [moved, Cursor.ofText, Nat.zero_add]
  exact found

theorem byteLength_skip (a : Cursor) :
    a.skip.offset + byteLength a.skip.rest = a.offset + byteLength a.rest := by
  unfold Cursor.skip
  split
  · rfl
  · rename_i x rest next
    rw [next, byteLength_cons, Nat.add_assoc]

theorem byteLength_at (within : c.Within text) : c.offset + byteLength c.rest = byteLength text := by
  obtain ⟨n, rfl⟩ := within
  have all : ∀ a : Cursor, (a.skipMany n).offset + byteLength (a.skipMany n).rest =
      a.offset + byteLength a.rest := by
    induction n with
    | zero => exact fun _ => rfl
    | succ n ih => exact fun a => (ih a.skip).trans (byteLength_skip a)
  simpa [Cursor.ofText] using all (Cursor.ofText text)

theorem offset_eq_byteLength (within : c.Within text) : c.offset = byteLength text ↔ c.rest = [] := by
  have all := byteLength_at within
  cases next : c.rest with
  | nil =>
    rw [next] at all
    simpa [byteLength] using all
  | cons x rest =>
    have positive := x.utf8Size_pos
    rw [next, byteLength_cons] at all
    simp only [reduceCtorEq, iff_false]
    omega

theorem offset_le_of_reaches {a b : Cursor} (reaches : a.Reaches b) : a.offset ≤ b.offset := by
  obtain ⟨n, rfl⟩ := reaches
  obtain ⟨bytes, moved, -⟩ := suffix?_skipMany a n
  omega

/-! ### Moves from a place -/

@[simp] theorem skip_of_atEnd (none : c.rest = []) : c.skip = c := by simp [Cursor.skip, none]

@[simp] theorem offset_at : offset (r.at c) = .ok (c.offset, r.at c) := rfl

@[simp] theorem flags_at : flags (r.at c) = .ok (r.flags, r.at c) := rfl

@[simp] theorem setFlags_at (set : Flags) :
    setFlags set (r.at c) = .ok ((), { r with flags := set }.at c) := rfl

@[simp] theorem flags_of_at : (r.at c).flags = r.flags := rfl

@[simp] theorem names_of_at : (r.at c).names = r.names := rfl

@[simp] theorem count_of_at : (r.at c).count = r.count := rfl

@[simp] theorem closed_of_at : (r.at c).closed = r.closed := rfl

@[simp] theorem depth_of_at : (r.at c).depth = r.depth := rfl

theorem current_at {x : Char} {rest : List Char} (next : c.rest = x :: rest) :
    current (r.at c) = .ok (x, r.at c) := by
  simp [current, Registers.at, next]

theorem isDone_at (within : c.Within text) :
    isDone text (r.at c) = .ok (c.atEnd, r.at c) := by
  have same : (c.offset == byteLength text) = c.atEnd := by
    rw [Bool.eq_iff_iff, beq_iff_eq, offset_eq_byteLength within, Cursor.atEnd, List.isEmpty_iff]
  simp [isDone, Registers.at, same]

theorem suffix_at (within : c.Within text) : suffix text c.offset r = .ok (c.rest, r) := by
  rw [suffix, suffix?_at within]
  rfl

theorem skip_offset {x : Char} {rest : List Char} (next : c.rest = x :: rest) :
    c.offset + x.utf8Size = c.skip.offset := by simp [Cursor.skip, next]

/-- Going on moves the registers past the next character and says whether there is one behind it. -/
theorem bump_at (within : c.Within text) :
    bump text (r.at c) = .ok (!c.skip.atEnd, r.at c.skip) := by
  cases next : c.rest with
  | nil => simp [bump, isDone_at within, Cursor.rest_of_atEnd.mpr next, next]
  | cons x rest =>
    have going := Cursor.atEnd_of_cons next
    have more : c.skip.rest.head?.isSome = !c.skip.atEnd := by
      rw [Cursor.atEnd]
      cases c.skip.rest <;> rfl
    simp only [bump, bind_apply, isDone_at within, going, andThen_ok, Bool.false_eq_true,
      ↓reduceIte, current_at next, offset_at, skip_offset next, suffix_at within.skip,
      modify_apply, more, pure_apply]
    rfl

theorem bumpTimes_at (within : c.Within text) (n : Nat) :
    bumpTimes text n (r.at c) = .ok ((), r.at (c.skipMany n)) := by
  induction n generalizing c with
  | zero => rfl
  | succ n ih => simp [bumpTimes, bump_at within, ih within.skip, Cursor.skipMany]

theorem bumpIf_at (within : c.Within text) (chars : List Char) :
    bumpIf text chars (r.at c) =
      match c.afterText? chars with
      | some after => .ok (true, r.at after)
      | none => .ok (false, r.at c) := by
  simp only [bumpIf, bind_apply, offset_at, andThen_ok, suffix_at within, ite_act, Cursor.afterText?]
  split
  · simp [bumpTimes_at within]
  · simp

theorem peek_at (within : c.Within text) :
    peek text (r.at c) = .ok (c.skip.rest.head?, r.at c) := by
  cases next : c.rest with
  | nil => simp [peek, isDone_at within, Cursor.rest_of_atEnd.mpr next, next]
  | cons x rest =>
    simp [peek, isDone_at within, Cursor.atEnd_of_cons next, current_at next, skip_offset next,
      suffix_at within.skip]

theorem slice_at {a b : Cursor} (within : a.Within text) (reaches : a.Reaches b) :
    slice text a.offset b.offset r = .ok (a.textTo b, r) := by
  have cut : slice? text a.offset b.offset = some (a.charsTo b) := by
    simp [slice?, offset_le_of_reaches reaches, suffix?_at within,
      suffix?_at (within.on reaches), Cursor.charsTo]
  rw [slice, cut]
  rfl

theorem unsupported_at {α : Type} {a b : Cursor} (within : a.Within text) (reaches : a.Reaches b) :
    (unsupported text a.offset : Act α) (r.at b) =
      .error (.failure (.unsupported a.offset (a.textTo b))) := by
  simp [unsupported, slice_at within reaches]

end Descent

end PatternForge
