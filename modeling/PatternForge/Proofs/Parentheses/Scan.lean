import Mathlib.Data.List.TakeWhile
import PatternForge.Reading.Parser

/-!
The parentheses of a pattern, read off its text. A parenthesis counts unless it is escaped, stands in a
bracketed class, a group name or braces, and no tree, flags or universe is needed to tell:
`Parenthesis.scan` passes over escape sequences and classes by their punctuation alone.
`Parenthesis.deepest` is how many groups are open at once.
-/
namespace PatternForge

/-- A parenthesis that opens or closes something. -/
inductive Parenthesis where
  /-- The start of a group without flags, numbered and perhaps with a name. -/
  | opens
  /-- The start of a group under the flags listed in front of a colon, perhaps none. -/
  | opensWith (flags : List Char)
  /-- Flags listed in parentheses of their own, which open no group. -/
  | sets (flags : List Char)
  /-- The end of a group. -/
  | closes
  deriving DecidableEq, Repr

namespace Parenthesis

/-! ### Escape sequences -/

/-- How many characters belong to an escape sequence behind its letter, if no brace follows. -/
def argumentLength (letter : Char) : Nat :=
  match letter with
  | 'p' | 'P' => 1
  | 'x' => 2
  | 'u' => 4
  | 'U' => 8
  | _ => 0

/-- What is behind an argument: a number of characters, or everything up to a closing brace. -/
def afterArgument (count : Nat) (text : List Char) : List Char :=
  match text with
  | '\x7b' :: more => (more.dropWhile (· ≠ '\x7d')).tail
  | _ => text.drop count

/-- What is behind an escape sequence whose backslash has been read. -/
def afterEscape (text : List Char) : List Char :=
  match text with
  | [] => []
  | c :: rest => if argumentLength c = 0 then rest else afterArgument (argumentLength c) rest

theorem length_afterArgument_le (count : Nat) (text : List Char) :
    (afterArgument count text).length ≤ text.length := by
  unfold afterArgument
  split
  · rename_i more
    have shorter := List.length_dropWhile_le (· ≠ '\x7d') more
    rw [List.length_tail, List.length_cons]
    omega
  · rw [List.length_drop]
    omega

theorem length_afterEscape_le (text : List Char) : (afterEscape text).length ≤ text.length := by
  unfold afterEscape
  split
  · exact Nat.le_refl _
  · rename_i c rest
    have shorter := length_afterArgument_le (argumentLength c) rest
    rw [List.length_cons]
    split <;> omega

/-! ### Classes -/

/-- What is behind one character of a class or the escape sequence that stands for it. -/
def afterUnit (text : List Char) : List Char :=
  match text with
  | [] => []
  | c :: rest => if c = '\\' then afterEscape rest else rest

/-- What is behind an item of a class: a unit, or two that a hyphen joins. A hyphen in front of the
closing bracket or of another hyphen joins nothing. -/
def afterItem (text : List Char) : List Char :=
  match afterUnit text with
  | '-' :: next :: rest => if next = ']' ∨ next = '-' then '-' :: next :: rest else afterUnit (next :: rest)
  | others => others

/-- What is behind a class inside the class, such as `[:alpha:]`, whose bracket has been read. -/
def afterPosix (text : List Char) : List Char := (text.tail.dropWhile (· ≠ ':')).drop 2

theorem length_afterUnit_le (c : Char) (rest : List Char) :
    (afterUnit (c :: rest)).length ≤ rest.length := by
  unfold afterUnit
  dsimp only
  split
  · exact length_afterEscape_le rest
  · exact Nat.le_refl _

theorem length_afterItem_le (c : Char) (rest : List Char) :
    (afterItem (c :: rest)).length ≤ rest.length := by
  have first := length_afterUnit_le c rest
  unfold afterItem
  split
  · rename_i next others behind
    rw [behind] at first
    have second := length_afterUnit_le next others
    simp only [List.length_cons] at first
    split
    · simpa using first
    · omega
  · exact first

theorem length_afterPosix_le (text : List Char) : (afterPosix text).length ≤ text.length := by
  have shorter := List.length_dropWhile_le (· ≠ ':') text.tail
  rw [List.length_tail] at shorter
  rw [afterPosix, List.length_drop]
  omega

/-- What is behind the closing bracket, read from a place between two items. -/
def afterItems (text : List Char) : List Char :=
  match text with
  | [] => []
  | c :: rest =>
    if c = ']' then rest
    else if c = '[' then afterItems (afterPosix rest)
    else afterItems (afterItem (c :: rest))
termination_by text.length
decreasing_by
  · exact Nat.lt_succ_of_le (length_afterPosix_le rest)
  · exact Nat.lt_succ_of_le (length_afterItem_le c rest)

/-- What is behind a caret that comes next. -/
def afterCaret (text : List Char) : List Char := if text.head? = some '^' then text.tail else text

/-- What is behind a class whose opening bracket has been read. A closing bracket that comes first, or
behind a caret, stands for itself, and so do hyphens. -/
def afterClass (text : List Char) : List Char :=
  match afterCaret text with
  | ']' :: rest => afterItems rest
  | first => afterItems (first.dropWhile (· = '-'))

theorem length_afterItems_le (text : List Char) : (afterItems text).length ≤ text.length := by
  fun_induction afterItems text with
  | case1 => exact Nat.le_refl _
  | case2 rest => exact Nat.le_succ _
  | case3 rest notClose ih =>
    have shorter := length_afterPosix_le rest
    rw [List.length_cons]
    omega
  | case4 c rest notClose notOpen ih =>
    have shorter := length_afterItem_le c rest
    rw [List.length_cons]
    omega

theorem length_afterClass_le (text : List Char) : (afterClass text).length ≤ text.length := by
  have caret : (afterCaret text).length ≤ text.length := by
    unfold afterCaret
    split
    · rw [List.length_tail]
      omega
    · exact Nat.le_refl _
  unfold afterClass
  split
  · rename_i rest isBracket
    have items := length_afterItems_le rest
    rw [isBracket, List.length_cons] at caret
    omega
  · have items := length_afterItems_le ((afterCaret text).dropWhile (· = '-'))
    have shorter := List.length_dropWhile_le (· = '-') (afterCaret text)
    omega

/-! ### Parentheses -/

/-- Whether a list of flags goes on with a character. -/
def listsFlag (c : Char) : Bool := c ≠ ':' && c ≠ ')'

/-- What an opening parenthesis starts, and what is behind its name or its flags. -/
def opening (text : List Char) : Parenthesis × List Char :=
  match text with
  | '?' :: 'P' :: '<' :: name | '?' :: '<' :: name => (.opens, (name.dropWhile (· ≠ '>')).tail)
  | '?' :: listed =>
    match listed.dropWhile listsFlag with
    | ')' :: rest => (.sets (listed.takeWhile listsFlag), rest)
    | stop => (.opensWith (listed.takeWhile listsFlag), stop.tail)
  | _ => (.opens, text)

theorem length_opening_le (text : List Char) : (opening text).2.length ≤ text.length := by
  unfold opening
  split
  · rename_i name
    have shorter := List.length_dropWhile_le (· ≠ '>') name
    simp only [List.length_tail, List.length_cons]
    omega
  · rename_i name
    have shorter := List.length_dropWhile_le (· ≠ '>') name
    simp only [List.length_tail, List.length_cons]
    omega
  · rename_i listed _ _
    have shorter := List.length_dropWhile_le listsFlag listed
    split
    · rename_i rest stops
      rw [stops, List.length_cons] at shorter
      simp only [List.length_cons]
      omega
    · rw [List.length_tail, List.length_cons]
      omega
  · exact Nat.le_refl _

/-- The parentheses of a text, in their order. -/
def scan (text : List Char) : List Parenthesis :=
  match text with
  | [] => []
  | c :: rest =>
    if c = '(' then (opening rest).1 :: scan (opening rest).2
    else if c = ')' then .closes :: scan rest
    else if c = '[' then scan (afterClass rest)
    else if c = '\\' then scan (afterEscape rest)
    else scan rest
termination_by text.length
decreasing_by
  · exact Nat.lt_succ_of_le (length_opening_le rest)
  · exact Nat.lt_succ_self _
  · exact Nat.lt_succ_of_le (length_afterClass_le rest)
  · exact Nat.lt_succ_of_le (length_afterEscape_le rest)
  · exact Nat.lt_succ_self _

/-- Characters that are neither parentheses nor the start of something that may hide some. -/
def IsPlain (c : Char) : Prop := c ≠ '(' ∧ c ≠ ')' ∧ c ≠ '[' ∧ c ≠ '\\'

instance (c : Char) : Decidable (IsPlain c) := inferInstanceAs (Decidable (_ ∧ _))

@[simp] theorem scan_nil : scan [] = [] := by rw [scan]

@[simp] theorem scan_open (rest : List Char) :
    scan ('(' :: rest) = (opening rest).1 :: scan (opening rest).2 := by
  rw [scan, if_pos rfl]

@[simp] theorem scan_close (rest : List Char) : scan (')' :: rest) = .closes :: scan rest := by
  rw [scan, if_neg (by decide), if_pos rfl]

@[simp] theorem scan_bracket (rest : List Char) : scan ('[' :: rest) = scan (afterClass rest) := by
  rw [scan, if_neg (by decide), if_neg (by decide), if_pos rfl]

@[simp] theorem scan_backslash (rest : List Char) : scan ('\\' :: rest) = scan (afterEscape rest) := by
  rw [scan, if_neg (by decide), if_neg (by decide), if_neg (by decide), if_pos rfl]

theorem scan_plain {c : Char} (plain : IsPlain c) (rest : List Char) : scan (c :: rest) = scan rest := by
  obtain ⟨notOpen, notClose, notBracket, notBackslash⟩ := plain
  rw [scan, if_neg notOpen, if_neg notClose, if_neg notBracket, if_neg notBackslash]

theorem scan_append {text : List Char} (plain : ∀ c ∈ text, IsPlain c) (rest : List Char) :
    scan (text ++ rest) = scan rest := by
  induction text with
  | nil => rfl
  | cons c text ih =>
    rw [List.cons_append, scan_plain (plain c List.mem_cons_self)]
    exact ih fun d member => plain d (List.mem_cons_of_mem c member)

/-- Whether letters stand for themselves alone behind a parenthesis, whatever holds in front of it: the
flag for case is listed behind the sign that clears flags. -/
def MindsCase : Parenthesis → Prop
  | .opensWith listed | .sets listed => 'i' ∈ listed.dropWhile (· ≠ '-')
  | .opens | .closes => False

instance (sign : Parenthesis) : Decidable sign.MindsCase := by
  cases sign <;> unfold MindsCase <;> infer_instance

/-! ### Depth -/

/-- How many groups are open at once at most, of which `depth` are open already. -/
def deepest (depth : Nat) : List Parenthesis → Nat
  | [] => depth
  | .opens :: others | .opensWith _ :: others => deepest (depth + 1) others
  | .sets _ :: others => deepest depth others
  | .closes :: others => max depth (deepest (depth - 1) others)

/-- Whether a parenthesis is the start of a group. -/
def IsOpening : Parenthesis → Prop
  | .opens | .opensWith _ => True
  | .sets _ | .closes => False

theorem deepest_opening {sign : Parenthesis} (isOpening : sign.IsOpening) (depth : Nat)
    (others : List Parenthesis) : deepest depth (sign :: others) = deepest (depth + 1) others := by
  cases sign with
  | opens => rfl
  | opensWith => rfl
  | sets => exact absurd isOpening id
  | closes => exact absurd isOpening id

theorem le_deepest (depth : Nat) (signs : List Parenthesis) : depth ≤ deepest depth signs := by
  induction signs generalizing depth with
  | nil => exact Nat.le_refl _
  | cons sign others ih =>
    cases sign with
    | opens => exact Nat.le_trans (Nat.le_succ _) (ih (depth + 1))
    | opensWith => exact Nat.le_trans (Nat.le_succ _) (ih (depth + 1))
    | sets => exact ih depth
    | closes => exact Nat.le_max_left _ _

/-- How deep the groups of a pattern are nested. -/
def groupDepth (pattern : String) : Nat := deepest 0 (scan pattern.toList)

example : groupDepth "(a[(]\\((?i)(?:b(?<c>d)))" = 3 := by decide +kernel

end Parenthesis

end PatternForge
