import PatternForge.Reading.Settings

/-!
What may follow an opening parenthesis: nothing, a group name, or flags, which either hold for a
group of their own or to the end of the group around them. `GroupPrefix.read` starts behind the
parenthesis.
-/
namespace PatternForge

/-- What kind of group an opening parenthesis and its prefix announce. -/
inductive GroupPrefix where
  /-- A numbered group, with a name perhaps. -/
  | capturing (name : Option String)
  /-- A group without a number, under new flags. -/
  | flagged (flags : Flags)
  /-- No group: the flags hold from here to the end of the group around. The cursor is left at the
  closing parenthesis. -/
  | directive (flags : Flags)

namespace GroupPrefix

/-- Whether a character may stand in a group name. -/
def isNameChar (data : CharacterData) (isFirst : Bool) (c : Char) : Bool :=
  if isFirst then c = '_' || data.alphabetic c
  else c = '_' || c = '.' || c = '[' || c = ']' || data.alphabetic c || data.numeric c

/-- The characters of a group name from the start of some text. -/
def nameChars (data : CharacterData) : List Char → List Char
  | [] => []
  | c :: rest =>
    if isNameChar data true c then c :: rest.takeWhile (isNameChar data false) else []

/-- What may not stand in a name does not stand in one. -/
theorem not_mem_nameChars {data : CharacterData} {mark : Char}
    (excluded : ∀ isFirst, isNameChar data isFirst mark = false) (text : List Char) :
    mark ∉ nameChars data text := by
  have never : ∀ isFirst, ¬isNameChar data isFirst mark = true := by simp [excluded]
  intro member
  cases text with
  | nil => cases member
  | cons c rest =>
    rw [nameChars] at member
    split at member
    · rename_i isFirst
      rcases List.mem_cons.mp member with rfl | member
      · exact never true isFirst
      · exact never false (List.all_eq_true.mp List.all_takeWhile _ member)
    · cases member

/-- A text begins with its name. -/
theorem nameChars_append_drop (data : CharacterData) (text : List Char) :
    nameChars data text ++ text.drop (nameChars data text).length = text := by
  refine List.prefix_iff_eq_append.mp ?_
  cases text with
  | nil => exact List.prefix_rfl
  | cons c rest =>
    rw [nameChars]
    split
    · exact List.cons_prefix_cons.mpr ⟨rfl, List.takeWhile_prefix _⟩
    · exact List.nil_prefix

/-- What ends a name ends it again, whatever follows. -/
theorem nameChars_again {data : CharacterData} {text others : List Char} {c : Char}
    (stopped : text.drop (nameChars data text).length = c :: others) (more : List Char) :
    nameChars data (nameChars data text ++ c :: more) = nameChars data text := by
  cases text with
  | nil => cases stopped
  | cons d text =>
    by_cases isFirst : isNameChar data true d = true
    · simp only [nameChars, isFirst, ↓reduceIte, List.length_cons, List.drop_succ_cons,
        List.cons_append] at stopped ⊢
      have all := List.all_eq_true.mp (List.all_takeWhile (p := isNameChar data false) (l := text))
      have whole := List.takeWhile_append_dropWhile (p := isNameChar data false) (l := text)
      have past := congrArg (List.drop (text.takeWhile (isNameChar data false)).length) whole
      rw [List.drop_left] at past
      have stops := List.head?_dropWhile_not (isNameChar data false) text
      rw [past, stopped] at stops
      rw [List.takeWhile_append_of_pos all, List.takeWhile_cons_of_neg (by simpa using stops),
        List.append_nil]
    · have isLast : d = c := by
        simp only [nameChars, isFirst, Bool.false_eq_true, ↓reduceIte] at stopped
        exact (List.cons.inj stopped).1
      simp [nameChars, isFirst, ← isLast]

/-- Where a name ends within a text, it does not matter what follows the text. -/
theorem nameChars_append {data : CharacterData} {text : List Char}
    (stops : text.drop (nameChars data text).length ≠ []) (more : List Char) :
    nameChars data (text ++ more) = nameChars data text := by
  obtain ⟨c, others, stopped⟩ := List.exists_cons_of_ne_nil stops
  have whole : nameChars data text ++ c :: others = text := by
    rw [← stopped, nameChars_append_drop]
  have longer : text ++ more = nameChars data text ++ c :: (others ++ more) := by
    rw [← List.cons_append, ← List.append_assoc, whole]
  rw [longer]
  exact nameChars_again stopped _

/-- Reads a group name up to and including the closing angle. The cursor is at its first
character. -/
def name (data : CharacterData) (taken : List String) (start : Cursor) :
    Except Failure (String × Cursor) :=
  let chars := nameChars data start.rest
  let stop := start.skipMany chars.length
  match stop.rest with
  | [] =>
    .error (if chars.isEmpty then .malformed start.offset .missingGroupName
      else .malformed start.offset .unclosedGroupName)
  | c :: _ =>
    if c ≠ '>' then .error (.malformed stop.offset .invalidGroupName)
    else if chars.isEmpty then .error (.malformed start.offset .emptyGroupName)
    else if taken.contains (String.ofList chars) then
      .error (.malformed start.offset .duplicateGroupName)
    else .ok (String.ofList chars, stop.skip)

/-- The flags with one of them set or cleared; `none` for a letter that is no flag. -/
def applyFlag (flags : Flags) (on : Bool) (c : Char) : Option Flags :=
  match c with
  | 'i' => some { flags with ignoreCase := on }
  | 'm' => some { flags with multiLine := on }
  | 's' => some { flags with dotNewLine := on }
  | 'U' => some { flags with swapGreed := on }
  | 'u' => some flags
  | _ => none

/-- The state of reading flags: what they are so far, whether they are being cleared, whether the
last character was the sign of clearing, and which letters were seen. -/
structure FlagState where
  flags : Flags
  negated : Bool := false
  afterSign : Bool := false
  seen : List Char := []

/-- Takes one character of a list of flags into account. -/
def flagStep (state : FlagState) (here : Cursor) (c : Char) : Except Failure FlagState :=
  if c = '-' then
    if state.negated then .error (.malformed here.offset .repeatedFlagNegation)
    else .ok { state with negated := true, afterSign := true }
  else
    match applyFlag state.flags (!state.negated) c with
    | none => .error (.unsupported here.offset c.toString)
    | some flags =>
      if state.seen.contains c then .error (.malformed here.offset .duplicateFlag)
      else .ok { state with flags, afterSign := false, seen := c :: state.seen }

/-- Reads flags up to a colon or a closing parenthesis, where the cursor is left. -/
def flagList (state : FlagState) (here : Cursor) : Except Failure (Flags × Cursor) :=
  match _next : here.rest with
  | [] => .error (.malformed here.offset .unfinishedFlags)
  | c :: _ =>
    if c = ':' ∨ c = ')' then
      if state.afterSign then .error (.malformed here.offset .danglingFlagNegation)
      else .ok (state.flags, here)
    else
      match flagStep state here c with
      | .error failure => .error failure
      | .ok state' => flagList state' here.skip
termination_by here.rest.length
decreasing_by exact Cursor.length_skip_lt _next

theorem flagList_atEnd (state : FlagState) {here : Cursor} (none : here.rest = []) :
    flagList state here = .error (.malformed here.offset .unfinishedFlags) := by
  rw [flagList]
  split
  · rfl
  · rename_i more
    rw [none] at more
    cases more

theorem flagList_more (state : FlagState) {here : Cursor} {c : Char} {rest : List Char}
    (next : here.rest = c :: rest) :
    flagList state here =
      if c = ':' ∨ c = ')' then
        if state.afterSign then .error (.malformed here.offset .danglingFlagNegation)
        else .ok (state.flags, here)
      else
        match flagStep state here c with
        | .error failure => .error failure
        | .ok state' => flagList state' here.skip := by
  rw [flagList]
  split
  · rename_i none
    rw [next] at none
    cases none
  · rename_i next'
    cases next.symm.trans next'
    rfl

/-- A letter in a list of flags sets or clears its flag. -/
theorem flagList_letter {state : FlagState} {here : Cursor} {flags : Flags} {c : Char} {rest : List Char}
    (next : here.rest = c :: rest) (isLetter : c ≠ ':' ∧ c ≠ ')' ∧ c ≠ '-')
    (sets : applyFlag state.flags (!state.negated) c = some flags) (isNew : c ∉ state.seen) :
    flagList state here =
      flagList { state with flags, afterSign := false, seen := c :: state.seen } here.skip := by
  have new : ¬state.seen.contains c = true := by simpa using isNew
  rw [flagList_more state next, if_neg (by simp [isLetter])]
  simp only [flagStep, if_neg isLetter.2.2, sets, if_neg new]

/-- Reads flags and the character that ends them. `start` is the opening parenthesis, the cursor is
after the question mark. -/
def readFlags (flags : Flags) (start here : Cursor) : Except Failure (GroupPrefix × Cursor) :=
  if here.atEnd then .error (.malformed start.offset .unclosedGroupQuestion)
  else
    match flagList { flags } here with
    | .error failure => .error failure
    | .ok (flags', stop) =>
      if stop.rest.head? = some ')' then
        if stop.offset = here.offset then .error (.malformed start.offset .emptyFlags)
        else .ok (.directive flags', stop)
      else .ok (.flagged flags', stop.skip)

/-- The prefixes of look-around and of atomic groups, which are not supported. -/
def lookAround? (here : Cursor) : Option Cursor :=
  [['?', '='], ['?', '!'], ['?', '<', '='], ['?', '<', '!'], ['?', '>']].findSome? here.afterText?

/-- The opening of a group name. -/
def nameOpening? (here : Cursor) : Option Cursor :=
  [['?', 'P', '<'], ['?', '<']].findSome? here.afterText?

/-- Reads what follows an opening parenthesis at `start`. -/
def read (data : CharacterData) (flags : Flags) (taken : List String) (start : Cursor) :
    Except Failure (GroupPrefix × Cursor) :=
  let here := start.skip
  match lookAround? here with
  | some after => .error (.unsupported start.offset (start.textTo after))
  | none =>
    match nameOpening? here with
    | some nameStart =>
      (fun found => (.capturing (some found.1), found.2)) <$> name data taken nameStart
    | none =>
      if here.rest.head? = some '?' then readFlags flags start here.skip
      else .ok (.capturing none, here)

theorem reaches_name {data : CharacterData} {taken : List String} {start after : Cursor}
    {found : String} (read : name data taken start = .ok (found, after)) :
    start.Reaches after := by
  unfold name at read
  dsimp only at read
  split at read
  · cases read
  · split at read
    · cases read
    · split at read
      · cases read
      · split at read <;> cases read
        exact (Cursor.reaches_skipMany _ _).trans (Cursor.reaches_skip _)

theorem reaches_flagList {state : FlagState} {here after : Cursor} {flags : Flags}
    (read : flagList state here = .ok (flags, after)) : here.Reaches after := by
  fun_induction flagList state here with
  | case1 => cases read
  | case2 => cases read
  | case3 => cases read; exact Cursor.Reaches.refl _
  | case4 => cases read
  | case5 state here c rest next going state' stepped ih =>
    exact (Cursor.reaches_skip here).trans (ih read)

/-- Behind the flags stands one of the characters that end them. -/
theorem stop_of_flagList {state : FlagState} {here stop : Cursor} {flags : Flags}
    (read : flagList state here = .ok (flags, stop)) :
    ∃ c rest, stop.rest = c :: rest ∧ (c = ':' ∨ c = ')') := by
  fun_induction flagList state here with
  | case1 => cases read
  | case2 => cases read
  | case3 state here c rest next ends =>
    cases read
    exact ⟨c, rest, next, ends⟩
  | case4 => cases read
  | case5 state here c rest next going state' stepped ih => exact ih read

theorem reaches_readFlags {flags : Flags} {start here after : Cursor} {found : GroupPrefix}
    (read : readFlags flags start here = .ok (found, after)) : here.Reaches after := by
  unfold readFlags at read
  split at read
  · cases read
  · split at read
    · cases read
    · rename_i flags' stop isFlags
      have moved := reaches_flagList isFlags
      split at read
      · split at read <;> cases read
        exact moved
      · cases read
        exact moved.trans (Cursor.reaches_skip _)

theorem reaches_nameOpening {here after : Cursor} (found : nameOpening? here = some after) :
    here.Reaches after := by
  obtain ⟨text, _, isFound⟩ := List.exists_of_findSome?_eq_some found
  exact Cursor.reaches_afterText isFound

theorem reaches_read {data : CharacterData} {flags : Flags} {taken : List String}
    {start after : Cursor} {found : GroupPrefix}
    (read' : read data flags taken start = .ok (found, after)) : start.skip.Reaches after := by
  unfold read at read'
  dsimp only at read'
  split at read'
  · cases read'
  · split at read'
    · rename_i nameStart isOpening
      revert read'
      cases isName : name data taken nameStart with
      | error failure => intro read'; cases read'
      | ok pair =>
        intro read'
        cases read'
        exact (reaches_nameOpening isOpening).trans (reaches_name isName)
    · split at read'
      · exact (Cursor.reaches_skip _).trans (reaches_readFlags read')
      · cases read'
        exact Cursor.Reaches.refl _

/-- The prefix of flags that open no group ends at a closing parenthesis. -/
theorem close_of_directive {data : CharacterData} {flags flags' : Flags} {names : List String}
    {start close : Cursor} (read' : read data flags names start = .ok (.directive flags', close)) :
    ∃ rest, close.rest = ')' :: rest := by
  unfold read at read'
  dsimp only at read'
  split at read'
  · cases read'
  · split at read'
    · rename_i nameStart _
      cases isName : name data names nameStart with
      | error failure => rw [isName] at read'; cases read'
      | ok found => rw [isName] at read'; cases read'
    · split at read'
      · unfold readFlags at read'
        split at read'
        · cases read'
        · split at read'
          · cases read'
          · split at read'
            · rename_i isClose
              split at read' <;> cases read'
              exact List.head?_eq_some_iff.mp isClose
            · cases read'
      · cases read'

end GroupPrefix

end PatternForge
