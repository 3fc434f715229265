import PatternForge.Text.Shown

/-!
Arguments of a command line. They are bytes; letters behind one hyphen are options that may be
chained, a word behind two hyphens is an option, and either may carry a value. `ArgumentReader.next`
gives the next option or plain value, `ArgumentReader.value` the value of the option just read.
-/
namespace PatternForge.CommandLine

/-- An argument. -/
abbrev Argument := List UInt8

/-- What an argument, or a part of one, says. -/
inductive Token where
  | short (letter : Char)
  | long (name : String)
  | plain (value : Argument)
  deriving DecidableEq, Repr

/-- What can be wrong with arguments before they are given a meaning. -/
inductive ArgumentFault where
  /-- An option comes last but needs a value. -/
  | missingValue (option : String)
  /-- An option does not exist. -/
  | unknownOption (option : String)
  /-- An option carries a value but takes none. -/
  | unwantedValue (option : String) (value : Argument)
  /-- A value is no text. -/
  | notText (value : Argument)
  deriving DecidableEq, Repr

/-- The fault, in words. -/
def ArgumentFault.message : ArgumentFault → String
  | missingValue option => s!"missing argument for option '{option}'"
  | unknownOption option => s!"invalid option '{option}'"
  | unwantedValue option value =>
    s!"unexpected argument for option '{option}': " ++ Text.Shown.quotedBytes value
  | notText value => "argument is invalid unicode: " ++ Text.Shown.quotedBytes value

/-- What is left of the argument that is being read. -/
inductive Remainder where
  /-- Nothing. -/
  | nothing
  /-- A value that was joined to a long option. -/
  | joined (value : Argument)
  /-- A chain of letters; `started` tells whether one has been read already. -/
  | letters (chain : List UInt8) (started : Bool)
  deriving DecidableEq, Repr

/-- Where the reader of arguments stands. -/
structure ArgumentReader where
  /-- The arguments that have not been touched. -/
  rest : List Argument
  /-- What is left of the last one. -/
  remainder : Remainder := .nothing
  /-- The option read last, as it was written. -/
  option : String := ""
  /-- Whether all arguments from here on are plain. -/
  onlyPlain : Bool := false

namespace ArgumentReader

/-- The code of the hyphen. -/
def hyphen : UInt8 := 45

/-- The code of the equals sign. -/
def equals : UInt8 := 61

/-- An upper bound on the tokens that some arguments hold. -/
def extent : List Argument → Nat
  | [] => 0
  | argument :: rest => argument.length + 1 + extent rest

/-- An upper bound on the tokens that are left. -/
def measure (r : ArgumentReader) : Nat :=
  extent r.rest +
    match r.remainder with
    | .letters chain _ => chain.length
    | _ => 0

/-- Reads the next letter of a chain. A sign of equality behind a letter is a value that nobody
asked for. -/
def nextLetter (r : ArgumentReader) (chain : List UInt8) (started : Bool) :
    Except ArgumentFault (Token × ArgumentReader) :=
  match Text.Utf8.pieces chain with
  | .char c :: _ =>
    if c = '=' && started then .error (.unwantedValue r.option (chain.drop 1))
    else
      .ok (.short c, { r with
        remainder := .letters (chain.drop c.utf8Size) true
        option := "-" ++ c.toString })
  | _ =>
    let c := Char.ofNat 0xFFFD
    .ok (.short c, { r with
      remainder := .letters (chain.drop 1) true
      option := "-" ++ c.toString })

/-- Reads a long option, whose value may be joined to it. -/
def nextLong (r : ArgumentReader) (argument : Argument) : Token × ArgumentReader :=
  let written := argument.takeWhile (· ≠ equals)
  let remainder : Remainder :=
    match argument.drop written.length with
    | _ :: value => .joined value
    | [] => .nothing
  (.long (Text.Utf8.lossy (written.drop 2)),
    { r with remainder, option := Text.Utf8.lossy written })

/-- Reads the next token from arguments that have not been touched. -/
def nextArgument (r : ArgumentReader) : Except ArgumentFault (Option (Token × ArgumentReader)) :=
  match r.rest with
  | [] => .ok none
  | argument :: rest =>
    let r := { r with rest, remainder := .nothing }
    if r.onlyPlain then .ok (some (.plain argument, r))
    else if argument = [hyphen, hyphen] then
      match rest with
      | [] => .ok none
      | value :: rest => .ok (some (.plain value, { r with rest, onlyPlain := true }))
    else
      match argument with
      | first :: second :: more =>
        if first ≠ hyphen then .ok (some (.plain argument, r))
        else if second = hyphen then .ok (some (r.nextLong argument))
        else (r.nextLetter (second :: more) false).map some
      | _ => .ok (some (.plain argument, r))

/-- Reads the next token, if there is one. -/
def next (r : ArgumentReader) : Except ArgumentFault (Option (Token × ArgumentReader)) :=
  match r.remainder with
  | .joined value => .error (.unwantedValue r.option value)
  | .letters (b :: chain) started => (r.nextLetter (b :: chain) started).map some
  | .letters [] _ | .nothing => r.nextArgument

/-- Reads the value of the option read last: what is joined to it, or else the next argument as a
whole. -/
def value (r : ArgumentReader) : Except ArgumentFault (Argument × ArgumentReader) :=
  let r' := { r with remainder := .nothing }
  match r.remainder with
  | .joined value => .ok (value, r')
  | .letters (b :: chain) _ => .ok (if b = equals then chain else b :: chain, r')
  | .letters [] _ | .nothing =>
    match r.rest with
    | value :: rest => .ok (value, { r' with rest })
    | [] => .error (.missingValue r.option)

theorem measure_nextLetter {r r' : ArgumentReader} {b : UInt8} {chain : List UInt8}
    {started : Bool} {token : Token}
    (read : r.nextLetter (b :: chain) started = .ok (token, r')) :
    r'.measure < extent r.rest + (chain.length + 1) := by
  unfold nextLetter at read
  split at read
  · split at read
    · cases read
    · rename_i c _ _ _
      cases read
      have := c.utf8Size_pos
      simp only [measure, List.length_drop, List.length_cons]
      omega
  · cases read
    simp [measure]

theorem measure_nextLong (r : ArgumentReader) (argument : Argument) :
    (r.nextLong argument).2.measure = extent r.rest := by
  simp only [nextLong, measure]
  split <;> rename_i isLetters
  · split at isLetters <;> cases isLetters
  · rfl

theorem measure_nextArgument {r r' : ArgumentReader} {token : Token}
    (read : r.nextArgument = .ok (some (token, r'))) :
    r'.measure < extent r.rest := by
  unfold nextArgument at read
  split at read
  · cases read
  · rename_i argument rest isRest
    rw [isRest]
    simp only at read
    split at read
    · cases read
      simp [measure, extent]
    · split at read
      · split at read <;> cases read
        simp [measure, extent]
        omega
      · split at read
        · rename_i first second more _
          split at read
          · cases read
            simp [measure, extent]
          · split at read
            · simp only [Except.ok.injEq, Option.some.injEq] at read
              have := measure_nextLong
                { rest, remainder := .nothing, option := r.option, onlyPlain := r.onlyPlain }
                (first :: second :: more)
              rw [read] at this
              simp only [extent, List.length_cons] at this ⊢
              omega
            · revert read
              generalize isLetter : nextLetter _ _ _ = letter
              cases letter with
              | error fault => intro read; cases read
              | ok pair =>
                intro read
                cases read
                have := measure_nextLetter isLetter
                simp only [extent, List.length_cons]
                simp only at this
                omega
        · cases read
          simp [measure, extent]

/-- Reading a token leaves less to read. -/
theorem measure_next {r r' : ArgumentReader} {token : Token}
    (read : r.next = .ok (some (token, r'))) : r'.measure < r.measure := by
  unfold next at read
  split at read
  · cases read
  · rename_i b chain started isLetters
    revert read
    generalize isLetter : nextLetter _ _ _ = letter
    cases letter with
    | error fault => intro read; cases read
    | ok pair =>
      intro read
      cases read
      have := measure_nextLetter isLetter
      simp only [measure, isLetters, List.length_cons] at this ⊢
      omega
  all_goals
    have := measure_nextArgument read
    simp only [measure] at this ⊢
    omega

/-- Reading a value leaves no more to read than before. -/
theorem measure_value {r r' : ArgumentReader} {value : Argument}
    (read : r.value = .ok (value, r')) : r'.measure ≤ r.measure := by
  unfold ArgumentReader.value at read
  dsimp only at read
  split at read
  · cases read
    simp [measure]
  · cases read
    simp [measure]
  all_goals
    split at read <;> cases read
    rename_i isRest
    simp [measure, extent, isRest]
    omega

end ArgumentReader

end PatternForge.CommandLine
