import Mathlib.Data.List.Forall2
import PatternForge.CommandLine.Program

/-!
The options that arguments consist of. `Command.split` takes the options off one by one, each with its value
if it takes one, and does not ask what the values say; `GivenOption.setting` does. The settings of a command
are accepted exactly if each option is (`readSettings_iff`), so what an option says does not depend on the
options around it.

Options that are complete by themselves can be written one behind the other: the arguments are split between them
(`Command.split_flatten`).
-/
namespace PatternForge.CommandLine

theorem exists_of_map_ok {ε α β : Type} {f : α → β} {x : Except ε α} {y : β} (mapped : f <$> x = .ok y) :
    ∃ given, x = .ok given ∧ f given = y := by
  cases x with
  | error failure => cases mapped
  | ok given => exact ⟨given, rfl, Except.ok.inj mapped⟩

/-- An option as it is given: its name, and its value if it takes one. A plain argument is an option by itself. -/
structure GivenOption where
  token : Token
  value : Option Argument
  deriving DecidableEq, Repr

/-- Whether a token is an option of a command that takes a value. -/
def Command.takesValue (command : Command) (token : Token) : Bool :=
  match command.meaning? token with
  | some (.valued _ _) => true
  | _ => false

/-- Takes the next option off, with its value. -/
def Command.takeOption (command : Command) (reader : ArgumentReader) :
    Except ArgumentFault (Option (GivenOption × ArgumentReader)) :=
  match reader.next with
  | .error fault => .error fault
  | .ok none => .ok none
  | .ok (some (token, reader)) =>
    if command.takesValue token then
      match reader.value with
      | .error fault => .error fault
      | .ok (value, reader) => .ok (some ({ token, value := some value }, reader))
    else .ok (some ({ token, value := none }, reader))

theorem Command.measure_takeOption {command : Command} {reader reader' : ArgumentReader} {option : GivenOption}
    (taken : command.takeOption reader = .ok (some (option, reader'))) : reader'.measure < reader.measure := by
  unfold takeOption at taken
  split at taken
  · cases taken
  · cases taken
  · rename_i token between next
    have first := ArgumentReader.measure_next next
    split at taken
    · split at taken
      · cases taken
      · rename_i value after isValue
        cases taken
        exact Nat.lt_of_le_of_lt (ArgumentReader.measure_value isValue) first
    · cases taken
      exact first

/-- Takes all options off. -/
def Command.splitFrom (command : Command) (reader : ArgumentReader) : Except ArgumentFault (List GivenOption) :=
  match _taken : command.takeOption reader with
  | .error fault => .error fault
  | .ok none => .ok []
  | .ok (some (option, reader')) => (option :: ·) <$> command.splitFrom reader'
termination_by reader.measure
decreasing_by exact Command.measure_takeOption _taken

/-- The options that arguments consist of. -/
def Command.split (command : Command) (arguments : List Argument) : Except ArgumentFault (List GivenOption) :=
  command.splitFrom { rest := arguments }

/-- What an option says to a command. -/
def GivenOption.setting (command : Command) (option : GivenOption) : Except Complaint Setting :=
  if option.token = .short 'h' || option.token = .long "help" then
    .error (.help (command.help (option.token = .long "help")))
  else
    match command.meaning? option.token, option.value with
    | some (.alone setting), _ => setting
    | some (.valued _ read), some value => read value
    | _, _ => .error (.argument (.unknownOption option.token.written))

/-- What options say to a command, one after another, if all of them are accepted. -/
def Command.Accepts (command : Command) : List GivenOption → List Setting → Prop :=
  List.Forall₂ fun option setting => option.setting command = .ok setting

variable {command : Command} {reader reader' : ArgumentReader} {found settings : List Setting}
  {option : GivenOption}
  {setting : Setting}

theorem setting_of_help {token : Token} (help : token = .short 'h' ∨ token = .long "help")
    (value : Option Argument) : GivenOption.setting command ⟨token, value⟩ ≠ .ok setting := by
  unfold GivenOption.setting
  rw [if_pos (by simpa using help)]
  nofun

theorem setting_of_not_help {token : Token} (other : ¬(token = .short 'h' ∨ token = .long "help"))
    (value : Option Argument) :
    GivenOption.setting command ⟨token, value⟩ =
      match command.meaning? token, value with
      | some (.alone setting), _ => setting
      | some (.valued _ read), some value => read value
      | _, _ => .error (.argument (.unknownOption token.written)) := by
  unfold GivenOption.setting
  rw [if_neg (by simpa using other)]

theorem takeOption_of_next {token : Token} {between : ArgumentReader}
    (next : reader.next = .ok (some (token, between))) : command.takeOption reader =
      if command.takesValue token then
        between.value.map fun (value, after) => some ({ token, value := some value }, after)
      else .ok (some ({ token, value := none }, between)) := by
  unfold Command.takeOption
  rw [next]
  dsimp only
  cases between.value <;> rfl

theorem takeOption_eq_none : command.takeOption reader = .ok none ↔ reader.next = .ok none := by
  unfold Command.takeOption
  split <;> rename_i next
  · simp [next]
  · simp [next]
  · simp only [next]
    split
    · split <;> simp
    · simp

/-- An option that is taken off is accepted if it has a meaning that makes a setting of it. -/
theorem accepted_iff {token : Token} {between after : ArgumentReader}
    (next : reader.next = .ok (some (token, between))) :
    (∃ option, command.takeOption reader = .ok (some (option, after)) ∧ option.setting command = .ok setting) ↔
      ¬(token = .short 'h' ∨ token = .long "help") ∧
        ∃ meaning, command.meaning? token = some meaning ∧ meaning.setting between = .ok (setting, after) := by
  rw [takeOption_of_next next]
  by_cases help : token = .short 'h' ∨ token = .long "help"
  · refine iff_of_false ?_ fun accepted => accepted.1 help
    rintro ⟨option, taken, accepted⟩
    split at taken
    · cases isValue : between.value with
      | error fault => simp [isValue, Except.map] at taken
      | ok pair =>
        rw [isValue] at taken
        cases taken
        exact setting_of_help help _ accepted
    · cases taken
      exact setting_of_help help _ accepted
  · rw [and_iff_right help]
    unfold Command.takesValue
    cases isMeaning : command.meaning? token with
    | none => simp [setting_of_not_help help, isMeaning]
    | some meaning =>
      cases meaning with
      | alone given =>
        cases given <;> simp [setting_of_not_help help, isMeaning, Meaning.setting, Except.map, and_comm]
      | valued place read =>
        cases isValue : between.value with
        | error fault => simp [Meaning.setting, isValue, Except.map]
        | ok pair =>
          cases said : read pair.1 <;>
            simp [setting_of_not_help help, isMeaning, Meaning.setting, isValue, said, Except.map, and_comm]

/-- **One step of reading settings**: the arguments end, or the next option is accepted. -/
theorem readSettings_step : readSettings command reader found = (settings, none) ↔
    command.takeOption reader = .ok none ∧ settings = found.reverse ∨
      ∃ option reader' setting, command.takeOption reader = .ok (some (option, reader')) ∧
        option.setting command = .ok setting ∧
          readSettings command reader' (setting :: found) = (settings, none) := by
  rw [readSettings]
  split
  · rename_i fault next
    simp [Command.takeOption, next]
  · rename_i next
    rw [takeOption_eq_none.2 next]
    simp [eq_comm]
  · rename_i token between next
    constructor
    · intro ended
      split at ended
      · cases ended
      · rename_i other
        split at ended
        · cases ended
        · rename_i meaning isMeaning
          split at ended
          · cases ended
          · rename_i setting after isSetting
            obtain ⟨option, taken, accepted⟩ :=
              (accepted_iff next).2 ⟨by simpa using other, meaning, isMeaning, isSetting⟩
            exact .inr ⟨option, after, setting, taken, accepted, ended⟩
    · rintro (⟨ended, -⟩ | ⟨option, after, setting, taken, accepted, ended⟩)
      · rw [takeOption_eq_none, next] at ended
        cases ended
      · obtain ⟨other, meaning, isMeaning, isSetting⟩ := (accepted_iff next).1 ⟨option, taken, accepted⟩
        rw [if_neg (by simpa using other), isMeaning]
        dsimp only
        split
        · rename_i refused
          cases isSetting.symm.trans refused
        · rename_i isSetting'
          cases isSetting.symm.trans isSetting'
          exact ended

/-- What splitting comes to, one option at a time. -/
theorem splitFrom_eq (reader : ArgumentReader) : command.splitFrom reader =
    match command.takeOption reader with
    | .error fault => .error fault
    | .ok none => .ok []
    | .ok (some (option, after)) => (option :: ·) <$> command.splitFrom after := by
  rw [Command.splitFrom]
  split <;> rename_i taken <;> rw [taken]

theorem splitFrom_of_none (taken : command.takeOption reader = .ok none) : command.splitFrom reader = .ok [] := by
  rw [splitFrom_eq, taken]

theorem splitFrom_of_some (taken : command.takeOption reader = .ok (some (option, reader'))) :
    command.splitFrom reader = (option :: ·) <$> command.splitFrom reader' := by
  rw [splitFrom_eq, taken]

/-- Arguments that hold one option. -/
theorem split_of_single {arguments : List Argument} {last : ArgumentReader}
    (taken : command.takeOption { rest := arguments } = .ok (some (option, last)))
    (ends : command.takeOption last = .ok none) : command.split arguments = .ok [option] := by
  rw [Command.split, splitFrom_of_some taken, splitFrom_of_none ends]
  rfl

/-- **Settings are accepted** exactly if the arguments can be split and each option is accepted. -/
theorem readSettings_iff : readSettings command reader found = (settings, none) ↔
    ∃ options said, command.splitFrom reader = .ok options ∧ command.Accepts options said ∧
      settings = found.reverse ++ said := by
  induction len : reader.measure using Nat.strongRecOn generalizing reader found with
  | ind size ih =>
    subst len
    rw [readSettings_step]
    constructor
    · rintro (⟨taken, rfl⟩ | ⟨option, after, setting, taken, accepted, rest⟩)
      · exact ⟨[], [], splitFrom_of_none taken, .nil, by simp⟩
      · obtain ⟨options, said, isSplit, each, rfl⟩ := (ih _ (Command.measure_takeOption taken) rfl).1 rest
        refine ⟨option :: options, setting :: said, ?_, .cons accepted each, by simp⟩
        rw [splitFrom_of_some taken, isSplit]
        rfl
    · rintro ⟨options, said, isSplit, each, rfl⟩
      rw [splitFrom_eq] at isSplit
      split at isSplit
      · cases isSplit
      · rename_i taken
        cases isSplit
        cases each
        exact .inl ⟨taken, by simp⟩
      · rename_i option after taken
        obtain ⟨others, isOthers, rfl⟩ := exists_of_map_ok isSplit
        cases each with
        | @cons _ setting _ said accepted each =>
          refine .inr ⟨option, after, setting, taken, accepted, ?_⟩
          exact (ih _ (Command.measure_takeOption taken) rfl).2 ⟨others, said, isOthers, each, by simp⟩

/-! ## Options one behind the other -/

/-- Nothing is left of the argument that was read last. -/
def ArgumentReader.Finished (reader : ArgumentReader) : Prop :=
  reader.remainder = .nothing ∨ ∃ started, reader.remainder = .letters [] started

/-- A reader of some arguments, and one of the same arguments with more behind them, at the same place. What
option was read last only shows in complaints. -/
structure Extended (more : List Argument) (reader extended : ArgumentReader) : Prop where
  rest : extended.rest = reader.rest ++ more
  options : reader.onlyPlain = false
  options' : extended.onlyPlain = false
  remainder : extended.remainder = reader.remainder ∨ reader.Finished ∧ extended.Finished
  noEnd : [ArgumentReader.hyphen, ArgumentReader.hyphen] ∉ reader.rest

theorem next_of_finished (finished : reader.Finished) : reader.next = reader.nextArgument := by
  unfold ArgumentReader.next
  obtain isNothing | ⟨started, isLetters⟩ := finished
  · rw [isNothing]
  · rw [isLetters]

variable {more : List Argument} {extended : ArgumentReader} {token : Token} {options others : List GivenOption}

theorem Extended.nextLetter (same : Extended more reader extended) {chain : List UInt8} {started : Bool}
    (read : reader.nextLetter chain started = .ok (token, reader')) :
    ∃ extended', extended.nextLetter chain started = .ok (token, extended') ∧ Extended more reader' extended' := by
  unfold ArgumentReader.nextLetter at read ⊢
  split at read
  · split at read
    · cases read
    · cases read
      exact ⟨_, if_neg ‹_›, same.rest, same.options, same.options', .inl rfl, same.noEnd⟩
  · cases read
    exact ⟨_, rfl, same.rest, same.options, same.options', .inl rfl, same.noEnd⟩

theorem Extended.nextArgument (same : Extended more reader extended)
    (read : reader.nextArgument = .ok (some (token, reader'))) :
    ∃ extended', extended.nextArgument = .ok (some (token, extended')) ∧ Extended more reader' extended' := by
  unfold ArgumentReader.nextArgument at read ⊢
  cases isRest : reader.rest with
  | nil => simp [isRest] at read
  | cons argument rest =>
    have noEnd := same.noEnd
    rw [isRest, List.mem_cons, not_or] at noEnd
    simp only [isRest, same.rest, same.options, same.options', List.cons_append, Bool.false_eq_true, if_false,
      if_neg (Ne.symm noEnd.1)] at read ⊢
    have behind (remainder : Remainder) (option option' : String) :
        Extended more { rest, remainder, option } { rest := rest ++ more, remainder, option := option' } :=
      ⟨rfl, rfl, rfl, .inl rfl, noEnd.2⟩
    split at read
    · rename_i first second chain
      split at read
      · cases read
        exact ⟨_, if_pos ‹_›, behind ..⟩
      · rw [if_neg ‹_›]
        split at read
        · rw [if_pos ‹_›]
          cases read
          exact ⟨_, rfl, behind ..⟩
        · rw [if_neg ‹_›]
          generalize isLetter : ArgumentReader.nextLetter _ _ _ = letter at read
          cases letter with
          | error fault => cases read
          | ok pair =>
            cases read
            obtain ⟨after, read, same⟩ := (behind .nothing _ extended.option).nextLetter isLetter
            exact ⟨after, by rw [read]; rfl, same⟩
    · cases read
      exact ⟨_, rfl, behind _ _ extended.option⟩

theorem Extended.next (same : Extended more reader extended) (read : reader.next = .ok (some (token, reader'))) :
    ∃ extended', extended.next = .ok (some (token, extended')) ∧ Extended more reader' extended' := by
  obtain alike | ⟨finished, finished'⟩ := same.remainder
  · unfold ArgumentReader.next at read ⊢
    rw [alike]
    split at read
    · cases read
    · generalize isLetter : ArgumentReader.nextLetter _ _ _ = letter at read
      cases letter with
      | error fault => cases read
      | ok pair =>
        cases read
        obtain ⟨after, read, same⟩ := same.nextLetter isLetter
        exact ⟨after, by rw [read]; rfl, same⟩
    all_goals exact same.nextArgument read
  · rw [next_of_finished finished] at read
    rw [next_of_finished finished']
    exact same.nextArgument read

theorem Extended.value (same : Extended more reader extended) {value : Argument}
    (read : reader.value = .ok (value, reader')) :
    ∃ extended', extended.value = .ok (value, extended') ∧ Extended more reader' extended' := by
  have next (finished : reader.Finished) (finished' : extended.Finished) :
      ∃ extended', extended.value = .ok (value, extended') ∧ Extended more reader' extended' := by
    cases isRest : reader.rest with
    | nil => obtain alone | ⟨_, alone⟩ := finished <;> simp [ArgumentReader.value, alone, isRest] at read
    | cons first rest =>
      have noEnd := same.noEnd
      rw [isRest, List.mem_cons, not_or] at noEnd
      have isRest' : extended.rest = first :: (rest ++ more) := by rw [same.rest, isRest, List.cons_append]
      have read' : reader.value = .ok (first, { reader with rest, remainder := .nothing }) := by
        obtain alone | ⟨_, alone⟩ := finished <;> simp only [ArgumentReader.value, alone, isRest]
      rw [read, Except.ok.injEq, Prod.mk.injEq] at read'
      obtain ⟨rfl, rfl⟩ := read'
      refine ⟨{ extended with rest := rest ++ more, remainder := .nothing }, ?_,
        rfl, same.options, same.options', .inl rfl, noEnd.2⟩
      obtain alone | ⟨_, alone⟩ := finished' <;> simp only [ArgumentReader.value, alone, isRest']
  obtain alike | ⟨finished, finished'⟩ := same.remainder
  · cases isRemainder : reader.remainder with
    | nothing => exact next (.inl isRemainder) (.inl (alike.trans isRemainder))
    | joined given =>
      simp only [ArgumentReader.value, isRemainder, alike, Except.ok.injEq, Prod.mk.injEq] at read ⊢
      obtain ⟨rfl, rfl⟩ := read
      exact ⟨_, ⟨rfl, rfl⟩, same.rest, same.options, same.options', .inl rfl, same.noEnd⟩
    | letters chain started =>
      cases chain with
      | nil => exact next (.inr ⟨_, isRemainder⟩) (.inr ⟨_, alike.trans isRemainder⟩)
      | cons letter chain =>
        simp only [ArgumentReader.value, isRemainder, alike, Except.ok.injEq, Prod.mk.injEq] at read ⊢
        obtain ⟨rfl, rfl⟩ := read
        exact ⟨_, ⟨rfl, rfl⟩, same.rest, same.options, same.options', .inl rfl, same.noEnd⟩
  · exact next finished finished'

theorem map_some_ne_none {α : Type} {read : Except ArgumentFault α} : read.map some ≠ .ok none := by
  cases read <;> simp [Except.map]

/-- Arguments end where all of them have been read. -/
theorem Extended.next_none (same : Extended more reader extended) (ends : reader.next = .ok none) :
    extended.Finished ∧ extended.rest = more := by
  have ended (finished : reader.Finished) : extended.rest = more := by
    rw [next_of_finished finished] at ends
    rw [same.rest]
    cases isRest : reader.rest with
    | nil => rfl
    | cons argument rest =>
      have noEnd := same.noEnd
      rw [isRest, List.mem_cons, not_or] at noEnd
      simp only [ArgumentReader.nextArgument, isRest, same.options, Bool.false_eq_true, if_false,
        if_neg (Ne.symm noEnd.1)] at ends
      split at ends
      · split at ends
        · cases ends
        · split at ends
          · cases ends
          · exact absurd ends map_some_ne_none
      · cases ends
  obtain alike | ⟨finished, finished'⟩ := same.remainder
  · cases isRemainder : reader.remainder with
    | nothing => exact ⟨.inl (alike.trans isRemainder), ended (.inl isRemainder)⟩
    | joined given => simp [ArgumentReader.next, isRemainder] at ends
    | letters chain started =>
      cases chain with
      | nil => exact ⟨.inr ⟨_, alike.trans isRemainder⟩, ended (.inr ⟨_, isRemainder⟩)⟩
      | cons letter chain =>
        simp only [ArgumentReader.next, isRemainder] at ends
        exact absurd ends map_some_ne_none
  · exact ⟨finished', ended finished⟩

theorem Extended.takeOption (same : Extended more reader extended)
    (taken : command.takeOption reader = .ok (some (option, reader'))) :
    ∃ extended', command.takeOption extended = .ok (some (option, extended')) ∧
      Extended more reader' extended' := by
  unfold Command.takeOption at taken ⊢
  split at taken
  · cases taken
  · cases taken
  · rename_i token between next
    obtain ⟨between', next', same⟩ := same.next next
    rw [next']
    simp only []
    split at taken
    · rw [if_pos ‹_›]
      split at taken
      · cases taken
      · rename_i value after isValue
        cases taken
        obtain ⟨after', isValue', same⟩ := same.value isValue
        exact ⟨after', by rw [isValue'], same⟩
    · rw [if_neg ‹_›]
      cases taken
      exact ⟨between', rfl, same⟩

/-- **What stands behind** some options does not change how they are split. -/
theorem Extended.splitFrom (same : Extended more reader extended)
    (isSplit : command.splitFrom reader = .ok options)
    (behind : ∀ last : ArgumentReader, last.Finished → last.onlyPlain = false → last.rest = more →
      command.splitFrom last = .ok others) :
    command.splitFrom extended = .ok (options ++ others) := by
  induction len : reader.measure using Nat.strongRecOn generalizing reader extended options with
  | ind size ih =>
    subst len
    rw [splitFrom_eq] at isSplit
    split at isSplit
    · cases isSplit
    · rename_i taken
      cases isSplit
      obtain ⟨finished, isRest⟩ := same.next_none (takeOption_eq_none.1 taken)
      exact behind extended finished same.options' isRest
    · rename_i option after taken
      obtain ⟨after', taken', same⟩ := same.takeOption taken
      obtain ⟨later, isLater, rfl⟩ := exists_of_map_ok isSplit
      rw [splitFrom_of_some taken', ih _ (Command.measure_takeOption taken) same isLater rfl]
      rfl

/-- What is left of an option that was read does not matter once it is finished. -/
theorem splitFrom_of_finished {last : ArgumentReader} (finished : last.Finished) (goesOn : last.onlyPlain = false)
    (noEnd : [ArgumentReader.hyphen, ArgumentReader.hyphen] ∉ last.rest)
    (isSplit : command.split last.rest = .ok options) : command.splitFrom last = .ok options := by
  have same : Extended [] { rest := last.rest } last :=
    ⟨(List.append_nil _).symm, rfl, goesOn, .inr ⟨.inl rfl, finished⟩, noEnd⟩
  rw [← List.append_nil options]
  refine same.splitFrom isSplit fun atEnd finished goesOn isRest => ?_
  rw [splitFrom_of_none]
  rw [takeOption_eq_none, next_of_finished finished, ArgumentReader.nextArgument, isRest]

/-- **Options one behind the other**: where arguments can be split by themselves, and none of them ends the
options, they are split alike behind one another. -/
theorem Command.split_flatten {parts : List (List Argument)} {given : List (List GivenOption)}
    (noEnd : ∀ part ∈ parts, [ArgumentReader.hyphen, ArgumentReader.hyphen] ∉ part)
    (each : List.Forall₂ (fun part options => command.split part = .ok options) parts given) :
    command.split parts.flatten = .ok given.flatten := by
  induction each with
  | nil => exact splitFrom_of_none (takeOption_eq_none.2 rfl)
  | @cons part options parts given isSplit each ih =>
    rw [List.forall_mem_cons] at noEnd
    have same : Extended parts.flatten { rest := part } { rest := part ++ parts.flatten } :=
      ⟨rfl, rfl, rfl, .inl rfl, noEnd.1⟩
    refine same.splitFrom isSplit fun last finished goesOn isRest => ?_
    refine splitFrom_of_finished finished goesOn ?_ (isRest ▸ ih noEnd.2)
    rw [isRest, List.mem_flatten]
    rintro ⟨part, isPart, ends⟩
    exact noEnd.2 part isPart ends

end PatternForge.CommandLine
