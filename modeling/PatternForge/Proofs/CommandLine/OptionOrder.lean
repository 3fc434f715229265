import Mathlib.Data.List.Induction
import Mathlib.Data.List.Perm.Basic
import PatternForge.Proofs.CommandLine.GivenOptions

/-!
The order of options. Each setting is about one field of what a command is configured with, and which field
that is shows in the option alone, whatever its value says (`OptionGroup.about_meaning?`). Settings of
different fields can be exchanged, and of two settings of one field the later counts, so a configuration is
what the last setting of each field makes of the defaults (`Configuration.ofSettings_eq_lastOfEach`): it has
of each field what that setting says (`Configuration.said_ofSettings`). Patterns add up in the order given.

So options can be given in any order that keeps the order among the options of each field.
-/
namespace PatternForge.CommandLine

/-- What settings are about. -/
inductive Field where
  | patterns | domain | cap | nestLimit | ignoreCase | dotNewLine
  | count | attempts | checked | distinct | sampleSize
  | minMatched | maxConfounded | seed
  deriving DecidableEq, Repr

/-- All fields. -/
def Field.all : List Field :=
  [.patterns, .domain, .cap, .nestLimit, .ignoreCase, .dotNewLine, .count, .attempts, .checked, .distinct,
    .sampleSize, .minMatched, .maxConfounded, .seed]

theorem Field.mem_all (field : Field) : field ∈ all := by cases field <;> decide

theorem Field.nodup_all : all.Nodup := by decide

/-- What a setting is about. -/
def Setting.field : Setting → Field
  | pattern _ | patternFile _ => .patterns
  | domain _ => .domain
  | cap _ => .cap
  | nestLimit _ => .nestLimit
  | ignoreCase => .ignoreCase
  | dotNewLine => .dotNewLine
  | count _ => .count
  | attempts _ => .attempts
  | checked => .checked
  | distinct => .distinct
  | sampleSize _ => .sampleSize
  | minMatched _ => .minMatched
  | maxConfounded _ => .maxConfounded
  | seed _ => .seed

/-- What an option of a group is about. Different spellings of one option are about the same. -/
def OptionGroup.field? (group : OptionGroup) (token : Token) : Option Field :=
  match group, token with
  | patterns, .short 'p' | patterns, .long "pattern" | patterns, .short 'f' | patterns, .long "pattern-file"
  | patterns, .plain _ => some .patterns
  | reading, .long "universe" => some .domain
  | reading, .long "cap" => some .cap
  | reading, .long "nest-limit" => some .nestLimit
  | reading, .short 'i' | reading, .long "case-insensitive" => some .ignoreCase
  | reading, .short 's' | reading, .long "dot-matches-new-line" => some .dotNewLine
  | drawing, .short 'n' | drawing, .long "count" => some .count
  | drawing, .long "attempts" => some .attempts
  | drawing, .long "checked" => some .checked
  | drawing, .long "distinct" => some .distinct
  | policy, .short 'n' | policy, .long "sample-size" => some .sampleSize
  | policy, .long "min-match" => some .minMatched
  | policy, .long "max-confounded" => some .maxConfounded
  | seed, .long "seed" => some .seed
  | _, _ => none

/-- What an option of a command is about. -/
def Command.field? (command : Command) (token : Token) : Option Field :=
  command.groups.findSome? fun group => group.field? token

/-- Whatever is said this way is about a field. -/
def Meaning.About : Meaning → Field → Prop
  | alone given, field => ∀ setting, given = .ok setting → setting.field = field
  | valued _ read, field => ∀ value setting, read value = .ok setting → setting.field = field

theorem about_valued {place : String} {make : String → Except Complaint Setting} {field : Field}
    (each : ∀ text setting, make text = .ok setting → setting.field = field) :
    (Meaning.valued place fun value => textAt place value >>= make).About field := by
  intro value setting read
  cases isText : textAt place value with
  | error complaint => simp [isText, bind, Except.bind] at read
  | ok text => exact each text setting (by simpa [isText, bind, Except.bind] using read)

theorem about_naturalAt {place : String} {limit : Nat} {make : Nat → Setting} {field : Field}
    (each : ∀ n, (make n).field = field) : (naturalAt place limit make).About field := by
  refine about_valued fun text setting read => ?_
  split at read
  · cases read
    exact each _
  · cases read

theorem about_ratioAt {option : String} {make : Float → Setting} {field : Field}
    (each : ∀ ratio, (make ratio).field = field) : (ratioAt option make).About field := by
  refine about_valued fun text setting read => ?_
  split at read
  · split at read
    · cases read
      exact each _
    · cases read
  · cases read

theorem about_universeNamed {name : String} {setting : Setting} (named : universeNamed name = .ok setting) :
    setting.field = .domain := by
  unfold universeNamed at named
  split at named <;> cases named <;> rfl

theorem field_of_textAt {place : String} {value : Argument} {setting : Setting}
    (read : Setting.pattern <$> textAt place value = .ok setting) : setting.field = .patterns := by
  obtain ⟨text, -, rfl⟩ := exists_of_map_ok read
  rfl

/-- **The field shows in the option**: an option means something exactly if it is about something, and every
setting that it can make is about that. -/
theorem OptionGroup.about_meaning? (group : OptionGroup) (token : Token) :
    Option.Rel Meaning.About (group.meaning? token) (group.field? token) := by
  unfold meaning?
  split
  case h_1 | h_2 => exact .some fun _ _ => field_of_textAt
  case h_3 | h_4 => exact .some fun _ _ read => by cases read; rfl
  case h_5 => exact .some fun _ => field_of_textAt
  case h_6 => exact .some (about_valued fun _ _ => about_universeNamed)
  case h_7 | h_8 | h_13 | h_14 | h_15 | h_18 | h_19 | h_22 => exact .some (about_naturalAt fun _ => rfl)
  case h_9 | h_10 | h_11 | h_12 | h_16 | h_17 => exact .some fun _ given => by cases given; rfl
  case h_20 | h_21 => exact .some (about_ratioAt fun _ => rfl)
  case h_23 =>
    unfold field?
    split <;> first | exact .none | simp_all

theorem Command.about_meaning? (command : Command) (token : Token) :
    Option.Rel Meaning.About (command.meaning? token) (command.field? token) := by
  unfold Command.meaning? Command.field?
  induction command.groups with
  | nil => exact .none
  | cons group groups ih =>
    rw [List.findSome?_cons, List.findSome?_cons]
    have own := group.about_meaning? token
    generalize group.meaning? token = meaning, group.field? token = field at own
    cases own with
    | none => exact ih
    | some about => exact .some about

/-- An option that is accepted makes a setting of the field that it is about. -/
theorem field?_of_setting {command : Command} {option : GivenOption} {setting : Setting}
    (accepted : option.setting command = .ok setting) : command.field? option.token = some setting.field := by
  have about := command.about_meaning? option.token
  unfold GivenOption.setting at accepted
  split at accepted
  · cases accepted
  · split at accepted
    · rename_i given _ isMeaning
      rw [isMeaning] at about
      generalize command.field? option.token = field at about ⊢
      cases about with
      | some about => rw [about _ accepted]
    · rename_i isMeaning _
      rw [isMeaning] at about
      generalize command.field? option.token = field at about ⊢
      cases about with
      | some about => rw [about _ _ accepted]
    · cases accepted

/-! ## Settings -/

namespace Configuration

variable {c : Configuration} {setting later : Setting} {settings : List Setting}

/-- Settings of different fields can be exchanged. -/
theorem apply_comm (different : setting.field ≠ later.field) :
    (c.apply setting).apply later = (c.apply later).apply setting := by
  cases setting <;> cases later <;> first | rfl | exact absurd rfl different

/-- Of two settings of one field the later counts. -/
theorem apply_apply (same : setting.field = later.field) : (c.apply setting).apply later = c.apply later := by
  cases setting <;> cases later <;> first | rfl | cases same

theorem foldl_apply (different : ∀ other ∈ settings, other.field ≠ setting.field) :
    settings.foldl apply (c.apply setting) = (settings.foldl apply c).apply setting := by
  induction settings generalizing c with
  | nil => rfl
  | cons other settings ih =>
    rw [List.forall_mem_cons] at different
    rw [List.foldl_cons, List.foldl_cons, ← apply_comm different.1, ih different.2]

end Configuration

/-- The last setting of each of some fields. -/
def lastOfEach (fields : List Field) (settings : List Setting) : List Setting :=
  fields.filterMap fun field => (settings.filter (·.field = field)).getLast?

theorem lastOfEach_cons (field : Field) (fields : List Field) (settings : List Setting) :
    lastOfEach (field :: fields) settings =
      (settings.filter (·.field = field)).getLast?.toList ++ lastOfEach fields settings := by
  unfold lastOfEach
  rw [List.filterMap_cons]
  split <;> rename_i isLast <;> rw [isLast] <;> rfl

theorem lastOfEach_congr {settings settings' : List Setting} {fields : List Field}
    (same : ∀ field : Field, settings'.filter (·.field = field) = settings.filter (·.field = field)) :
    lastOfEach fields settings' = lastOfEach fields settings := by
  unfold lastOfEach
  simp only [same]

theorem mem_lastOfEach {fields : List Field} {settings : List Setting} {setting : Setting}
    (isLast : setting ∈ lastOfEach fields settings) : setting.field ∈ fields := by
  obtain ⟨field, isField, isLast⟩ := List.mem_filterMap.1 isLast
  have isSetting := List.mem_of_mem_getLast? isLast
  simp only [List.mem_filter, decide_eq_true_eq] at isSetting
  exact isSetting.2 ▸ isField

namespace Configuration

/-- One more setting takes the place of the last one of its field. -/
theorem foldl_lastOfEach {c : Configuration} {setting : Setting} (settings : List Setting) {fields : List Field}
    (nodup : fields.Nodup) :
    (lastOfEach fields (settings ++ [setting])).foldl apply c =
      if setting.field ∈ fields then ((lastOfEach fields settings).foldl apply c).apply setting
      else (lastOfEach fields settings).foldl apply c := by
  induction fields generalizing c with
  | nil => rfl
  | cons field fields ih =>
    obtain ⟨fresh, nodup⟩ := List.nodup_cons.1 nodup
    rw [lastOfEach_cons, lastOfEach_cons, List.foldl_append, List.foldl_append, ih nodup, List.filter_append]
    by_cases own : setting.field = field
    · subst own
      have others : ∀ other ∈ lastOfEach fields settings, other.field ≠ setting.field := fun other isLast same =>
        fresh (same ▸ mem_lastOfEach isLast)
      have isLast : (settings.filter (·.field = setting.field) ++
          [setting].filter (·.field = setting.field)).getLast? = some setting := by simp
      rw [isLast, if_neg fresh, if_pos List.mem_cons_self, Option.toList_some, List.foldl_cons, List.foldl_nil,
        foldl_apply others]
      cases isOld : (settings.filter (·.field = setting.field)).getLast? with
      | none => rfl
      | some old =>
        have old_field := List.mem_of_getLast? isOld
        simp only [List.mem_filter, decide_eq_true_eq] at old_field
        rw [Option.toList_some, List.foldl_cons, List.foldl_nil,
          foldl_apply fun other isLast same => others other isLast (same.trans old_field.2),
          apply_apply old_field.2]
    · have isOther : [setting].filter (·.field = field) = [] := by simp [own]
      rw [isOther, List.append_nil]
      simp [own]

/-- **The last of several values counts**: a configuration is what the last setting of each field makes of the
defaults. -/
theorem ofSettings_eq_lastOfEach (settings : List Setting) :
    ofSettings settings = ofSettings (lastOfEach Field.all settings) := by
  induction settings using List.reverseRecOn with
  | nil => rfl
  | append_singleton settings setting ih =>
    unfold ofSettings at ih ⊢
    rw [foldl_lastOfEach settings Field.nodup_all, if_pos (Field.mem_all _), ← ih, List.foldl_append]
    rfl

/-- What a configuration has of a field, as the setting that says so. The patterns are no part of it. -/
def said (c : Configuration) : Field → Option Setting
  | .patterns => none
  | .domain => some (.domain c.reading.domain)
  | .cap => some (.cap c.cap)
  | .nestLimit => some (.nestLimit c.reading.nestLimit)
  | .ignoreCase => if c.reading.flags.ignoreCase then some .ignoreCase else none
  | .dotNewLine => if c.reading.flags.dotNewLine then some .dotNewLine else none
  | .count => some (.count c.count)
  | .attempts => some (.attempts c.attempts)
  | .checked => if c.checked then some .checked else none
  | .distinct => if c.distinct then some .distinct else none
  | .sampleSize => some (.sampleSize c.policy.size)
  | .minMatched => some (.minMatched c.policy.minMatched)
  | .maxConfounded => some (.maxConfounded c.policy.maxConfounded)
  | .seed => c.seed.map .seed

/-- A setting changes what a configuration has of its own field, and of no other. -/
theorem said_apply {c : Configuration} {setting : Setting} {field : Field} (other : field ≠ .patterns) :
    (c.apply setting).said field = if setting.field = field then some setting else c.said field := by
  cases field <;> cases setting <;> first | rfl | exact absurd rfl other

/-- **The last setting of a field says what a configuration has of it**, and without any it has the default. -/
theorem said_ofSettings {field : Field} (other : field ≠ .patterns) (settings : List Setting) :
    (ofSettings settings).said field =
      (settings.filter (·.field = field)).getLast?.or (({} : Configuration).said field) := by
  induction settings using List.reverseRecOn with
  | nil => rfl
  | append_singleton settings setting ih =>
    have last : ofSettings (settings ++ [setting]) = (ofSettings settings).apply setting := List.foldl_append ..
    rw [last, said_apply other, List.filter_append, List.getLast?_append]
    by_cases own : setting.field = field
    · simp [own]
    · simpa [own] using ih

end Configuration

/-! ## Patterns -/

/-- The patterns that one setting supplies. -/
def Setting.supplied (files : Files) : Setting → Except Complaint (List String)
  | pattern text => .ok [text]
  | patternFile path => patternsIn files path
  | _ => .ok []

theorem patternsOf_cons (files : Files) (setting : Setting) (settings : List Setting) :
    patternsOf files (setting :: settings) =
      match setting.supplied files, patternsOf files settings with
      | .error complaint, _ | .ok _, .error complaint => .error complaint
      | .ok found, .ok others => .ok (found ++ others) := by
  cases setting
  case patternFile path =>
    show (patternsIn files path >>= fun found => _) = _
    cases isFound : patternsIn files path with
    | error complaint => simp [Setting.supplied, isFound, bind, Except.bind]
    | ok found =>
      cases isOthers : patternsOf files settings <;>
        simp [Setting.supplied, isFound, bind, Except.bind, pure, Except.pure]
  all_goals
    cases isOthers : patternsOf files settings <;> simp [patternsOf, Setting.supplied, isOthers]

/-- **Patterns add up** in the order given. -/
theorem patternsOf_iff {files : Files} {settings : List Setting} {patterns : List String} :
    patternsOf files settings = .ok patterns ↔
      ∃ parts, List.Forall₂ (fun setting part => setting.supplied files = .ok part) settings parts ∧
        patterns = parts.flatten := by
  induction settings generalizing patterns with
  | nil => simp [patternsOf, eq_comm]
  | cons setting settings ih =>
    rw [patternsOf_cons]
    constructor
    · intro isFound
      split at isFound
      · cases isFound
      · cases isFound
      · rename_i found others supplies isOthers
        cases isFound
        obtain ⟨parts, each, rfl⟩ := ih.1 isOthers
        exact ⟨found :: parts, .cons supplies each, rfl⟩
    · rintro ⟨_, each, rfl⟩
      cases each with
      | @cons _ part _ parts supplies each => rw [supplies, ih.2 ⟨parts, each, rfl⟩, List.flatten_cons]

/-- Only settings that are about patterns supply any. -/
theorem patternsOf_filter (files : Files) (settings : List Setting) :
    patternsOf files (settings.filter (·.field = .patterns)) = patternsOf files settings := by
  induction settings with
  | nil => rfl
  | cons setting settings ih =>
    by_cases own : setting.field = .patterns
    · rw [List.filter_cons_of_pos (by simpa using own), patternsOf_cons, patternsOf_cons, ih]
    · rw [List.filter_cons_of_neg (by simpa using own), ih]
      cases setting <;> first | rfl | exact absurd rfl own

/-! ## What a command is configured with -/

/-- What a command is configured with. -/
structure Configured where
  patterns : List String
  configuration : Configuration

/-- An invocation of a command with some arguments. -/
def Command.invocation (command : Command) (arguments : List Argument) : Invocation :=
  let (settings, complaint) := readSettings command { rest := arguments } []
  { command, settings, complaint }

/-- What arguments configure a command with, if they are accepted. -/
def Command.configured (command : Command) (files : Files) (arguments : List Argument) :
    Except Complaint Configured :=
  let invocation := command.invocation arguments
  match patternsOf files invocation.settings, invocation.complaint with
  | .error complaint, _ | .ok _, some complaint => .error complaint
  | .ok patterns, none => .ok { patterns, configuration := .ofSettings invocation.settings }

/-- The name of a command is read as a plain argument. -/
theorem next_of_name {name : Argument} (noOption : name.head? ≠ some ArgumentReader.hyphen)
    (arguments : List Argument) :
    ({ rest := name :: arguments } : ArgumentReader).next = .ok (some (.plain name, { rest := arguments })) := by
  have noEnd : name ≠ [ArgumentReader.hyphen, ArgumentReader.hyphen] := fun ends => noOption (by rw [ends]; rfl)
  simp only [ArgumentReader.next, ArgumentReader.nextArgument, Bool.false_eq_true, if_false, if_neg noEnd]
  split
  · rename_i first second chain
    rw [if_pos fun isHyphen => noOption (by rw [isHyphen]; rfl)]
  · rfl

/-- What the program does behind the name of a command depends on what the command is configured with, and
on nothing else. -/
theorem transcript_eq {command : Command} {name : Argument} {text : String}
    (noOption : name.head? ≠ some ArgumentReader.hyphen) (isText : Text.Utf8.decode? name = some text)
    (isNamed : Command.named? text = some command) (arguments : List Argument) (files : Files)
    (freshSeed : UInt64) :
    transcript (name :: arguments) files freshSeed =
      match command.configured files arguments with
      | .error complaint => { complaint := some complaint }
      | .ok ⟨[], _⟩ => { complaint := some .noPatterns }
      | .ok ⟨patterns, c⟩ => command.runOn c patterns freshSeed := by
  have isInvocation : Invocation.ofArguments (name :: arguments) = .ok (command.invocation arguments) := by
    simp only [Invocation.ofArguments, next_of_name noOption, isText, isNamed, Command.invocation]
  rw [transcript, isInvocation]
  unfold Invocation.run Command.configured
  cases isFound : patternsOf files (command.invocation arguments).settings with
  | error complaint => simp [isFound]
  | ok patterns =>
    cases isComplaint : (command.invocation arguments).complaint with
    | some complaint => simp [isFound, isComplaint]
    | none =>
      have isCommand : (command.invocation arguments).command = command := rfl
      cases patterns <;> simp [isFound, isComplaint, isCommand]

/-- What it takes for arguments to be accepted, and what they configure a command with. -/
theorem configured_iff {command : Command} {files : Files} {arguments : List Argument} {state : Configured} :
    command.configured files arguments = .ok state ↔
      ∃ options settings, command.split arguments = .ok options ∧
        command.Accepts options settings ∧
          patternsOf files settings = .ok state.patterns ∧ state.configuration = .ofSettings settings := by
  unfold Command.configured Command.split
  cases isInvocation : readSettings command { rest := arguments } [] with
  | mk settings complaint =>
    have invocation : command.invocation arguments = { command, settings, complaint } := by
      rw [Command.invocation, isInvocation]
    rw [invocation]
    constructor
    · intro accepted
      dsimp only at accepted
      split at accepted
      · cases accepted
      · cases accepted
      · rename_i patterns isFound
        cases accepted
        obtain ⟨options, said, isSplit, each, all⟩ := readSettings_iff.1 isInvocation
        rw [List.reverse_nil, List.nil_append] at all
        exact ⟨options, settings, isSplit, all ▸ each, isFound, rfl⟩
    · rintro ⟨options, said, isSplit, each, isFound, isConfiguration⟩
      have accepted : readSettings command { rest := arguments } [] = (said, none) :=
        readSettings_iff.2 ⟨options, said, isSplit, each, rfl⟩
      rw [isInvocation, Prod.mk.injEq] at accepted
      obtain ⟨rfl, rfl⟩ := accepted
      simp only [isFound]
      obtain ⟨patterns, configuration⟩ := state
      rw [← isConfiguration]

/-! ## Options in another order -/

/-- Whether an option is about a field. -/
def Command.isAbout (command : Command) (field : Field) (option : GivenOption) : Bool :=
  command.field? option.token = some field

/-- The same options in an order that is the same among the options of each field. All options that supply
patterns are of one field. -/
structure Command.Reordered (command : Command) (options options' : List GivenOption) : Prop where
  perm : options.Perm options'
  kept : ∀ field, options.filter (command.isAbout field) = options'.filter (command.isAbout field)

variable {command : Command} {options options' : List GivenOption} {settings settings' : List Setting}

theorem filter_settings (field : Field)
    (each : command.Accepts options settings) :
    command.Accepts (options.filter (command.isAbout field)) (settings.filter (·.field = field)) := by
  induction each with
  | nil => exact .nil
  | @cons option setting options settings accepted each ih =>
    have alike : command.isAbout field option = decide (setting.field = field) := by
      simp [Command.isAbout, field?_of_setting accepted]
    rw [List.filter_cons, List.filter_cons, alike]
    split
    · exact .cons accepted ih
    · exact ih

/-- Options in another order are accepted too, and say the same about each field. -/
theorem settings_of_reordered (reordered : command.Reordered options options')
    (each : command.Accepts options settings) :
    ∃ settings', command.Accepts options' settings' ∧
      ∀ field : Field, settings'.filter (·.field = field) = settings.filter (·.field = field) := by
  obtain ⟨settings', each', -⟩ := List.perm_comp_forall₂ reordered.perm.symm each
  refine ⟨settings', each', fun field => ?_⟩
  have functional :
      Relator.RightUnique fun (option : GivenOption) setting => option.setting command = .ok setting :=
    fun _ _ _ accepted accepted' => Except.ok.inj (accepted.symm.trans accepted')
  exact List.right_unique_forall₂' functional (filter_settings field each')
    (reordered.kept field ▸ filter_settings field each)

/-- **The order of options does not matter**, but among those that supply patterns and among those of one flag.

Options that are complete by themselves are read one behind the other as they are read alone. Where arguments are
accepted and others consist of the same options, in an order that keeps these orders, the others are accepted and
configure the command alike: as the last of each flag says, and with the patterns one behind the other. -/
theorem configured_of_reordered (command : Command) (files : Files) :
    (∀ (parts : List (List Argument)) (given : List (List GivenOption)),
      (∀ part ∈ parts, [ArgumentReader.hyphen, ArgumentReader.hyphen] ∉ part) →
      List.Forall₂ (fun part options => command.split part = .ok options) parts given →
        command.split parts.flatten = .ok given.flatten) ∧
    ∀ (arguments arguments' : List Argument) (options options' : List GivenOption) (state : Configured),
      command.split arguments = .ok options → command.split arguments' = .ok options' →
      command.Reordered options options' → command.configured files arguments = .ok state →
        command.configured files arguments' = .ok state ∧
        (∃ settings parts,
          command.Accepts options' settings ∧
          state.configuration = .ofSettings (lastOfEach Field.all settings) ∧
          (∀ field, field ≠ Field.patterns → state.configuration.said field =
            (settings.filter (·.field = field)).getLast?.or (({} : Configuration).said field)) ∧
          List.Forall₂ (fun setting part => setting.supplied files = .ok part) settings parts ∧
          state.patterns = parts.flatten) ∧
        ∀ (name : Argument) (text : String), name.head? ≠ some ArgumentReader.hyphen →
          Text.Utf8.decode? name = some text → Command.named? text = some command →
          ∀ freshSeed, transcript (name :: arguments') files freshSeed =
            transcript (name :: arguments) files freshSeed := by
  refine ⟨fun parts given => Command.split_flatten, ?_⟩
  intro arguments arguments' options options' state isSplit isSplit' reordered accepted
  obtain ⟨given, settings, isGiven, each, isFound, isConfiguration⟩ := configured_iff.1 accepted
  obtain rfl : options = given := Except.ok.inj (isSplit.symm.trans isGiven)
  obtain ⟨settings', each', same⟩ := settings_of_reordered reordered each
  have isFound' : patternsOf files settings' = .ok state.patterns := by
    rw [← patternsOf_filter, same, patternsOf_filter, isFound]
  have isConfiguration' : state.configuration = .ofSettings settings' := by
    rw [isConfiguration, Configuration.ofSettings_eq_lastOfEach, ← lastOfEach_congr same,
      ← Configuration.ofSettings_eq_lastOfEach]
  have accepted' := configured_iff.2 ⟨options', settings', isSplit', each', isFound', isConfiguration'⟩
  obtain ⟨parts, supplies, isPatterns⟩ := patternsOf_iff.1 isFound'
  refine ⟨accepted', ⟨settings', parts, each', ?_, fun field other => ?_, supplies, isPatterns⟩, ?_⟩
  · rw [isConfiguration', Configuration.ofSettings_eq_lastOfEach]
  · rw [isConfiguration', Configuration.said_ofSettings other]
  · intro name text noOption isText isNamed freshSeed
    rw [transcript_eq noOption isText isNamed, transcript_eq noOption isText isNamed, accepted, accepted']

/-- The only file, `f`, has two patterns. -/
def patternsInF : Files := fun path => if path = [102] then .ok [99, 10, 100] else .error .notFound

/-- `-n 3 a --cap 5 -n 4 -f f -i` and `--cap=5 a -i -n3 -ff -n 4` ask for four strings of each of three
patterns, without regard to case and with repetitions of five at most. -/
theorem configured_of_reordered_generate :
    Command.generate.configured patternsInF
        [[45, 110], [51], [97], [45, 45, 99, 97, 112], [53], [45, 110], [52], [45, 102], [102], [45, 105]] =
      .ok ⟨["a", "c", "d"], { cap := 5, count := 4, reading := { flags := { ignoreCase := true } } }⟩ ∧
    Command.generate.configured patternsInF
        [[45, 45, 99, 97, 112, 61, 53], [97], [45, 105], [45, 110, 51], [45, 102, 102], [45, 110], [52]] =
      .ok ⟨["a", "c", "d"], { cap := 5, count := 4, reading := { flags := { ignoreCase := true } } }⟩ := by
  obtain ⟨complete, law⟩ := configured_of_reordered .generate patternsInF
  have isSplit := complete
    [[[45, 110], [51]], [[97]], [[45, 45, 99, 97, 112], [53]], [[45, 110], [52]], [[45, 102], [102]], [[45, 105]]]
    [[⟨.short 'n', some [51]⟩], [⟨.plain [97], none⟩], [⟨.long "cap", some [53]⟩],
      [⟨.short 'n', some [52]⟩], [⟨.short 'f', some [102]⟩], [⟨.short 'i', none⟩]] (by decide)
    (by
      refine .cons ?_ (.cons ?_ (.cons ?_ (.cons ?_ (.cons ?_ (.cons ?_ .nil)))))
      all_goals exact split_of_single (by with_unfolding_all rfl) (by with_unfolding_all rfl))
  have isSplit' := complete
    [[[45, 45, 99, 97, 112, 61, 53]], [[97]], [[45, 105]], [[45, 110, 51]], [[45, 102, 102]], [[45, 110], [52]]]
    [[⟨.long "cap", some [53]⟩], [⟨.plain [97], none⟩], [⟨.short 'i', none⟩], [⟨.short 'n', some [51]⟩],
      [⟨.short 'f', some [102]⟩], [⟨.short 'n', some [52]⟩]] (by decide)
    (by
      refine .cons ?_ (.cons ?_ (.cons ?_ (.cons ?_ (.cons ?_ (.cons ?_ .nil)))))
      all_goals exact split_of_single (by with_unfolding_all rfl) (by with_unfolding_all rfl))
  have accepted : Command.generate.configured patternsInF _ =
      .ok ⟨["a", "c", "d"], { cap := 5, count := 4, reading := { flags := { ignoreCase := true } } }⟩ :=
    configured_iff.2 ⟨_, [.count 3, .pattern "a", .cap 5, .count 4, .patternFile [102], .ignoreCase], isSplit,
      by
        refine .cons ?_ (.cons ?_ (.cons ?_ (.cons ?_ (.cons ?_ (.cons ?_ .nil)))))
        all_goals with_unfolding_all rfl,
      by with_unfolding_all rfl, rfl⟩
  exact ⟨accepted,
    (law _ _ _ _ _ isSplit isSplit' ⟨by decide, fun field => by cases field <;> decide⟩ accepted).1⟩

end PatternForge.CommandLine
