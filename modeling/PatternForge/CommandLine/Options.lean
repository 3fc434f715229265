import PatternForge.CommandLine.Complaint
import PatternForge.CommandLine.Help
import PatternForge.Sampling

/-!
What arguments ask for. Every option and every plain argument is one setting, and an invocation is a
command with the settings in the order in which they were given. What goes wrong while arguments are
read ends the list; the settings before still count, since they may name files that cannot be read.
-/
namespace PatternForge.CommandLine

/-- One thing that an argument asks for. -/
inductive Setting where
  | pattern (text : String)
  | patternFile (path : Argument)
  | domain (domain : Universe)
  | cap (limit : UInt32)
  | nestLimit (limit : Nat)
  | ignoreCase
  | dotNewLine
  | count (n : Nat)
  | attempts (n : Nat)
  | checked
  | distinct
  | sampleSize (n : Nat)
  | minMatched (ratio : Float)
  | maxConfounded (ratio : Float)
  | seed (seed : UInt64)

/-- What an option or a plain argument means. -/
inductive Meaning where
  /-- It is a setting, or not acceptable, by itself. -/
  | alone (setting : Except Complaint Setting)
  /-- It takes a value; `place` is what is named where the value is missing. -/
  | valued (place : String) (read : Argument → Except Complaint Setting)

/-- The text of a value. -/
def textAt (place : String) (value : Argument) : Except Complaint String :=
  match Text.Utf8.decode? value with
  | some text => .ok text
  | none => .error (.value place (.argument (.notText value)))

/-- A value that is a natural number below a limit. -/
def naturalAt (place : String) (limit : Nat) (make : Nat → Setting) : Meaning :=
  .valued place fun value => do
    match Decimal.natural limit (← textAt place value) with
    | .ok n => return make n
    | .error fault => throw (.value place (.natural fault))

/-- A value that is a ratio from zero to one. -/
def ratioAt (option : String) (make : Float → Setting) : Meaning :=
  .valued option fun value => do
    match Decimal.double (← textAt option value) with
    | .ok ratio =>
      if 0 ≤ ratio && ratio ≤ 1 then return make ratio
      else throw (.ratioOutOfRange option ratio)
    | .error fault => throw (.value option (.double fault))

/-- The universe with a name. -/
def universeNamed (name : String) : Except Complaint Setting :=
  match name with
  | "ascii" => .ok (.domain .ascii)
  | "latin1" => .ok (.domain .latin1)
  | "bmp" => .ok (.domain .bmp)
  | _ => .error (.unknownUniverse name)

/-- What a token means among the options of a group. -/
def OptionGroup.meaning? (group : OptionGroup) (token : Token) : Option Meaning :=
  match group, token with
  | patterns, .short 'p' | patterns, .long "pattern" =>
    some (.valued "-p/--pattern needs a value" fun value =>
      .pattern <$> textAt "-p/--pattern must be valid UTF-8" value)
  | patterns, .short 'f' | patterns, .long "pattern-file" =>
    some (.valued "-f/--pattern-file" fun value => .ok (.patternFile value))
  | patterns, .plain value =>
    some (.alone (.pattern <$> textAt "patterns must be valid UTF-8" value))
  | reading, .long "universe" =>
    some (.valued "--universe" fun value => textAt "--universe" value >>= universeNamed)
  | reading, .long "cap" => some (naturalAt "--cap" UInt32.size fun n => .cap n.toUInt32)
  | reading, .long "nest-limit" => some (naturalAt "--nest-limit" UInt32.size .nestLimit)
  | reading, .short 'i' | reading, .long "case-insensitive" => some (.alone (.ok .ignoreCase))
  | reading, .short 's' | reading, .long "dot-matches-new-line" => some (.alone (.ok .dotNewLine))
  | drawing, .short 'n' | drawing, .long "count" =>
    some (naturalAt "-n/--count" UInt64.size .count)
  | drawing, .long "attempts" => some (naturalAt "--attempts" UInt64.size .attempts)
  | drawing, .long "checked" => some (.alone (.ok .checked))
  | drawing, .long "distinct" => some (.alone (.ok .distinct))
  | policy, .short 'n' | policy, .long "sample-size" =>
    some (naturalAt "-n/--sample-size" UInt64.size .sampleSize)
  | policy, .long "min-match" => some (ratioAt "--min-match" .minMatched)
  | policy, .long "max-confounded" => some (ratioAt "--max-confounded" .maxConfounded)
  | seed, .long "seed" => some (naturalAt "--seed" UInt64.size fun n => .seed n.toUInt64)
  | _, _ => none

/-- What a token means to a command. -/
def Command.meaning? (command : Command) (token : Token) : Option Meaning :=
  command.groups.findSome? fun group => group.meaning? token

/-- A token as the option that it was written as. -/
def Token.written : Token → String
  | short letter => "-" ++ letter.toString
  | long name => "--" ++ name
  | plain value => Text.Utf8.lossy value

/-- Takes the value of an option, if it needs one, and gives the setting. -/
def Meaning.setting (meaning : Meaning) (reader : ArgumentReader) :
    Except Complaint (Setting × ArgumentReader) :=
  match meaning with
  | alone setting => setting.map (·, reader)
  | valued place read =>
    match reader.value with
    | .error fault => .error (.value place (.argument fault))
    | .ok (value, reader) => (read value).map (·, reader)

theorem Meaning.measure_setting {meaning : Meaning} {reader reader' : ArgumentReader}
    {setting : Setting} (taken : meaning.setting reader = .ok (setting, reader')) :
    reader'.measure ≤ reader.measure := by
  unfold Meaning.setting at taken
  split at taken
  · rename_i given
    cases given <;> cases taken
    exact Nat.le_refl _
  · split at taken
    · cases taken
    · rename_i read _ value after isValue
      revert taken
      cases read value with
      | error complaint => intro taken; cases taken
      | ok setting =>
        intro taken
        cases taken
        exact ArgumentReader.measure_value isValue

/-- Reads the settings of a command, up to the end of the arguments or to the first complaint.
`found` holds the settings so far, latest first. -/
def readSettings (command : Command) (reader : ArgumentReader) (found : List Setting) :
    List Setting × Option Complaint :=
  match _next : reader.next with
  | .error fault => (found.reverse, some (.argument fault))
  | .ok none => (found.reverse, none)
  | .ok (some (token, reader')) =>
    if token = .short 'h' || token = .long "help" then
      (found.reverse, some (.help (command.help (token = .long "help"))))
    else
      match command.meaning? token with
      | none => (found.reverse, some (.argument (.unknownOption token.written)))
      | some meaning =>
        match _taken : meaning.setting reader' with
        | .error complaint => (found.reverse, some complaint)
        | .ok (setting, reader'') => readSettings command reader'' (setting :: found)
termination_by reader.measure
decreasing_by
  exact Nat.lt_of_le_of_lt (Meaning.measure_setting _taken) (ArgumentReader.measure_next _next)

/-- A command with what is asked of it. -/
structure Invocation where
  command : Command
  /-- The settings in the order in which they were given. -/
  settings : List Setting
  /-- What went wrong behind them, if anything did. -/
  complaint : Option Complaint

/-- Reads the command and its settings. -/
def Invocation.ofArguments (arguments : List Argument) : Except Complaint Invocation :=
  match ({ rest := arguments } : ArgumentReader).next with
  | .error fault => .error (.argument fault)
  | .ok none | .ok (some (.short 'h', _)) | .ok (some (.long "help", _)) =>
    .error (.help generalHelp)
  | .ok (some (.plain name, reader)) =>
    match Text.Utf8.decode? name with
    | none => .error (.argument (.notText name))
    | some name =>
      match Command.named? name with
      | none => .error (.unknownCommand name)
      | some command =>
        let (settings, complaint) := readSettings command reader []
        .ok { command, settings, complaint }
  | .ok (some (token, _)) => .error (.argument (.unknownOption token.written))

/-- The files that are to be read. -/
def Invocation.paths (invocation : Invocation) : List Argument :=
  invocation.settings.filterMap fun
    | .patternFile path => some path
    | _ => none

/-- What the settings other than patterns come to. -/
structure Configuration where
  reading : Settings := {}
  cap : UInt32 := Pattern.defaultCap
  count : Nat := 10
  attempts : Nat := 1000
  checked : Bool := false
  distinct : Bool := false
  policy : SamplingPolicy := {}
  seed : Option UInt64 := none

namespace Configuration

/-- The configuration with its initial flags changed. -/
def withFlags (c : Configuration) (change : Flags → Flags) : Configuration :=
  { c with reading := { c.reading with flags := change c.reading.flags } }

/-- The configuration after one more setting. The last of several values counts. -/
def apply (c : Configuration) : Setting → Configuration
  | .pattern _ | .patternFile _ => c
  | .domain domain => { c with reading := { c.reading with domain } }
  | .cap cap => { c with cap }
  | .nestLimit nestLimit => { c with reading := { c.reading with nestLimit } }
  | .ignoreCase => c.withFlags fun flags => { flags with ignoreCase := true }
  | .dotNewLine => c.withFlags fun flags => { flags with dotNewLine := true }
  | .count count => { c with count }
  | .attempts attempts => { c with attempts }
  | .checked => { c with checked := true }
  | .distinct => { c with distinct := true }
  | .sampleSize size => { c with policy := { c.policy with size } }
  | .minMatched minMatched => { c with policy := { c.policy with minMatched } }
  | .maxConfounded maxConfounded => { c with policy := { c.policy with maxConfounded } }
  | .seed seed => { c with seed := some seed }

/-- The configuration of some settings. -/
def ofSettings (settings : List Setting) : Configuration := settings.foldl apply {}

end Configuration

/-- The contents of files by their paths. -/
abbrev Files := Argument → Except FileFault (List UInt8)

/-- The lines of a text. A carriage return at the end of a line belongs to the line end. -/
def linesOf (text : List Char) : List (List Char) :=
  let (line, rest) := text.foldr
    (fun c (acc : List Char × List (List Char)) =>
      if c = '\n' then ([], acc.1 :: acc.2) else (c :: acc.1, acc.2))
    ([], [])
  let all := (line :: rest)
  let ended := all.dropLast.map fun line =>
    if line.getLast? = some '\r' then line.dropLast else line
  ended ++ (all.getLast?.filter (!·.isEmpty)).toList

/-- The patterns in a file, one per line. Empty lines are skipped. -/
def patternsIn (files : Files) (path : Argument) : Except Complaint (List String) :=
  match files path with
  | .error fault => .error (.unreadable path fault)
  | .ok bytes =>
    match Text.Utf8.decode? bytes with
    | none => .error (.unreadable path .notText)
    | some text =>
      .ok (((linesOf text.toList).filter (!·.isEmpty)).map String.ofList)

/-- The patterns that settings supply, in the order given. -/
def patternsOf (files : Files) : List Setting → Except Complaint (List String)
  | [] => .ok []
  | .pattern text :: rest => (text :: ·) <$> patternsOf files rest
  | .patternFile path :: rest => do
    let found ← patternsIn files path
    return found ++ (← patternsOf files rest)
  | _ :: rest => patternsOf files rest

end PatternForge.CommandLine
