import PatternForge.CommandLine.Complaint
import PatternForge.Sampling

/-!
What a command prints and logs. Commands only say what happened; `Transcript.output` turns that into
the two streams and the exit code.
-/
namespace PatternForge.CommandLine

/-- How much is logged. -/
inductive LogLevel where
  | off
  | error
  | warn
  | info
  | debug
  | trace
  deriving DecidableEq, Repr

/-- The level with a name. No name is the same as `off`. -/
def LogLevel.named? (name : String) : Option LogLevel :=
  match name with
  | "" | "off" => some .off
  | "error" => some .error
  | "warn" => some .warn
  | "info" => some .info
  | "debug" => some .debug
  | "trace" => some .trace
  | _ => none

/-- Things that happened and may be logged. What is only logged to trace the program, which trees it made
and which candidates it rejected, is left out. -/
inductive Record where
  /-- The finite engine refused a pattern, and the backtracking engine was asked. -/
  | fellBack (pattern : String)
  /-- A generator was made. -/
  | built (pattern : String) (groups : Nat)
  | seeded (seed : UInt64)
  | reported (pattern : String) (report : Report)
  | nothingToConfound (tree : Pattern)
  /-- A reference was unbound, and another string is drawn. -/
  | retrying (pattern : String) (failure : Failure)

namespace Record

/-- Whether a record is for information. All others are for debugging. -/
def isInformation : Record → Bool
  | seeded _ => true
  | _ => false

/-- Whether a record is logged at a level. -/
def isLogged (level : LogLevel) (record : Record) : Bool :=
  match level with
  | .off | .error | .warn => false
  | .info => record.isInformation
  | .debug | .trace => true

/-- The part of the program that a record is from. -/
def target : Record → String
  | fellBack _ => "xeger::matcher"
  | built .. | reported .. => "xeger::xeger"
  | seeded _ => "xeger_cli::args::seed"
  | nothingToConfound _ => "xeger::confound"
  | retrying .. => "xeger_cli::cmd::generate"

/-- A record in words. -/
def text : Record → String
  | fellBack pattern =>
    s!"regex rejected /{pattern}/ (not in its syntax), falling back to fancy-regex"
  | built pattern groups => s!"built xeger for /{pattern}/ with {groups} capture group(s)"
  | seeded seed => s!"seed: {seed.toNat}"
  | reported pattern report => s!"/{pattern}/: " ++ report.display
  | nothingToConfound tree => "pattern has nothing to confound: " ++ tree.render
  | retrying pattern failure => s!"retrying /{pattern}/: " ++ failure.message

/-- The line of a record in the log. It names the file and the line where the record was made, if they
are known. -/
def line (place : Option (String × Nat)) (record : Record) : String :=
  let level := if record.isInformation then "INFO" else "DEBUG"
  match place with
  | some (file, number) => s!"{level}|{record.target}|{file}:{number}: {record.text}"
  | none => s!"{level}|{record.target}: {record.text}"

end Record

/-- What the program finds around it. -/
structure Environment where
  /-- The name of the log level, if one is set. -/
  logLevel : Option String := none
  /-- Whether the causes of a complaint are listed below it. -/
  listsCauses : Bool := false
  /-- The seed that is used where none is given. -/
  freshSeed : UInt64 := 0
  /-- The file and the line where a record is made, which depend on how the program was built. -/
  placeOf : Record → Option (String × Nat) := fun _ => none

/-- What a command did: the lines it printed, what happened on the way, and why it ended if it did
not succeed. -/
structure Transcript where
  printed : List String := []
  records : List Record := []
  complaint : Option Complaint := none

namespace Transcript

/-- One thing done after another. After a complaint nothing more is done. -/
def andThen (first second : Transcript) : Transcript :=
  if first.complaint.isSome then first
  else
    { printed := first.printed ++ second.printed
      records := first.records ++ second.records
      complaint := second.complaint }

end Transcript

/-- What a run of the program comes to. -/
structure Output where
  code : Nat
  standard : String
  error : String
  deriving DecidableEq, Repr

/-- Lines, each with a line feed behind it. -/
def unlines (lines : List String) : String := String.join (lines.map (· ++ "\n"))

/-- The output of a transcript: what was printed, and the log followed by the complaint. What the
system writes around the words of a command that it stops is left out. -/
def Transcript.output (t : Transcript) (environment : Environment) (level : LogLevel) : Output where
  code := (t.complaint.map Complaint.code).getD 0
  standard := unlines t.printed
  error :=
    unlines
      ((t.records.filter fun record => record.isLogged level).map
          (fun record => record.line (environment.placeOf record)) ++
        (t.complaint.map (Complaint.display environment.listsCauses)).toList)

end PatternForge.CommandLine
