import PatternForge.CommandLine.Argument
import PatternForge.Decimal.Read
import PatternForge.Decimal.Shortest
import PatternForge.Failure

/-!
Why a command ends without success. A complaint is worded in one or two parts, what went wrong and
what caused it; `Complaint.display` puts them together in either of two layouts. One of them is no
complaint of the program's own: it is stopped where it asks for more room than there can be.
-/
namespace PatternForge.CommandLine

/-- Why a file could not be read. -/
inductive FileFault where
  | notFound
  | isDirectory
  | notText
  /-- Another fault, with its wording. -/
  | other (message : String)
  deriving DecidableEq, Repr

/-- The fault, in words. -/
def FileFault.message : FileFault → String
  | notFound => "No such file or directory (os error 2)"
  | isDirectory => "Is a directory (os error 21)"
  | notText => "stream did not contain valid UTF-8"
  | other message => message

/-- Why the value of an option is not accepted. -/
inductive ValueFault where
  | argument (fault : ArgumentFault)
  | natural (fault : Decimal.NaturalFault)
  | double (fault : Decimal.DoubleFault)
  deriving DecidableEq, Repr

/-- The fault, in words. -/
def ValueFault.message : ValueFault → String
  | argument fault => fault.message
  | natural fault => fault.message
  | double fault => fault.message

/-- Why a command ends without success. -/
inductive Complaint where
  /-- Help was asked for, or no command was given. -/
  | help (text : String)
  | unknownLogLevel (name : String)
  | unknownCommand (name : String)
  | argument (fault : ArgumentFault)
  /-- A value is not accepted where `place` says. -/
  | value (place : String) (fault : ValueFault)
  | unknownUniverse (name : String)
  | ratioOutOfRange (option : String) (ratio : Float)
  | unreadable (path : Argument) (fault : FileFault)
  | noPatterns
  /-- A pattern cannot be made a generator. -/
  | notBuilt (pattern : String) (failure : Failure)
  /-- Drawing or matching failed. -/
  | failed (failure : Failure)
  /-- Room was asked for more strings than a list can hold. -/
  | capacityOverflow
  | nothingToConfound (pattern : String)
  | tooFew (count : Nat) (distinct : Bool) (pattern : String) (attempts : Nat)
  | rejected (number total : Nat)

namespace Complaint

/-- What went wrong, and what caused it if that is told apart. -/
def parts : Complaint → String × Option String
  | help text => (text, none)
  | unknownLogLevel name => (s!"unrecognized log level '{name}'", none)
  | unknownCommand name => (s!"unrecognized command '{name}'", none)
  | argument fault => (fault.message, none)
  | value place fault => (place, some fault.message)
  | unknownUniverse name => (s!"unrecognized universe '{name}'", none)
  | ratioOutOfRange option ratio =>
    (option ++ " must be between 0 and 1, but got " ++ (Decimal.Value.ofFloat ratio).shortest, none)
  | unreadable path fault => ("failed to read " ++ Text.Utf8.lossy path, some fault.message)
  | noPatterns => ("at least one pattern is required", none)
  | notBuilt pattern failure => (s!"failed to build /{pattern}/", some failure.message)
  | failed failure => (failure.message, none)
  | capacityOverflow => ("capacity overflow", none)
  | nothingToConfound pattern => (s!"/{pattern}/ has nothing to confound", none)
  | tooFew count distinct pattern attempts =>
    (s!"could not generate {count} " ++ (if distinct then "distinct " else "") ++
      s!"strings for /{pattern}/ in {attempts} attempts", none)
  | rejected number total => (s!"{number} of {total} patterns rejected", none)

/-- The exit code that a command ends with. -/
def code : Complaint → Nat
  | capacityOverflow => 101
  | _ => 1

/-- A text with every line but the first moved in by four spaces. -/
def indented (text : String) : String :=
  String.join (text.toList.map fun c => if c = '\n' then "\n    " else c.toString)

/-- The complaint in words. The cause stands behind a colon or, if causes are to be listed, below a
heading. -/
def display (listed : Bool) (complaint : Complaint) : String :=
  match complaint.parts with
  | (text, none) => text
  | (text, some cause) =>
    if listed then text ++ "\n\nCaused by:\n    " ++ indented cause else text ++ ": " ++ cause

end Complaint

end PatternForge.CommandLine
