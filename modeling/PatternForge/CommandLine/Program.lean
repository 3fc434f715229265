import PatternForge.CommandLine.Options
import PatternForge.CommandLine.Transcript

/-!
The commands. All patterns are made generators before anything is drawn, and all of them draw from
one source, in the order in which they were given. `run` is the whole program as a function of its
arguments, the files it reads and its environment.
-/
namespace PatternForge.CommandLine

/-- What happens while a matcher is prepared. -/
def matcherRecords (pattern : String) (prepared : Except Failure Matcher) : List Record :=
  match prepared with
  | .ok matcher => if matcher.isBacktracking then [.fellBack pattern] else []
  | .error _ => [.fellBack pattern]

/-- Makes a generator and says what happened. -/
def build (c : Configuration) (pattern : String) : Except Complaint Generator × List Record :=
  let spelled := c.reading.spelledOut pattern
  match Generator.ofPattern c.reading c.cap pattern with
  | .ok g =>
    (.ok g, matcherRecords spelled (.ok g.matcher) ++ [.built pattern g.tree.groups.length])
  | .error failure =>
    (.error (.notBuilt pattern failure),
      match failure with
      | .matcher _ => matcherRecords spelled (.error failure)
      | _ => [])

/-- Makes generators of all patterns, up to the first that fails. -/
def buildAll (c : Configuration) : List String → Except Complaint (List Generator) × List Record
  | [] => (.ok [], [])
  | pattern :: rest =>
    match build c pattern with
    | (.error complaint, records) => (.error complaint, records)
    | (.ok g, records) =>
      let (others, more) := buildAll c rest
      (others.map (g :: ·), records ++ more)

/-- The confounded generator, and what happened if there is none. -/
def confounding (g : Generator) : Option Generator × List Record :=
  match g.confound? with
  | some misses => (some misses, [])
  | none => (none, if g.isConfounded then [] else [.nothingToConfound g.tree])

/-- Draws strings without checking them until there are enough. Unbound references are logged. -/
def gatherUnchecked (g : Generator) (count : Nat) (found : List String) (records : List Record) :
    (attempts : Nat) → Source → Except Failure (Option (List String)) × List Record × Source
  | 0, source =>
    (.ok (if found.length = count then some found.reverse else none), records.reverse, source)
  | attempts + 1, source =>
    if found.length = count then (.ok (some found.reverse), records.reverse, source)
    else
      match g.emit source with
      | (.ok text, source) => gatherUnchecked g count (text :: found) records attempts source
      | (.error failure, source) =>
        if failure.isUnbound then
          gatherUnchecked g count found (.retrying g.pattern failure :: records) attempts source
        else (.error failure, records.reverse, source)

/-- Draws strings without checking them. They get a list with room for all of them first. -/
def drawUnchecked (g : Generator) (count attempts : Nat) (source : Source) :
    Except Generator.Halt (Option (List String)) × List Record × Source :=
  if Generator.maxCapacity < count then (.error .capacityOverflow, [], source)
  else
    let (found, records, source) := gatherUnchecked g count [] [] (max attempts count) source
    (found.mapError .failed, records, source)

/-- Draws the strings that a configuration asks for. -/
def draw (c : Configuration) (g : Generator) (source : Source) :
    Except Generator.Halt (Option (List String)) × List Record × Source :=
  if c.distinct then
    let (found, source) := g.emitSet c.count c.attempts source
    (found.mapError .failed, [], source)
  else if c.checked then
    let (found, source) := g.emitList c.count c.attempts source
    (found, [], source)
  else drawUnchecked g c.count c.attempts source

/-- Why nothing is drawn, as a complaint. -/
def Complaint.ofHalt : Generator.Halt → Complaint
  | .failed failure => .failed failure
  | .capacityOverflow => .capacityOverflow

/-- Prints the strings of a generator. -/
def printStrings (c : Configuration) (g : Generator) (source : Source) : Transcript × Source :=
  match draw c g source with
  | (.ok (some texts), records, source) => ({ printed := texts, records }, source)
  | (.ok none, records, source) =>
    ({ records, complaint := some (.tooFew c.count c.distinct g.pattern c.attempts) }, source)
  | (.error halt, records, source) => ({ records, complaint := some (.ofHalt halt) }, source)

/-- Prints the strings of a confounded generator. -/
def printMisses (c : Configuration) (g : Generator) (source : Source) : Transcript × Source :=
  match confounding g with
  | (none, records) => ({ records, complaint := some (.nothingToConfound g.pattern) }, source)
  | (some misses, records) =>
    let (printed, source) := printStrings c misses source
    (({ records } : Transcript).andThen printed, source)

/-- Lets every generator contribute in turn, until one complains. -/
def eachInTurn (contribute : Generator → Source → Transcript × Source) :
    List Generator → Source → Transcript × Source
  | [], source => ({}, source)
  | g :: rest, source =>
    let (first, source) := contribute g source
    if first.complaint.isSome then (first, source)
    else
      let (others, source) := eachInTurn contribute rest source
      (first.andThen others, source)

/-- Judges every generator. The number of those rejected so far is carried along. -/
def checkAll (policy : SamplingPolicy) (total rejected : Nat) :
    List Generator → Source → Transcript
  | [], _ =>
    { complaint := if rejected = 0 then none else some (.rejected rejected total) }
  | g :: rest, source =>
    match policy.check g source with
    | (.error failure, _) => { complaint := some (.failed failure) }
    | (.ok report, source) =>
      let line : Transcript :=
        { printed := [g.pattern ++ ": " ++ report.display]
          records := (confounding g).2 ++ [.reported g.pattern report] }
      line.andThen
        (checkAll policy total (if report.isValid then rejected else rejected + 1) rest source)

/-- A group as it is listed. -/
def groupLabel (group : Nat × Option String × Pattern) : String :=
  match group.2.1 with
  | none => toString group.1
  | some name => s!"{group.1} <{name}>"

/-- The lines that tell how a pattern was read. -/
def descriptionLines (g : Generator) (isBacktracking : Bool) (misses : Option Generator) :
    List String :=
  let groups := g.tree.groups.map groupLabel
  let confounded :=
    match misses with
    | none => "none"
    | some misses => misses.tree.render
  let outline := (linesOf g.tree.outline.toList).map fun line => "    " ++ String.ofList line
  ["pattern:    " ++ g.pattern,
   "parsed:     " ++ g.tree.render,
   "groups:     " ++ if groups.isEmpty then "none" else ", ".intercalate groups,
   "engine:     " ++ if isBacktracking then "fancy-regex" else "regex",
   "confounded: " ++ confounded,
   "outline:"] ++ outline

/-- Tells how a pattern was read. The engine is the one that the pattern gets as it was written. -/
def describe (data : CharacterData) (g : Generator) : Transcript :=
  let prepared := Matcher.ofPattern g.pattern data
  let records := matcherRecords g.pattern prepared
  match prepared with
  | .error failure => { records, complaint := some (.failed failure) }
  | .ok matcher =>
    let (misses, more) := confounding g
    { printed := descriptionLines g matcher.isBacktracking misses, records := records ++ more }

/-- Tells how every pattern was read, with an empty line between two patterns. -/
def describeAll (data : CharacterData) : List Generator → Transcript
  | [] => {}
  | [g] => describe data g
  | g :: rest =>
    (describe data g).andThen (({ printed := [""] } : Transcript).andThen (describeAll data rest))

/-- Runs a command on its generators, which draw from the source of a seed unless there is another. -/
def Command.run (command : Command) (c : Configuration) (generators : List Generator)
    (seed : UInt64) (source : Source := .keyed (.ofSeed seed)) : Transcript :=
  let seeded (transcript : Transcript) : Transcript :=
    ({ records := [.seeded seed] } : Transcript).andThen transcript
  match command with
  | check => seeded (checkAll c.policy generators.length 0 generators source)
  | confound => seeded (eachInTurn (printMisses c) generators source).1
  | debug => describeAll c.reading.data generators
  | generate => seeded (eachInTurn (printStrings c) generators source).1

/-- Runs a command on its patterns. -/
def Command.runOn (command : Command) (c : Configuration) (patterns : List String)
    (freshSeed : UInt64) (source : Source := .keyed (.ofSeed (c.seed.getD freshSeed))) :
    Transcript :=
  match buildAll c patterns with
  | (.error complaint, records) => { records, complaint := some complaint }
  | (.ok generators, records) =>
    ({ records } : Transcript).andThen (command.run c generators (c.seed.getD freshSeed) source)

/-- Carries out an invocation. -/
def Invocation.run (invocation : Invocation) (files : Files) (freshSeed : UInt64) : Transcript :=
  match patternsOf files invocation.settings, invocation.complaint with
  | .error complaint, _ | .ok _, some complaint => { complaint := some complaint }
  | .ok [], none => { complaint := some .noPatterns }
  | .ok patterns, none =>
    invocation.command.runOn (.ofSettings invocation.settings) patterns freshSeed

/-- The files that some arguments ask to read. -/
def wantedPaths (arguments : List Argument) : List Argument :=
  match Invocation.ofArguments arguments with
  | .ok invocation => invocation.paths
  | .error _ => []

/-- What a list of arguments makes the program do. -/
def transcript (arguments : List Argument) (files : Files) (freshSeed : UInt64) : Transcript :=
  match Invocation.ofArguments arguments with
  | .ok invocation => invocation.run files freshSeed
  | .error complaint => { complaint := some complaint }

/-- The program. -/
def run (environment : Environment) (files : Files) (arguments : List Argument) : Output :=
  let name := environment.logLevel.getD ""
  match LogLevel.named? name with
  | some level =>
    (transcript arguments files environment.freshSeed).output environment level
  | none =>
    { code := 1
      standard := ""
      error :=
        "Error: " ++ (Complaint.unknownLogLevel name).display environment.listsCauses ++ "\n" }

end PatternForge.CommandLine
