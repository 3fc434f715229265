import PatternForge.Confounding
import PatternForge.Emission
import PatternForge.Matcher
import PatternForge.Reading.Parser

/-!
A pattern ready for generating strings: its tree, and a matcher for its text. A confounded generator
keeps the matcher of the pattern it was made from, and what it accepts are the strings that do not
match. All checked draws are made of `Generator.attempt`, which draws one candidate. A list gets room
for all its strings before the first is drawn, which no list beyond `maxCapacity` can have.
-/
namespace PatternForge

/-- A generator of strings for a pattern. -/
structure Generator where
  /-- The pattern as it was written. -/
  pattern : String
  /-- The tree that strings are drawn from. -/
  tree : Pattern
  /-- The matcher of the pattern as it was written. -/
  matcher : Matcher
  /-- The cap on repetitions without a limit. -/
  cap : UInt32
  /-- Whether the tree is the confounded one. -/
  isConfounded : Bool

/-- A pattern with the flags that are set at its start written in front of it. -/
def Settings.spelledOut (s : Settings) (pattern : String) : String :=
  match s.flags.ignoreCase, s.flags.dotNewLine with
  | false, false => pattern
  | true, false => "(?i)" ++ pattern
  | false, true => "(?s)" ++ pattern
  | true, true => "(?is)" ++ pattern

namespace Generator

/-- The generator for a pattern. The pattern is read first, then the matcher is prepared. -/
def ofPattern (s : Settings) (cap : UInt32) (pattern : String) : Except Failure Generator :=
  match s.parse pattern with
  | .error failure => .error failure
  | .ok tree =>
    match Matcher.ofPattern (s.spelledOut pattern) s.data with
    | .error failure => .error failure
    | .ok matcher => .ok { pattern, tree, matcher, cap, isConfounded := false }

/-- Whether a text is matched by the pattern, confounded or not. -/
def accepts (g : Generator) (text : String) : Except Failure Bool := g.matcher.accepts text

/-- The generator of near misses. A confounded generator has none, and neither has one with nothing
to confound. -/
def confound? (g : Generator) : Option Generator :=
  if g.isConfounded then none
  else g.tree.confound?.map fun tree => { g with tree, isConfounded := true }

/-- Draws one string, which need not match. -/
def emit (g : Generator) (source : Source) : Except Failure String × Source :=
  g.tree.emit g.cap source

/-- What drawing one candidate comes to: a string, no string because a reference was unbound, or a
failure. -/
def candidate (g : Generator) (source : Source) : Except Failure (Option String) × Source :=
  match g.emit source with
  | (.ok text, source) => (.ok (some text), source)
  | (.error failure, source) =>
    (if failure.isUnbound then .ok none else .error failure, source)

/-- Draws one candidate and keeps it if it matches or, for a confounded generator, if it does
not. -/
def attempt (g : Generator) (source : Source) : Except Failure (Option String) × Source :=
  match g.candidate source with
  | (.ok (some text), source) =>
    (match g.accepts text with
      | .ok matched => .ok (if matched = g.isConfounded then none else some text)
      | .error failure => .error failure,
      source)
  | missed => missed

/-- Draws candidates until one is kept, but not more than `attempts`. -/
def emitChecked (g : Generator) :
    (attempts : Nat) → Source → Except Failure (Option String) × Source
  | 0, source => (.ok none, source)
  | attempts + 1, source =>
    match g.attempt source with
    | (.ok none, source) => g.emitChecked attempts source
    | decided => decided

/-- Draws candidates and gathers those that are kept until there are enough of them, but not more
than `attempts`. -/
def gather (g : Generator) (add : String → List String → List String) (size : Nat)
    (found : List String) :
    (attempts : Nat) → Source → Except Failure (Option (List String)) × Source
  | 0, source => (.ok (if found.length = size then some found else none), source)
  | attempts + 1, source =>
    if found.length = size then (.ok (some found), source)
    else
      match g.attempt source with
      | (.ok kept, source) =>
        g.gather add size ((kept.map (add · found)).getD found) attempts source
      | (.error failure, source) => (.error failure, source)

/-- Puts a string into a strictly increasing list, unless it is there already. -/
def insertSorted (text : String) : List String → List String
  | [] => [text]
  | first :: rest =>
    if text < first then text :: first :: rest
    else if first < text then first :: insertSorted text rest
    else first :: rest

/-- `size` distinct strings that are kept, in increasing order, from at most `attempts` draws. -/
def emitSet (g : Generator) (size attempts : Nat) (source : Source) :
    Except Failure (Option (List String)) × Source :=
  g.gather insertSorted size [] attempts source

/-- How many strings a list can have room for. A string takes 24 bytes, and all of them together no
more than the largest signed number of 64 bits. Memory itself is taken to be large enough. -/
def maxCapacity : Nat := ((1 <<< 63) - 1) / 24

/-- Why no list of strings is drawn. -/
inductive Halt where
  /-- Drawing or matching failed. -/
  | failed (failure : Failure)
  /-- There can be no list with room for so many strings. This is not a failure that is handed back:
  the program stops. -/
  | capacityOverflow
  deriving DecidableEq

/-- Up to `size` strings that are kept, in the order in which they were drawn. -/
def gatherList (g : Generator) (size attempts : Nat) (source : Source) :
    Except Failure (Option (List String)) × Source :=
  match g.gather List.cons size [] attempts source with
  | (.ok found, source) => (.ok (found.map List.reverse), source)
  | (.error failure, source) => (.error failure, source)

/-- `size` strings that are kept, in the order in which they were drawn, from at most `attempts`
draws. -/
def emitList (g : Generator) (size attempts : Nat) (source : Source) :
    Except Halt (Option (List String)) × Source :=
  if maxCapacity < size then (.error .capacityOverflow, source)
  else
    let (found, source) := g.gatherList size attempts source
    (found.mapError .failed, source)

end Generator

end PatternForge
