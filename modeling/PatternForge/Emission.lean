import PatternForge.Pattern
import PatternForge.Random.Source

/-!
Strings drawn from a pattern. `Pattern.emit` walks the tree once from left to right and makes every
choice as it goes; it never steps back. Anchors give no text, so a string may fail to match.
-/
namespace PatternForge

/-- The text that each group produced last, latest binding first. -/
abbrev Bindings := List (Nat × String)

/-- The largest number of repetitions of an operator under a cap. The minimum is always honoured. -/
def Bounds.highest (bounds : Bounds) (cap : UInt32) : UInt32 :=
  max bounds.least (min (bounds.most.getD 0xFFFFFFFF) cap)

/-- The outcome of drawing a text: the text with the bindings after it, or a failure. -/
abbrev Drawn := Except Failure (String × Bindings)

namespace Pattern

/-- Draws a character of a class. -/
def emitClass (cls : CharClass) (bound : Bindings) (source : Source) : Drawn × Source :=
  let set := cls.effective
  if set.isEmpty then (.error (.illegalState .emptyClass), source)
  else
    let (n, source) := source.below set.size
    match set.nth n with
    | some c => (.ok (c.toString, bound), source)
    | none => (.error (.illegalState .memberOutOfRange), source)

/-- Draws `n` texts one after another behind the text `before`. -/
def emitTimes (draw : Bindings → Source → Drawn × Source) :
    Nat → String → Bindings → Source → Drawn × Source
  | 0, before, bound, source => (.ok (before, bound), source)
  | n + 1, before, bound, source =>
    match draw bound source with
    | (.ok (text, bound), source) => emitTimes draw n (before ++ text) bound source
    | (.error failure, source) => (.error failure, source)

mutual

/-- Draws a text of a pattern. -/
def emitFrom (cap : UInt32) (p : Pattern) (bound : Bindings) (source : Source) : Drawn × Source :=
  match p with
  | literal text => (.ok (text, bound), source)
  | oneOf cls => emitClass cls bound source
  | anchor _ => (.ok ("", bound), source)
  | sequence items => emitItems cap items "" bound source
  | alternation branches =>
    if branches.isEmpty then (.error (.illegalState .emptyAlternation), source)
    else
      let (i, source) := source.below branches.length
      emitBranch cap branches i bound source
  | repetition bounds body =>
    let (n, source) := source.between bounds.least (bounds.highest cap)
    emitTimes (fun bound source => emitFrom cap body bound source) n.toNat "" bound source
  | group index _ body =>
    match emitFrom cap body bound source with
    | (.ok (text, bound), source) => (.ok (text, (index, text) :: bound), source)
    | (.error failure, source) => (.error failure, source)
  | backreference index =>
    match bound.lookup index with
    | some text => (.ok (text, bound), source)
    | none => (.error (.unboundReference index), source)

/-- Draws the texts of items in a row behind the text `before`. -/
def emitItems (cap : UInt32) (items : List Pattern) (before : String) (bound : Bindings)
    (source : Source) : Drawn × Source :=
  match items with
  | [] => (.ok (before, bound), source)
  | item :: rest =>
    match emitFrom cap item bound source with
    | (.ok (text, bound), source) => emitItems cap rest (before ++ text) bound source
    | (.error failure, source) => (.error failure, source)

/-- Draws a text of the branch at a place. -/
def emitBranch (cap : UInt32) (branches : List Pattern) (i : Nat) (bound : Bindings)
    (source : Source) : Drawn × Source :=
  match branches, i with
  | [], _ => (.error (.illegalState .emptyAlternation), source)
  | branch :: _, 0 => emitFrom cap branch bound source
  | _ :: rest, i + 1 => emitBranch cap rest i bound source

end

/-- Draws a string of a pattern, in which operators without a limit repeat at most `cap` times. The
source moves on also where the draw fails. -/
def emit (cap : UInt32) (p : Pattern) (source : Source) : Except Failure String × Source :=
  match emitFrom cap p [] source with
  | (.ok (text, _), source) => (.ok text, source)
  | (.error failure, source) => (.error failure, source)

/-- The cap where none is given. -/
def defaultCap : UInt32 := 10

end Pattern

end PatternForge
