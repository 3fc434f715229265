import Std.Data.HashSet
import PatternForge.Matching.Captures
import PatternForge.Matching.Expression

/-!
The automaton of an expression, for where it matters which of several matches is preferred and what
the groups hold then. An automaton is built from its end: each part of it is built in front of a
state that is there already. `Automaton.first?` tries the ways through an automaton in the order of
preference. It tries no state twice at the same place, since what failed once would fail again; that
also ends every loop.
-/
namespace PatternForge

/-- A state of an automaton. States refer to one another by their numbers. -/
inductive Automaton.State where
  /-- Takes a character that is allowed. -/
  | one (allows : Char → Bool) (next : Nat)
  /-- Goes on where a condition holds. -/
  | look (holds : Place → Bool) (next : Nat)
  /-- Goes on in the first of two ways that leads to a match. -/
  | either (first second : Nat)
  /-- Enters a group. -/
  | enter (index next : Nat)
  /-- Leaves a group. -/
  | leave (index next : Nat)
  /-- The end of a match. -/
  | accept

/-- An automaton. -/
structure Automaton where
  /-- The states by their numbers. -/
  states : Array Automaton.State
  /-- The number of the state in which a match begins. -/
  start : Nat

namespace Automaton

/-- A part of an automaton that can be built: given the number of the state behind it and the states
so far, the number of its first state and the states with its own. -/
abbrev Part := Nat → Array State → Nat × Array State

/-- A state on its own, given the state behind it. -/
def Part.single (state : Nat → State) : Part := fun next states =>
  (states.size, states.push (state next))

/-- The choice between a body and what is behind it. -/
def choose (greedy : Bool) (body behind : Nat) : State :=
  if greedy then .either body behind else .either behind body

/-- A body that may be left out. -/
def Part.optional (greedy : Bool) (body : Part) (behind : Nat) : Part := fun next states =>
  let (first, states) := body next states
  Part.single (fun first => choose greedy first behind) first states

/-- A body once or more. A choice behind the body leads back to it. -/
def Part.onceOrMore (greedy : Bool) (body : Part) : Part := fun next states =>
  let choice := states.size
  let (first, states) := body choice (states.push .accept)
  (first, states.setIfInBounds choice (choose greedy first next))

/-- A body that takes some text, any number of times: the choice behind the body is where it all
begins. -/
def Part.anyNumber (greedy : Bool) (body : Part) : Part := fun next states =>
  (states.size, (Part.onceOrMore greedy body next states).2)

/-- A body so many times. -/
def Part.times (body : Part) : Nat → Part
  | 0, next, states => (next, states)
  | n + 1, next, states =>
    let (first, states) := body next states
    times body n first states

/-- A body up to so many times. Each choice to stop leads to the same state behind. -/
def Part.upTo (greedy : Bool) (body : Part) (n : Nat) : Part := fun behind states =>
  (body.optional greedy behind).times n behind states

/-- A body at least so often, and at most so often if there is a limit. A body that may take no text
is repeated any number of times by leaving out once or more of it, so that a round through it comes
before none. -/
def Part.repeated (least : Nat) (most : Option Nat) (greedy takesText : Bool) (body : Part) :
    Part := fun next states =>
  match least, most with
  | _, some most =>
    let (first, states) := body.upTo greedy (most - least) next states
    body.times least first states
  | 0, none =>
    if takesText then body.anyNumber greedy next states
    else (body.onceOrMore greedy).optional greedy next next states
  | least + 1, none =>
    let (first, states) := body.onceOrMore greedy next states
    body.times least first states

mutual

/-- The part for an expression. A body that takes no text is not repeated more than once. -/
def part (e : Expression) : Part :=
  match e with
  | .one test => Part.single (.one test.allows)
  | .look holds => Part.single (.look holds)
  | .sequence items => partThrough items
  | .choice branches => partAny branches
  | .repeated least most greedy body =>
    if body.takesNothing then
      Part.repeated (min least 1) (some (min (most.getD 1) 1)) greedy false (part body)
    else Part.repeated least most greedy body.takesText (part body)
  | .group none body => part body
  | .group (some index) body => fun next states =>
    let (after, states) := Part.single (.leave index) next states
    let (first, states) := part body after states
    Part.single (.enter index) first states

/-- The part for several expressions, one after another. -/
def partThrough (items : List Expression) : Part :=
  match items with
  | [] => fun next states => (next, states)
  | e :: rest => fun next states =>
    let (first, states) := partThrough rest next states
    part e first states

/-- The part for any of several expressions. -/
def partAny (branches : List Expression) : Part :=
  match branches with
  | [] => fun next states => (next, states)
  | [e] => part e
  | e :: rest => fun next states =>
    let (others, states) := partAny rest next states
    let (first, states) := part e next states
    Part.single (fun first => .either first others) first states

end

/-- The automaton of an expression. -/
def ofExpression (e : Expression) : Automaton :=
  let (start, states) := part e 0 (Array.singleton .accept)
  { states, start }

/-- A way into an automaton. -/
structure Way where
  /-- The number of the state that has been reached. -/
  state : Nat
  /-- The number of characters before the place that has been reached. -/
  place : Nat
  /-- What the groups hold. -/
  captures : Captures

/-- How a way goes on from a state that is not the end, in the order of preference. -/
def State.onward (state : State) (text : Array Char) (way : Way) : List Way :=
  match state with
  | .one allows next =>
    match text[way.place]? with
    | some c => if allows c then [{ way with state := next, place := way.place + 1 }] else []
    | none => []
  | .look holds next => if holds (.at text way.place) then [{ way with state := next }] else []
  | .either first second => [{ way with state := first }, { way with state := second }]
  | .enter index next =>
    [{ way with state := next, captures := way.captures.enter index way.place }]
  | .leave index next =>
    [{ way with state := next, captures := way.captures.leave index way.place }]
  | .accept => []

/-- The first way that leads to the end, of several to try. `tried` has the states that have been
reached before, with the places. -/
def follow (a : Automaton) (text : Array Char) :
    Nat → Std.HashSet (Nat × Nat) → List Way → Option Way
  | 0, _, _ => none
  | _ + 1, _, [] => none
  | fuel + 1, tried, way :: others =>
    if tried.contains (way.state, way.place) then follow a text fuel tried others
    else
      match a.states[way.state]? with
      | none => follow a text fuel tried others
      | some .accept => some way
      | some state =>
        follow a text fuel (tried.insert (way.state, way.place)) (state.onward text way ++ others)

/-- The preferred match from a place on: where it ends and what the groups hold then. A way is taken
up at most twice for every state at every place, and once more at the start. -/
def first? (a : Automaton) (text : Array Char) (place : Nat) (captures : Captures) : Option Way :=
  let fuel := 2 * a.states.size * (text.size + 1) + 2
  follow a text fuel Std.HashSet.emptyWithCapacity [{ state := a.start, place, captures }]

end Automaton

end PatternForge
