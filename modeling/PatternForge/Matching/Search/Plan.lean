import PatternForge.Matching.Regular.Automaton
import PatternForge.Matching.Regular.Reader
import PatternForge.Matching.Search.Node

/-!
How the backtracking engine goes about a node. Parts that are not hard become pieces: a piece is
matched by an automaton in one go, and the search never goes back into it. Nothing is lost by that
as long as the piece has a fixed width or as nothing behind it can fail for its sake; so in a
sequence these are the items in front and at the end. All else is tried out step by step.
-/
namespace PatternForge

mutual

/-- The numbers of the groups in an expression. -/
def Expression.groups : Expression → List Nat
  | .one _ | .look _ => []
  | .sequence items | .choice items => groupsOfAll items
  | .repeated _ _ _ body => groups body
  | .group index body => index.toList ++ groups body

/-- The numbers of the groups in several expressions. -/
def Expression.groupsOfAll : List Expression → List Nat
  | [] => []
  | e :: rest => groups e ++ groupsOfAll rest

end

/-- What the machine does for a node. -/
inductive Plan where
  /-- Takes a character that is allowed. -/
  | one (allows : Char → Bool)
  /-- Goes on where a condition holds. -/
  | look (holds : Place → Bool)
  /-- Takes the preferred match of an automaton, which alone decides about some groups. -/
  | piece (groups : List Nat) (automaton : Automaton)
  /-- One after another. -/
  | sequence (items : List Plan)
  /-- The first of several that leads to a match. -/
  | choice (branches : List Plan)
  /-- A body at least so often, and at most so often if there is a limit. A guarded repetition does
  not go on behind a round that took no text. -/
  | repeated (number : Nat) (guarded : Bool) (least : Nat) (most : Option Nat) (greedy : Bool)
      (body : Plan)
  /-- A group whose text is kept. -/
  | group (index : Nat) (body : Plan)
  /-- The text of a group. -/
  | reference (index : Nat)
  /-- A body that must match, or must not, from so many characters back. -/
  | around (wanted : Bool) (back : Nat) (body : Plan)
  /-- A body of which only the first match counts. -/
  | atomic (body : Plan)
  /-- The condition that a group has been entered. -/
  | entered (index : Nat)
  /-- One of two, by whether a condition matches. -/
  | conditional (condition yes no : Plan)

/-- The plan that does nothing. -/
def Plan.empty : Plan := .sequence []

namespace Node

/-- Nodes that are not hard as a piece, if the finite engine accepts them. -/
def piece? (nodes : List Node) : Option Plan :=
  if nodes.isEmpty then some .empty
  else ((pieceExpression? nodes).bind Regular.withinLimits).map fun e =>
    .piece e.groups (.ofExpression e)

/-- Whether a node is not hard and has a fixed width. -/
def isSteady (node : Node) : Bool := node.width.fixed && !node.isHard

/-- How many items in front of a sequence are a piece. -/
def frontLength (items : List Node) : Nat := (items.takeWhile isSteady).length

/-- How many items at the end of a sequence are a piece, apart from those in front. Where something
behind the sequence may fail, they need to have a fixed width. -/
def endLength (mayFail : Bool) (items : List Node) : Nat :=
  let further := (items.drop (frontLength items)).reverse
  (further.takeWhile fun node => if mayFail then node.isSteady else !node.isHard).length

mutual

/-- The plan for a node. Something behind it may fail, which would have to be answered by another
match of the node, if `mayFail` says so. Where a body is looked behind for, its width decides how
far back it starts, and branches of different widths are looked for one by one. -/
def plan? (mayFail : Bool) (node : Node) : Option Plan :=
  if !mayFail && !node.isHard then piece? [node]
  else
    match node with
    | .one test => (Regular.withinLimits (.one test)).map fun _ => .one test.allows
    | .look _ holds => some (.look holds)
    | .sequence items => do
      let front := frontLength items
      let rear := endLength mayFail items
      let first ← piece? (items.take front)
      let middle ← plansBetween? front (items.length - front - rear) items
      let last ← piece? (items.drop (items.length - rear))
      return .sequence (first :: middle ++ [last])
    | .choice branches => (plans? mayFail branches).map .choice
    | .repeated number least most greedy body => do
      let isOption := least = 0 && most = some 1
      let plan ← plan? (mayFail || !isOption) body
      return .repeated number (most.isNone && body.width.least = 0) least most greedy plan
    | .group index body => (plan? mayFail body).map (.group index)
    | .reference index => some (.reference index)
    | .around true wanted body => (plan? false body).map (.around wanted 0)
    | .around false wanted body =>
      if body.width.fixed then (plan? false body).map (.around wanted body.width.least)
      else
        match body with
        | .choice branches =>
          (plansBehind? wanted branches).map fun plans =>
            if wanted then .choice plans else .sequence plans
        | _ => none
    | .atomic body => (plan? false body).map .atomic
    | .entered index => some (.entered index)
    | .conditional condition yes no => do
      return .conditional (← plan? mayFail condition) (← plan? mayFail yes) (← plan? mayFail no)

/-- The plans for several nodes. -/
def plans? (mayFail : Bool) (nodes : List Node) : Option (List Plan) :=
  match nodes with
  | [] => some []
  | node :: rest => do return (← plan? mayFail node) :: (← plans? mayFail rest)

/-- The plans for some items of a sequence, behind so many others. -/
def plansBetween? (skipped count : Nat) (items : List Node) : Option (List Plan) :=
  match skipped, count, items with
  | skipped + 1, count, _ :: rest => plansBetween? skipped count rest
  | 0, count + 1, node :: rest => do
    return (← plan? true node) :: (← plansBetween? 0 count rest)
  | _, _, _ => some []

/-- The plans for looking behind for each of several bodies. -/
def plansBehind? (wanted : Bool) (bodies : List Node) : Option (List Plan) :=
  match bodies with
  | [] => some []
  | body :: rest => do
    if !body.width.fixed then none
    let plan ← plan? false body
    return .around wanted body.width.least plan :: (← plansBehind? wanted rest)

end

end Node

end PatternForge
