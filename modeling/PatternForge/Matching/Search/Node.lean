import PatternForge.Matching.Expression

/-!
What the notation of the backtracking engine describes: expressions with numbered groups, references
to them, look-around, groups that are not entered again, and choices by a condition. `Node.width`
says how much text a node takes, `Node.isHard` whether the finite engine could not match it, and
`Node.expression?` what the finite engine is given otherwise.
-/
namespace PatternForge

/-- What a condition on a place is about. -/
inductive LookSubject where
  | text
  | line
  | word
  deriving DecidableEq, Repr

/-- A node of the backtracking engine. -/
inductive Node where
  /-- A character that passes a test. -/
  | one (test : CharTest)
  /-- A condition on the place. -/
  | look (subject : LookSubject) (holds : Place → Bool)
  /-- One after another. -/
  | sequence (items : List Node)
  /-- The first of several that leads to a match. -/
  | choice (branches : List Node)
  /-- A body at least so often, and at most so often if there is a limit. No two repetitions have
  the same number. -/
  | repeated (number least : Nat) (most : Option Nat) (greedy : Bool) (body : Node)
  /-- A group whose text is kept. -/
  | group (index : Nat) (body : Node)
  /-- The text of a group. -/
  | reference (index : Nat)
  /-- A body that must match, or must not, ahead of the place or up to it. -/
  | around (ahead wanted : Bool) (body : Node)
  /-- A body of which only the first match counts. -/
  | atomic (body : Node)
  /-- The condition that a group has been entered. -/
  | entered (index : Nat)
  /-- One of two, by whether a condition matches. -/
  | conditional (condition yes no : Node)

namespace Node

/-- The node of the empty text. -/
def empty : Node := sequence []

/-- Whether a node is that of the empty text. -/
def isEmpty : Node → Bool
  | sequence items => items.isEmpty
  | _ => false

/-- Whether a repetition operator may follow. -/
def isRepeatable : Node → Bool
  | look .. | around .. => false
  | node => !node.isEmpty

/-- A list of items as one node; one item is that item. -/
def ofItems (items : List Node) : Node :=
  match items with
  | [item] => item
  | _ => sequence items

/-- How much text a node takes. -/
structure Width where
  /-- The fewest characters. -/
  least : Nat
  /-- Whether it always takes so many. -/
  fixed : Bool
  deriving DecidableEq, Repr

/-- The width of one after another. -/
def Width.followedBy (a b : Width) : Width := ⟨a.least + b.least, a.fixed && b.fixed⟩

/-- The width of one of two. -/
def Width.either (a b : Width) : Width :=
  ⟨min a.least b.least, a.fixed && b.fixed && a.least = b.least⟩

/-- The width of one of two behind a condition, whose text belongs to the first of them. -/
def Width.conditional (condition yes no : Width) : Width where
  least := condition.least + min yes.least no.least
  fixed :=
    condition.fixed && yes.fixed && no.fixed && condition.least + yes.least = no.least

/-- The greatest count that can be written. As an upper bound it is no limit. -/
def greatestCount : Nat := UInt64.size - 1

mutual

/-- How much text a node takes. -/
def width : Node → Width
  | one _ => ⟨1, true⟩
  | look .. | around .. | entered _ => ⟨0, true⟩
  | sequence items => widthThrough items
  | choice branches => widthAny branches
  | repeated _ least most _ body =>
    let each := width body
    ⟨each.least * least, each.fixed && most.getD greatestCount = least⟩
  | group _ body | atomic body => width body
  | reference _ => ⟨0, false⟩
  | conditional condition yes no => (width condition).conditional (width yes) (width no)

/-- The width of several nodes, one after another. -/
def widthThrough : List Node → Width
  | [] => ⟨0, true⟩
  | node :: rest => (width node).followedBy (widthThrough rest)

/-- The width of any of several nodes. -/
def widthAny : List Node → Width
  | [] => ⟨0, true⟩
  | [node] => width node
  | node :: rest => (width node).either (widthAny rest)

end

mutual

/-- Whether a node is, or has in it, what the finite engine could not match, or not as fast: a
condition on words, a reference, look-around, a group that is not entered again, a choice by a
condition. -/
def isHard : Node → Bool
  | one _ => false
  | look subject _ => subject = .word
  | sequence items | choice items => someHard items
  | repeated _ _ _ _ body | group _ body => isHard body
  | reference _ | around .. | atomic _ | entered _ | conditional .. => true

/-- Whether one of several nodes is hard. -/
def someHard : List Node → Bool
  | [] => false
  | node :: rest => isHard node || someHard rest

end

/-- An expression in parentheses, if they are needed. -/
def grouped (needed : Bool) (e : Expression) : Expression := if needed then .group none e else e

mutual

/-- The expression of a node that is not hard. It is put in parentheses unless it binds tightly
enough: a choice where `tight` is not 0, a sequence from 2 on, and a repetition from 3 on. -/
def expression? (tight : Nat) : Node → Option Expression
  | one test => some (.one test)
  | look .text holds => some (.look holds)
  | look .line holds => some (.group none (.look holds))
  | sequence items =>
    (expressions? 2 items).map fun es => grouped (1 < tight) (.ofItems es)
  | choice branches =>
    (expressions? 1 branches).map fun es => grouped (0 < tight) (.choice es)
  | repeated _ least most greedy body =>
    (expression? 3 body).map fun e => grouped (2 < tight) (.repeated least most greedy e)
  | group index body => (expression? 0 body).map (.group (some index))
  | look .word _ | reference _ | around .. | atomic _ | entered _ | conditional .. => none

/-- The expressions of several nodes. -/
def expressions? (tight : Nat) : List Node → Option (List Expression)
  | [] => some []
  | node :: rest =>
    match expression? tight node, expressions? tight rest with
    | some e, some es => some (e :: es)
    | _, _ => none

end

/-- The items of a sequence, or a node as the only item. -/
def items : Node → List Node
  | sequence items => items
  | node => [node]

/-- The expression of several nodes, one after another. -/
def pieceExpression? (nodes : List Node) : Option Expression :=
  (expressions? 2 (nodes.flatMap items)).map .ofItems

end Node

end PatternForge
