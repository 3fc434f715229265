import PatternForge.CharSet

/-!
Patterns as trees. Classes are resolved to character sets, groups carry the number of their opening
parenthesis. `Pattern.sequence` and `Pattern.alternation` build trees in normal form; `Pattern.walk`
lists all nodes in pre-order, from which the groups and the outline are read off.
-/
namespace PatternForge

/-- A set of characters as it was written, together with whether it was written negated. -/
structure CharClass where
  /-- The characters that were written. -/
  set : CharSet
  /-- Whether the class allows the characters that were not written. -/
  negated : Bool

namespace CharClass

/-- The class of a set, which is closed to further changes. -/
def of (set : CharSet) (negated : Bool) : CharClass := { set := set.freeze, negated }

/-- The characters that the class allows. -/
def effective (cls : CharClass) : CharSet :=
  if cls.negated then cls.set.complement else cls.set

/-- The class that allows what this one does not. -/
def negate (cls : CharClass) : CharClass := .of cls.set !cls.negated

end CharClass

/-- Conditions on a place between two characters. They produce no text. -/
inductive Anchor where
  | start
  | finish
  | wordBoundary
  | notWordBoundary
  deriving DecidableEq, Repr

/-- How often a body is repeated. -/
structure Bounds where
  /-- The fewest times. -/
  least : UInt32
  /-- The most times, if there is a limit. -/
  most : Option UInt32
  /-- Whether more repetitions are preferred. -/
  greedy : Bool
  deriving DecidableEq, Repr

/-- A pattern. -/
inductive Pattern where
  /-- Exactly this text. -/
  | literal (text : String)
  /-- One character of a class. -/
  | oneOf (cls : CharClass)
  /-- A condition on the place. -/
  | anchor (kind : Anchor)
  /-- One after another. The empty sequence matches the empty text. -/
  | sequence (items : List Pattern)
  /-- One of several. -/
  | alternation (branches : List Pattern)
  /-- A body repeated. -/
  | repetition (bounds : Bounds) (body : Pattern)
  /-- A body whose text can be referred to by a number. -/
  | group (index : Nat) (name : Option String) (body : Pattern)
  /-- The text of a group. -/
  | backreference (index : Nat)

namespace Pattern

instance : Inhabited Pattern := ⟨sequence []⟩

/-- The pattern of the empty text. -/
def empty : Pattern := sequence []

/-- Puts an item behind others, latest first; two literals that meet become one. -/
def pushMerging (items : List Pattern) (item : Pattern) : List Pattern :=
  match items, item with
  | literal before :: rest, literal text => literal (before ++ text) :: rest
  | _, _ => item :: items

/-- The items of a sequence, or the pattern itself. -/
def spliced : Pattern → List Pattern
  | sequence items => items
  | item => [item]

/-- The items with sequences among them spliced in and literals merged, latest first. -/
def flattened (items : List Pattern) : List Pattern :=
  (items.flatMap spliced).foldl pushMerging []

/-- A list of items as one pattern: sequences among them are spliced in, literals that meet are
merged, and one item is that item. -/
def concat (items : List Pattern) : Pattern :=
  match flattened items with
  | [item] => item
  | latestFirst => sequence latestFirst.reverse

/-- A list of branches as one pattern: one branch is that branch. -/
def choice (branches : List Pattern) : Pattern :=
  match branches with
  | [branch] => branch
  | _ => alternation branches

/-- The patterns directly below a node. -/
def children : Pattern → List Pattern
  | literal _ | oneOf _ | anchor _ | backreference _ => []
  | sequence items => items
  | alternation branches => branches
  | repetition _ body => [body]
  | group _ _ body => [body]

mutual

/-- The nodes at or below a pattern in pre-order, each with its depth below `depth`. -/
def walkFrom (depth : Nat) (p : Pattern) : List (Nat × Pattern) :=
  (depth, p) ::
    match p with
    | literal _ | oneOf _ | anchor _ | backreference _ => []
    | sequence items => walkAll (depth + 1) items
    | alternation branches => walkAll (depth + 1) branches
    | repetition _ body => walkFrom (depth + 1) body
    | group _ _ body => walkFrom (depth + 1) body

/-- The nodes of several patterns, one pattern after another. -/
def walkAll (depth : Nat) (ps : List Pattern) : List (Nat × Pattern) :=
  match ps with
  | [] => []
  | p :: rest => walkFrom depth p ++ walkAll depth rest

end

/-- Every node in pre-order with its depth; the pattern itself has depth zero. -/
def walk (p : Pattern) : List (Nat × Pattern) := walkFrom 0 p

/-- A group as a triple, for nodes that are groups. -/
def asGroup? : Pattern → Option (Nat × Option String × Pattern)
  | group index name body => some (index, name, body)
  | _ => none

/-- Every group in the order of the opening parentheses. -/
def groups (p : Pattern) : List (Nat × Option String × Pattern) :=
  p.walk.filterMap fun node => node.2.asGroup?

/-- Whether no node lies deeper than a limit. -/
def nestedWithin (p : Pattern) (limit : Nat) : Bool := p.walk.all fun node => node.1 ≤ limit

end Pattern

end PatternForge
