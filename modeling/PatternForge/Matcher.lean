import PatternForge.Failure
import PatternForge.Matching.Search.Machine
import PatternForge.Matching.Search.Reader

/-!
Whether a text is matched by a pattern as a whole. The pattern is put between anchors and given to
the finite engine, whose notation has no references and no look-around; what that engine refuses
goes to the backtracking engine. Neither engine knows the universe of a pattern.
-/
namespace PatternForge

/-- How a pattern is matched. -/
inductive Engine where
  /-- By the finite engine. -/
  | finite (e : Expression)
  /-- By the finite engine on behalf of the backtracking engine, which needs to try nothing. -/
  | plain (e : Expression)
  /-- By the backtracking engine. -/
  | backtracking (plan : Plan)

/-- A pattern that is ready to be matched. -/
structure Matcher where
  /-- The pattern, without the anchors around it. -/
  pattern : String
  /-- How it is matched. -/
  engine : Engine

namespace Matcher

/-- A pattern between anchors, so that it has to match a text as a whole. -/
def anchored (pattern : String) : String := "^(?:" ++ pattern ++ ")$"

/-- The engine for a node of the backtracking engine. -/
def engineOf? (node : Node) : Option Engine :=
  if node.isHard then (node.plan? true).map .backtracking
  else ((node.expression? 0).bind Regular.withinLimits).map .plain

/-- The engine for a pattern, if there is one. -/
def engine? (data : CharacterData) (pattern : String) : Option Engine :=
  match Expression.read? data (anchored pattern) with
  | some e => some (.finite e)
  | none => (Node.read? data (anchored pattern)).bind engineOf?

/-- Prepares a pattern, which at least one of the engines must accept. -/
def ofPattern (pattern : String) (data : CharacterData := .standard) : Except Failure Matcher :=
  match engine? data pattern with
  | some engine => .ok { pattern, engine }
  | none => .error (.matcher .rejected)

/-- Whether the backtracking engine was needed. -/
def isBacktracking (m : Matcher) : Bool :=
  match m.engine with
  | .finite _ => false
  | _ => true

/-- Whether a text is matched as a whole. The backtracking engine may give up. -/
def accepts (m : Matcher) (text : String) : Except Failure Bool :=
  match m.engine with
  | .finite e | .plain e => .ok (e.accepts text.toList)
  | .backtracking plan =>
    match Search.search plan text.toList with
    | .matched => .ok true
    | .exhausted => .ok false
    | .gaveUp | .working _ => .error (.matcher .gaveUp)

end Matcher

end PatternForge
