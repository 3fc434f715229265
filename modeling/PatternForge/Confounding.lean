import PatternForge.Pattern

/-!
Patterns for near misses. Confounding keeps the shape of a pattern and replaces what produces text:
a class by its complement, a literal by one of the same length over a disjoint alphabet. One flag goes
through the whole tree and tells in the end whether anything was replaced; `Pattern.confounded` is the
tree without the flag.
-/
namespace PatternForge

/-- A character of a disjoint alphabet: letters for digits, digits for letters, letters for other
visible seven-bit characters. Every other character stays. -/
def Text.counterpart (c : Char) : Char :=
  let code := c.toNat
  if '0' ≤ c ∧ c ≤ '9' then Char.ofNat ('a'.toNat + (code - '0'.toNat))
  else if 'a' ≤ c ∧ c ≤ 'z' then Char.ofNat ('0'.toNat + (code - 'a'.toNat) % 10)
  else if 'A' ≤ c ∧ c ≤ 'Z' then Char.ofNat ('0'.toNat + (code - 'A'.toNat) % 10)
  else if ' ' ≤ c ∧ c ≤ '~' then Char.ofNat ('a'.toNat + code % 26)
  else c

/-- A text over the disjoint alphabet. -/
def Text.counterparts (text : String) : String :=
  String.ofList (text.toList.map Text.counterpart)

/-- Whether a class has a complement to replace it by. -/
def CharClass.isConfoundable (cls : CharClass) : Bool := !cls.negate.effective.isEmpty

namespace Pattern

mutual

/-- The pattern with everything replaced that can be. -/
def confounded (p : Pattern) : Pattern :=
  match p with
  | literal text => literal (Text.counterparts text)
  | oneOf cls => oneOf (if cls.isConfoundable then cls.negate else cls)
  | anchor kind => anchor kind
  | sequence items => sequence (confoundedAll items)
  | alternation branches => alternation (confoundedAll branches)
  | repetition bounds body => repetition bounds (confounded body)
  | group index name body => group index name (confounded body)
  | backreference index => backreference index

/-- Several patterns with everything replaced that can be. -/
def confoundedAll (ps : List Pattern) : List Pattern :=
  match ps with
  | [] => []
  | p :: rest => confounded p :: confoundedAll rest

end

theorem confoundedAll_eq_map (ps : List Pattern) : confoundedAll ps = ps.map confounded := by
  induction ps with
  | nil => rfl
  | cons p rest ih => simp [confoundedAll, ih]

/-- Whether a node alone is changed by confounding. -/
def changesWhenConfounded : Pattern → Bool
  | literal text => Text.counterparts text != text
  | oneOf cls => cls.isConfoundable
  | _ => false

mutual

/-- Replaces everything that can be. The flag is handed on from node to node, and it stays set from the
first leaf on that changes. -/
def confound (p : Pattern) (changed : Bool) : Pattern × Bool :=
  match p with
  | literal text =>
    let swapped := Text.counterparts text
    (literal swapped, if swapped != text then true else changed)
  | oneOf cls =>
    let negated := cls.negate
    if negated.effective.isEmpty then (oneOf cls, changed) else (oneOf negated, true)
  | anchor kind => (anchor kind, changed)
  | sequence items =>
    let (items, changed) := confoundAll items changed
    (sequence items, changed)
  | alternation branches =>
    let (branches, changed) := confoundAll branches changed
    (alternation branches, changed)
  | repetition bounds body =>
    let (body, changed) := confound body changed
    (repetition bounds body, changed)
  | group index name body =>
    let (body, changed) := confound body changed
    (group index name body, changed)
  | backreference index => (backreference index, changed)

/-- Replaces everything that can be in several patterns, one after another. -/
def confoundAll (ps : List Pattern) (changed : Bool) : List Pattern × Bool :=
  match ps with
  | [] => ([], changed)
  | p :: rest =>
    let (p, changed) := confound p changed
    let (rest, changed) := confoundAll rest changed
    (p :: rest, changed)

end

/-- The confounded pattern, if confounding changes anything. -/
def confound? (p : Pattern) : Option Pattern :=
  match p.confound false with
  | (near, changed) => if changed then some near else none

end Pattern

end PatternForge
