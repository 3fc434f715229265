import Mathlib.Data.List.Basic
import PatternForge.Pattern.Print
import PatternForge.Proofs.Pattern.Paths
import PatternForge.Proofs.RoundTrip.Characters

/-!
Walking through a tree without recursion. The nodes that are still to be visited lie on a stack, each with its
depth, and a visited node leaves its children there, the first of them on top. What such a stack has still to
give is one walk after another (`Pattern.pending`), so the loop visits what the recursive walk lists, and ends.

The walk meets every place of the tree once, in the order of the ways down to them (`Pattern.places`). Except in
the name of a group, no node has a line feed in its summary, so the outline has one line for each visit.
-/
namespace PatternForge.Pattern

universe u

/-! ### The loop -/

/-- What a stack of nodes with their depths has still to give, in order. -/
def pending (stack : List (Nat × Pattern)) : List (Nat × Pattern) :=
  stack.flatMap fun entry => walkFrom entry.1 entry.2

/-- Puts the children of a node on the stack, the last of them first. -/
def pushChildren (depth : Nat) (children : List Pattern) (stack : List (Nat × Pattern)) :
    List (Nat × Pattern) :=
  children.reverse.foldl (fun stack child => (depth, child) :: stack) stack

theorem walkAll_eq_flatMap (depth : Nat) (ps : List Pattern) :
    walkAll depth ps = ps.flatMap (walkFrom depth) := by
  induction ps with
  | nil => rfl
  | cons p rest ih => rw [walkAll, ih, List.flatMap_cons]

/-- **A step of the loop** takes the first pending node off and leaves the others. -/
theorem pending_step (depth : Nat) (p : Pattern) (stack : List (Nat × Pattern)) :
    pending ((depth, p) :: stack) = (depth, p) :: pending (pushChildren (depth + 1) p.children stack) := by
  have pushed : pushChildren (depth + 1) p.children stack = p.children.map (depth + 1, ·) ++ stack := by
    simp [pushChildren]
  simp only [pushed, pending, List.flatMap_cons, List.flatMap_append, List.flatMap_map, walkFrom_eq depth p,
    walkAll_eq_flatMap, List.cons_append]

/-- Visits all nodes from a stack on, and hands a state from each visit to the next. -/
def visitFrom {σ : Type u} (visit : σ → Nat → Pattern → σ) (state : σ) (stack : List (Nat × Pattern)) : σ :=
  match stack with
  | [] => state
  | (depth, p) :: stack => visitFrom visit (visit state depth p) (pushChildren (depth + 1) p.children stack)
termination_by (pending stack).length
decreasing_by
  rw [pending_step]
  exact Nat.lt_succ_self _

/-- Visits the nodes of a tree, the tree itself at depth zero. -/
def traverse {σ : Type u} (visit : σ → Nat → Pattern → σ) (start : σ) (p : Pattern) : σ :=
  visitFrom visit start [(0, p)]

/-- **A run of the loop** visits what is pending, whatever the visits do. -/
theorem visitFrom_eq {σ : Type u} (visit : σ → Nat → Pattern → σ) (state : σ) (stack : List (Nat × Pattern)) :
    visitFrom visit state stack = (pending stack).foldl (fun state node => visit state node.1 node.2) state := by
  fun_induction visitFrom visit state stack with
  | case1 state => rfl
  | case2 state depth p stack ih => rw [ih, pending_step, List.foldl_cons]

theorem traverse_eq {σ : Type u} (visit : σ → Nat → Pattern → σ) (start : σ) (p : Pattern) :
    p.traverse visit start = p.walk.foldl (fun state node => visit state node.1 node.2) start := by
  rw [traverse, visitFrom_eq, pending, List.flatMap_singleton, walk]

/-! ### The groups -/

/-- The nodes of a tree do not depend on the depth at which a walk starts. -/
theorem walkFrom_nodes (depth : Nat) (p : Pattern) : (walkFrom depth p).map Prod.snd = p.walk.map Prod.snd := by
  induction p using induct_children generalizing depth with
  | node p ih =>
    have below (child) (member : child ∈ p.children) :
        (walkFrom (depth + 1) child).map Prod.snd = (walkFrom 1 child).map Prod.snd :=
      (ih child member _).trans (ih child member _).symm
    rw [walk, walkFrom_eq, walkFrom_eq 0, walkAll_eq_flatMap, walkAll_eq_flatMap, List.map_cons, List.map_cons,
      List.map_flatMap, List.map_flatMap, List.flatMap_congr below]

/-- What a stack of nodes without their depths has still to give. -/
def remaining (stack : List Pattern) : List Pattern := stack.flatMap fun p => p.walk.map Prod.snd

theorem remaining_step (p : Pattern) (stack : List Pattern) :
    remaining (p :: stack) =
      p :: remaining (p.children.reverse.foldl (fun stack child => child :: stack) stack) := by
  have pushed : p.children.reverse.foldl (fun stack child => child :: stack) stack = p.children ++ stack := by
    simp
  simp only [pushed, remaining, List.flatMap_cons, List.flatMap_append, walk, walkFrom_eq 0 p,
    walkAll_eq_flatMap, List.map_cons, List.map_flatMap, List.cons_append]
  refine congrArg (p :: ·) (congrArg (· ++ _) (List.flatMap_congr fun child _ => ?_))
  exact walkFrom_nodes 1 child

/-- Collects the groups from a stack on, behind those that were found before. -/
def gatherGroups (found : List (Nat × Option String × Pattern)) (stack : List Pattern) :
    List (Nat × Option String × Pattern) :=
  match stack with
  | [] => found
  | p :: stack =>
    gatherGroups (found ++ p.asGroup?.toList) (p.children.reverse.foldl (fun stack child => child :: stack) stack)
termination_by (remaining stack).length
decreasing_by
  rw [remaining_step]
  exact Nat.lt_succ_self _

/-- The groups in the order in which they are visited. -/
def captureGroups (p : Pattern) : List (Nat × Option String × Pattern) := gatherGroups [] [p]

theorem gatherGroups_eq (found : List (Nat × Option String × Pattern)) (stack : List Pattern) :
    gatherGroups found stack = found ++ (remaining stack).filterMap asGroup? := by
  fun_induction gatherGroups found stack with
  | case1 found => simp [remaining]
  | case2 found p stack ih =>
    rw [ih, remaining_step, List.append_assoc]
    cases isGroup : p.asGroup? with
    | none => rw [List.filterMap_cons_none isGroup]; rfl
    | some group => rw [List.filterMap_cons_some isGroup]; rfl

theorem captureGroups_eq (p : Pattern) : p.captureGroups = p.walk.filterMap fun node => node.2.asGroup? := by
  rw [captureGroups, gatherGroups_eq, remaining, List.flatMap_singleton, List.filterMap_map, List.nil_append]
  rfl

/-! ### Every place once -/

mutual

/-- The places of a tree, each in front of those below it, the children from left to right. -/
def places (p : Pattern) : List (List Nat) :=
  [] ::
    match p with
    | literal _ | oneOf _ | anchor _ | backreference _ => []
    | sequence items => placesAmong 0 items
    | alternation branches => placesAmong 0 branches
    | repetition _ body => (places body).map (0 :: ·)
    | group _ _ body => (places body).map (0 :: ·)

/-- The places of several children, the first of which has the number `k`. -/
def placesAmong (k : Nat) (ps : List Pattern) : List (List Nat) :=
  match ps with
  | [] => []
  | p :: rest => (places p).map (k :: ·) ++ placesAmong (k + 1) rest

end

theorem places_eq (p : Pattern) : p.places = [] :: placesAmong 0 p.children := by
  cases p <;> simp [places, children, placesAmong]

theorem mem_placesAmong {k : Nat} {ps : List Pattern} {place : List Nat} :
    place ∈ placesAmong k ps ↔
      ∃ j child inner, ps[j]? = some child ∧ inner ∈ child.places ∧ place = (k + j) :: inner := by
  induction ps generalizing k with
  | nil => simp [placesAmong]
  | cons p rest ih =>
    rw [placesAmong, List.mem_append, List.mem_map, ih]
    constructor
    · rintro (⟨inner, member, rfl⟩ | ⟨j, child, inner, found, member, rfl⟩)
      · exact ⟨0, p, inner, rfl, member, rfl⟩
      · exact ⟨j + 1, child, inner, found, member, by rw [Nat.add_right_comm, Nat.add_assoc]⟩
    · rintro ⟨j, child, inner, found, member, rfl⟩
      cases j with
      | zero =>
        cases found
        exact .inl ⟨inner, member, rfl⟩
      | succ j => exact .inr ⟨j, child, inner, found, member, by rw [Nat.add_right_comm, Nat.add_assoc]⟩

/-- The places are those at which there is something. -/
theorem mem_places {p : Pattern} {place : List Nat} : place ∈ p.places ↔ (p.at? place).isSome := by
  induction p using induct_children generalizing place with
  | node p ih =>
    rw [places_eq, List.mem_cons, mem_placesAmong]
    cases place with
    | nil => simp
    | cons k inner =>
      simp only [reduceCtorEq, false_or, Nat.zero_add, List.cons.injEq]
      constructor
      · rintro ⟨j, child, inner, found, member, rfl, rfl⟩
        rw [at?_cons found]
        exact (ih child (List.mem_of_getElem? found)).mp member
      · intro isThere
        obtain ⟨q, isThere⟩ := Option.isSome_iff_exists.mp isThere
        obtain ⟨child, found, below⟩ := Option.bind_eq_some_iff.mp isThere
        exact ⟨k, child, inner, found,
          (ih child (List.mem_of_getElem? found)).mpr (Option.isSome_iff_exists.mpr ⟨q, below⟩), rfl, rfl⟩

private theorem placesAmong_pairwise {k : Nat} {ps : List Pattern}
    (each : ∀ p ∈ ps, p.places.Pairwise (· < ·)) : (placesAmong k ps).Pairwise (· < ·) := by
  induction ps generalizing k with
  | nil => exact .nil
  | cons p rest ih =>
    obtain ⟨first, others⟩ := List.forall_mem_cons.mp each
    rw [placesAmong, List.pairwise_append]
    refine ⟨List.pairwise_map.mpr (first.imp fun less => List.cons_lt_cons_iff.mpr (.inr ⟨rfl, less⟩)),
      ih others, fun a left b right => ?_⟩
    obtain ⟨inner, -, rfl⟩ := List.mem_map.mp left
    obtain ⟨j, child, inner', -, -, rfl⟩ := mem_placesAmong.mp right
    exact List.cons_lt_cons_iff.mpr (.inl (by omega))

/-- A place comes before what is below it, and before what is to its right. -/
theorem places_pairwise (p : Pattern) : p.places.Pairwise (· < ·) := by
  induction p using induct_children with
  | node p ih =>
    rw [places_eq]
    refine .cons (fun place member => ?_) (placesAmong_pairwise ih)
    obtain ⟨j, child, inner, -, -, rfl⟩ := mem_placesAmong.mp member
    exact List.nil_lt_cons _ _

/-- **A walk visits the places in their order**, at the depth that is the length of the way down. -/
theorem places_walkFrom (depth : Nat) (p : Pattern) :
    (p.places.map fun place => (depth + place.length, p.at? place)) =
      (walkFrom depth p).map fun node => (node.1, some node.2) := by
  induction p using induct_children generalizing depth with
  | node p ih =>
    -- The children that are left, behind those whose places were visited.
    have among (before rest : List Pattern) (split : p.children = before ++ rest) :
        ((placesAmong before.length rest).map fun place => (depth + place.length, p.at? place)) =
          (walkAll (depth + 1) rest).map fun node => (node.1, some node.2) := by
      induction rest generalizing before with
      | nil => rfl
      | cons child rest ih' =>
        have found : p.children[before.length]? = some child := by simp [split]
        have others := ih' (before ++ [child]) (by rw [split, List.append_assoc]; rfl)
        rw [List.length_append] at others
        rw [placesAmong, walkAll, List.map_append, List.map_append, ← ih child (by simp [split]), ← others,
          List.map_map]
        refine congrArg (· ++ _) (List.map_congr_left fun inner _ => ?_)
        rw [Function.comp_apply, at?_cons found, List.length_cons, Nat.add_right_comm, Nat.add_assoc]
    rw [places_eq, walkFrom_eq, List.map_cons, List.map_cons, ← among [] p.children rfl]
    rfl

/-! ### The outline -/

/-- The outline as it is written on the way: the indentation step by step, then the summary and a line feed. -/
def drawOutline (p : Pattern) : String :=
  p.traverse (fun out depth node => Nat.repeat (· ++ "  ") depth out ++ node.summary ++ "\n") ""

/-- The line of a node. -/
def outlineLine (node : Nat × Pattern) : List Char :=
  List.replicate (2 * node.1) ' ' ++ node.2.summary.toList

theorem repeat_indentation (depth : Nat) (out : String) :
    (Nat.repeat (· ++ "  ") depth out).toList = out.toList ++ List.replicate (2 * depth) ' ' := by
  induction depth with
  | zero => simp [Nat.repeat]
  | succ depth ih => simp [Nat.repeat, ih, Nat.mul_succ, List.replicate_add]

theorem drawOutline_toList (p : Pattern) :
    p.drawOutline.toList = (p.walk.map fun node => outlineLine node ++ ['\n']).flatten := by
  have drawn (nodes : List (Nat × Pattern)) (out : String) :
      (nodes.foldl (fun out node => Nat.repeat (· ++ "  ") node.1 out ++ node.2.summary ++ "\n") out).toList =
        out.toList ++ (nodes.map fun node => outlineLine node ++ ['\n']).flatten := by
    induction nodes generalizing out with
    | nil => simp
    | cons node rest ih => simp [ih, repeat_indentation, outlineLine]
  rw [drawOutline, traverse_eq, drawn]
  rfl

theorem outline_toList (p : Pattern) :
    p.outline.toList = (p.walk.map fun node => outlineLine node ++ ['\n']).flatten := by
  simp [outline, outlineLines, outlineLine, String.toList_join, List.flatMap_def, Function.comp_def]

/-! ### Line feeds -/

theorem newline_not_mem_literalChar (c : Char) : '\n' ∉ literalChar c := by
  rcases literalChar_cases c with ⟨special, form⟩ | ⟨control, form⟩ | ⟨plain, form⟩
  · have other : c ≠ '\n' := by
      rintro rfl
      cases special
    simpa [form] using other.symm
  · obtain ⟨d, e, digits, isHex, isHex', -, -⟩ := Text.hexCapital_control control
    have other : ∀ c, Escape.isHexDigit c = true → '\n' ≠ c := by
      rintro _ isHex rfl
      cases isHex
    simpa [form, digits] using ⟨other d isHex, other e isHex'⟩
  · have other : c ≠ '\n' := by
      rintro rfl
      cases form
    simpa [form] using other.symm

theorem newline_not_mem_classRun (run : Char × Char) : '\n' ∉ classRun run := by
  obtain ⟨lo, hi⟩ := run
  have first := newline_not_mem_literalChar lo
  have last := newline_not_mem_literalChar hi
  rw [classRun]
  split
  · exact first
  · split <;> simp [first, last]

theorem newline_not_mem_decimal (n : Nat) : '\n' ∉ Text.decimal n := fun member => by
  cases Nat.isDigit_of_mem_toDigits (by decide) (by decide) member

theorem newline_not_mem_boundsText (bounds : Bounds) : '\n' ∉ boundsText bounds := by
  have digits := newline_not_mem_decimal
  unfold boundsText
  split <;> split <;> simp [digits]

/-- **A summary is one line**, unless the name of a group has a line feed. -/
theorem newline_not_mem_summary {p : Pattern}
    (unbroken : ∀ group ∈ p.asGroup?, ∀ name ∈ group.2.1, '\n' ∉ name.toList) :
    '\n' ∉ p.summary.toList := by
  have digits (n : Nat) : '\n' ∉ Nat.toDigits 10 n := newline_not_mem_decimal n
  have words (s : String) : toString s = s := rfl
  cases p with
  | literal content => simp [summary, render, text, grouped, newline_not_mem_literalChar]
  | oneOf cls => simp [summary, render, text, classText, newline_not_mem_classRun]
  | anchor kind => cases kind <;> decide
  | backreference index => simp [summary, render, text, newline_not_mem_decimal]
  | sequence items => simp [summary, words, digits]
  | alternation branches => simp [summary, words, digits]
  | repetition bounds body => simp [summary, newline_not_mem_boundsText]
  | group index name body =>
    cases name with
    | none => simp [summary, words, digits]
    | some name => simp [summary, words, digits, unbroken (index, some name, body) rfl name rfl]

/-- The lines of the outline, cut at the line feeds, are the lines of the nodes. -/
theorem splitOn_outline {p : Pattern}
    (unbroken : ∀ group ∈ p.groups, ∀ name ∈ group.2.1, '\n' ∉ name.toList) :
    p.outline.toList.splitOn '\n' = p.walk.map outlineLine ++ [[]] := by
  have whole : p.outline.toList = ['\n'].intercalate (p.walk.map outlineLine ++ [[]]) := by
    rw [outline_toList]
    induction p.walk with
    | nil => rfl
    | cons node rest ih =>
      rw [List.map_cons, List.flatten_cons, ih, List.map_cons, List.cons_append,
        List.intercalate_cons_of_ne_nil (by simp)]
  rw [whole]
  refine List.splitOn_intercalate '\n' (fun line member => ?_) (by simp)
  rcases List.mem_append.mp member with member | member
  · obtain ⟨node, visited, rfl⟩ := List.mem_map.mp member
    have single := @newline_not_mem_summary node.2 fun group isGroup =>
      unbroken group (List.mem_filterMap.mpr ⟨node, visited, isGroup⟩)
    simp [outlineLine, single]
  · simp [List.mem_singleton.mp member]

/-- **The loop is the recursive walk.** Whatever its visits do with a state, it hands them the nodes that the walk
lists, with their depths. These are the nodes at all the places of the tree, each once: a place comes before what
is below it and before what is to its right, and its depth is the length of the way down. The groups are those of
the nodes that are groups, in that order, and unless the name of a group has a line feed, the outline has one line
for each node in that order, two spaces for each level of depth and then the summary of the node. -/
theorem traverse_preorder (p : Pattern) :
    (∀ {σ : Type u} (visit : σ → Nat → Pattern → σ) (start : σ),
      p.traverse visit start = p.walk.foldl (fun state node => visit state node.1 node.2) start) ∧
    (p.walk.map fun node => (node.1, some node.2)) = (p.places.map fun place => (place.length, p.at? place)) ∧
    p.places.Pairwise (· < ·) ∧ (∀ place, place ∈ p.places ↔ (p.at? place).isSome) ∧
    p.captureGroups = p.walk.filterMap (fun node => node.2.asGroup?) ∧
    p.drawOutline = p.outline ∧
    ((∀ group ∈ p.captureGroups, ∀ name ∈ group.2.1, '\n' ∉ name.toList) →
      p.drawOutline.toList.splitOn '\n' =
        (p.walk.map fun node => List.replicate (2 * node.1) ' ' ++ node.2.summary.toList) ++ [[]]) := by
  have drawn : p.drawOutline = p.outline := by
    rw [← String.toList_inj, drawOutline_toList, outline_toList]
  have visited := places_walkFrom 0 p
  simp only [Nat.zero_add] at visited
  refine ⟨fun visit start => traverse_eq visit start p, visited.symm, places_pairwise p, fun place => mem_places,
    captureGroups_eq p, drawn, fun unbroken => ?_⟩
  rw [drawn]
  rw [captureGroups_eq] at unbroken
  exact splitOn_outline unbroken

/-- A line feed in a literal does not break its line. -/
theorem traverse_preorder_namedGroup :
    let p := sequence [literal "a\n", group 1 (some "d") (literal "b")]
    (∀ group ∈ p.captureGroups, ∀ name ∈ group.2.1, '\n' ∉ name.toList) ∧
      p.drawOutline.toList.splitOn '\n' =
        ["sequence (2 items)".toList, "  a\\x0A".toList, "  group 1 <d>".toList, "    b".toList, []] := by
  intro p
  have groups : p.captureGroups = [(1, some "d", literal "b")] := by
    rw [captureGroups_eq]
    rfl
  have unbroken : ∀ group ∈ p.captureGroups, ∀ name ∈ group.2.1, '\n' ∉ name.toList := by
    simp [groups]
  obtain ⟨-, -, -, -, -, -, lines⟩ := traverse_preorder.{0} p
  exact ⟨unbroken, (lines unbroken).trans (by decide)⟩

end PatternForge.Pattern
