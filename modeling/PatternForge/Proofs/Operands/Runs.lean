import Mathlib.Data.List.Induction
import PatternForge.Proofs.Operands.Constructs
import PatternForge.Proofs.RoundTrip.Prefixes

/-!
The operands of repetition operators. An operator takes the last item of the reader, whatever that is, so the
question is where this item came from: `exists_operand` follows it back to the constructs that it was read from,
which end right before the operator but for flags in parentheses of their own, since these put no item. For the
item of a group one has to know where the group was opened (`exists_opening`), and both are shown along the run,
construct by construct.
-/
namespace PatternForge

/-! ### Groups and operands among the constructs -/

/-- Some constructs leave this many of the groups open that are opened among them, and close no others. -/
inductive LeavesOpen : Nat → List Construct → Prop
  | nothing : LeavesOpen 0 []
  | opens {depth : Nat} {before : List Construct} {construct : Construct} (leaves : LeavesOpen depth before)
    (kind : construct.kind = .opens) : LeavesOpen (depth + 1) (before ++ [construct])
  | closes {depth : Nat} {before : List Construct} {construct : Construct}
    (leaves : LeavesOpen (depth + 1) before) (kind : construct.kind = .closes) :
    LeavesOpen depth (before ++ [construct])
  | within {depth : Nat} {before : List Construct} {construct : Construct} (leaves : LeavesOpen depth before)
    (kind : construct.kind ≠ .opens ∧ construct.kind ≠ .closes) : LeavesOpen depth (before ++ [construct])

/-- The constructs of one item: an element, a whole group, or an item with an operator behind it, where flags in
parentheses of their own may stand between the two. -/
inductive IsOperand : List Construct → Prop
  | element {construct : Construct} (kind : construct.kind = .element) : IsOperand [construct]
  | group {opening closing : Construct} {body : List Construct} (opens : opening.kind = .opens)
    (leaves : LeavesOpen 0 body) (closes : closing.kind = .closes) : IsOperand (opening :: body ++ [closing])
  | repeated {operand gap : List Construct} {operator : Construct} (isOperand : IsOperand operand)
    (flags : ∀ construct ∈ gap, construct.kind = .directive) (kind : operator.kind = .operator) :
    IsOperand (operand ++ gap ++ [operator])

/-- An operand ends in an element, the end of a group or an operator. -/
theorem IsOperand.exists_last {operand : List Construct} (isOperand : IsOperand operand) :
    ∃ front last, operand = front ++ [last] ∧ last.kind ∈ [.element, .closes, .operator] := by
  cases isOperand with
  | @element construct kind => exact ⟨[], construct, rfl, by simp [kind]⟩
  | group opens leaves closes => exact ⟨_, _, rfl, by simp [closes]⟩
  | repeated isOperand flags kind => exact ⟨_, _, rfl, by simp [kind]⟩

namespace Parser

variable {s : Settings} {start st st' : State} {before : List Construct}

/-- The reader takes some constructs, one after another. -/
inductive Took (s : Settings) (start : State) : List Construct → State → Prop
  | nothing : Took s start [] start
  | next {before : List Construct} {st st' : State} {construct : Construct} (took : Took s start before st)
    (reads : Reads s st st') (text : constructs st.here.rest = construct :: constructs st'.here.rest)
    (acts : Acts st st' construct.kind) : Took s start (before ++ [construct]) st'

theorem Took.append {others : List Construct} (took : Took s start before st) (took' : Took s st others st') :
    Took s start (before ++ others) st' := by
  induction took' with
  | nothing => rwa [List.append_nil]
  | next _ reads text acts ih =>
    rw [← List.append_assoc]
    exact ih.next reads text acts

/-- What was taken is what is missing from the text. -/
theorem Took.constructs_eq (took : Took s start before st) :
    constructs start.here.rest = before ++ constructs st.here.rest := by
  induction took with
  | nothing => rfl
  | next _ _ text _ ih => rw [ih, text, List.append_assoc, List.singleton_append]

theorem Took.rest_eq (took : Took s start before st) :
    start.here.rest = before.flatMap Construct.chars ++ st.here.rest := by
  rw [← flatMap_constructs start.here.rest, took.constructs_eq, List.flatMap_append, flatMap_constructs]

/-- A run that reaches the end takes the construct that comes next. -/
theorem exists_next (punctuated : s.data.Punctuated) (brace : s.data.space '\x7d' = false) {last : State}
    (ends : run s st = .ok last) {construct : Construct} {after : List Construct}
    (text : constructs st.here.rest = construct :: after) :
    ∃ st', Reads s st st' ∧ constructs st'.here.rest = after ∧ Acts st st' construct.kind ∧
      run s st' = .ok last := by
  cases next : st.here.rest with
  | nil =>
    rw [next, constructs_nil] at text
    cases text
  | cons c rest =>
    obtain ⟨st', stepped, ends'⟩ := exists_step_of_run next ends
    obtain ⟨construct', text', acts⟩ := constructs_of_step punctuated brace next stepped
    obtain ⟨rfl, rfl⟩ := List.cons.inj (text'.symm.trans text)
    exact ⟨st', ⟨c, rest, next, stepped⟩, rfl, acts, ends'⟩

/-- A run that reaches the end takes every construct of the text. -/
theorem exists_took (punctuated : s.data.Punctuated) (brace : s.data.space '\x7d' = false) {last : State}
    (ends : run s start = .ok last) {after : List Construct}
    (cut : constructs start.here.rest = before ++ after) :
    ∃ st, Took s start before st ∧ constructs st.here.rest = after ∧ run s st = .ok last := by
  induction before using List.reverseRecOn generalizing after with
  | nil => exact ⟨start, .nothing, cut, ends⟩
  | append_singleton before construct ih =>
    rw [List.append_assoc] at cut
    obtain ⟨st, took, text, ends⟩ := ih cut
    obtain ⟨st', reads, text', acts, ends'⟩ := exists_next punctuated brace ends text
    exact ⟨st', took.next reads (text.trans (by rw [text']; rfl)) acts, text', ends'⟩

/-! ### Where an open group was opened -/

/-- The constructs that have been read since a group was opened that is still open, with the state in front of
it. Among them are those that have opened the groups inside it. -/
inductive OpenSince (s : Settings) (start st : State) (before : List Construct) (opened : OpenGroup)
    (outer : List OpenGroup) (depth : Nat) : Prop
  | intro {front body : List Construct} {opening : Construct} {outside : State}
    (split : before = front ++ opening :: body) (first : Took s start front outside)
    (inside : Took s outside (opening :: body) st) (opens : opening.kind = .opens)
    (leaves : LeavesOpen depth body) (level : outside.enclosing = outer)
    (branches : outside.branches = opened.branches) (items : outside.items = opened.items)

variable {opened : OpenGroup} {inner outer : List OpenGroup} {construct : Construct}

/-- One construct more has been read since. -/
private theorem OpenSince.next {depth depth' : Nat} (since : OpenSince s start st before opened outer depth)
    (reads : Reads s st st') (text : constructs st.here.rest = construct :: constructs st'.here.rest)
    (acts : Acts st st' construct.kind)
    (leaves' : ∀ body, LeavesOpen depth body → LeavesOpen depth' (body ++ [construct])) :
    OpenSince s start st' (before ++ [construct]) opened outer depth' := by
  obtain ⟨rfl, first, inside, opens, leaves, level, branches, items⟩ := since
  exact .intro (by simp) first (inside.next reads text acts) opens
    (leaves' _ leaves) level branches items

/-- Every open group was opened by a construct. -/
theorem exists_opening (took : Took s start before st) (none : start.enclosing = [])
    (level : st.enclosing = inner ++ opened :: outer) :
    OpenSince s start st before opened outer inner.length := by
  induction took generalizing inner with
  | nothing =>
    rw [none] at level
    exact absurd level.symm (by simp)
  | @next before st st' construct took reads text acts ih =>
    have acts' := acts
    by_cases opens : construct.kind = .opens
    · rw [opens] at acts'
      cases acts' with
      | opens _ _ level' items branches =>
        rw [level'] at level
        cases inner with
        | nil =>
          obtain ⟨rfl, rfl⟩ := List.cons.inj level
          exact .intro rfl took (Took.nothing.next reads text acts) opens .nothing rfl branches.symm items.symm
        | cons latest inner =>
          exact (ih (List.cons.inj level).2).next reads text acts fun _ leaves => leaves.opens opens
    · by_cases closes : construct.kind = .closes
      · rw [closes] at acts'
        cases acts' with
        | @closes latest _ _ level' =>
          rw [level] at level'
          exact (@ih (latest :: inner) level').next reads text acts fun _ leaves => leaves.closes closes
      · have same := acts.enclosing_eq ⟨opens, closes⟩
        exact (ih (same ▸ level)).next reads text acts fun _ leaves => leaves.within ⟨opens, closes⟩

/-! ### Where an item came from -/

/-- Flags in parentheses of their own leave the level as it is. -/
theorem Took.level_of_directives (took : Took s start before st)
    (flags : ∀ construct ∈ before, construct.kind = .directive) :
    st.branches = start.branches ∧ st.enclosing = start.enclosing := by
  induction took with
  | nothing => exact ⟨rfl, rfl⟩
  | next took reads text acts ih =>
    obtain ⟨others, kind⟩ := List.forall_mem_append.mp flags
    rw [kind _ (List.mem_singleton.mpr rfl)] at acts
    cases acts with
    | directive _ branches level =>
      obtain ⟨branches', level'⟩ := ih others
      exact ⟨branches.trans branches', level.trans level'⟩

/-- The latest item of the reader, with the constructs that it was read from: in front of them the reader has the
items before it, behind them this item as well, on the same level; since then it has read flags alone. -/
inductive ItemOf (s : Settings) (start st : State) (before : List Construct) (item : Pattern)
    (earlier : List Pattern) : Prop
  | intro {front operand gap : List Construct} {outside behind : State}
    (split : before = front ++ operand ++ gap) (first : Took s start front outside)
    (own : Took s outside operand behind) (since : Took s behind gap st) (isOperand : IsOperand operand)
    (flags : ∀ construct ∈ gap, construct.kind = .directive) (items : outside.items = earlier)
    (items' : behind.items = item :: earlier)
    (level : behind.branches = outside.branches ∧ behind.enclosing = outside.enclosing)

/-- Every item came from an operand. -/
theorem exists_operand (took : Took s start before st) (none : start.items = []) (level : start.enclosing = [])
    {item : Pattern} {earlier : List Pattern} (items : st.items = item :: earlier) :
    ItemOf s start st before item earlier := by
  induction took generalizing item with
  | nothing =>
    rw [none] at items
    cases items
  | @next before st st' construct took reads text acts ih =>
    have here : Took s st [construct] st' := Took.nothing.next reads text acts
    have acts' := acts
    generalize kind : construct.kind = sign at acts'
    cases acts' with
    | element items' branches level' =>
      obtain ⟨rfl, rfl⟩ := List.cons.inj (items'.symm.trans items)
      exact .intro (List.append_nil _).symm took here .nothing (.element kind) nofun rfl items' ⟨branches, level'⟩
    | directive items' =>
      obtain ⟨rfl, first, own, since, isOperand, flags, outside, behind, level'⟩ := ih (items'.symm.trans items)
      refine .intro (List.append_assoc _ _ _) first own (since.next reads text acts) isOperand ?_ outside behind
        level'
      exact List.forall_mem_append.mpr ⟨flags, by simpa using kind⟩
    | opens items' =>
      rw [items'] at items
      cases items
    | bar items' =>
      rw [items'] at items
      cases items
    | @closes opened items' branches level' =>
      obtain ⟨rfl, rfl⟩ := List.cons.inj (items'.symm.trans items)
      obtain ⟨rfl, first, inside, opens, leaves, outer, finished, around⟩ :=
        @exists_opening s start st before opened [] _ took level level'
      exact .intro (by simp) first (inside.next reads text acts) .nothing (.group opens leaves kind) nofun around
        items' ⟨branches.trans finished.symm, outer.symm⟩
    | operator operand items' branches level' =>
      obtain ⟨rfl, rfl⟩ := List.cons.inj (items'.symm.trans items)
      obtain ⟨rfl, first, own, since, isOperand, flags, outside, behind, same⟩ := ih operand
      have kept := since.level_of_directives flags
      refine .intro (by simp) first ((own.append since).next reads text acts) .nothing
        (.repeated isOperand flags kind) nofun outside items' ⟨?_, ?_⟩
      · rw [branches, kept.1, same.1]
      · rw [level', kept.2, same.2]

/-! ### Nothing that was read is lost -/

/-- Where the reader holds a repetition, the finished tree has it. -/
theorem exists_node {last : State} (ends : run s st = .ok last) (closed : last.enclosing = []) {bounds : Bounds}
    {item : Pattern} (held : .repetition bounds item ∈ st.items) :
    ∃ node ∈ (Pattern.ofLevel last.branches last.items).walk, node.2 = .repetition bounds item := by
  by_contra absent
  have scatters : Pattern.Scatters (· ≠ .repetition bounds item) := ⟨by simp, by simp, by simp⟩
  have every : (Pattern.ofLevel last.branches last.items).Every (· ≠ .repetition bounds item) :=
    fun node visited same => absent ⟨node, visited, same⟩
  obtain ⟨branches, items⟩ := scatters.every_of_ofLevel every
  have holds : last.Holds (· ≠ .repetition bounds item) := ⟨by simp [closed], branches, items⟩
  exact ((holds_before_run scatters ends holds).items _ held).here rfl

/-! ### Whole patterns -/

/-- An operator is applied to the item of its operand: reading the operand puts one item behind the others, and
behind the operator there is a repetition of this item in its place, on the same level, which is a node of the
finished tree. -/
inductive AppliedTo (s : Settings) (start : State) (tree : Pattern) (front operand gap : List Construct)
    (operator : Construct) : Prop
  | intro {outside behind repeated : State} {item : Pattern} {bounds : Bounds} (first : Took s start front outside)
    (own : Took s outside operand behind) (others : Took s behind (gap ++ [operator]) repeated)
    (text : outside.here.rest = operand.flatMap Construct.chars ++ behind.here.rest)
    (text' : behind.here.rest = (gap ++ [operator]).flatMap Construct.chars ++ repeated.here.rest)
    (item' : behind.items = item :: outside.items)
    (repetition : repeated.items = .repetition bounds item :: outside.items)
    (level : behind.branches = outside.branches ∧ behind.enclosing = outside.enclosing)
    (level' : repeated.branches = outside.branches ∧ repeated.enclosing = outside.enclosing)
    (node : ∃ node ∈ tree.walk, node.2 = .repetition bounds item)

/-- An operator of a text that is read is applied to the operand in front of it. -/
theorem exists_applied (punctuated : s.data.Punctuated) (brace : s.data.space '\x7d' = false)
    (noItems : start.items = []) (noGroups : start.enclosing = []) {last : State} (ends : run s start = .ok last)
    (closed : last.enclosing = []) {operator : Construct} {after : List Construct}
    (cut : constructs start.here.rest = before ++ operator :: after) (kind : operator.kind = .operator) :
    ∃ front operand gap, before = front ++ operand ++ gap ∧ IsOperand operand ∧
      (∀ construct ∈ gap, construct.kind = .directive) ∧
      AppliedTo s start (.ofLevel last.branches last.items) front operand gap operator := by
  obtain ⟨st, took, text, ends'⟩ := exists_took punctuated brace ends cut
  obtain ⟨st', reads, rfl, acts, ends''⟩ := exists_next punctuated brace ends' text
  have acts' := acts
  rw [kind] at acts'
  cases acts' with
  | operator items items' branches level =>
    obtain ⟨split, first, own, since, isOperand, flags, rfl, item, same⟩ :=
      exists_operand took noItems noGroups items
    have kept := since.level_of_directives flags
    have others := since.next reads text acts
    refine ⟨_, _, _, split, isOperand, flags, .intro first own others own.rest_eq others.rest_eq item items' same
      ⟨?_, ?_⟩ (exists_node ends'' closed (by rw [items']; exact List.mem_cons_self))⟩
    · rw [branches, kept.1, same.1]
    · rw [level, kept.2, same.2]

end Parser

namespace Settings

open PatternForge.Parser (State AppliedTo run step)

/-- **Every repetition operator has an operand in front of it and repeats this operand.** The constructs of
a text leave nothing of it out. An operator never comes first, nor right behind the start of a group or a
bar: in front of it stand the constructs of one item, to which it is applied. Between the two there may be
flags in parentheses of their own, and nothing else, so unless it comes behind such flags its operand ends
right before it. -/
theorem operands_of_parse {s : Settings} {text : String} {tree : Pattern} (punctuated : s.data.Punctuated)
    (brace : s.data.space '\x7d' = false) (parsed : s.parse text = .ok tree) :
    (constructs text.toList).flatMap Construct.chars = text.toList ∧
      ∀ before operator after, constructs text.toList = before ++ operator :: after →
        operator.kind = .operator →
          (∃ last ∈ before.getLast?, last.kind ≠ .opens ∧ last.kind ≠ .bar) ∧
            ∃ front operand gap, before = front ++ operand ++ gap ∧ IsOperand operand ∧
              (∀ construct ∈ gap, construct.kind = .directive) ∧
              ((∀ last ∈ before.getLast?, last.kind ≠ .directive) → gap = []) ∧
              AppliedTo s (.initial s text.toList) tree front operand gap operator := by
  refine ⟨flatMap_constructs _, fun before operator after cut kind => ?_⟩
  obtain ⟨last, ends, closed, rfl, -⟩ := parse_eq_ok.mp parsed
  obtain ⟨front, operand, gap, rfl, isOperand, flags, applied⟩ :=
    @Parser.exists_applied s (.initial s text.toList) before punctuated brace rfl rfl last ends closed operator
      after cut kind
  cases gap using List.reverseRecOn with
  | nil =>
    obtain ⟨inside, latest, rfl, ending⟩ := isOperand.exists_last
    refine ⟨⟨latest, by simp, ?_⟩, front, _, [], rfl, isOperand, nofun, fun _ => rfl, applied⟩
    simp only [List.mem_cons, List.not_mem_nil, or_false] at ending
    rcases ending with same | same | same <;> rw [same] <;> decide
  | append_singleton gap latest =>
    have last' : latest ∈ (front ++ operand ++ (gap ++ [latest])).getLast? := by simp [← List.append_assoc]
    have flag : latest.kind = .directive := flags latest (by simp)
    exact ⟨⟨latest, last', by rw [flag]; decide⟩, front, operand, _, rfl, isOperand, flags,
      fun notFlags => absurd flag (notFlags latest last'), applied⟩

/-- A letter behind another one that is repeated. -/
def repeatedSecond : Pattern := .sequence [.literal "a", .repetition ⟨0, none, true⟩ (.literal "b")]

/-- An operator behind two letters is applied to the second one, which ends right before it. -/
theorem operands_of_parse_letters :
    CharacterData.standard.Punctuated ∧ CharacterData.standard.space '\x7d' = false ∧
      ({} : Settings).parse "ab*" = .ok repeatedSecond ∧
      constructs "ab*".toList = [⟨.element, ['a']⟩, ⟨.element, ['b']⟩] ++ ⟨.operator, ['*']⟩ :: [] ∧
      ∃ front operand, [⟨.element, ['a']⟩, ⟨.element, ['b']⟩] = front ++ operand ∧ IsOperand operand ∧
        AppliedTo {} (.initial {} "ab*".toList) repeatedSecond front operand [] ⟨.operator, ['*']⟩ := by
  have punctuated := CharacterData.punctuated_standard
  have brace : CharacterData.standard.space '\x7d' = false := by decide
  have reads : run {} (.initial {} "ab*".toList) =
      .ok { here := ⟨3, []⟩, flags := {},
            items := [.repetition ⟨0, none, true⟩ (.literal "b"), .literal "a"] } := by
    iterate 3 refine (Parser.run_of_step rfl rfl).trans ?_
    exact Parser.run_of_end rfl
  have parsed : ({} : Settings).parse "ab*" = .ok repeatedSecond := by
    rw [parse, reads]
    rfl
  have cut : constructs "ab*".toList =
      [⟨.element, ['a']⟩, ⟨.element, ['b']⟩] ++ ⟨.operator, ['*']⟩ :: [] := by
    decide +kernel
  obtain ⟨-, front, operand, gap, split, isOperand, -, without, applied⟩ :=
    (operands_of_parse punctuated brace parsed).2 _ _ _ cut rfl
  obtain rfl := without (by simp)
  rw [List.append_nil] at split
  exact ⟨punctuated, brace, parsed, cut, front, operand, split, isOperand, applied⟩

/-- A directive that sets a flag leaves the items as they are. -/
private theorem step_ignoreCase (n : Nat) (rest : List Char) (items : List Pattern) :
    step {} { here := ⟨n, '(' :: '?' :: 'i' :: ')' :: rest⟩, flags := {}, items } '(' =
      .ok { here := ⟨n + 4, rest⟩, flags := { ignoreCase := true }, items } := by
  have listed : GroupPrefix.flagList { flags := {} } ⟨n + 2, 'i' :: ')' :: rest⟩ =
      .ok ({ ignoreCase := true }, ⟨n + 3, ')' :: rest⟩) := by
    rw [GroupPrefix.flagList_letter rfl (by decide) rfl (by simp), GroupPrefix.flagList_more _ rfl]
    rfl
  simp only [step, State.openGroup]
  rw [GroupPrefix.read_directive rfl (by decide) listed rfl (Nat.succ_ne_self _)]
  rfl

/-- Behind flags an operator repeats what stands in front of the flags, and it is refused if there is nothing. -/
theorem parse_repeatBehindFlags :
    constructs "a(?i)*".toList =
        [⟨.element, ['a']⟩, ⟨.directive, ['(', '?', 'i', ')']⟩, ⟨.operator, ['*']⟩] ∧
      ({} : Settings).parse "a(?i)*" = .ok (.repetition ⟨0, none, true⟩ (.literal "a")) ∧
      ({} : Settings).parse "(?i)*" = .error (.malformed 4 .nothingToRepeat) := by
  have reads : run {} (.initial {} "a(?i)*".toList) =
      .ok { here := ⟨6, []⟩, flags := { ignoreCase := true },
            items := [.repetition ⟨0, none, true⟩ (.literal "a")] } := by
    refine (Parser.run_of_step rfl rfl).trans ?_
    refine (Parser.run_of_step rfl (step_ignoreCase 1 _ _)).trans ?_
    refine (Parser.run_of_step rfl rfl).trans ?_
    exact Parser.run_of_end rfl
  have refused : run {} (.initial {} "(?i)*".toList) = .error (.malformed 4 .nothingToRepeat) := by
    refine (Parser.run_of_step rfl (step_ignoreCase 0 _ _)).trans ?_
    exact Parser.run_of_refused rfl rfl
  refine ⟨by decide +kernel, ?_, ?_⟩
  · rw [parse, reads]
    rfl
  · rw [parse, refused]

end Settings

end PatternForge
