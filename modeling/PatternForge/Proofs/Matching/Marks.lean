import PatternForge.Matching.Expression

/-!
What the finite engine decides. `Expression.Takes` says without any set of places that an expression
matches from one place of a text to another; one constructor for each kind of expression leaves open
which of several ways is taken. Moving marks is exact for it: an expression moves a mark to just those
places that it takes a marked place to (`moves_advance`), so the engine accepts a text if and only if
the expression takes some place of it to some other (`accepts_iff`).
-/
namespace PatternForge.Expression

/-- A fact holds of every expression if each kind of expression passes it on from its parts. -/
@[induction_eliminator]
theorem induct {motive : Expression → Prop}
    (one : ∀ test, motive (.one test))
    (look : ∀ holds, motive (.look holds))
    (sequence : ∀ items, (∀ item ∈ items, motive item) → motive (.sequence items))
    (choice : ∀ branches, (∀ branch ∈ branches, motive branch) → motive (.choice branches))
    (repeated : ∀ least most greedy body, motive body →
      motive (.repeated least most greedy body))
    (group : ∀ index body, motive body → motive (.group index body)) (e : Expression) :
    motive e :=
  @Expression.rec motive (fun es => ∀ q ∈ es, motive q) one look sequence choice repeated group
    (fun _ none => absurd none List.not_mem_nil)
    (fun _ _ head tail q member => by
      rcases List.mem_cons.mp member with rfl | member
      · exact head
      · exact tail q member) e

mutual

/-- An expression takes one place of a text to another. -/
inductive Takes (places : List Place) : Expression → Nat → Nat → Prop where
  | one {test i place c} (here : places[i]? = some place) (next : place.after = some c)
    (allowed : test.allows c = true) : Takes places (.one test) i (i + 1)
  | look {holds i place} (here : places[i]? = some place) (holding : holds place = true) :
    Takes places (.look holds) i i
  | sequence {items i j} (inRow : TakesAll places items i j) : Takes places (.sequence items) i j
  | choice {branches branch i j} (member : branch ∈ branches) (chosen : Takes places branch i j) :
    Takes places (.choice branches) i j
  | repeated {least most greedy body n i j} (enough : least ≤ n)
    (within : ∀ limit ∈ most, n ≤ max least limit)
    (inRow : TakesAll places (List.replicate n body) i j) :
    Takes places (.repeated least most greedy body) i j
  | group {index body i j} (inside : Takes places body i j) : Takes places (.group index body) i j

/-- Several expressions, one after another, take one place of a text to another. -/
inductive TakesAll (places : List Place) : List Expression → Nat → Nat → Prop where
  | nil {i} : TakesAll places [] i i
  | cons {item rest i j k} (first : Takes places item i j) (others : TakesAll places rest j k) :
    TakesAll places (item :: rest) i k

end

theorem takesAll_nil {places : List Place} {i j : Nat} : TakesAll places [] i j ↔ i = j :=
  ⟨fun taken => by cases taken; rfl, fun same => same ▸ .nil⟩

theorem takesAll_cons {places : List Place} {e : Expression} {rest : List Expression} {i k : Nat} :
    TakesAll places (e :: rest) i k ↔ ∃ j, Takes places e i j ∧ TakesAll places rest j k :=
  ⟨fun taken => by cases taken with | cons first others => exact ⟨_, first, others⟩,
    fun ⟨_, first, others⟩ => .cons first others⟩

theorem takesAll_append {places : List Place} {es es' : List Expression} {i k : Nat} :
    TakesAll places (es ++ es') i k ↔ ∃ j, TakesAll places es i j ∧ TakesAll places es' j k := by
  induction es generalizing i with
  | nil => simp [takesAll_nil]
  | cons e rest ih =>
    simp only [List.cons_append, takesAll_cons, ih]
    exact ⟨fun ⟨j, first, m, others, last⟩ => ⟨m, ⟨j, first, others⟩, last⟩,
      fun ⟨m, ⟨j, first, others⟩, last⟩ => ⟨j, first, m, others, last⟩⟩

/-! ### The places of a text -/

@[simp] theorem length_ofText (before : Option Char) (text : List Char) :
    (Place.ofText before text).length = text.length + 1 := by
  induction text generalizing before with
  | nil => rfl
  | cons c rest ih => simp [Place.ofText, ih]

/-- What stands behind a place is the rest of the text. -/
theorem after_ofText {before : Option Char} {text : List Char} {i : Nat} {place : Place}
    (here : (Place.ofText before text)[i]? = some place) : place.after = text[i]? := by
  induction text generalizing before i with
  | nil =>
    cases i with
    | zero => cases here; rfl
    | succ i => cases here
  | cons c rest ih =>
    cases i with
    | zero => cases here; rfl
    | succ i => exact ih here

/-- No character stands before the first place but the one before the text. -/
theorem before_ofText {before : Option Char} {text : List Char} {place : Place}
    (here : (Place.ofText before text)[0]? = some place) : place.before = before := by
  cases text <;> cases here <;> rfl

private theorem range_of_each {before : Option Char} {text : List Char} {items : List Expression}
    {i j : Nat}
    (each : ∀ item ∈ items, ∀ {i j : Nat}, Takes (Place.ofText before text) item i j →
      i ≤ text.length → i ≤ j ∧ j ≤ text.length)
    (inRow : TakesAll (Place.ofText before text) items i j) (inside : i ≤ text.length) :
    i ≤ j ∧ j ≤ text.length := by
  induction items generalizing i with
  | nil =>
    obtain rfl := takesAll_nil.mp inRow
    exact ⟨Nat.le_refl i, inside⟩
  | cons item rest ih =>
    obtain ⟨m, first, others⟩ := takesAll_cons.mp inRow
    have between := each item List.mem_cons_self first inside
    have behind := ih (fun other member => each other (List.mem_cons_of_mem _ member)) others between.2
    omega

/-- An expression takes a place of a text only to this place or to later ones of the text. -/
theorem Takes.range {before : Option Char} {text : List Char} {e : Expression} {i j : Nat}
    (taken : Takes (Place.ofText before text) e i j) (inside : i ≤ text.length) :
    i ≤ j ∧ j ≤ text.length := by
  induction e generalizing i j with
  | one test =>
    cases taken with
    | one here next allowed =>
      rw [after_ofText here] at next
      have := (List.getElem?_eq_some_iff.mp next).1
      omega
  | look holds =>
    cases taken
    exact ⟨Nat.le_refl _, inside⟩
  | sequence items ih =>
    cases taken with
    | sequence inRow => exact range_of_each ih inRow inside
  | choice branches ih =>
    cases taken with
    | choice member chosen => exact ih _ member chosen inside
  | repeated least most greedy body ih =>
    cases taken with
    | repeated enough within inRow =>
      exact range_of_each (fun item member => List.eq_of_mem_replicate member ▸ ih) inRow inside
  | group index body ih =>
    cases taken with
    | group taken => exact ih taken inside

/-- Rounds that take no text can be left out, so there need not be more rounds than characters. -/
private theorem fewer_rounds {before : Option Char} {text : List Char} {body : Expression}
    {n i j : Nat} (inRow : TakesAll (Place.ofText before text) (List.replicate n body) i j)
    (inside : i ≤ text.length) :
    ∃ k ≤ text.length, TakesAll (Place.ofText before text) (List.replicate k body) i j := by
  have enough : ∃ k ≤ j - i, TakesAll (Place.ofText before text) (List.replicate k body) i j := by
    induction n generalizing i with
    | zero =>
      exact ⟨0, Nat.zero_le _, inRow⟩
    | succ n ih =>
      obtain ⟨m, first, others⟩ := takesAll_cons.mp inRow
      have between := first.range inside
      obtain ⟨k, few, taken⟩ := ih others between.2
      have behind := range_of_each (fun item member => List.eq_of_mem_replicate member ▸ Takes.range)
        taken between.2
      by_cases still : m = i
      · subst still
        exact ⟨k, few, taken⟩
      · exact ⟨k + 1, by omega, takesAll_cons.mpr ⟨m, first, taken⟩⟩
  obtain ⟨k, few, taken⟩ := enough
  have behind := range_of_each (fun item member => List.eq_of_mem_replicate member ▸ Takes.range)
    taken inside
  exact ⟨k, by omega, taken⟩

/-! ### Moving marks -/

/-- A function moves each mark to just the places that a relation takes it to. -/
def Moves (places : List Place) (f : Marks → Marks) (takes : Nat → Nat → Prop) : Prop :=
  ∀ marks, marks.length = places.length →
    (f marks).length = places.length ∧
      ∀ j, (f marks)[j]? = some true ↔ ∃ i, marks[i]? = some true ∧ takes i j

section Movements
variable {places : List Place} {f g : Marks → Marks} {takes takes' : Nat → Nat → Prop}

theorem moves_id : Moves places id Eq :=
  fun marks fits => ⟨fits, fun j => by simp⟩

theorem Moves.comp (moves : Moves places f takes) (moves' : Moves places g takes') :
    Moves places (g ∘ f) fun i k => ∃ j, takes i j ∧ takes' j k := by
  intro marks fits
  obtain ⟨fits', exact'⟩ := moves marks fits
  obtain ⟨fits'', exact''⟩ := moves' _ fits'
  refine ⟨fits'', fun k => (exact'' k).trans ?_⟩
  simp only [exact']
  exact ⟨fun ⟨j, ⟨i, marked, first⟩, second⟩ => ⟨i, marked, j, first, second⟩,
    fun ⟨i, marked, j, first, second⟩ => ⟨j, ⟨i, marked, first⟩, second⟩⟩

/-- A mark always stands at a place, so it does not matter what a relation says about other numbers. -/
theorem Moves.congr (moves : Moves places f takes)
    (same : ∀ i j, i < places.length → (takes i j ↔ takes' i j)) : Moves places f takes' := by
  intro marks fits
  obtain ⟨fits', exact'⟩ := moves marks fits
  refine ⟨fits', fun j => (exact' j).trans (exists_congr fun i => and_congr_right fun marked => ?_)⟩
  have inside := (List.getElem?_eq_some_iff.mp marked).1
  exact same i j (fits ▸ inside)

theorem Moves.union (moves : Moves places f takes) (moves' : Moves places g takes') :
    Moves places (fun marks => (f marks).union (g marks)) fun i j => takes i j ∨ takes' i j := by
  intro marks fits
  obtain ⟨left, exact'⟩ := moves marks fits
  obtain ⟨right, exact''⟩ := moves' marks fits
  refine ⟨by simp [Marks.union, left, right], fun j => ?_⟩
  have either : ((f marks).union (g marks))[j]? = some true ↔
      (f marks)[j]? = some true ∨ (g marks)[j]? = some true := by
    rw [Marks.union, List.getElem?_zipWith]
    by_cases inside : j < places.length
    · simp [left, right, inside]
    · simp [left, right, Nat.not_lt.mp inside]
  rw [either, exact', exact'']
  simp only [and_or_left, exists_or]

theorem settle_succ (f : Marks → Marks) (n : Nat) (marks : Marks) :
    settle f (n + 1) marks = settle f n (f marks) := by
  have still : ∀ n, f marks = marks → settle f n marks = marks := by
    intro n same
    cases n with
    | zero => rfl
    | succ n => simp [settle, same]
  rw [settle]
  split
  · rename_i same
    rw [same, still n same]
  · rfl

/-- A function applied a number of times takes as many steps. -/
theorem Moves.settle {body : Expression} (moves : Moves places f (Takes places body)) (n : Nat) :
    Moves places (settle f n) (TakesAll places (List.replicate n body)) := by
  induction n with
  | zero => exact moves_id.congr fun i j _ => takesAll_nil.symm
  | succ n ih =>
    have shifted : Expression.settle f (n + 1) = Expression.settle f n ∘ f := funext (settle_succ f n)
    rw [shifted]
    exact (moves.comp ih).congr fun i j _ => takesAll_cons.symm

/-- Where the marks that are there stay, there may be fewer steps. -/
theorem Moves.settle_growing {body : Expression} (moves : Moves places f (Takes places body))
    (n : Nat) :
    Moves places (Expression.settle (fun reached => reached.union (f reached)) n) fun i j =>
      ∃ k ≤ n, TakesAll places (List.replicate k body) i j := by
  induction n with
  | zero =>
    refine moves_id.congr fun i j _ => ?_
    simp [takesAll_nil]
  | succ n ih =>
    have grows : Moves places (fun reached => reached.union (f reached)) fun i j =>
        i = j ∨ Takes places body i j := moves_id.union moves
    have shifted : Expression.settle (fun reached => reached.union (f reached)) (n + 1) =
        Expression.settle (fun reached => reached.union (f reached)) n ∘
          fun reached => reached.union (f reached) := funext (settle_succ _ n)
    rw [shifted]
    refine (grows.comp ih).congr fun i j _ => ⟨?_, ?_⟩
    · rintro ⟨m, rfl | first, k, few, others⟩
      · exact ⟨k, by omega, others⟩
      · exact ⟨k + 1, by omega, takesAll_cons.mpr ⟨m, first, others⟩⟩
    · rintro ⟨k, few, taken⟩
      cases k with
      | zero => exact ⟨i, .inl rfl, 0, Nat.zero_le n, taken⟩
      | succ k =>
        obtain ⟨m, first, others⟩ := takesAll_cons.mp taken
        exact ⟨m, .inr first, k, by omega, others⟩

end Movements

section Text
variable {before : Option Char} {text : List Char}

private theorem moves_one (test : CharTest) :
    Moves (Place.ofText before text) (overOne test.allows (Place.ofText before text))
      (Takes (Place.ofText before text) (.one test)) := by
  intro marks fits
  rw [length_ofText] at fits
  refine ⟨by simp [overOne, fits], fun j => ?_⟩
  constructor
  · intro marked
    cases j with
    | zero => cases marked
    | succ j =>
      simp only [overOne, List.getElem?_cons_succ, List.getElem?_dropLast, List.getElem?_zipWith] at marked
      split at marked
      · split at marked
        · rename_i here there
          simp only [Option.some.injEq, Bool.and_eq_true, Option.any_eq_true] at marked
          obtain ⟨rfl, c, next, allowed⟩ := marked
          exact ⟨j, here, .one there next allowed⟩
        · cases marked
      · cases marked
  · rintro ⟨i, marked, taken⟩
    cases taken with
    | one here next allowed =>
      have inside := after_ofText here ▸ next
      have short := (List.getElem?_eq_some_iff.mp inside).1
      have kept : i < (marks.zipWith (fun marked place => marked && place.after.any test.allows)
          (Place.ofText before text)).length - 1 := by simp [fits, short]
      rw [overOne, List.getElem?_cons_succ, List.getElem?_dropLast, if_pos kept, List.getElem?_zipWith]
      simp only [marked, here, next, Option.any_some, allowed, Bool.and_self]

private theorem moves_look (holds : Place → Bool) :
    Moves (Place.ofText before text) (whereHolds holds (Place.ofText before text))
      (Takes (Place.ofText before text) (.look holds)) := by
  intro marks fits
  refine ⟨by simp [whereHolds, fits], fun j => ?_⟩
  rw [whereHolds, List.getElem?_zipWith]
  constructor
  · intro marked
    split at marked
    · rename_i here there
      simp only [Option.some.injEq, Bool.and_eq_true] at marked
      obtain ⟨rfl, holding⟩ := marked
      exact ⟨j, here, .look there holding⟩
    · cases marked
  · rintro ⟨i, marked, taken⟩
    cases taken with
    | look here holding => simp [marked, here, holding]

private theorem moves_through {items : List Expression}
    (each : ∀ item ∈ items, Moves (Place.ofText before text) (advance (Place.ofText before text) item)
      (Takes (Place.ofText before text) item)) :
    Moves (Place.ofText before text) (advanceThrough (Place.ofText before text) items)
      (TakesAll (Place.ofText before text) items) := by
  induction items with
  | nil =>
    have none : advanceThrough (Place.ofText before text) [] = id := funext fun marks => rfl
    rw [none]
    exact moves_id.congr fun i j _ => takesAll_nil.symm
  | cons item rest ih =>
    have first := each item List.mem_cons_self
    have others := ih fun other member => each other (List.mem_cons_of_mem _ member)
    have both : advanceThrough (Place.ofText before text) (item :: rest) =
        advanceThrough (Place.ofText before text) rest ∘ advance (Place.ofText before text) item :=
      funext fun marks => by rw [advanceThrough, Function.comp_apply]
    rw [both]
    exact (first.comp others).congr fun i j _ => takesAll_cons.symm

private theorem moves_any {branches : List Expression}
    (each : ∀ branch ∈ branches, Moves (Place.ofText before text)
      (advance (Place.ofText before text) branch) (Takes (Place.ofText before text) branch)) :
    Moves (Place.ofText before text) (advanceAny (Place.ofText before text) branches) fun i j =>
      ∃ branch ∈ branches, Takes (Place.ofText before text) branch i j := by
  induction branches with
  | nil =>
    intro marks fits
    refine ⟨by simp [advanceAny, fits], fun j => ?_⟩
    have unmarked : (advanceAny (Place.ofText before text) [] marks)[j]? ≠ some true := by
      intro found
      obtain ⟨_, _, marked⟩ := List.mem_map.mp (List.mem_of_getElem? found)
      cases marked
    simp [unmarked]
  | cons branch rest ih =>
    have first := each branch List.mem_cons_self
    have others := ih fun other member => each other (List.mem_cons_of_mem _ member)
    have both : advanceAny (Place.ofText before text) (branch :: rest) = fun marks =>
        (advance (Place.ofText before text) branch marks).union
          (advanceAny (Place.ofText before text) rest marks) :=
      funext fun marks => by rw [advanceAny]
    rw [both]
    refine (first.union others).congr fun i j _ => ?_
    simp

/-- Behind the least number of rounds go as many further ones as the limit leaves, or as the text has
places. -/
private theorem moves_repeated {least : Nat} {most : Option Nat} {greedy : Bool} {body : Expression}
    (moves : Moves (Place.ofText before text) (advance (Place.ofText before text) body)
      (Takes (Place.ofText before text) body)) :
    Moves (Place.ofText before text)
      (advance (Place.ofText before text) (.repeated least most greedy body))
      (Takes (Place.ofText before text) (.repeated least most greedy body)) := by
  have both : advance (Place.ofText before text) (.repeated least most greedy body) =
      settle (fun reached => reached.union (advance (Place.ofText before text) body reached))
        ((most.map (· - least)).getD (Place.ofText before text).length) ∘
      settle (advance (Place.ofText before text) body) least :=
    funext fun marks => by rw [advance, Function.comp_apply]
  rw [both]
  refine ((moves.settle least).comp (moves.settle_growing _)).congr fun i j inside => ⟨?_, ?_⟩
  · rintro ⟨m, first, k, few, others⟩
    refine .repeated (n := least + k) (Nat.le_add_right _ _) (fun limit isMost => ?_) ?_
    · obtain rfl : most = some limit := isMost
      simp only [Option.map_some, Option.getD_some] at few
      omega
    · rw [← List.replicate_append_replicate]
      exact takesAll_append.mpr ⟨m, first, others⟩
  · intro taken
    cases taken with
    | @repeated _ _ _ _ n _ _ enough within inRow =>
      obtain ⟨k, rfl⟩ := Nat.exists_eq_add_of_le enough
      rw [← List.replicate_append_replicate] at inRow
      obtain ⟨m, first, others⟩ := takesAll_append.mp inRow
      rw [length_ofText] at inside
      have reached := range_of_each
        (fun item member => List.eq_of_mem_replicate member ▸ Takes.range) first
        (Nat.le_of_lt_succ inside)
      cases most with
      | some limit =>
        have few := within limit rfl
        exact ⟨m, first, k, by simp only [Option.map_some, Option.getD_some]; omega, others⟩
      | none =>
        obtain ⟨k', few, others'⟩ := fewer_rounds others reached.2
        exact ⟨m, first, k', by simp only [Option.map_none, Option.getD_none, length_ofText]; omega,
          others'⟩

/-- **Moving marks is exact**: an expression moves each mark to just the places that it takes the marked
place to. -/
theorem moves_advance (e : Expression) :
    Moves (Place.ofText before text) (advance (Place.ofText before text) e)
      (Takes (Place.ofText before text) e) := by
  induction e with
  | one test =>
    have same : advance (Place.ofText before text) (.one test) =
        overOne test.allows (Place.ofText before text) := funext fun marks => by rw [advance]
    exact same ▸ moves_one test
  | look holds =>
    have same : advance (Place.ofText before text) (.look holds) =
        whereHolds holds (Place.ofText before text) := funext fun marks => by rw [advance]
    exact same ▸ moves_look holds
  | sequence items ih =>
    have same : advance (Place.ofText before text) (.sequence items) =
        advanceThrough (Place.ofText before text) items := funext fun marks => by rw [advance]
    rw [same]
    exact (moves_through ih).congr fun i j _ =>
      ⟨.sequence, fun taken => by cases taken with | sequence inRow => exact inRow⟩
  | choice branches ih =>
    have same : advance (Place.ofText before text) (.choice branches) =
        advanceAny (Place.ofText before text) branches := funext fun marks => by rw [advance]
    rw [same]
    exact (moves_any ih).congr fun i j _ =>
      ⟨fun ⟨_, member, chosen⟩ => .choice member chosen,
        fun taken => by cases taken with | choice member chosen => exact ⟨_, member, chosen⟩⟩
  | repeated least most greedy body ih => exact moves_repeated ih
  | group index body ih =>
    have same : advance (Place.ofText before text) (.group index body) =
        advance (Place.ofText before text) body := funext fun marks => by rw [advance]
    rw [same]
    exact ih.congr fun i j _ =>
      ⟨.group, fun taken => by cases taken with | group inside => exact inside⟩

end Text

/-- **The finite engine decides what an expression matches**: it accepts a text if and only if the
expression takes some place of the text to some place. -/
theorem accepts_iff {e : Expression} {text : List Char} :
    e.accepts text = true ↔ ∃ i j, i ≤ text.length ∧ Takes (Place.ofText none text) e i j := by
  have everywhere : ∀ i, ((Place.ofText none text).map fun _ => true)[i]? = some true ↔
      i ≤ text.length := by
    intro i
    rw [List.getElem?_map]
    by_cases inside : i < (Place.ofText none text).length
    · rw [List.getElem?_eq_getElem inside]
      rw [length_ofText] at inside
      simp [Nat.le_of_lt_succ inside]
    · rw [List.getElem?_eq_none (Nat.not_lt.mp inside)]
      rw [length_ofText] at inside
      simp [Nat.lt_of_succ_le (Nat.not_lt.mp inside)]
  have moved := (moves_advance e ((Place.ofText none text).map fun _ => true) (List.length_map _)).2
  rw [accepts, List.any_eq_true]
  constructor
  · rintro ⟨mark, member, rfl⟩
    obtain ⟨j, found⟩ := List.mem_iff_getElem?.mp member
    obtain ⟨i, marked, taken⟩ := (moved j).mp found
    exact ⟨i, j, (everywhere i).mp marked, taken⟩
  · rintro ⟨i, j, inside, taken⟩
    have found := (moved j).mpr ⟨i, (everywhere i).mpr inside, taken⟩
    exact ⟨true, List.mem_of_getElem? found, rfl⟩

end PatternForge.Expression
