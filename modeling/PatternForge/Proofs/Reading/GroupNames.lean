import Mathlib.Data.List.Basic
import Mathlib.Data.String.Basic
import PatternForge.Reading.GroupPrefix

/-!
A register of group names that is searched by halves. The names stand in descending order, because the search
compares the name that is looked for with the name it finds, and not the other way round. Where the search fails
it says where the name belongs, and there it is put. So the register stays in order, and as long as it is in
order the search tells whether a name is in it (`GroupNames.searchBy_spec`).

`GroupNames.register_exact` says what a history of calls comes to, and that the reader, which looks through
all the names used so far, gives the same answers.
-/
namespace PatternForge.GroupNames

variable {α : Type}

/-! ### Search by halves -/

/-- The place at which a search among `size` places from `base` on settles: each round asks for the middle one and
stays in front of it if that is too far. -/
def settle (look : α → Ordering) (items : List α) (base size : Nat) (fits : base + size ≤ items.length) : Nat :=
  if several : 1 < size then
    have inside : base + size / 2 < items.length := by omega
    settle look items (if look items[base + size / 2] = .gt then base else base + size / 2) (size - size / 2)
      (by split <;> omega)
  else base
termination_by size

theorem settle_lt {look : α → Ordering} {items : List α} {base size : Nat} (fits : base + size ≤ items.length)
    (nonempty : 0 < size) : settle look items base size fits < items.length := by
  fun_induction settle look items base size fits with
  | case1 base size fits several inside ih => exact ih (by omega)
  | case2 => omega

/-- Looks for an item by what it is compared to. The answer is its place or, as an error, the place where it
belongs. -/
def searchBy (look : α → Ordering) (items : List α) : Except Nat Nat :=
  if nonempty : 0 < items.length then
    let base := settle look items 0 items.length (by omega)
    have inside : base < items.length := settle_lt _ nonempty
    match look items[base] with
    | .eq => .ok base
    | .lt => .error (base + 1)
    | .gt => .error base
  else .error 0

/-- What is looked for lies behind the items it is compared to first, and in front of the last ones. -/
def Guides (look : α → Ordering) (items : List α) : Prop :=
  items.Pairwise fun a b => (look b = .lt → look a = .lt) ∧ (look a = .gt → look b = .gt)

variable {look : α → Ordering} {items : List α} {i j : Nat}

theorem Guides.lt (guides : Guides look items) (before : i ≤ j) (inside : j < items.length)
    (less : look items[j] = .lt) : look items[i] = .lt := by
  rcases Nat.eq_or_lt_of_le before with rfl | before
  · exact less
  · exact (List.pairwise_iff_getElem.mp guides i j _ inside before).1 less

theorem Guides.gt (guides : Guides look items) (before : i ≤ j) (inside : j < items.length)
    (greater : look items[i] = .gt) : look items[j] = .gt := by
  rcases Nat.eq_or_lt_of_le before with rfl | before
  · exact greater
  · exact (List.pairwise_iff_getElem.mp guides i j _ inside before).2 greater

/-- **The rounds of a search** give up only places that are too far, and settle on one that is not, unless that is
the first of all. -/
theorem settle_spec (guides : Guides look items) {base size : Nat} (fits : base + size ≤ items.length)
    (nonempty : 0 < size) (reached : ∀ inside : base < items.length, base = 0 ∨ look items[base] ≠ .gt)
    (beyond : ∀ i (inside : i < items.length), base + size ≤ i → look items[i] = .gt) {last : Nat}
    (settled : settle look items base size fits = last) :
    (∀ inside : last < items.length, last = 0 ∨ look items[last] ≠ .gt) ∧
      ∀ i (inside : i < items.length), last < i → look items[i] = .gt := by
  fun_induction settle look items base size fits with
  | case1 base size fits several inside ih =>
    refine ih (by omega) (fun inside' => ?_) (fun i inside' far => ?_) settled
    · split
      · exact reached (by omega)
      · rename_i near
        exact .inr near
    · split at far
      · rename_i tooFar
        by_cases within : i < base + size
        · exact guides.gt (by omega) inside' tooFar
        · exact beyond i inside' (by omega)
      · exact beyond i inside' (by omega)
  | case2 base size fits single =>
    subst settled
    exact ⟨reached, fun i inside far => beyond i inside (by omega)⟩

/-- What an answer of a search says: the item at a place compares equal, or a place parts the items that compare
less from those that compare greater. -/
def Answers (look : α → Ordering) (items : List α) : Except Nat Nat → Prop
  | .ok place => ∃ inside : place < items.length, look items[place] = .eq
  | .error place => place ≤ items.length ∧
      ∀ i (inside : i < items.length), look items[i] = if i < place then .lt else .gt

/-- What a search makes of the place it settles on. -/
theorem answers_settled (guides : Guides look items) {base : Nat} (inside : base < items.length)
    (reached : base = 0 ∨ look items[base] ≠ .gt)
    (beyond : ∀ i (inside : i < items.length), base < i → look items[i] = .gt) :
    Answers look items
      (match look items[base] with
        | .eq => .ok base
        | .lt => .error (base + 1)
        | .gt => .error base) := by
  cases compared : look items[base] with
  | eq => exact ⟨inside, compared⟩
  | lt =>
    refine ⟨inside, fun i inside' => ?_⟩
    split
    · exact guides.lt (by omega) inside compared
    · exact beyond i inside' (by omega)
  | gt =>
    obtain rfl : base = 0 := reached.resolve_right fun near => near compared
    refine ⟨Nat.zero_le _, fun i inside' => ?_⟩
    rw [if_neg (Nat.not_lt_zero i)]
    exact guides.gt (Nat.zero_le i) inside' compared

/-- **A search answers right** wherever the comparisons guide it. -/
theorem searchBy_spec (guides : Guides look items) : Answers look items (searchBy look items) := by
  unfold searchBy
  split
  · rename_i nonempty
    obtain ⟨reached, beyond⟩ := settle_spec guides (Nat.le_of_eq (Nat.zero_add _)) nonempty (fun _ => .inl rfl)
      (fun i inside far => by omega) rfl
    exact answers_settled guides (settle_lt _ nonempty) (reached (settle_lt _ nonempty)) beyond
  · rename_i empty
    exact ⟨Nat.zero_le _, fun i inside => absurd (Nat.lt_of_le_of_lt (Nat.zero_le i) inside) empty⟩

/-! ### The register -/

/-- Adds a name that was read from an offset on, unless it is in the register. The answer comes with the
register as it is left. -/
def addName (start : Nat) (name : String) (names : List String) : Except Failure Unit × List String :=
  match searchBy (fun other => compare name other) names with
  | .ok _ => (.error (.malformed start .duplicateGroupName), names)
  | .error place => (.ok (), names.insertIdx place name)

/-- Adds names one after another. The answers stand in the order of the calls. -/
def addNames : List (Nat × String) → List String → List (Except Failure Unit) × List String
  | [], names => ([], names)
  | (start, name) :: calls, names =>
    let (answer, middle) := addName start name names
    let (answers, after) := addNames calls middle
    (answer :: answers, after)

/-- The names of the calls that were accepted, in their order. -/
def accepted : List (Nat × String) → List (Except Failure Unit) → List String
  | (_, name) :: calls, .ok () :: answers => name :: accepted calls answers
  | _ :: calls, .error _ :: answers => accepted calls answers
  | _, _ => []

variable {names : List String} {name : String}

theorem guides_of_descending (descending : names.Pairwise (· > ·)) (name : String) :
    Guides (fun other => compare name other) names := by
  refine descending.imp fun {a b} greater => ⟨fun less => ?_, fun greater' => ?_⟩
  · exact compare_lt_iff_lt.mpr ((compare_lt_iff_lt.mp less).trans greater)
  · exact compare_gt_iff_gt.mpr (greater.trans (compare_gt_iff_gt.mp greater'))

/-- Names in order are in order with one more at the place where it belongs. -/
theorem insertIdx_descending (descending : names.Pairwise (· > ·)) {place : Nat}
    (belongs : Answers (fun other => compare name other) names (.error place)) :
    (names.insertIdx place name).Pairwise (· > ·) := by
  obtain ⟨fits, compared⟩ := belongs
  induction names generalizing place with
  | nil =>
    obtain rfl : place = 0 := Nat.le_zero.mp fits
    exact List.pairwise_singleton _ _
  | cons first rest ih =>
    obtain ⟨greatest, others⟩ := List.pairwise_cons.mp descending
    have atFirst := compared 0 (Nat.succ_pos _)
    cases place with
    | zero =>
      have greater : name > first := compare_gt_iff_gt.mp atFirst
      refine .cons (fun other member => ?_) descending
      rcases List.mem_cons.mp member with rfl | member
      · exact greater
      · exact (greatest other member).trans greater
    | succ place =>
      have fits' : place ≤ rest.length := Nat.le_of_succ_le_succ fits
      rw [List.insertIdx_succ_cons]
      refine .cons (fun other member => ?_) (ih others fits' fun i inside => ?_)
      · rcases (List.mem_insertIdx fits').mp member with rfl | member
        · exact compare_lt_iff_lt.mp atFirst
        · exact greatest other member
      · simpa using compared (i + 1) (Nat.succ_lt_succ inside)

/-- **A call** refuses a name that is in the register and leaves the register as it is, or puts the name
into it. -/
theorem addName_spec (descending : names.Pairwise (· > ·)) (start : Nat) (name : String) :
    (name ∈ names ∧ addName start name names = (.error (.malformed start .duplicateGroupName), names)) ∨
      (name ∉ names ∧ ∃ after, addName start name names = (.ok (), after) ∧ after.Perm (name :: names) ∧
        after.Pairwise (· > ·)) := by
  have right := searchBy_spec (guides_of_descending descending name)
  unfold addName
  cases found : searchBy (fun other => compare name other) names with
  | ok place =>
    rw [found] at right
    obtain ⟨inside, equal⟩ := right
    exact .inl ⟨compare_eq_iff_eq.mp equal ▸ List.getElem_mem inside, rfl⟩
  | error place =>
    rw [found] at right
    refine .inr ⟨fun member => ?_, _, rfl, List.perm_insertIdx name names right.1,
      insertIdx_descending descending right⟩
    obtain ⟨i, inside, same⟩ := List.getElem_of_mem member
    have unequal := right.2 i inside
    dsimp only at unequal
    rw [compare_eq_iff_eq.mpr same.symm] at unequal
    split at unequal <;> cases unequal

/-- **A history of calls**: by induction on the calls, the register stays in order and has what was in it and the
names accepted since. -/
theorem addNames_spec (calls : List (Nat × String)) (descending : names.Pairwise (· > ·)) :
    (addNames calls names).2.Pairwise (· > ·) ∧
      (addNames calls names).2.Perm (accepted calls (addNames calls names).1 ++ names) := by
  induction calls generalizing names with
  | nil => exact ⟨descending, .refl _⟩
  | cons call calls ih =>
    obtain ⟨start, name⟩ := call
    obtain ⟨-, refused⟩ | ⟨-, after, added, grown, descending'⟩ := addName_spec descending start name
    · simpa only [addNames, refused, accepted] using ih descending
    · simp only [addNames, added, accepted]
      refine (ih descending').imp_right fun exact => exact.trans ?_
      exact (grown.append_left _).trans List.perm_middle

theorem addNames_append (calls later : List (Nat × String)) (names : List String) :
    addNames (calls ++ later) names =
      ((addNames calls names).1 ++ (addNames later (addNames calls names).2).1,
        (addNames later (addNames calls names).2).2) := by
  induction calls generalizing names with
  | nil => rfl
  | cons call calls ih => simp only [List.cons_append, addNames, ih]

theorem length_addNames (calls : List (Nat × String)) (names : List String) :
    (addNames calls names).1.length = calls.length := by
  induction calls generalizing names with
  | nil => rfl
  | cons call calls ih => simp only [addNames, List.length_cons, ih]

/-! ### The reader -/

/-- Reads a group name and adds it to the register, if nothing else is wrong with it. -/
def nameAdded (data : CharacterData) (names : List String) (here : Cursor) : Except Failure (String × Cursor) :=
  match GroupPrefix.name data [] here with
  | .error failure => .error failure
  | .ok (name, after) =>
    match (addName here.offset name names).1 with
    | .error failure => .error failure
    | .ok () => .ok (name, after)

/-- The reader looks through the names that were used, in whatever order they are. -/
theorem name_eq_nameAdded (data : CharacterData) {taken : List String} (same : names.Perm taken)
    (descending : names.Pairwise (· > ·)) (here : Cursor) :
    GroupPrefix.name data taken here = nameAdded data names here := by
  unfold nameAdded GroupPrefix.name
  dsimp only
  split
  · rfl
  · split
    · rfl
    · split
      · rfl
      · generalize String.ofList _ = name
        obtain ⟨member, refused⟩ | ⟨other, after, added, -⟩ := addName_spec descending here.offset name
        · simp [refused, same.mem_iff.mp member]
        · simp [added, mt same.mem_iff.mpr other]

/-- **Names that are taken are found out.** After any history of calls, the register is in strictly
descending order and has the names that were accepted so far. The next call is refused, for a name that is
given twice and at the offset that it names, exactly if its name was accepted before; then the register
stays as it is. Otherwise it is accepted. The reader, which looks through the names used so far, gives the
same answers. -/
theorem register_exact (before later : List (Nat × String)) (start : Nat) (name : String) :
    let history := addNames before []
    let names := history.2
    let used := accepted before history.1
    let call := addName start name names
    (addNames (before ++ (start, name) :: later) []).1[before.length]? = some call.1 ∧
      names.Pairwise (· > ·) ∧ names.Perm used ∧
      (call.1 = .error (.malformed start .duplicateGroupName) ↔ name ∈ used) ∧
      (call.1 = .ok () ↔ name ∉ used) ∧
      (call.2 = names ↔ name ∈ used) ∧
      ∀ data here, GroupPrefix.name data used.reverse here = nameAdded data names here := by
  intro history names used call
  obtain ⟨descending, same⟩ := @addNames_spec [] before .nil
  rw [List.append_nil] at same
  have place : (addNames (before ++ (start, name) :: later) []).1[before.length]? = some call.1 := by
    rw [addNames_append, List.getElem?_append_right (Nat.le_of_eq (length_addNames before [])),
      length_addNames, Nat.sub_self]
    rfl
  have reader (data here) : GroupPrefix.name data used.reverse here = nameAdded data names here :=
    name_eq_nameAdded data (same.trans (List.reverse_perm used).symm) descending here
  refine ⟨place, descending, same, ?_⟩
  rw [← same.mem_iff]
  obtain ⟨member, refused⟩ | ⟨other, after, added, grown, -⟩ := addName_spec descending start name
  · have answered : call = (.error (.malformed start .duplicateGroupName), names) := refused
    simp [answered, member, reader]
  · have answered : call = (.ok (), after) := added
    have longer : after ≠ names := fun unchanged => by
      have := grown.length_eq
      simp [unchanged, names, history] at this
    simp [answered, other, reader, longer]

end PatternForge.GroupNames
