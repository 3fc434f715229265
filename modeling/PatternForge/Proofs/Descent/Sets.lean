import PatternForge.Proofs.Descent.Registers
import PatternForge.Proofs.Reading.Leaves
import PatternForge.Reading.ClassSet

/-!
Sets that the reader fills by hand. Character tables answer with ranges over all characters, which are
cut to the universe before they go into a set; the set refuses whatever does not fit, and a refusal is a
fault. No list of ranges brings one about (`clip_eq`), nor do the tables of the named classes
(`tableSet_eq`) or the dot, and what is built is the set that the settings give.
-/
namespace PatternForge.Descent

/-- How tables spell the characters with a property, as ranges. -/
structure Listing where
  /-- The ranges for a property, in any order; a range whose ends are reversed is empty. -/
  ranges : (Char → Bool) → List (Char × Char)
  /-- The ranges cover the characters with the property and no others. -/
  covers : ∀ (holds : Char → Bool) (c : Char),
    ((ranges holds).any fun range => range.1 ≤ c && c ≤ range.2) = holds c

/-- What a pattern is read from and under. -/
structure Input where
  settings : Settings
  listing : Listing
  text : List Char
  /-- How many rounds a loop may take; one that wants to go on is endless. -/
  rounds : Nat
  /-- No bound that is made use of is smaller than this one. -/
  enough : text.length < rounds

/-- A loop that moves on in each round has rounds enough for what is left of the text. -/
theorem Input.enough_at {input : Input} {here : Cursor} (within : here.Within input.text) :
    here.rest.length < input.rounds :=
  Nat.lt_of_le_of_lt within.length_le input.enough

/-- An insertion that is taken to succeed. -/
def inserted (result : Except Failure CharSet) : Except Fault CharSet := result.mapError .refused

/-- Adds the part of a range that lies in the universe. -/
def clipInto (set : CharSet) (range : Char × Char) : Except Fault CharSet :=
  let lo := if range.1 ≤ set.domain.first then set.domain.first else range.1
  let hi := if range.2 ≤ set.domain.last then range.2 else set.domain.last
  if lo ≤ hi then inserted (set.insertRange lo hi) else .ok set

/-- The characters of some ranges that lie in the universe. -/
def clip (u : Universe) (ranges : List (Char × Char)) : Except Fault CharSet :=
  CharSet.freeze <$> ranges.foldlM clipInto (.builder u)

/-- The characters between two. -/
def between (range : Char × Char) : List Char :=
  (List.range' range.1.toNat (range.2.toNat + 1 - range.1.toNat)).map Char.ofNat

/-- Adds a character if it lies in the universe. -/
def addKnown (set : CharSet) (c : Char) : Except Fault CharSet :=
  if set.domain.contains c then inserted (set.insert c) else .ok set

/-- The characters of a table that lie in the universe. -/
def tableSet (u : Universe) (table : List (Char × Char)) : Except Fault CharSet :=
  CharSet.freeze <$> (table.flatMap between).foldlM addKnown (.builder u)

/-- The characters with a property, as tables list them. -/
def Input.listed (input : Input) (holds : Char → Bool) : Except Fault CharSet :=
  clip input.settings.domain (input.listing.ranges holds)

/-- A set widened by the case variants of its members. -/
def Input.caseFold (input : Input) (set : CharSet) : Except Fault CharSet :=
  input.listed fun c => (input.settings.data.variants c).any set.contains

/-- The leaf of a single character. -/
def Input.charLeaf (input : Input) (flags : Flags) (c : Char) : Except Fault Pattern :=
  if flags.ignoreCase then do
    let set ← input.listed fun v => (input.settings.data.variants c).contains v
    if 1 < set.size then pure (.oneOf (.of set false)) else pure (.literal c.toString)
  else pure (.literal c.toString)

/-- The leaf of the dot. -/
def Input.dotLeaf (input : Input) (flags : Flags) : Except Fault Pattern := do
  let set ←
    if flags.dotNewLine then pure (CharSet.builder input.settings.domain)
    else addKnown (.builder input.settings.domain) '\n'
  pure (.oneOf (.of set true))

/-- Tables that list each character by itself. -/
def Listing.singly : Listing where
  ranges holds := (((List.range 0x110000).map Char.ofNat).filter holds).map fun c => (c, c)
  covers holds c := by
    have known : c ∈ (List.range 0x110000).map Char.ofNat := by
      refine List.mem_map.mpr ⟨c.toNat, List.mem_range.mpr ?_, Char.ofNat_toNat c⟩
      rcases c.valid with low | ⟨-, high⟩
      · exact Nat.lt_trans low (by decide)
      · exact high
    rw [Bool.eq_iff_iff, List.any_map, List.any_eq_true]
    simp only [Function.comp_apply, Bool.and_eq_true, decide_eq_true_eq, List.mem_filter]
    constructor
    · rintro ⟨d, ⟨-, isHeld⟩, above, below⟩
      rwa [Char.le_antisymm above below] at isHeld
    · exact fun isHeld => ⟨c, ⟨known, isHeld⟩, Char.le_refl c, Char.le_refl c⟩

/-! ### No set refuses -/

/-- A set that is being filled with the characters that satisfy a condition. -/
private structure Filling (u : Universe) (holds : Char → Bool) (set : CharSet) : Prop where
  domain : set.domain = u
  isOpen : set.frozen = false
  members : ∀ c, set.contains c = (u.contains c && holds c)

private theorem filling_builder (u : Universe) : Filling u (fun _ => false) (.builder u) :=
  ⟨rfl, rfl, by simp⟩

private theorem Filling.freeze_eq {u : Universe} {holds : Char → Bool} {set : CharSet}
    (filling : Filling u holds set) : set.freeze = .ofPredicate u holds := by
  refine CharSet.ext filling.domain rfl fun c => ?_
  rw [CharSet.contains_freeze, CharSet.contains_ofPredicate, filling.members]

private theorem Filling.insertRange {u : Universe} {holds : Char → Bool} {set : CharSet}
    (filling : Filling u holds set) {lo hi : Char} (ordered : lo ≤ hi) (low : u.contains lo = true)
    (high : u.contains hi = true) :
    ∃ filled, set.insertRange lo hi = .ok filled ∧
      Filling u (fun c => holds c || (lo ≤ c && c ≤ hi)) filled := by
  obtain ⟨rfl, isOpen, members⟩ := filling
  have done := (CharSet.insertRange_eq_ok ordered).mpr ⟨isOpen, low, high, rfl⟩
  refine ⟨_, done, rfl, isOpen, fun c => ?_⟩
  have codes : ∀ a b : Char, a ≤ b ↔ a.toNat ≤ b.toNat := fun a b => Iff.rfl
  have inside : lo ≤ c ∧ c ≤ hi → set.domain.contains c = true := by
    simp only [codes, Universe.contains_iff] at low high ⊢
    omega
  rw [CharSet.contains_insertRange ordered done, members, Bool.eq_iff_iff]
  simp only [Bool.or_eq_true, Bool.and_eq_true, decide_eq_true_eq, and_or_left]
  exact or_congr_right (and_iff_right_of_imp inside).symm

private theorem Filling.congr {u : Universe} {holds holds' : Char → Bool} {set : CharSet}
    (filling : Filling u holds set)
    (same : ∀ c, u.contains c = true → holds c = holds' c) : Filling u holds' set where
  domain := filling.domain
  isOpen := filling.isOpen
  members := by
    intro c
    rw [filling.members]
    by_cases inside : u.contains c = true
    · rw [same c inside]
    · simp [inside]

private theorem filling_clipInto {u : Universe} {holds : Char → Bool} {set : CharSet}
    (filling : Filling u holds set) (range : Char × Char) :
    ∃ filled, clipInto set range = .ok filled ∧
      Filling u (fun c => holds c || (range.1 ≤ c && c ≤ range.2)) filled := by
  have isDomain := filling.domain
  subst isDomain
  have codes : ∀ a b : Char, a ≤ b ↔ a.toNat ≤ b.toNat := fun a b => Iff.rfl
  have whole := set.domain.ordered
  unfold clipInto
  generalize isLow : (if range.1 ≤ set.domain.first then set.domain.first else range.1) = lo
  generalize isHigh : (if range.2 ≤ set.domain.last then range.2 else set.domain.last) = hi
  have low : lo.toNat = max set.domain.first.toNat range.1.toNat := by
    rw [← isLow]
    split <;> rename_i order <;> rw [codes] at order <;> omega
  have high : hi.toNat = min set.domain.last.toNat range.2.toNat := by
    rw [← isHigh]
    split <;> rename_i order <;> rw [codes] at order <;> omega
  -- what is cut off lies outside the universe
  have same : ∀ c, set.domain.contains c = true →
      (decide (lo ≤ c) && decide (c ≤ hi)) = (decide (range.1 ≤ c) && decide (c ≤ range.2)) := by
    intro c inside
    rw [Universe.contains_iff] at inside
    rw [Bool.eq_iff_iff]
    simp only [Bool.and_eq_true, decide_eq_true_eq, codes]
    omega
  dsimp only
  split
  · rename_i ordered
    rw [codes] at ordered
    have lowInside : set.domain.contains lo = true := Universe.contains_iff.mpr (by omega)
    have highInside : set.domain.contains hi = true := Universe.contains_iff.mpr (by omega)
    obtain ⟨filled, done, filling'⟩ := filling.insertRange ordered lowInside highInside
    exact ⟨filled, by rw [done]; rfl, filling'.congr fun c inside => by rw [same c inside]⟩
  · rename_i reversed
    refine ⟨set, rfl, filling.congr fun c inside => ?_⟩
    rw [← same c inside]
    have none : (decide (lo ≤ c) && decide (c ≤ hi)) = false := by
      rw [Bool.eq_false_iff]
      simp only [ne_eq, Bool.and_eq_true, decide_eq_true_eq, codes] at reversed ⊢
      omega
    rw [none, Bool.or_false]

private theorem filling_clipAll {u : Universe} {holds : Char → Bool} {set : CharSet}
    (filling : Filling u holds set) (ranges : List (Char × Char)) :
    ∃ filled, ranges.foldlM clipInto set = .ok filled ∧
      Filling u (fun c => holds c || ranges.any fun range => range.1 ≤ c && c ≤ range.2) filled := by
  induction ranges generalizing holds set with
  | nil => exact ⟨set, rfl, filling.congr fun c _ => by simp⟩
  | cons range rest ih =>
    obtain ⟨next, first, filling'⟩ := filling_clipInto filling range
    obtain ⟨filled, others, filling''⟩ := ih filling'
    refine ⟨filled, ?_, filling''.congr fun c _ => by rw [List.any_cons, Bool.or_assoc]⟩
    rw [List.foldlM_cons, first]
    exact others

/-- Whatever the ranges are, their parts in the universe fit into the set. -/
theorem clip_eq (u : Universe) (ranges : List (Char × Char)) :
    clip u ranges = .ok (.ofPredicate u fun c => ranges.any fun range => range.1 ≤ c && c ≤ range.2) := by
  obtain ⟨filled, done, filling⟩ := filling_clipAll (filling_builder u) ranges
  rw [clip, done]
  exact congrArg Except.ok (filling.congr fun c _ => Bool.false_or _).freeze_eq

theorem listed_eq (input : Input) (holds : Char → Bool) :
    input.listed holds = .ok (.ofPredicate input.settings.domain holds) := by
  rw [Input.listed, clip_eq]
  congr 2
  funext c
  exact input.listing.covers holds c

theorem caseFold_eq (input : Input) (set : CharSet) :
    input.caseFold set = .ok (input.settings.foldCase set) := listed_eq input _

private theorem filling_addKnown {u : Universe} {holds : Char → Bool} {set : CharSet}
    (filling : Filling u holds set) (d : Char) :
    ∃ filled, addKnown set d = .ok filled ∧ Filling u (fun c => holds c || c == d) filled := by
  have isDomain := filling.domain
  subst isDomain
  unfold addKnown
  split
  · rename_i inside
    obtain ⟨filled, done, filling'⟩ := filling.insertRange (Char.le_refl d) inside inside
    refine ⟨filled, by rw [CharSet.insert, done]; rfl, filling'.congr fun c _ => ?_⟩
    rw [Bool.eq_iff_iff]
    simp only [Bool.or_eq_true, Bool.and_eq_true, decide_eq_true_eq, beq_iff_eq]
    exact or_congr_right ⟨fun both => Char.le_antisymm both.2 both.1,
      fun same => same ▸ ⟨Char.le_refl c, Char.le_refl c⟩⟩
  · rename_i outside
    refine ⟨set, rfl, filling.congr fun c inside => ?_⟩
    have other : (c == d) = false := beq_false_of_ne fun same => outside (same ▸ inside)
    rw [other, Bool.or_false]

private theorem filling_addAll {u : Universe} {holds : Char → Bool} {set : CharSet}
    (filling : Filling u holds set) (chars : List Char) :
    ∃ filled, chars.foldlM addKnown set = .ok filled ∧
      Filling u (fun c => holds c || chars.contains c) filled := by
  induction chars generalizing holds set with
  | nil => exact ⟨set, rfl, filling.congr fun c _ => by simp⟩
  | cons d rest ih =>
    obtain ⟨next, first, filling'⟩ := filling_addKnown filling d
    obtain ⟨filled, others, filling''⟩ := ih filling'
    refine ⟨filled, ?_, filling''.congr fun c _ => by rw [List.contains_cons, Bool.or_assoc]⟩
    rw [List.foldlM_cons, first]
    exact others

private theorem mem_between {range : Char × Char} (low : range.2.toNat < 0xD800) (c : Char) :
    c ∈ between range ↔ range.1 ≤ c ∧ c ≤ range.2 := by
  have codes : ∀ a b : Char, a ≤ b ↔ a.toNat ≤ b.toNat := fun a b => Iff.rfl
  have code : ∀ n, n ≤ range.2.toNat → (Char.ofNat n).toNat = n := by
    intro n inside
    have valid : n.isValidChar := .inl (by omega)
    rw [Char.ofNat, dif_pos valid]
    rfl
  simp only [between, List.mem_map, List.mem_range', codes]
  constructor
  · rintro ⟨n, ⟨i, inside, rfl⟩, rfl⟩
    rw [code _ (by omega)]
    omega
  · intro inside
    exact ⟨c.toNat, ⟨c.toNat - range.1.toNat, by omega, by omega⟩, Char.ofNat_toNat c⟩

/-- The characters of a table below the surrogates that lie in the universe fit into the set. -/
theorem tableSet_eq (u : Universe) {table : List (Char × Char)}
    (low : ∀ range ∈ table, range.2.toNat < 0xD800) :
    tableSet u table =
      .ok (.ofPredicate u fun c => table.any fun range => range.1 ≤ c && c ≤ range.2) := by
  obtain ⟨filled, done, filling⟩ := filling_addAll (filling_builder u) (table.flatMap between)
  rw [tableSet, done]
  refine congrArg Except.ok (filling.congr fun c _ => ?_).freeze_eq
  rw [Bool.false_or, Bool.eq_iff_iff, List.contains_iff_mem, List.mem_flatMap, List.any_eq_true]
  refine exists_congr fun range => and_congr_right fun member => ?_
  rw [mem_between (low range member), Bool.and_eq_true, decide_eq_true_eq, decide_eq_true_eq]

theorem posixRanges_low {name : String} {table : List (Char × Char)}
    (found : ClassSet.posixRanges? name = some table) :
    ∀ range ∈ table, range.2.toNat < 0xD800 := by
  unfold ClassSet.posixRanges? at found
  split at found <;> cases found <;> decide

theorem charLeaf_eq (input : Input) (flags : Flags) (c : Char) :
    input.charLeaf flags c = .ok (input.settings.charPattern flags c) := by
  unfold Input.charLeaf Settings.charPattern
  have same : CharSet.ofPredicate input.settings.domain
      (fun v => (input.settings.data.variants c).contains v) =
        (input.settings.setOf (input.settings.data.variants c)).freeze := by
    refine CharSet.ext (by simp) rfl fun v => ?_
    rw [CharSet.contains_ofPredicate, CharSet.contains_freeze, Bool.eq_iff_iff,
      Settings.contains_setOf, Bool.and_eq_true, List.contains_iff_mem]
  split
  · rw [listed_eq, same]
    dsimp only
    change (if 1 < (input.settings.setOf (input.settings.data.variants c)).size then _ else _) = _
    split
    · rfl
    · rfl
  · rfl

theorem dotLeaf_eq (input : Input) (flags : Flags) :
    input.dotLeaf flags = .ok (input.settings.dotPattern flags) := by
  unfold Input.dotLeaf Settings.dotPattern CharClass.of
  cases flags.dotNewLine with
  | true => rfl
  | false =>
    obtain ⟨filled, done, filling⟩ := filling_addKnown (filling_builder input.settings.domain) '\n'
    have same : filled.freeze = (input.settings.setOf ['\n']).freeze := by
      rw [filling.freeze_eq]
      refine CharSet.ext (by simp) rfl fun c => ?_
      rw [CharSet.contains_ofPredicate, CharSet.contains_freeze, Bool.eq_iff_iff,
        Settings.contains_setOf]
      simp
    simp only [Bool.false_eq_true, ↓reduceIte, done]
    change Except.ok (Pattern.oneOf ⟨filled.freeze, true⟩) = _
    rw [same]

end PatternForge.Descent
