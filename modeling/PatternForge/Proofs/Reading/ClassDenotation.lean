import PatternForge.Proofs.Reading.UniqueSpelling

/-!
What bracketed classes denote. An item names some characters; where case is ignored they are joined by
their case variants; an item that is negated itself then stands for all others, and a class that
begins with a caret allows what none of its items stands for. The reader agrees with this but for one
kind of item: it takes the complement of a negated POSIX class before the variants join. A character
whose variants lie on both sides of the table is then allowed although the item excludes it
(`Written.Splits`), and that does not show where another item stands for it (`Covered`).
-/
namespace PatternForge

/-- What the facts about characters are relied upon for: having the same letters but for case is an
equivalence, and the classes that are known by name do not tell such characters apart where case is
ignored. -/
structure CharacterData.FoldsCase (data : CharacterData) : Prop where
  variants : Equivalence fun c d => d ∈ data.variants c
  perl : ∀ entry ∈ ClassSet.perlClasses data, ∀ c, ∀ d ∈ data.variants c, entry.2.1 d = entry.2.1 c
  property : ∀ name holds, data.property true name = some holds →
    ∀ c, ∀ d ∈ data.variants c, holds d = holds c

namespace ClassSet

open Escape (Context)

/-- The characters that an item names, apart from case and negation. A table is one of characters of
the universe. -/
def Written.Names (u : Universe) : Written → Char → Prop
  | .character d, c => c = d
  | .range lo hi, c => lo ≤ c ∧ c ≤ hi
  | .named holds _, c => holds c = true
  | .posix ranges _, c => u.contains c = true ∧ ∃ range ∈ ranges, range.1 ≤ c ∧ c ≤ range.2

/-- Whether an item is negated itself. -/
def Written.negated : Written → Bool
  | .named _ negated | .posix _ negated => negated
  | .character _ | .range _ _ => false

/-- Whether a character is among some characters, or is a case variant of one where case is
ignored. -/
def Widens (ctx : Context) (names : Char → Prop) (c : Char) : Prop :=
  if ctx.flags.ignoreCase then ∃ d ∈ ctx.settings.data.variants c, names d else names c

/-- Whether an item stands for a character: case is ignored first, and then the item's own negation
applies. -/
def Written.Denotes (ctx : Context) (one : Written) (c : Char) : Prop :=
  if one.negated then ¬Widens ctx (one.Names ctx.settings.domain) c
  else Widens ctx (one.Names ctx.settings.domain) c

/-- Whether a class allows a character that some of its items stands for. -/
def Allows (ctx : Context) (negated : Bool) (listed : Prop) (c : Char) : Prop :=
  ctx.settings.domain.contains c = true ∧ if negated then ¬listed else listed

/-- A negated POSIX class, read where case is ignored, splits a character that has one variant in the
table and another one in the universe but not in the table. -/
def Written.Splits (ctx : Context) (one : Written) (c : Char) : Prop :=
  ctx.flags.ignoreCase = true ∧ (∃ ranges, one = .posix ranges true) ∧
    (∃ d ∈ ctx.settings.data.variants c, one.Names ctx.settings.domain d) ∧
      ∃ d ∈ ctx.settings.data.variants c,
        ctx.settings.domain.contains d = true ∧ ¬one.Names ctx.settings.domain d

/-! ### The set that a list of items is built into -/

/-- The characters of an item. -/
def Item.Has : Item → Char → Prop
  | .range lo hi, c => lo ≤ c ∧ c ≤ hi
  | .set members, c => members.contains c = true

/-- The ends of a range are in order. -/
def Item.Ordered : Item → Prop
  | .range lo hi => lo ≤ hi
  | .set _ => True

theorem Resolves.ordered {ctx : Context} {one : Written} {item : Item}
    (resolves : Resolves ctx one item) : item.Ordered := by
  cases resolves with
  | character c => exact Char.le_refl c
  | range ordered => exact ordered
  | cases | named | posix => exact trivial

private theorem contains_addItem {set added : CharSet} {item : Item} (ordered : item.Ordered)
    (adds : addItem set item = .ok added) :
    added.domain = set.domain ∧
      ∀ c, added.contains c = true ↔ set.contains c = true ∨ item.Has c := by
  cases item with
  | range lo hi =>
    obtain ⟨-, low, high, same⟩ := (CharSet.insertRange_eq_ok ordered).mp adds
    refine ⟨by rw [same, CharSet.domain_withPlaces], fun c => ?_⟩
    simp [CharSet.contains_insertRange ordered adds, Item.Has]
  | set members =>
    refine ⟨(CharSet.domain_of_insertAll adds).1, fun c => ?_⟩
    simp [CharSet.contains_insertAll adds, Item.Has]

theorem contains_addItems {items : List Item} {set added : CharSet}
    (ordered : ∀ item ∈ items, item.Ordered) (adds : items.foldlM addItem set = .ok added) :
    added.domain = set.domain ∧
      ∀ c, added.contains c = true ↔ set.contains c = true ∨ ∃ item ∈ items, item.Has c := by
  induction items generalizing set with
  | nil =>
    cases adds
    simp
  | cons item rest ih =>
    rw [List.foldlM_cons] at adds
    cases first : addItem set item with
    | error failure => rw [first] at adds; cases adds
    | ok between =>
      rw [first] at adds
      obtain ⟨same, head⟩ := contains_addItem (ordered item List.mem_cons_self) first
      obtain ⟨same', tail⟩ :=
        ih (fun other member => ordered other (List.mem_cons_of_mem _ member)) adds
      refine ⟨by rw [same', same], fun c => ?_⟩
      rw [tail, head, or_assoc]
      simp

/-- An item belongs to a universe. -/
def Item.Fits (u : Universe) : Item → Prop
  | .range lo hi => u.contains lo = true ∧ u.contains hi = true
  | .set members => u = members.domain

private theorem addItem_isOk {one : Item} {set : CharSet} (ordered : one.Ordered) (stage : set.frozen = false) :
    (∃ added, addItem set one = .ok added) ↔ one.Fits set.domain := by
  cases one with
  | range lo hi =>
    simp only [addItem, CharSet.insertRange_eq_ok ordered, stage, true_and]
    exact ⟨fun ⟨_, low, high, _⟩ => ⟨low, high⟩, fun ⟨low, high⟩ => ⟨_, low, high, rfl⟩⟩
  | set members => simp only [addItem, CharSet.insertAll_isOk, stage, true_and, Item.Fits]

private theorem open_of_addItem {one : Item} {set added : CharSet} (ordered : one.Ordered)
    (adds : addItem set one = .ok added) :
    added.domain = set.domain ∧ added.frozen = false := by
  cases one with
  | range lo hi =>
    obtain ⟨stage, low, high, rfl⟩ := (CharSet.insertRange_eq_ok ordered).mp adds
    exact ⟨rfl, stage⟩
  | set members => exact CharSet.domain_of_insertAll adds

/-- Items can be added where each of them belongs to the universe. -/
theorem addItems_isOk {items : List Item} {set : CharSet} (ordered : ∀ item ∈ items, item.Ordered)
    (stage : set.frozen = false) :
    (∃ added, items.foldlM addItem set = .ok added) ↔ ∀ item ∈ items, item.Fits set.domain := by
  induction items generalizing set with
  | nil => exact ⟨fun _ => nofun, fun _ => ⟨set, rfl⟩⟩
  | cons item others ih =>
    obtain ⟨first, rest⟩ := List.forall_mem_cons.mp ordered
    have isOk := addItem_isOk first stage
    rw [List.foldlM_cons, List.forall_mem_cons, ← isOk]
    cases adds : addItem set item with
    | error failure =>
      simp [bind, Except.bind]
    | ok added =>
      obtain ⟨domain, stage'⟩ := open_of_addItem first adds
      rw [← domain, ← ih rest stage']
      simp [bind, Except.bind]

/-- A class allows the widened union of its items, or the rest of the universe. -/
theorem contains_build {ctx : Context} {start after : Cursor} {negated : Bool}
    {items : List Item} {leaf : Pattern} (ordered : ∀ item ∈ items, item.Ordered)
    (built : build ctx start after negated items = .ok leaf) :
    ∃ cls, leaf = .oneOf cls ∧ ∀ c, cls.effective.contains c = true ↔
      Allows ctx negated (∃ item ∈ items, Widens ctx item.Has c) c := by
  unfold build at built
  split at built
  · cases built
  · rename_i set adds
    obtain ⟨domain, contains⟩ := contains_addItems ordered adds
    have widened : ∀ c, ctx.settings.domain.contains c = true →
        ((if ctx.flags.ignoreCase then ctx.settings.foldCase set else set).contains c = true ↔
          ∃ item ∈ items, Widens ctx item.Has c) := by
      intro c within
      unfold Widens
      by_cases ignoring : ctx.flags.ignoreCase = true
      · simp only [ignoring, ↓reduceIte, Settings.contains_foldCase, within, true_and, contains,
          CharSet.contains_builder, Bool.false_eq_true, false_or]
        exact ⟨fun ⟨d, isVariant, item, member, has⟩ => ⟨item, member, d, isVariant, has⟩,
          fun ⟨item, member, d, isVariant, has⟩ => ⟨d, isVariant, item, member, has⟩⟩
      · simp [ignoring, contains]
    refine ⟨_, (Settings.classPattern_eq_ok.mp built).2, fun c => ?_⟩
    have same : (if ctx.flags.ignoreCase then ctx.settings.foldCase set else set).domain =
        ctx.settings.domain := by
      split
      · rfl
      · exact domain
    rw [CharClass.contains_of, same, Bool.and_eq_true]
    refine and_congr_right fun within => ?_
    cases negated with
    | true => rw [if_pos rfl, ← widened c within, Bool.true_xor, Bool.not_eq_true', Bool.not_eq_true]
    | false => rw [if_neg Bool.false_ne_true, ← widened c within, Bool.false_xor]

/-- Where an item is neither negated nor cut, it contributes what it names. -/
private theorem widens_iff_of_has {ctx : Context} {one : Written} {item : Item} {c : Char}
    (plain : one.negated = false)
    (has : ∀ d, item.Has d ↔ one.Names ctx.settings.domain d) :
    Widens ctx item.Has c ↔ one.Denotes ctx c ∨ one.Splits ctx c := by
  have unsplit : ¬one.Splits ctx c := by
    rintro ⟨-, ⟨ranges, rfl⟩, -⟩
    cases plain
  have same : item.Has = one.Names ctx.settings.domain := funext fun d => propext (has d)
  simp [Written.Denotes, plain, unsplit, same]

private theorem has_posix {ctx : Context} {ranges : List (Char × Char)} {negated : Bool} {c : Char} :
    (setOfRanges ctx.settings ranges).contains c = true ↔
      (Written.posix ranges negated).Names ctx.settings.domain c := by
  simp [setOfRanges, CharSet.contains_ofPredicate, Written.Names]

/-- A class that is known by name does not tell cases apart where case is ignored. -/
theorem named_folds {ctx : Context} (folds : ctx.settings.data.FoldsCase)
    {text rest : List Char} {holds : Char → Bool} {negated : Bool}
    (spelled : SpellsNamed ctx text holds negated rest) (ignoring : ctx.flags.ignoreCase = true)
    {c d : Char} (variant : d ∈ ctx.settings.data.variants c) : holds d = holds c := by
  cases spelled with
  | perl listed => exact folds.perl _ listed c d variant
  | letter _ _ known | braced _ _ known =>
    rw [ignoring] at known
    exact folds.property _ _ known c d variant

/-- A character that an escape sequence turned into the class of its cases is one of them again. -/
private theorem widens_cases {ctx : Context} (folds : ctx.settings.data.FoldsCase) {c d : Char}
    (ignoring : ctx.flags.ignoreCase = true) (within : ctx.settings.domain.contains c = true) :
    Widens ctx (Item.set (CharClass.of (ctx.settings.setOf (ctx.settings.data.variants d))
      false).effective).Has c ↔ (Written.character d).Denotes ctx c := by
  simp only [Written.Denotes, Written.negated, Bool.false_eq_true, ↓reduceIte, Widens, ignoring,
    Item.Has, CharClass.contains_of, Bool.false_xor, Settings.domain_setOf, Bool.and_eq_true,
    Settings.contains_setOf, Written.Names]
  constructor
  · rintro ⟨e, variant, -, -, variant'⟩
    exact ⟨d, folds.variants.trans variant (folds.variants.symm variant'), rfl⟩
  · rintro ⟨e, variant, rfl⟩
    exact ⟨c, folds.variants.refl c, within, within, folds.variants.symm variant⟩

/-- A class that is known by name is closed already, so its negation is as well. -/
private theorem widens_named {ctx : Context} (folds : ctx.settings.data.FoldsCase)
    {text rest : List Char} {holds : Char → Bool} {negated : Bool}
    (spelled : SpellsNamed ctx text holds negated rest) {c : Char}
    (within : ctx.settings.domain.contains c = true) :
    Widens ctx (Item.set (CharClass.of (.ofPredicate ctx.settings.domain holds)
      negated).effective).Has c ↔ (Written.named holds negated).Denotes ctx c := by
  have names : Widens ctx ((Written.named holds negated).Names ctx.settings.domain) c ↔
      holds c = true := by
    unfold Widens
    split
    · rename_i ignoring
      exact ⟨fun ⟨d, variant, named⟩ => named_folds folds spelled ignoring variant ▸ named,
        fun named => ⟨c, folds.variants.refl c, named⟩⟩
    · exact Iff.rfl
  have has : Widens ctx (Item.set (CharClass.of (.ofPredicate ctx.settings.domain holds)
      negated).effective).Has c ↔ (negated ^^ holds c) = true := by
    unfold Widens
    simp only [Item.Has, CharClass.contains_of, CharSet.domain_ofPredicate,
      CharSet.contains_ofPredicate, Bool.and_eq_true]
    split
    · rename_i ignoring
      constructor
      · rintro ⟨d, variant, within', holds'⟩
        rwa [within', Bool.true_and, named_folds folds spelled ignoring variant] at holds'
      · intro holds'
        exact ⟨c, folds.variants.refl c, within, by rwa [within, Bool.true_and]⟩
    · simp [within]
  rw [has, Written.Denotes, names]
  cases negated <;> simp [Written.negated]

/-- The complement of a table, widened, gains exactly the characters that the table splits. -/
private theorem widens_posix {ctx : Context} (folds : ctx.settings.data.FoldsCase)
    {ranges : List (Char × Char)} {c : Char} (within : ctx.settings.domain.contains c = true) :
    Widens ctx (Item.set (setOfRanges ctx.settings ranges).complement).Has c ↔
      (Written.posix ranges true).Denotes ctx c ∨ (Written.posix ranges true).Splits ctx c := by
  have has : ∀ d, (Item.set (setOfRanges ctx.settings ranges).complement).Has d ↔
      ctx.settings.domain.contains d = true ∧
        ¬(Written.posix ranges true).Names ctx.settings.domain d := by
    intro d
    rw [← has_posix]
    simp [Item.Has, setOfRanges]
  simp only [Written.Denotes, Written.Splits, Written.negated, ↓reduceIte, Widens, has]
  split
  · rename_i ignoring
    simp only [ignoring, true_and, Written.posix.injEq, and_true, exists_eq']
    constructor
    · intro outside
      by_cases named : ∃ d ∈ ctx.settings.data.variants c,
          (Written.posix ranges true).Names ctx.settings.domain d
      · exact .inr ⟨named, outside⟩
      · exact .inl named
    · rintro (unnamed | ⟨-, outside⟩)
      · exact ⟨c, folds.variants.refl c, within,
          fun named => unnamed ⟨c, folds.variants.refl c, named⟩⟩
      · exact outside
  · rename_i minding
    simp [minding, within]

/-- Only a negated POSIX class splits a character. -/
private theorem not_splits {ctx : Context} {one : Written} {c : Char}
    (other : ∀ ranges, one ≠ .posix ranges true) : ¬one.Splits ctx c := by
  rintro ⟨-, ⟨ranges, same⟩, -⟩
  exact other ranges same

/-- Each item contributes what it stands for, and the characters that it splits. -/
private theorem widens_iff {ctx : Context} (folds : ctx.settings.data.FoldsCase) {one : Written}
    {item : Item} (resolves : Resolves ctx one item) {c : Char}
    (within : ctx.settings.domain.contains c = true) :
    Widens ctx item.Has c ↔ one.Denotes ctx c ∨ one.Splits ctx c := by
  cases resolves with
  | character d =>
    refine widens_iff_of_has rfl fun e => ⟨fun between => ?_, fun same => ?_⟩
    · exact Char.le_antisymm between.2 between.1
    · obtain rfl : e = d := same
      exact ⟨Char.le_refl e, Char.le_refl e⟩
  | cases d ignoring =>
    rw [widens_cases folds ignoring within, or_iff_left (not_splits (by simp))]
  | range ordered => exact widens_iff_of_has rfl fun e => Iff.rfl
  | named spelled => rw [widens_named folds spelled within, or_iff_left (not_splits (by simp))]
  | posix ranges negated =>
    cases negated with
    | false => exact widens_iff_of_has rfl fun d => has_posix
    | true => exact widens_posix folds within

/-- Two lists of items make for the same class only if they stand for the same characters. -/
private theorem listed_of_allows {ctx : Context} {negated : Bool} {listed listed' : Prop} {c : Char}
    (within : ctx.settings.domain.contains c = true)
    (same : Allows ctx negated listed c ↔ Allows ctx negated listed' c) : listed ↔ listed' := by
  unfold Allows at same
  cases negated with
  | true => by_cases one : listed <;> by_cases other : listed' <;> simp_all
  | false => simpa [within] using same

/-- The case orbits of the seven-bit letters. Two of them have a member beyond. -/
def sevenBitOrbits : List (List Char) :=
  (List.range 26).map fun i =>
    [Char.ofNat (65 + i), Char.ofNat (97 + i)] ++
      (if i = 10 then ['\u212a'] else if i = 18 then ['\u017f'] else [])

/-- What is to be known of the seven-bit characters. -/
def sevenBit : CharacterData where
  variants c := (sevenBitOrbits.find? (·.contains c)).getD [c]
  digit c := c.isDigit
  space c := c = ' ' || ('\t' ≤ c && c ≤ '\r')
  word c := c = '_' || c.isDigit || sevenBitOrbits.any (·.contains c)
  alphabetic c := sevenBitOrbits.any (·.contains c)
  numeric c := c.isDigit
  property _ _ := none
  excludesAll _ := false

private theorem sevenBitOrbits_disjoint :
    ∀ orbit ∈ sevenBitOrbits, ∀ other ∈ sevenBitOrbits, ∀ c ∈ orbit, c ∈ other → orbit = other := by
  have apart : (sevenBitOrbits.all fun orbit => sevenBitOrbits.all fun other =>
      orbit.all fun c => !other.contains c || orbit == other) = true := by decide +kernel
  intro orbit member other member' c inside inside'
  have here := List.all_eq_true.mp (List.all_eq_true.mp (List.all_eq_true.mp apart orbit member)
    other member') c inside
  simpa [inside'] using here

private theorem mem_sevenBit_variants {c d : Char} :
    d ∈ sevenBit.variants c ↔ d = c ∨ ∃ orbit ∈ sevenBitOrbits, c ∈ orbit ∧ d ∈ orbit := by
  simp only [sevenBit]
  cases found : sevenBitOrbits.find? (·.contains c) with
  | none =>
    rw [List.find?_eq_none] at found
    simp only [Option.getD_none, List.mem_singleton]
    refine ⟨.inl, fun same => same.resolve_right ?_⟩
    rintro ⟨orbit, member, inside, -⟩
    exact found orbit member (by simpa using inside)
  | some orbit =>
    have inside : c ∈ orbit := by simpa using List.find?_some found
    have member := List.mem_of_find?_eq_some found
    rw [Option.getD_some]
    constructor
    · exact fun inside' => .inr ⟨orbit, member, inside, inside'⟩
    · rintro (rfl | ⟨other, member', inside', also⟩)
      · exact inside
      · rwa [sevenBitOrbits_disjoint orbit member other member' c inside inside']

theorem sevenBit_foldsCase : sevenBit.FoldsCase where
  variants := by
    refine ⟨fun c => mem_sevenBit_variants.mpr (.inl rfl), fun {c d} related => ?_,
      fun {c d e} related related' => ?_⟩
    · rcases mem_sevenBit_variants.mp related with rfl | ⟨orbit, member, inside, inside'⟩
      · exact related
      · exact mem_sevenBit_variants.mpr (.inr ⟨orbit, member, inside', inside⟩)
    · rcases mem_sevenBit_variants.mp related with rfl | ⟨orbit, member, inside, inside'⟩
      · exact related'
      · rcases mem_sevenBit_variants.mp related' with rfl | ⟨other, member', also, also'⟩
        · exact related
        · obtain rfl := sevenBitOrbits_disjoint orbit member other member' d inside' also
          exact mem_sevenBit_variants.mpr (.inr ⟨orbit, member, inside, also'⟩)
  perl := by
    have orbits : ((perlClasses sevenBit).all fun entry => sevenBitOrbits.all fun orbit =>
        orbit.all fun c => orbit.all fun d => entry.2.1 d == entry.2.1 c) = true := by decide +kernel
    intro entry listed c d related
    rcases mem_sevenBit_variants.mp related with rfl | ⟨orbit, member, inside, inside'⟩
    · rfl
    · have closed := List.all_eq_true.mp (List.all_eq_true.mp orbits entry listed) orbit member
      have here := List.all_eq_true.mp (List.all_eq_true.mp closed c inside) d inside'
      exact beq_iff_eq.mp here
  property := by
    intro name holds known
    cases known

/-- Reading of letters where case is ignored. -/
def ignoringCase : Context :=
  { settings := { domain := { first := 'A', last := 'z' }, data := sevenBit }
    flags := { ignoreCase := true }
    closed := [] }

/-- A negated table of small letters. -/
def smallExcluded : Cursor :=
  .ofText ['[', '[', ':', '^', 'l', 'o', 'w', 'e', 'r', ':', ']', ']']

/-- A class allows what its items stand for, each with its own negation behind the case variants, and
the others if the class begins with a caret. -/
def Faithful (ctx : Context) (negated : Bool) (items : List Written) (cls : CharClass) : Prop :=
  ∀ c, cls.effective.contains c = true ↔ Allows ctx negated (∃ one ∈ items, one.Denotes ctx c) c

/-- Every character that an item splits is one that some item stands for. -/
def Covered (ctx : Context) (items : List Written) : Prop :=
  ∀ c, ctx.settings.domain.contains c = true →
    (∃ one ∈ items, one.Splits ctx c) → ∃ one ∈ items, one.Denotes ctx c

/-- **What an accepted class allows.** Its text spells one list of items, and it allows a character that
one of them stands for or splits; with a caret, the others. So it is faithful to its items exactly if
every character that one of them splits is covered. -/
theorem read_denotes {ctx : Context} (folds : ctx.settings.data.FoldsCase) {start after : Cursor}
    {leaf : Pattern} (read : ClassSet.read ctx start = .ok (leaf, after)) :
    ∃ cls negated items, leaf = .oneOf cls ∧
      (∀ negated' items' rest, SpellsClass ctx start.skip.rest negated' items' rest ↔
        negated' = negated ∧ items' = items ∧ rest = after.rest) ∧
      (∀ c, cls.effective.contains c = true ↔
        Allows ctx negated (∃ one ∈ items, one.Denotes ctx c ∨ one.Splits ctx c) c) ∧
      (Faithful ctx negated items cls ↔ Covered ctx items) := by
  obtain ⟨negated, items, spelled, resolved, built⟩ := spells_of_read read
  obtain ⟨cls, rfl, contains⟩ := contains_build (fun item member => by
    obtain ⟨one, isOne, rfl⟩ := List.mem_map.mp member
    exact (resolved one isOne).ordered) built
  have exact' : ∀ c, cls.effective.contains c = true ↔ Allows ctx negated
      (∃ one ∈ items.map Prod.fst, one.Denotes ctx c ∨ one.Splits ctx c) c := by
    intro c
    rw [contains c]
    refine and_congr_right fun within => ?_
    have same : (∃ item ∈ items.map Prod.snd, Widens ctx item.Has c) ↔
        ∃ one ∈ items.map Prod.fst, one.Denotes ctx c ∨ one.Splits ctx c := by
      simp only [List.mem_map]
      constructor
      · rintro ⟨item, ⟨one, member, rfl⟩, widens⟩
        exact ⟨one.1, ⟨one, member, rfl⟩, (widens_iff folds (resolved one member) within).mp widens⟩
      · rintro ⟨written, ⟨one, member, rfl⟩, stands⟩
        exact ⟨one.2, ⟨one, member, rfl⟩, (widens_iff folds (resolved one member) within).mpr stands⟩
    rw [same]
  refine ⟨cls, negated, items.map Prod.fst, rfl, fun negated' items' rest => ?_, exact', ?_⟩
  · exact ⟨fun other => other.unique spelled, fun ⟨same, same', same''⟩ => by
      rwa [same, same', same'']⟩
  refine ⟨fun faithful c within split => ?_, fun covered c => ?_⟩
  · have both := (faithful c).symm.trans (exact' c)
    obtain ⟨one, member, splits⟩ := split
    exact (listed_of_allows within both).mpr ⟨one, member, .inr splits⟩
  · rw [exact' c]
    refine and_congr_right fun within => ?_
    have same : (∃ one ∈ items.map Prod.fst, one.Denotes ctx c ∨ one.Splits ctx c) ↔
        ∃ one ∈ items.map Prod.fst, one.Denotes ctx c := by
      constructor
      · rintro ⟨one, member, denotes | splits⟩
        · exact ⟨one, member, denotes⟩
        · exact covered c within ⟨one, member, splits⟩
      · rintro ⟨one, member, denotes⟩
        exact ⟨one, member, .inl denotes⟩
    rw [same]

theorem read_denotes_smallExcluded :
    ∃ leaf after, ClassSet.read ignoringCase smallExcluded = .ok (leaf, after) ∧
      ∃ cls negated items, leaf = .oneOf cls ∧
        (∀ negated' items' rest,
          SpellsClass ignoringCase smallExcluded.skip.rest negated' items' rest ↔
            negated' = negated ∧ items' = items ∧ rest = after.rest) ∧
        (∀ c, cls.effective.contains c = true ↔ Allows ignoringCase negated
          (∃ one ∈ items, one.Denotes ignoringCase c ∨ one.Splits ignoringCase c) c) ∧
        (Faithful ignoringCase negated items cls ↔ Covered ignoringCase items) := by
  have excluded : posix? ignoringCase smallExcluded.skip =
      some ((setOfRanges ignoringCase.settings [('a', 'z')]).complement, ⟨11, [']']⟩) := by rfl
  have opened : ClassSet.read ignoringCase smallExcluded =
      readItems ignoringCase smallExcluded false smallExcluded.skip [] := by rfl
  have closed : ClassSet.read ignoringCase smallExcluded =
      (fun leaf => (leaf, (⟨12, []⟩ : Cursor))) <$>
        build ignoringCase smallExcluded ⟨12, []⟩ false
          [.set (setOfRanges ignoringCase.settings [('a', 'z')]).complement] := by
    rw [opened, readItems_posix rfl excluded, readItems_close rfl]
    rfl
  obtain ⟨leaf, built⟩ : ∃ leaf, build ignoringCase smallExcluded ⟨12, []⟩ false
      [.set (setOfRanges ignoringCase.settings [('a', 'z')]).complement] = .ok leaf := ⟨_, rfl⟩
  have read : ClassSet.read ignoringCase smallExcluded = .ok (leaf, ⟨12, []⟩) := by
    rw [closed, built]
    rfl
  exact ⟨leaf, ⟨12, []⟩, read, read_denotes sevenBit_foldsCase read⟩

end ClassSet

end PatternForge
