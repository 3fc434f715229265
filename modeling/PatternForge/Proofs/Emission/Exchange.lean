import PatternForge.Emission

/-!
Parts of a tree that can be exchanged. Two trees draw alike if every source, under all bindings, gives the
same text and bindings or the same failure with both, and is left at the same place. What stands around a part
is a list of frames, one for each node above it; trees that draw alike do so inside every frame
(`DrawsAlike.around`). Items in a row can be regrouped: the texts of a sequence among them, or of literals that
meet, stand at the same places when the items are put together (`emit_concat_framed`).
-/
namespace PatternForge.Pattern

/-- A node around a part of a tree, without the part. -/
inductive Frame where
  /-- A sequence in which the part stands between other items. -/
  | sequence (before behind : List Pattern)
  /-- An alternation of which the part is a branch. -/
  | alternation (before behind : List Pattern)
  /-- A repetition of the part. -/
  | repetition (bounds : Bounds)
  /-- A group of the part. -/
  | group (index : Nat) (name : Option String)

/-- The node with a part put in. -/
def Frame.around : Frame → Pattern → Pattern
  | sequence before behind, p => .sequence (before ++ p :: behind)
  | alternation before behind, p => .alternation (before ++ p :: behind)
  | repetition bounds, p => .repetition bounds p
  | group index name, p => .group index name p

/-- The tree of a part and the nodes around it, the nearest first. -/
def framed (frames : List Frame) (p : Pattern) : Pattern :=
  frames.foldl (fun inner frame => frame.around inner) p

/-- Two trees make the same of every source, under the same bindings. -/
def DrawsAlike (p q : Pattern) : Prop :=
  ∀ cap bound source, emitFrom cap p bound source = emitFrom cap q bound source

/-- Two lists of items make the same of every source, behind the same text. -/
def ItemsDrawAlike (items items' : List Pattern) : Prop :=
  ∀ cap before bound source, emitItems cap items before bound source = emitItems cap items' before bound source

section Items
variable {cap : UInt32} {items items' : List Pattern}

/-- What was drawn, with a text in front of it. -/
def putBehind (before : String) : Drawn × Source → Drawn × Source
  | (.ok (text, bound), source) => (.ok (before ++ text, bound), source)
  | (.error failure, source) => (.error failure, source)

/-- The text in front takes no part in the drawing. -/
theorem emitItems_behind (before more : String) (bound : Bindings) (source : Source) :
    emitItems cap items (before ++ more) bound source =
      putBehind before (emitItems cap items more bound source) := by
  induction items generalizing more bound source with
  | nil => rfl
  | cons item rest ih =>
    rw [emitItems, emitItems]
    split
    · rw [String.append_assoc, ih]
    · rfl

theorem emitItems_append (items items' : List Pattern) (before : String) (bound : Bindings)
    (source : Source) :
    emitItems cap (items ++ items') before bound source =
      match emitItems cap items before bound source with
      | (.ok (text, bound), source) => emitItems cap items' text bound source
      | (.error failure, source) => (.error failure, source) := by
  induction items generalizing before bound source with
  | nil => rfl
  | cons item rest ih =>
    rw [List.cons_append, emitItems, emitItems]
    cases emitFrom cap item bound source with
    | mk drawn after =>
      cases drawn with
      | ok given => exact ih _ _ _
      | error failure => rfl

/-- One item is drawn from like the list of it. -/
theorem emitItems_single (item : Pattern) (before : String) (bound : Bindings) (source : Source) :
    emitItems cap [item] before bound source = putBehind before (emitFrom cap item bound source) := by
  rw [emitItems]
  split <;> (rename_i same; rw [same]; rfl)

theorem ItemsDrawAlike.append {a a' b b' : List Pattern} (first : ItemsDrawAlike a a')
    (second : ItemsDrawAlike b b') : ItemsDrawAlike (a ++ b) (a' ++ b') := by
  intro cap before bound source
  rw [emitItems_append, emitItems_append, first]
  split
  · exact second _ _ _ _
  · rfl

theorem ItemsDrawAlike.refl (items : List Pattern) : ItemsDrawAlike items items := fun _ _ _ _ => rfl

theorem ItemsDrawAlike.trans {a b c : List Pattern} (first : ItemsDrawAlike a b)
    (second : ItemsDrawAlike b c) : ItemsDrawAlike a c :=
  fun cap before bound source => (first cap before bound source).trans (second cap before bound source)

theorem ItemsDrawAlike.sequence (alike : ItemsDrawAlike items items') :
    DrawsAlike (sequence items) (sequence items') :=
  fun cap bound source => alike cap "" bound source

theorem DrawsAlike.single {p q : Pattern} (alike : DrawsAlike p q) : ItemsDrawAlike [p] [q] := by
  intro cap before bound source
  rw [emitItems_single, emitItems_single, alike]

end Items

/-! ### Inside a tree -/

/-- Branches at the same places are drawn from alike. -/
private theorem emitBranch_alike {cap : UInt32} {p q : Pattern} (alike : DrawsAlike p q)
    (before behind : List Pattern) (i : Nat) (bound : Bindings) (source : Source) :
    emitBranch cap (before ++ p :: behind) i bound source =
      emitBranch cap (before ++ q :: behind) i bound source := by
  induction before generalizing i with
  | nil =>
    cases i with
    | zero => exact alike cap bound source
    | succ i => rfl
  | cons branch before ih =>
    cases i with
    | zero => rfl
    | succ i => exact ih i

/-- Trees that draw alike do so inside a further node. -/
theorem DrawsAlike.around {p q : Pattern} (alike : DrawsAlike p q) (frame : Frame) :
    DrawsAlike (frame.around p) (frame.around q) := by
  cases frame with
  | sequence before behind =>
    exact ((ItemsDrawAlike.refl before).append (alike.single.append (.refl behind))).sequence
  | alternation before behind =>
    intro cap bound source
    have branches : ∀ r, (before ++ r :: behind).isEmpty = false := by simp
    simp only [Frame.around, emitFrom, branches, List.length_append, List.length_cons, emitBranch_alike alike]
  | repetition bounds =>
    intro cap bound source
    simp only [Frame.around, emitFrom, alike cap]
  | group index name =>
    intro cap bound source
    simp only [Frame.around, emitFrom, alike cap]

/-- Trees that draw alike do so inside every tree. -/
theorem DrawsAlike.framed {p q : Pattern} (alike : DrawsAlike p q) (frames : List Frame) :
    DrawsAlike (framed frames p) (framed frames q) := by
  induction frames generalizing p q with
  | nil => exact alike
  | cons frame rest ih => exact ih (alike.around frame)

/-! ### Items put together -/

/-- A sequence is drawn from like its items in its place. -/
theorem alike_spliced (p : Pattern) : ItemsDrawAlike [p] p.spliced := by
  cases p with
  | sequence items =>
    intro cap before bound source
    rw [emitItems_single, emitFrom, ← emitItems_behind, String.append_empty]
    rfl
  | literal _ | oneOf _ | anchor _ | alternation _ | repetition _ _ | group _ _ _ | backreference _ =>
    exact .refl _

theorem alike_flatMap_spliced (items : List Pattern) : ItemsDrawAlike items (items.flatMap spliced) := by
  induction items with
  | nil => exact .refl _
  | cons item rest ih =>
    rw [List.flatMap_cons]
    exact (alike_spliced item).append ih

/-- Two literals in a row are drawn from like the literal of both texts. -/
theorem alike_joined (text text' : String) :
    ItemsDrawAlike [literal text, literal text'] [literal (text ++ text')] := by
  intro cap before bound source
  simp only [emitItems, emitFrom, String.append_assoc]

theorem alike_pushMerging (latestFirst : List Pattern) (item : Pattern) :
    ItemsDrawAlike (latestFirst.reverse ++ [item]) (pushMerging latestFirst item).reverse := by
  unfold pushMerging
  split
  · rename_i text rest text'
    rw [List.reverse_cons, List.append_assoc, List.reverse_cons]
    exact (ItemsDrawAlike.refl rest.reverse).append (alike_joined text text')
  · rw [List.reverse_cons]
    exact .refl _

/-- Merging literals along a list changes nothing, whatever was put together before. -/
theorem alike_foldl (items latestFirst : List Pattern) :
    ItemsDrawAlike (latestFirst.reverse ++ items) (items.foldl pushMerging latestFirst).reverse := by
  induction items generalizing latestFirst with
  | nil =>
    rw [List.append_nil]
    exact .refl _
  | cons item rest ih =>
    rw [List.append_cons]
    exact ((alike_pushMerging latestFirst item).append (.refl rest)).trans (ih _)

theorem alike_concat (items : List Pattern) : DrawsAlike (sequence items) (concat items) := by
  have flat : ItemsDrawAlike items (flattened items).reverse :=
    (alike_flatMap_spliced items).trans (alike_foldl (items.flatMap spliced) [])
  intro cap bound source
  rw [flat.sequence cap bound source]
  unfold concat
  split
  · rename_i item same
    rw [same, List.reverse_singleton, emitFrom, emitItems_single]
    cases emitFrom cap item bound source with
    | mk drawn after =>
      cases drawn with
      | ok given => simp only [putBehind, String.empty_append]
      | error failure => rfl
  · rfl

/-- **Putting items together changes nothing that is drawn.** Wherever in a tree they stand, items put together
and the plain sequence of them make the same of every source: the same text with the same bindings behind it or
the same failure, and the source is left at the same place. -/
theorem emit_concat_framed (frames : List Frame) (items : List Pattern) (cap : UInt32) :
    (∀ bound source, emitFrom cap (framed frames (concat items)) bound source =
        emitFrom cap (framed frames (sequence items)) bound source) ∧
      ∀ source, (framed frames (concat items)).emit cap source =
        (framed frames (sequence items)).emit cap source := by
  have alike := (alike_concat items).framed frames
  have same : ∀ bound source, emitFrom cap (framed frames (concat items)) bound source =
      emitFrom cap (framed frames (sequence items)) bound source :=
    fun bound source => (alike cap bound source).symm
  refine ⟨same, fun source => ?_⟩
  rw [emit, emit, same]

end PatternForge.Pattern
