import PatternForge.Proofs.Pattern.Normalised
import PatternForge.Proofs.Reading.TreeFacts

/-!
Items that come to the same. A printed literal is read character by character and a printed sequence
item by item, and the pieces are put together again when their level ends. `SameItems` says that two
lists of items cannot be told apart by then; a normalised tree is what its own pieces come to
(`concat_normalised`).
-/
namespace PatternForge.Pattern

@[simp] theorem isSequence_normalised (p : Pattern) : p.normalised.isSequence = p.isSequence := by
  cases p <;> rfl

@[simp] theorem isLiteral_normalised (p : Pattern) : p.normalised.isLiteral = p.isLiteral := by
  cases p <;> rfl

/-- Only sequences are spliced. -/
theorem flatMap_spliced {items : List Pattern}
    (flat : ∀ item ∈ items, item.isSequence = false) : items.flatMap spliced = items := by
  induction items with
  | nil => rfl
  | cons item rest ih =>
    have others := ih fun other member => flat other (List.mem_cons_of_mem _ member)
    have single : item.spliced = [item] := by
      have notSequence := flat item List.mem_cons_self
      cases item <;> first | rfl | cases notSequence
    rw [List.flatMap_cons, single, others, List.singleton_append]

/-- Two lists of items that come to the same behind any others. -/
def SameItems (items items' : List Pattern) : Prop :=
  ∀ latestFirst, (items.flatMap spliced).foldl pushMerging latestFirst =
    (items'.flatMap spliced).foldl pushMerging latestFirst

theorem SameItems.refl (items : List Pattern) : SameItems items items := fun _ => rfl

theorem SameItems.trans {first second third : List Pattern} (same : SameItems first second)
    (same' : SameItems second third) : SameItems first third :=
  fun latestFirst => (same latestFirst).trans (same' latestFirst)

theorem SameItems.append {items items' others others' : List Pattern} (same : SameItems items items')
    (same' : SameItems others others') : SameItems (items ++ others) (items' ++ others') := by
  intro latestFirst
  rw [List.flatMap_append, List.flatMap_append, List.foldl_append, List.foldl_append,
    same latestFirst, same' _]

theorem SameItems.concat {items items' : List Pattern} (same : SameItems items items') :
    Pattern.concat items = Pattern.concat items' := by
  unfold Pattern.concat flattened
  rw [same []]

private theorem fold_characters (chars : List Char) (before : String) (rest : List Pattern) :
    (chars.map fun c => literal c.toString).foldl pushMerging (literal before :: rest) =
      literal (before ++ String.ofList chars) :: rest := by
  induction chars generalizing before with
  | nil => simp
  | cons c chars ih =>
    rw [List.map_cons, List.foldl_cons, pushMerging, ih]
    congr 2
    apply String.toList_inj.mp
    simp [Char.toString]

/-- A literal is its characters. -/
theorem sameItems_literal {text : String} (some : text ≠ "") :
    SameItems (text.toList.map fun c => literal c.toString) [literal text] := by
  intro latestFirst
  rw [flatMap_spliced (by simp [isSequence]), flatMap_spliced (by simp [isSequence])]
  obtain ⟨c, chars, form⟩ := List.exists_cons_of_ne_nil (mt String.toList_eq_nil_iff.mp some)
  have whole : c.toString ++ String.ofList chars = text := by
    apply String.toList_inj.mp
    simp [Char.toString, form]
  rw [form, List.map_cons, List.foldl_cons, List.foldl_cons, List.foldl_nil]
  cases latestFirst with
  | nil => simp only [pushMerging, fold_characters, whole]
  | cons first rest =>
    cases first with
    | literal before =>
      rw [pushMerging, pushMerging, fold_characters, String.append_assoc, whole]
    | _ => simp only [pushMerging, fold_characters, whole]

/-- A sequence is its items. -/
theorem sameItems_sequence {items : List Pattern} (flat : ∀ item ∈ items, item.isSequence = false) :
    SameItems items [sequence items] := by
  intro latestFirst
  rw [flatMap_spliced flat, List.flatMap_cons, spliced, List.flatMap_nil, List.append_nil]

/-- Literals that are apart stay apart. -/
theorem fold_unmerged {items latestFirst : List Pattern} (unmerged : Unmerged items)
    (apart : ¬((∃ first ∈ items.head?, first.isLiteral = true) ∧
      ∃ before ∈ latestFirst.head?, before.isLiteral = true)) :
    items.foldl pushMerging latestFirst = items.reverse ++ latestFirst := by
  induction items generalizing latestFirst with
  | nil => rfl
  | cons item rest ih =>
    obtain ⟨others, apart'⟩ := unmerged_cons.mp unmerged
    have pushed : pushMerging latestFirst item = item :: latestFirst := by
      unfold pushMerging
      split
      · exact absurd ⟨⟨_, rfl, rfl⟩, _, rfl, rfl⟩ apart
      · rfl
    rw [List.foldl_cons, pushed, ih others]
    · simp
    · rintro ⟨next, item', isItem, isLiteral'⟩
      cases isItem
      exact apart' ⟨isLiteral', next⟩

theorem concat_sequence {items : List Pattern} (several : items.length ≠ 1) (unmerged : Unmerged items) :
    concat [sequence items] = sequence items := by
  have fold : flattened [sequence items] = items.reverse := by
    rw [flattened, List.flatMap_cons, spliced, List.flatMap_nil, List.append_nil,
      fold_unmerged unmerged (by simp), List.append_nil]
  rw [concat, fold]
  split
  · rename_i item single
    have one := congrArg List.length single
    simp only [List.length_reverse, List.length_singleton] at one
    exact absurd one several
  · rw [List.reverse_reverse]

/-- A tree that was read is what it comes to on its own. -/
theorem concat_alone {s : Settings} {p : Pattern} (isRead : p.IsRead s) : concat [p] = p := by
  cases p with
  | sequence items =>
    obtain ⟨several, -, unmerged⟩ := isRead
    exact concat_sequence several unmerged
  | literal _ | oneOf _ | anchor _ | alternation _ | repetition _ _ | group _ _ _ | backreference _ =>
    rfl

/-- The same when it is normalised. -/
theorem concat_normalised {s : Settings} {p : Pattern} (isRead : p.IsRead s) :
    concat [p.normalised] = p.normalised := by
  cases p with
  | sequence items =>
    obtain ⟨several, -, unmerged⟩ := isRead
    rw [normalised_sequence]
    exact concat_sequence (by rwa [List.length_map]) (unmerged.map isLiteral_normalised)
  | literal _ | oneOf _ | anchor _ | alternation _ | repetition _ _ | group _ _ _ | backreference _ =>
    rfl

end PatternForge.Pattern
