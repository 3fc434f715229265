import PatternForge.Proofs.Emission.Exchange
import PatternForge.Proofs.Pattern.Nodes
import PatternForge.Reading.Parser

/-!
A tree with another character in one of its literals. Literals that meet are merged and sequences are
spliced in, so a literal does not stay where it was read; but wherever it goes, the character stands in one
literal of the tree, and another character in its place stands there too (`Pattern.Respelled`). Putting
parts together keeps this (`Respelled.concat`, `RespelledLevel.ofLevel`).
-/
namespace PatternForge

/-- Two lists are alike but for one place. -/
inductive AtOnePlace {α : Type} (differs : α → α → Prop) : List α → List α → Prop
  | here {a a' : α} {rest : List α} : differs a a' → AtOnePlace differs (a :: rest) (a' :: rest)
  | later {a : α} {rest rest' : List α} :
    AtOnePlace differs rest rest' → AtOnePlace differs (a :: rest) (a :: rest')

namespace AtOnePlace

variable {α : Type} {differs : α → α → Prop} {l l' : List α}

theorem append_left (alike : AtOnePlace differs l l') (front : List α) :
    AtOnePlace differs (front ++ l) (front ++ l') := by
  induction front with
  | nil => exact alike
  | cons a front ih => exact .later ih

theorem append_right (alike : AtOnePlace differs l l') (behind : List α) :
    AtOnePlace differs (l ++ behind) (l' ++ behind) := by
  induction alike with
  | here differ => exact .here differ
  | later _ ih => exact .later ih

theorem reverse (alike : AtOnePlace differs l l') : AtOnePlace differs l.reverse l'.reverse := by
  induction alike with
  | here differ =>
    rw [List.reverse_cons, List.reverse_cons]
    exact (AtOnePlace.here differ).append_left _
  | later _ ih =>
    rw [List.reverse_cons, List.reverse_cons]
    exact ih.append_right _

theorem length_eq (alike : AtOnePlace differs l l') : l.length = l'.length := by
  induction alike with
  | here _ => rfl
  | later _ ih => rw [List.length_cons, List.length_cons, ih]

theorem exists_append (alike : AtOnePlace differs l l') :
    ∃ before a a' behind, l = before ++ a :: behind ∧ l' = before ++ a' :: behind ∧ differs a a' := by
  induction alike with
  | @here a a' rest differ => exact ⟨[], a, a', rest, rfl, rfl, differ⟩
  | @later a _ _ _ ih =>
    obtain ⟨before, b, b', behind, rfl, rfl, differ⟩ := ih
    exact ⟨a :: before, b, b', behind, rfl, rfl, differ⟩

end AtOnePlace

namespace Pattern

/-- One character of one literal is another. -/
inductive Respelled (c d : Char) : Pattern → Pattern → Prop
  | literal (front behind : List Char) :
    Respelled c d (.literal (.ofList (front ++ c :: behind))) (.literal (.ofList (front ++ d :: behind)))
  | around {p p' : Pattern} (frame : Frame) :
    Respelled c d p p' → Respelled c d (frame.around p) (frame.around p')

variable {c d : Char} {p p' : Pattern} {items items' branches branches' : List Pattern}

/-- What stands around the character and the other one. -/
theorem Respelled.exists_framed (respelled : Respelled c d p p') : ∃ frames front behind,
    p = framed frames (.literal (.ofList (front ++ c :: behind))) ∧
      p' = framed frames (.literal (.ofList (front ++ d :: behind))) := by
  induction respelled with
  | literal front behind => exact ⟨[], front, behind, rfl, rfl⟩
  | around frame _ ih =>
    obtain ⟨frames, front, behind, rfl, rfl⟩ := ih
    exact ⟨frames ++ [frame], front, behind, by simp [framed], by simp [framed]⟩

theorem Respelled.deepestWithin (respelled : Respelled c d p p') {limit depth : Nat}
    (within : p.DeepestWithin limit depth) : p'.DeepestWithin limit depth := by
  induction respelled generalizing depth with
  | literal => exact deepestWithin_iff.mpr ⟨within.here, by simp [children]⟩
  | @around p p' frame _ ih =>
    refine deepestWithin_iff.mpr ⟨within.here, fun child member => ?_⟩
    have inside : p ∈ (frame.around p).children := by cases frame <;> simp [Frame.around, children]
    have other : child = p' ∨ child ∈ (frame.around p).children := by
      cases frame <;> simp [Frame.around, children] at member ⊢ <;> grind
    rcases other with rfl | other
    · exact ih (within.below inside)
    · exact within.below other

/-! ### Merging -/

private theorem Respelled.spliced (respelled : Respelled c d p p') :
    AtOnePlace (Respelled c d) p.spliced p'.spliced := by
  cases respelled with
  | literal front behind => exact .here (.literal front behind)
  | around frame respelled =>
    cases frame with
    | sequence before behind => exact (AtOnePlace.here respelled).append_left before
    | alternation before behind => exact .here (.around (.alternation before behind) respelled)
    | repetition bounds => exact .here (.around (.repetition bounds) respelled)
    | group index name => exact .here (.around (.group index name) respelled)

private theorem pushMerging_of_not_literal {item : Pattern} (other : ∀ text, item ≠ .literal text)
    (items : List Pattern) : pushMerging items item = item :: items := by
  unfold pushMerging
  split
  · exact absurd rfl (other _)
  · rfl

private theorem pushMerging_onto {first : Pattern} (other : ∀ text, first ≠ .literal text) (rest : List Pattern)
    (item : Pattern) : pushMerging (first :: rest) item = item :: first :: rest := by
  cases first with
  | literal text => exact absurd rfl (other text)
  | _ => rfl

private theorem around_ne_literal (frame : Frame) (p : Pattern) (text : String) :
    frame.around p ≠ .literal text := by
  cases frame <;> nofun

private theorem respelled_front (text : String) (front behind : List Char) :
    Respelled c d (.literal (text ++ .ofList (front ++ c :: behind)))
      (.literal (text ++ .ofList (front ++ d :: behind))) := by
  have joined (e : Char) :
      text ++ .ofList (front ++ e :: behind) = .ofList (text.toList ++ front ++ e :: behind) := by
    rw [← String.toList_inj]
    simp
  rw [joined, joined]
  exact .literal _ _

private theorem respelled_behind (text : String) (front behind : List Char) :
    Respelled c d (.literal (.ofList (front ++ c :: behind) ++ text))
      (.literal (.ofList (front ++ d :: behind) ++ text)) := by
  have joined (e : Char) :
      .ofList (front ++ e :: behind) ++ text = .ofList (front ++ e :: (behind ++ text.toList)) := by
    rw [← String.toList_inj]
    simp
  rw [joined, joined]
  exact .literal _ _

private theorem respelled_last (respelled : Respelled c d p p') (items : List Pattern) :
    AtOnePlace (Respelled c d) (pushMerging items p) (pushMerging items p') := by
  cases respelled with
  | literal front behind =>
    cases items with
    | nil => exact .here (.literal front behind)
    | cons first rest =>
      cases first with
      | literal text => exact .here (respelled_front text front behind)
      | _ => exact .here (.literal front behind)
  | around frame respelled =>
    rw [pushMerging_of_not_literal (around_ne_literal frame _),
      pushMerging_of_not_literal (around_ne_literal frame _)]
    exact .here (.around frame respelled)

private theorem respelled_onto (alike : AtOnePlace (Respelled c d) items items') (item : Pattern) :
    AtOnePlace (Respelled c d) (pushMerging items item) (pushMerging items' item) := by
  cases alike with
  | here respelled =>
    cases respelled with
    | literal front behind =>
      cases item with
      | literal text => exact .here (respelled_behind text front behind)
      | _ => exact .later (.here (.literal front behind))
    | around frame respelled =>
      rw [pushMerging_onto (around_ne_literal frame _), pushMerging_onto (around_ne_literal frame _)]
      exact .later (.here (.around frame respelled))
  | @later first _ _ alike =>
    cases first with
    | literal before =>
      cases item with
      | literal text => exact .later alike
      | _ => exact .later (.later alike)
    | _ => exact .later (.later alike)

private theorem foldl_onto (alike : AtOnePlace (Respelled c d) items items') (more : List Pattern) :
    AtOnePlace (Respelled c d) (more.foldl pushMerging items) (more.foldl pushMerging items') := by
  induction more generalizing items items' with
  | nil => exact alike
  | cons item more ih => exact ih (respelled_onto alike item)

private theorem foldl_respelled (alike : AtOnePlace (Respelled c d) items items') (latestFirst : List Pattern) :
    AtOnePlace (Respelled c d) (items.foldl pushMerging latestFirst) (items'.foldl pushMerging latestFirst) := by
  induction alike generalizing latestFirst with
  | @here p p' rest respelled => exact foldl_onto (respelled_last respelled latestFirst) rest
  | later _ ih => exact ih _

private theorem flatMap_respelled (alike : AtOnePlace (Respelled c d) items items') :
    AtOnePlace (Respelled c d) (items.flatMap spliced) (items'.flatMap spliced) := by
  induction alike with
  | here respelled =>
    rw [List.flatMap_cons, List.flatMap_cons]
    exact respelled.spliced.append_right _
  | later _ ih =>
    rw [List.flatMap_cons, List.flatMap_cons]
    exact ih.append_left _

theorem Respelled.sequence (alike : AtOnePlace (Respelled c d) items items') :
    Respelled c d (.sequence items) (.sequence items') := by
  obtain ⟨before, p, p', behind, rfl, rfl, respelled⟩ := alike.exists_append
  exact .around (.sequence before behind) respelled

theorem Respelled.alternation (alike : AtOnePlace (Respelled c d) branches branches') :
    Respelled c d (.alternation branches) (.alternation branches') := by
  obtain ⟨before, p, p', behind, rfl, rfl, respelled⟩ := alike.exists_append
  exact .around (.alternation before behind) respelled

/-- **Items put together** hold the character, or the other one, at one place. -/
theorem Respelled.concat (alike : AtOnePlace (Respelled c d) items items') :
    Respelled c d (Pattern.concat items) (Pattern.concat items') := by
  have parts : AtOnePlace (Respelled c d) (flattened items) (flattened items') :=
    foldl_respelled (flatMap_respelled alike) []
  unfold Pattern.concat
  generalize flattened items = latestFirst, flattened items' = latestFirst' at parts
  have several := Respelled.sequence parts.reverse
  cases parts with
  | @here _ _ rest respelled =>
    cases rest with
    | nil => exact respelled
    | cons => exact several
  | later alike => cases alike <;> exact several

/-- The same of branches. -/
theorem Respelled.choice (alike : AtOnePlace (Respelled c d) branches branches') :
    Respelled c d (Pattern.choice branches) (Pattern.choice branches') := by
  have several := Respelled.alternation alike
  cases alike with
  | @here _ _ rest respelled =>
    cases rest with
    | nil => exact respelled
    | cons => exact several
  | later alike => cases alike <;> exact several

/-! ### Levels -/

/-- The branches and the items of a level, with the character or the other one at one place. -/
inductive RespelledLevel (c d : Char) : List Pattern → List Pattern → List Pattern → List Pattern → Prop
  | branches {branches branches' : List Pattern} (items : List Pattern) :
    AtOnePlace (Respelled c d) branches branches' → RespelledLevel c d branches items branches' items
  | items {items items' : List Pattern} (branches : List Pattern) :
    AtOnePlace (Respelled c d) items items' → RespelledLevel c d branches items branches items'

/-- The current branch is finished. -/
theorem RespelledLevel.next (respelled : RespelledLevel c d branches items branches' items') :
    AtOnePlace (Respelled c d) (Pattern.concat items.reverse :: branches)
      (Pattern.concat items'.reverse :: branches') := by
  cases respelled with
  | branches items alike => exact .later alike
  | items branches alike => exact .here (.concat alike.reverse)

theorem RespelledLevel.ofLevel (respelled : RespelledLevel c d branches items branches' items') :
    Respelled c d (Pattern.ofLevel branches items) (Pattern.ofLevel branches' items') :=
  .choice respelled.next.reverse

theorem RespelledLevel.push (respelled : RespelledLevel c d branches items branches' items') (item : Pattern) :
    RespelledLevel c d branches (item :: items) branches' (item :: items') := by
  cases respelled with
  | branches items alike => exact .branches _ alike
  | items branches alike => exact .items _ (.later alike)

/-- The last item is repeated. -/
theorem RespelledLevel.repeated {item : Pattern}
    (respelled : RespelledLevel c d branches (item :: items) branches' items') :
    ∃ item' rest, items' = item' :: rest ∧ ∀ bounds,
      RespelledLevel c d branches (.repetition bounds item :: items) branches'
        (.repetition bounds item' :: rest) := by
  cases respelled with
  | branches items alike => exact ⟨_, _, rfl, fun bounds => .branches _ alike⟩
  | items branches alike =>
    cases alike with
    | here respelled => exact ⟨_, _, rfl, fun bounds => .items _ (.here (.around (.repetition bounds) respelled))⟩
    | later alike => exact ⟨_, _, rfl, fun bounds => .items _ (.later alike)⟩

end Pattern

end PatternForge
