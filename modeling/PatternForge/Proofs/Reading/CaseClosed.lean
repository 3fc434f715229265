import PatternForge.Proofs.CharSet.Order
import PatternForge.Proofs.Parentheses.Runs
import PatternForge.Proofs.Reading.ClassDenotation
import PatternForge.Proofs.Reading.Steps
import PatternForge.Proofs.Reading.TreeFacts
import PatternForge.Proofs.Replacing.Literals

/-!
Trees where case is ignored. A class then allows a character with all the cases that it has in the universe,
and a character of a literal has none but itself there (`Pattern.CaseClosed`). Each construct widens what it
names and cuts it to the universe, in one order or the other, and each may be negated behind that: all this
keeps the cases together, because having the same letters but for case is an equivalence
(`Pattern.caseClosed_of_allows`). A pattern is read so throughout if the flag is on at the start and nothing
in the text turns it off (`Settings.caseClosed_of_parse`).
-/
namespace PatternForge

open ClassSet (Allows Widens)
open Escape (Context)

/-- What a class allows, and what a literal may hold, where case is ignored. -/
def Pattern.CaseClosed (s : Settings) : Pattern → Prop
  | oneOf cls => ∀ c, cls.effective.contains c = true →
      ∀ d ∈ s.data.variants c, s.domain.contains d = true → cls.effective.contains d = true
  | literal text => ∀ c ∈ text.toList, s.domain.contains c = true →
      ∀ d ∈ s.data.variants c, s.domain.contains d = true → d = c
  | anchor _ | sequence _ | alternation _ | repetition _ _ | group _ _ _ | backreference _ => True

namespace Pattern

theorem gathers_caseClosed (s : Settings) : Gathers (CaseClosed s) where
  joined := by
    intro text text' first second c member
    rw [String.toList_append] at member
    exact (List.mem_append.mp member).elim (first c) (second c)
  inner := by
    intro p notLeaf
    cases p with
    | literal | oneOf | anchor | backreference => cases notLeaf
    | sequence | alternation | repetition | group => exact trivial

variable {ctx : Context} {negated : Bool}

/-- A class is closed if what is listed in it does not tell cases apart, whether or not it is negated. -/
theorem caseClosed_of_allows {cls : CharClass} (listed : Char → Prop)
    (alike : ∀ c, ∀ d ∈ ctx.settings.data.variants c, (listed c ↔ listed d))
    (allows : ∀ c, cls.effective.contains c = true ↔ Allows ctx negated (listed c) c) :
    (oneOf cls).CaseClosed ctx.settings := by
  intro c allowed d variant within
  apply (allows d).mpr
  unfold Allows
  rw [← alike c d variant]
  exact ⟨within, ((allows c).mp allowed).2⟩

/-- The same of a class by the members of its set. -/
theorem caseClosed_of_members {set : CharSet} (listed : Char → Prop) (domain : set.domain = ctx.settings.domain)
    (alike : ∀ c, ∀ d ∈ ctx.settings.data.variants c, (listed c ↔ listed d))
    (members : ∀ c, set.contains c = true ↔ ctx.settings.domain.contains c = true ∧ listed c) :
    (oneOf (.of set negated)).CaseClosed ctx.settings := by
  refine @caseClosed_of_allows ctx negated _ listed alike fun c => ?_
  rw [CharClass.contains_of, domain, Bool.and_eq_true]
  refine and_congr_right fun within => ?_
  have member : set.contains c = true ↔ listed c := by rw [members c, within, and_iff_right rfl]
  cases negated with
  | true => rw [if_pos rfl, ← member, Bool.true_xor, Bool.not_eq_true', Bool.not_eq_true]
  | false => rw [if_neg Bool.false_ne_true, ← member, Bool.false_xor]

end Pattern

/-! ### Leaves -/

namespace Escape.Context

variable {ctx : Context}

/-- The context of a place where case is ignored. -/
structure IgnoresCase (ctx : Context) : Prop where
  folds : ctx.settings.data.FoldsCase
  ignoring : ctx.flags.ignoreCase = true

namespace IgnoresCase

/-- Two characters have the same variants if one is a variant of the other. -/
theorem mem_variants_iff (ignores : ctx.IgnoresCase) {c d : Char} (variant : d ∈ ctx.settings.data.variants c)
    (e : Char) : e ∈ ctx.settings.data.variants c ↔ e ∈ ctx.settings.data.variants d :=
  ⟨ignores.folds.variants.trans (ignores.folds.variants.symm variant), ignores.folds.variants.trans variant⟩

/-- Widening does not tell cases apart. -/
theorem widens_iff (ignores : ctx.IgnoresCase) (names : Char → Prop) {c d : Char}
    (variant : d ∈ ctx.settings.data.variants c) : Widens ctx names c ↔ Widens ctx names d := by
  unfold Widens
  rw [if_pos ignores.ignoring, if_pos ignores.ignoring]
  simp only [ignores.mem_variants_iff variant]

/-- A character stands for all its cases, or it has only one in the universe. -/
theorem caseClosed_charPattern (ignores : ctx.IgnoresCase) (c : Char) :
    (ctx.settings.charPattern ctx.flags c).Every (Pattern.CaseClosed ctx.settings) := by
  unfold Settings.charPattern
  rw [if_pos ignores.ignoring]
  dsimp only
  split
  · refine Pattern.every_leaf rfl (Pattern.caseClosed_of_members
      (· ∈ ctx.settings.data.variants c) (ctx.settings.domain_setOf _) (fun e d variant => ?_)
      (ctx.settings.contains_setOf _))
    constructor
    · exact fun inside => ignores.folds.variants.trans inside variant
    · exact fun inside => ignores.folds.variants.trans inside (ignores.folds.variants.symm variant)
  · rename_i single
    refine Pattern.every_literal.mpr fun e member within d variant within' => ?_
    obtain rfl : e = c := by simpa using member
    refine CharSet.eq_of_size_le_one (Nat.le_of_not_lt single) ?_ ?_
    · exact (ctx.settings.contains_setOf _ d).mpr ⟨within', variant⟩
    · exact (ctx.settings.contains_setOf _ e).mpr ⟨within, ignores.folds.variants.refl e⟩

theorem caseClosed_escape (ignores : ctx.IgnoresCase) {start here after : Cursor} {leaf : Pattern}
    (read : Escape.read ctx start here = .ok (leaf, after)) :
    leaf.Every (Pattern.CaseClosed ctx.settings) := by
  cases ClassSet.reads_of_escape read with
  | character => exact ignores.caseClosed_charPattern _
  | @named holds negated _ spelled =>
    refine Pattern.every_leaf rfl (Pattern.caseClosed_of_members (holds · = true) rfl
      (fun c d variant => ?_) fun c => ?_)
    · rw [ClassSet.named_folds ignores.folds spelled ignores.ignoring variant]
    · rw [CharSet.contains_ofPredicate, Bool.and_eq_true]
  | anchor => exact Pattern.every_leaf rfl trivial
  | reference => exact Pattern.every_leaf rfl trivial

theorem caseClosed_bracketed (ignores : ctx.IgnoresCase) {start after : Cursor} {leaf : Pattern}
    (read : ClassSet.read ctx start = .ok (leaf, after)) :
    leaf.Every (Pattern.CaseClosed ctx.settings) := by
  obtain ⟨negated, items, -, resolved, built⟩ := ClassSet.spells_of_read read
  obtain ⟨cls, rfl, allows⟩ := ClassSet.contains_build (fun item member => by
    obtain ⟨one, isOne, rfl⟩ := List.mem_map.mp member
    exact (resolved one isOne).ordered) built
  refine Pattern.every_leaf rfl (Pattern.caseClosed_of_allows _ (fun c d variant => ?_) allows)
  refine exists_congr fun item => and_congr_right fun _ => ?_
  exact ignores.widens_iff item.Has variant

/-- The dot tells only the line feed from other characters, which has one case. -/
theorem caseClosed_dot (ignores : ctx.IgnoresCase) (lone : ∀ d ∈ ctx.settings.data.variants '\n', d = '\n')
    (flags : Flags) : (ctx.settings.dotPattern flags).Every (Pattern.CaseClosed ctx.settings) := by
  refine Pattern.every_leaf rfl ?_
  unfold Settings.dotPattern
  by_cases all : flags.dotNewLine = true
  · rw [if_pos all]
    refine Pattern.caseClosed_of_members (fun _ => False) rfl (fun c d variant => Iff.rfl) fun c => ?_
    simp
  · rw [if_neg all]
    refine Pattern.caseClosed_of_members (· = '\n') (ctx.settings.domain_setOf _)
      (fun c d variant => ?_) fun c => ?_
    · constructor
      · rintro rfl
        exact lone d variant
      · rintro rfl
        exact lone c (ignores.folds.variants.symm variant)
    · rw [Settings.contains_setOf, List.mem_singleton]

end IgnoresCase

end Escape.Context

/-! ### Runs -/

namespace Parser

open Parenthesis (scan)

variable {s : Settings} {st st' : State} {c : Char} {rest : List Char}

/-- Case is ignored here, in all groups around, and nothing ahead turns this off. -/
structure State.IgnoresCase (st : State) : Prop where
  here : st.flags.ignoreCase = true
  around : ∀ opened ∈ st.enclosing, opened.outer.ignoreCase = true
  ahead : ∀ sign ∈ scan st.here.rest, ¬sign.MindsCase

/-- Each step keeps case ignored: flags change at parentheses only, and come back where a group closes. -/
theorem State.IgnoresCase.step (ignores : st.IgnoresCase) (punctuated : s.data.Punctuated)
    (next : st.here.rest = c :: rest) (stepped : step s st c = .ok st') : st'.IgnoresCase := by
  obtain ⟨here, around, ahead⟩ := ignores
  cases crosses_of_step punctuated next stepped with
  | nothing signs level flags => exact ⟨flags ▸ here, level ▸ around, signs ▸ ahead⟩
  | opening isOpening signs level outer accords =>
    rw [signs] at ahead
    obtain ⟨first, others⟩ := List.forall_mem_cons.mp ahead
    refine ⟨accords here first, ?_, others⟩
    rw [level]
    exact List.forall_mem_cons.mpr ⟨outer ▸ here, around⟩
  | setting signs level accords =>
    rw [signs] at ahead
    obtain ⟨first, others⟩ := List.forall_mem_cons.mp ahead
    exact ⟨accords here first, level ▸ around, others⟩
  | closing signs level flags =>
    rw [signs] at ahead
    rw [level] at around
    obtain ⟨inner, outer⟩ := List.forall_mem_cons.mp around
    exact ⟨flags ▸ inner, outer, (List.forall_mem_cons.mp ahead).2⟩

private theorem caseClosed_of_leaf (folds : s.data.FoldsCase) (lone : ∀ d ∈ s.data.variants '\n', d = '\n')
    (ignores : st.IgnoresCase) {leaf : Pattern} {after : Cursor} (read : ReadsLeaf s st c leaf after) :
    leaf.Every (Pattern.CaseClosed s) := by
  have context : (st.context s).IgnoresCase := ⟨folds, ignores.here⟩
  cases read with
  | bracketed read => exact context.caseClosed_bracketed read
  | escape read => exact context.caseClosed_escape read
  | dot => exact context.caseClosed_dot lone st.flags
  | anchor => exact Pattern.every_leaf rfl trivial
  | char => exact context.caseClosed_charPattern c

end Parser

/-- Seven-bit characters are told apart by their punctuation as others are. -/
theorem ClassSet.punctuated_sevenBit : ClassSet.sevenBit.Punctuated :=
  CharacterData.punctuated_of_marks (by decide) (by decide)

namespace Settings

open Parenthesis (scan)
open PatternForge.Parser (State)

variable {s : Settings} {pattern : String} {tree : Pattern}

/-- **Trees are closed under case where case is ignored.** If the flag for case is on at the start and no
parenthesis of the pattern turns it off, every class of the tree allows with a character all the cases that
it has in the universe, and no character of a literal has another one there. Of the case tables this needs
that variants are an equivalence which named classes respect, and that the line feed has none but itself. -/
theorem caseClosed_of_parse (folds : s.data.FoldsCase) (lone : ∀ d ∈ s.data.variants '\n', d = '\n')
    (punctuated : s.data.Punctuated) (ignoring : s.flags.ignoreCase = true)
    (keeps : ∀ sign ∈ scan pattern.toList, ¬sign.MindsCase) (parsed : s.parse pattern = .ok tree) :
    tree.Every (Pattern.CaseClosed s) := by
  have ignores : (State.initial s pattern.toList).IgnoresCase := ⟨ignoring, nofun, keeps⟩
  refine Parser.every_of_parse (Pattern.gathers_caseClosed s) ?_ ?_ ignores parsed
  · exact fun _ _ _ _ ignores => ignores.step punctuated
  · exact fun _ _ _ _ ignores => Parser.caseClosed_of_leaf folds lone ignores

/-- A class and a group of letters, read where case is ignored. -/
theorem caseClosed_of_parse_letters :
    ∃ tree, (letters true).parse "[^b-d](k)" = .ok tree ∧ tree.Every (Pattern.CaseClosed (letters true)) := by
  obtain ⟨cls, built⟩ : ∃ cls, ClassSet.build
      ((State.initial (letters true) []).context (letters true)) ⟨0, "[^b-d](k)".toList⟩ ⟨6, "(k)".toList⟩ true
        [.range 'b' 'd'] = .ok (.oneOf cls) := ⟨_, rfl⟩
  have isClass : ClassSet.read ((State.initial (letters true) []).context (letters true))
      ⟨0, "[^b-d](k)".toList⟩ = .ok (.oneOf cls, ⟨6, "(k)".toList⟩) :=
    ClassSet.read_eq_ok.mpr ⟨[], [.range 'b' 'd'], ⟨5, "](k)".toList⟩, "(k)".toList,
      ⟨_, rfl, .cons (.item rfl ⟨by decide, by decide⟩ (by decide) rfl) (.nil _)⟩, rfl, built, rfl⟩
  have stepped : Parser.step (letters true) (.initial (letters true) "[^b-d](k)".toList) '[' =
      .ok ((State.initial (letters true) "[^b-d](k)".toList).push (.oneOf cls) ⟨6, "(k)".toList⟩) :=
    congrArg (State.initial (letters true) "[^b-d](k)".toList).pushRead isClass
  have parsed : ∃ tree, (letters true).parse "[^b-d](k)" = .ok tree := by
    refine ⟨_, parse_eq_ok.mpr ⟨_, (Parser.run_of_step rfl stepped).trans
      ((Parser.run_of_step rfl rfl).trans ((Parser.run_of_step rfl rfl).trans
        ((Parser.run_of_step rfl rfl).trans (Parser.run_of_end rfl)))), rfl, rfl, ?_⟩⟩
    rw [← Pattern.nestedWithin_iff]
    rfl
  have lone : ClassSet.sevenBit.variants '\n' = ['\n'] := by rfl
  obtain ⟨tree, parsed⟩ := parsed
  exact ⟨tree, parsed, caseClosed_of_parse ClassSet.sevenBit_foldsCase
    (fun d variant => List.mem_singleton.mp (lone ▸ variant)) ClassSet.punctuated_sevenBit rfl
      (by decide +kernel) parsed⟩

end Settings

end PatternForge
