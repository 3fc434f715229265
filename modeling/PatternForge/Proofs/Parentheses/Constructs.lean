import PatternForge.Proofs.Parentheses.Scan
import PatternForge.Proofs.Reading.ClassTurns
import PatternForge.Proofs.Reading.Operators

/-!
What is accepted as one construct is passed over as one. Wherever the reader of escape sequences, of
classes, of repetitions or of what opens a group succeeds, it stops where `Parenthesis.scan` goes on.
-/
namespace PatternForge

open Parenthesis (afterArgument afterEscape afterUnit afterItem afterPosix afterItems afterCaret afterClass
  argumentLength IsPlain listsFlag scan)

/-- What telling groups apart relies on about characters: a closing angle is no part of a name, and
white space hides or opens nothing. -/
structure CharacterData.Punctuated (data : CharacterData) : Prop where
  angle : ∀ isFirst, GroupPrefix.isNameChar data isFirst '>' = false
  space : ∀ c, data.space c = true → IsPlain c

/-- White space hides or opens nothing if it is none of the four marks that do. -/
theorem CharacterData.punctuated_of_marks {data : CharacterData}
    (angle : ∀ isFirst, GroupPrefix.isNameChar data isFirst '>' = false)
    (marks : ['(', ')', '[', '\\'].any data.space = false) : data.Punctuated where
  angle := angle
  space := by
    intro c isSpace
    simp only [List.any_cons, List.any_nil, Bool.or_eq_false_iff] at marks
    refine ⟨?_, ?_, ?_, ?_⟩
    all_goals
      rintro rfl
      simp [marks] at isSpace

theorem CharacterData.punctuated_standard : CharacterData.standard.Punctuated :=
  punctuated_of_marks (by decide) (by decide)

/-- A text without a mark in front of the mark is passed over. -/
theorem dropWhile_ne_append {before rest : List Char} {mark : Char} (absent : mark ∉ before) :
    (before ++ mark :: rest).dropWhile (· ≠ mark) = mark :: rest := by
  rw [List.dropWhile_append_of_pos, List.dropWhile_cons_of_neg (by simp)]
  intro c member
  simpa using fun equal : c = mark => absent (equal ▸ member)

/-- What stops at a mark because the mark fails a condition stops there at the first occurrence. -/
private theorem dropWhile_ne_of_stops {holds : Char → Bool} {text rest : List Char} {mark : Char}
    (stops : text.dropWhile holds = mark :: rest) (fails : holds mark = false) :
    text.dropWhile (· ≠ mark) = mark :: rest := by
  have whole := List.takeWhile_append_dropWhile (p := holds) (l := text)
  rw [stops] at whole
  rw [← whole]
  refine dropWhile_ne_append fun member => ?_
  rw [List.mem_takeWhile_imp member] at fails
  cases fails

/-! ### Escape sequences -/

namespace Escape

variable {ctx : Context} {start here after : Cursor} {c : Char} {rest : List Char} {leaf : Pattern}

theorem rest_of_propertyClass {negated : Bool} (next : here.rest = c :: rest)
    (read : propertyClass ctx start here negated = .ok (leaf, after)) :
    after.rest = afterArgument 1 rest := by
  have behind : here.skip.rest = rest := by rw [Cursor.rest_skip, next, List.tail_cons]
  unfold propertyClass at read
  rw [behind] at read
  split at read
  · cases read
  · rename_i more
    dsimp only at read
    split at read
    · cases read
    · rw [reaches_namedProperty read, Cursor.rest_skip, Cursor.rest_skipWhile, Cursor.rest_skip, behind]
      rfl
  · rename_i d others notBrace
    rw [reaches_namedProperty read, Cursor.rest_skip, behind, afterArgument]
    · rfl
    · exact fun more same => notBrace (List.cons.inj same).1

theorem rest_of_bracedHex {found : Char} (read : bracedHex start here = .ok (found, after)) :
    after.rest = (here.rest.dropWhile (· ≠ '\x7d')).tail := by
  unfold bracedHex at read
  simp only [Cursor.rest_skipWhile] at read
  split at read
  · cases read
  · rename_i others stops
    split at read
    · cases read
    · split at read <;> cases read
      rw [Cursor.rest_skip, Cursor.rest_skipWhile, stops, dropWhile_ne_of_stops stops (by decide)]
  · cases read

theorem rest_of_fixedHex {count : Nat} {found : Char}
    (read : fixedHex start here count = .ok (found, after)) : after.rest = here.rest.drop count := by
  unfold fixedHex at read
  dsimp only at read
  split at read
  · split at read <;> cases read
  · rename_i enough
    split at read <;> cases read
    have short := (List.takeWhile_sublist isHexDigit (l := here.rest.take count)).length_le
    rw [List.length_take] at short
    have all : ((here.rest.take count).takeWhile isHexDigit).length = count := by omega
    rw [Cursor.rest_skipMany, all]

theorem rest_of_hex {count : Nat} {found : Char} (next : here.rest = c :: rest)
    (read : hex start here count = .ok (found, after)) : after.rest = afterArgument count rest := by
  have behind : here.skip.rest = rest := by rw [Cursor.rest_skip, next, List.tail_cons]
  unfold hex at read
  rw [behind] at read
  split at read
  · cases read
  · rename_i more
    rw [rest_of_bracedHex read, Cursor.rest_skip, behind]
    rfl
  · rename_i notBrace
    rw [rest_of_fixedHex read, behind, afterArgument]
    exact notBrace

theorem rest_of_hexLeaf {count : Nat} (next : here.rest = c :: rest)
    (read : hexLeaf ctx start here count = .ok (leaf, after)) :
    after.rest = afterArgument count rest := by
  unfold hexLeaf at read
  split at read
  · cases read
  · rename_i isHex
    cases read
    exact rest_of_hex next isHex

theorem rest_of_perlClass {holds : Char → Bool} {negated : Bool} (next : here.rest = c :: rest)
    (read : perlClass ctx start here holds negated = .ok (leaf, after)) : after.rest = rest := by
  unfold perlClass at read
  split at read <;> cases read
  rw [Cursor.rest_skip, next, List.tail_cons]

theorem rest_of_single (next : here.rest = c :: rest)
    (read : single ctx start here c = .ok (leaf, after)) : after.rest = rest := by
  have behind : here.skip.rest = rest := by rw [Cursor.rest_skip, next, List.tail_cons]
  unfold single at read
  split at read
  · cases read
    exact behind
  · split at read <;> cases read <;> exact behind

theorem rest_of_backreference (next : here.rest = c :: rest)
    (read : backreference ctx start here c = .ok (leaf, after)) : after.rest = rest := by
  unfold backreference at read
  dsimp only at read
  split at read <;> cases read
  rw [Cursor.rest_skip, next, List.tail_cons]

/-- An escape sequence ends where its letter says. -/
theorem rest_of_read (read' : read ctx start here = .ok (leaf, after)) :
    after.rest = afterEscape here.rest := by
  unfold read at read'
  split at read'
  · cases read'
  · rename_i c rest next
    rw [next]
    dsimp only at read'
    split at read'
    case h_1 => exact rest_of_propertyClass next read'
    case h_2 => exact rest_of_propertyClass next read'
    case h_3 => exact rest_of_hexLeaf next read'
    case h_4 => exact rest_of_hexLeaf next read'
    case h_5 => exact rest_of_hexLeaf next read'
    case h_6 => exact rest_of_perlClass next read'
    case h_7 => exact rest_of_perlClass next read'
    case h_8 => exact rest_of_perlClass next read'
    case h_9 => exact rest_of_perlClass next read'
    case h_10 => exact rest_of_perlClass next read'
    case h_11 => exact rest_of_perlClass next read'
    case h_12 => cases read'
    case h_13 => cases read'
    case h_14 => cases read'
    case h_15 notProperty notProperty' notHex notHex' notHex'' _ _ _ _ _ _ _ _ _ =>
      have bare : argumentLength c = 0 := by
        unfold argumentLength
        split <;> first | rfl | contradiction
      rw [afterEscape, if_pos bare]
      split at read'
      · exact rest_of_backreference next read'
      · exact rest_of_single next read'

end Escape

/-! ### Classes -/

namespace ClassSet

open Escape (Context)

variable {ctx : Context} {start here after : Cursor} {c : Char} {rest : List Char} {leaf : Pattern}

theorem rest_of_primitive (read : primitive ctx here = .ok (leaf, after)) :
    after.rest = afterUnit here.rest := by
  unfold primitive at read
  split at read
  · cases read
  · rename_i rest next
    rw [next, afterUnit, if_pos rfl, Escape.rest_of_read read, Cursor.rest_skip, next, List.tail_cons]
  · rename_i c rest notBackslash next
    cases read
    rw [next, afterUnit, if_neg fun same => notBackslash same, Cursor.rest_skip, next, List.tail_cons]

theorem rest_of_item {one : Item} (read : item ctx start here = .ok (one, after)) :
    after.rest = afterItem here.rest := by
  obtain ⟨first, next, isFirst, ⟨alone, -, rfl⟩ | ⟨joins, second, isSecond, -⟩⟩ := item_eq_ok.mp read
  · have unit := rest_of_primitive isFirst
    obtain ⟨c, others, behind, marks⟩ := alone
    rw [afterItem, ← unit, behind]
    split
    · rename_i d more same
      cases same
      have mark : d = ']' ∨ d = '-' := by simpa using marks rfl
      rw [if_pos mark]
    · rfl
  · have unit := rest_of_primitive isFirst
    obtain ⟨d, others, behind, notBracket, notHyphen⟩ := joins
    have unmarked : ¬(d = ']' ∨ d = '-') := by simp [notBracket, notHyphen]
    rw [afterItem, ← unit, behind, rest_of_primitive isSecond, Cursor.rest_skip, behind, List.tail_cons]
    exact (if_neg unmarked).symm

theorem rest_of_posix {set : CharSet} (next : here.rest = '[' :: rest)
    (shown : posix? ctx here = some (set, after)) : after.rest = afterPosix rest := by
  obtain ⟨name, ranges, negated, spelled, plain, -⟩ := posix_eq_some shown
  rw [next, List.cons_append, List.cons_append, List.cons_append, List.cons.injEq] at spelled
  have absent : ':' ∉ caret negated ++ name := by
    unfold caret
    split <;> simp [plain]
  rw [spelled.2, afterPosix, List.cons_append, List.tail_cons, dropWhile_ne_append absent]
  rfl

/-- Each turn takes one item or one class inside the class. -/
theorem Turn.afterItems_eq {one : Item} (turn : Turn ctx start here one after) :
    afterItems here.rest = afterItems after.rest := by
  cases turn with
  | posix next shown =>
    rw [next, afterItems, if_neg (by decide), if_pos rfl, rest_of_posix next shown]
  | item next bracket operator single =>
    rw [rest_of_item single, next, afterItems, if_neg bracket.2, if_neg bracket.1]

theorem Turns.afterItems_eq {items : List Item} (turns : Turns ctx start here items after) :
    afterItems here.rest = afterItems after.rest := by
  induction turns with
  | nil => rfl
  | cons turn _ ih => exact turn.afterItems_eq.trans ih

/-- What opens a class is passed over up to the first item that something else follows. -/
theorem afterClass_of_opening {found : List Item} (opens : opening start = .ok (found, after)) :
    afterClass start.skip.rest = afterItems after.rest := by
  obtain ⟨lead, spelled, -, -, leads⟩ := opening_eq_ok.mp opens
  have first : afterCaret start.skip.rest = lead ++ after.rest := by
    unfold afterCaret
    by_cases negated : start.skip.rest.head? = some '^'
    · rw [if_pos negated, spelled, isNegated, decide_eq_true negated]
      rfl
    · rw [if_neg negated]
      rw [isNegated, decide_eq_false negated] at spelled
      exact spelled
  unfold afterClass
  rw [first]
  cases leads with
  | @hyphens n _ notHyphen bare =>
    have behind : (List.replicate n '-' ++ after.rest).dropWhile (· = '-') = after.rest := by
      rw [List.dropWhile_append_of_pos (by simp +contextual)]
      cases next : after.rest with
      | nil => rfl
      | cons c rest =>
        refine List.dropWhile_cons_of_neg ?_
        simpa [next] using notHyphen
    split
    · rename_i rest isBracket
      cases n with
      | zero =>
        refine absurd ?_ (bare rfl)
        rw [← List.nil_append after.rest]
        exact congrArg List.head? isBracket
      | succ n => cases isBracket
    · rw [behind]
  | bracket => rfl

/-- A class ends at its closing bracket. -/
theorem rest_of_read (read' : read ctx start = .ok (leaf, after)) :
    after.rest = afterClass start.skip.rest := by
  obtain ⟨found, items, close, rest, ⟨first, opens, turns⟩, closes, -, rfl⟩ := read_eq_ok.mp read'
  rw [afterClass_of_opening opens, turns.afterItems_eq, closes, afterItems, if_pos rfl, Cursor.rest_skip, closes,
    List.tail_cons]

end ClassSet

/-! ### Repetitions -/

/-- Where nothing between two places could be a parenthesis or hide one, the same ones are found from both. -/
theorem Cursor.Through.scan_eq {a b : Cursor} (plainly : a.Through IsPlain b) : scan a.rest = scan b.rest := by
  obtain ⟨text, between, plain⟩ := plainly
  rw [between, Parenthesis.scan_append plain]

namespace Repeat

variable {data : CharacterData} {flags : Flags} {start here after : Cursor} {c : Char} {rest : List Char}

theorem isPlain_of_isDigit {c : Char} (isDigit : c.isDigit = true) : IsPlain c := by
  refine ⟨?_, ?_, ?_, ?_⟩
  all_goals
    rintro rfl
    exact absurd isDigit (by decide)

theorem plainly_of_greediness {last : Cursor} {greedy : Bool}
    (read : greediness flags start last = .ok (greedy, after)) : last.skip.Through IsPlain after := by
  rcases greediness_eq_ok.mp read with ⟨head, -, rfl⟩ | ⟨-, -, -, rfl⟩
  · obtain ⟨rest, isMark⟩ := List.head?_eq_some_iff.mp head
    exact Cursor.through_skip isMark (by decide)
  · exact Cursor.Through.refl _

theorem plainly_of_counted (punctuated : data.Punctuated) {bounds : Bounds}
    (read : counted data flags start = .ok (bounds, after)) : start.skip.Through IsPlain after := by
  obtain ⟨least, most, close, greedy, isCount, isMark, -, rfl⟩ := counted_eq_ok.mp read
  obtain ⟨rest, brace⟩ := brace_of_count isCount
  exact (through_of_count punctuated.space (fun _ => isPlain_of_isDigit) (by decide) isCount).trans
    ((Cursor.through_skip brace (by decide)).trans (plainly_of_greediness isMark))

theorem plainly_of_plain {bounds : Bounds} {least : UInt32} {most : Option UInt32}
    (read : plain flags start least most = .ok (bounds, after)) : start.skip.Through IsPlain after := by
  unfold plain at read
  simp only [bind, Except.bind, pure, Except.pure] at read
  split at read
  · cases read
  · rename_i mark isMark
    cases read
    exact plainly_of_greediness isMark

/-- An operator is written without parentheses and without anything that hides some. -/
theorem plainly_of_read (punctuated : data.Punctuated) {bounds : Bounds}
    (read' : read data flags start c = .ok (bounds, after)) : start.skip.Through IsPlain after := by
  unfold read at read'
  split at read'
  · exact plainly_of_plain read'
  · exact plainly_of_plain read'
  · exact plainly_of_plain read'
  · exact plainly_of_counted punctuated read'

end Repeat

/-! ### What opens a group -/

namespace GroupPrefix

open Parenthesis (opening)

variable {data : CharacterData} {flags flags' : Flags} {taken : List String} {start here after : Cursor}
  {rest : List Char}

theorem rest_of_flagList {state : FlagState} {stop : Cursor}
    (read : flagList state here = .ok (flags, stop)) : stop.rest = here.rest.dropWhile listsFlag := by
  fun_induction flagList state here with
  | case1 => cases read
  | case2 => cases read
  | case3 state here c rest next ends complete =>
    cases read
    rw [next, List.dropWhile_cons_of_neg]
    rcases ends with rfl | rfl <;> decide
  | case4 => cases read
  | case5 state here c rest next going state' stepped ih =>
    rw [ih read, Cursor.rest_skip, next, List.tail_cons, List.dropWhile_cons_of_pos]
    simpa [listsFlag] using going

/-- A letter keeps the flag for case set unless it is the letter of that flag, behind the sign. -/
private theorem ignoreCase_of_applyFlag {negated : Bool} {c : Char}
    (applied : applyFlag flags (!negated) c = some flags') (ignoring : flags.ignoreCase = true)
    (keeps : negated = true → c ≠ 'i') : flags'.ignoreCase = true := by
  unfold applyFlag at applied
  split at applied <;> cases applied
  · cases negated with
    | false => rfl
    | true => exact absurd rfl (keeps rfl)
  all_goals exact ignoring

/-- The rest of a list of flags keeps the flag for case set: its letter does not come behind the sign,
which may have been read already. -/
private def KeepsCase (negated : Bool) (listed : List Char) : Prop :=
  'i' ∉ if negated then listed else listed.dropWhile (· ≠ '-')

private theorem keepsCase_of_flagStep {state state' : FlagState} {c : Char} {listed : List Char}
    (stepped : flagStep state here c = .ok state') (ignoring : state.flags.ignoreCase = true)
    (keeps : KeepsCase state.negated (c :: listed)) :
    state'.flags.ignoreCase = true ∧ KeepsCase state'.negated listed := by
  unfold KeepsCase at keeps ⊢
  unfold flagStep at stepped
  by_cases isSign : c = '-'
  · rw [if_pos isSign] at stepped
    split at stepped
    · cases stepped
    · rename_i positive
      cases stepped
      subst isSign
      rw [if_neg positive, List.dropWhile_cons_of_neg (by simp)] at keeps
      exact ⟨ignoring, fun member => keeps (List.mem_cons_of_mem _ member)⟩
  · rw [if_neg isSign] at stepped
    split at stepped
    · cases stepped
    · rename_i flags' applied
      split at stepped <;> cases stepped
      cases negated : state.negated with
      | true =>
        rw [negated, if_pos rfl] at keeps
        obtain ⟨other, absent⟩ := not_or.mp (mt List.mem_cons.mpr keeps)
        exact ⟨ignoreCase_of_applyFlag applied ignoring fun _ => Ne.symm other, absent⟩
      | false =>
        rw [negated, if_neg (by simp), List.dropWhile_cons_of_pos (by simpa using isSign)] at keeps
        rw [negated] at applied
        exact ⟨ignoreCase_of_applyFlag applied ignoring nofun, keeps⟩

/-- Letters go on standing for all their cases if the flag is not listed behind the sign. -/
private theorem ignoreCase_of_flagList {state : FlagState} {stop : Cursor}
    (read : flagList state here = .ok (flags, stop)) (ignoring : state.flags.ignoreCase = true)
    (keeps : KeepsCase state.negated (here.rest.takeWhile listsFlag)) : flags.ignoreCase = true := by
  fun_induction flagList state here with
  | case1 => cases read
  | case2 => cases read
  | case3 =>
    cases read
    exact ignoring
  | case4 => cases read
  | case5 state here c rest next going state' stepped ih =>
    have isListed : listsFlag c = true := by simpa [listsFlag] using going
    rw [next, List.takeWhile_cons_of_pos isListed] at keeps
    obtain ⟨ignoring', keeps'⟩ := keepsCase_of_flagStep stepped ignoring keeps
    rw [Cursor.rest_skip, next, List.tail_cons] at ih
    exact ih read ignoring' keeps'

/-- The flags behind a parenthesis go with what is listed there. -/
def Accords (sign : Parenthesis) (before after : Flags) : Prop :=
  before.ignoreCase = true → ¬sign.MindsCase → after.ignoreCase = true

/-- A group name ends at the first closing angle. -/
theorem rest_of_name (punctuated : data.Punctuated) {found : String}
    (read : name data taken here = .ok (found, after)) :
    after.rest = (here.rest.dropWhile (· ≠ '>')).tail := by
  obtain ⟨⟨-, again⟩, -, rest, spelled, rfl⟩ := name_eq_ok.mp read
  have noAngle : '>' ∉ found.toList := again rest ▸ not_mem_nameChars punctuated.angle _
  rw [Cursor.rest_skip, Cursor.rest_skipMany, spelled, List.drop_left, dropWhile_ne_append noAngle]

/-- A parenthesis that opens a numbered group, with its name if it has one. -/
theorem opening_of_capturing (punctuated : data.Punctuated) {found : Option String}
    (next : start.rest = '(' :: rest)
    (read' : read data flags taken start = .ok (.capturing found, after)) :
    opening rest = (.opens, after.rest) := by
  have behind : start.skip.rest = rest := by rw [Cursor.rest_skip, next, List.tail_cons]
  obtain ⟨-, ⟨nameStart, text, isOpening, isName, -⟩ | ⟨-, ⟨-, isFlags⟩ | ⟨unmarked, -, rfl⟩⟩⟩ :=
    read_eq_ok.mp read'
  · rw [rest_of_name punctuated isName]
    obtain ⟨mark, member, isMark⟩ := List.exists_of_findSome?_eq_some isOpening
    have spelled := (Cursor.afterText_eq_some.mp isMark).1
    rw [behind] at spelled
    simp only [List.mem_cons, List.not_mem_nil, or_false] at member
    rcases member with rfl | rfl
    · rw [spelled]
      rfl
    · rw [spelled]
      rfl
  · obtain ⟨flags', stop, -, ⟨-, -, kind, -⟩ | ⟨-, kind, -⟩⟩ := readFlags_eq_ok.mp isFlags
    · cases kind
    · cases kind
  · rw [behind] at unmarked
    unfold opening
    split
    · exact absurd rfl unmarked
    · exact absurd rfl unmarked
    · exact absurd rfl unmarked
    · rw [behind]

/-- Behind a question mark that opens no name stands a list of flags. -/
private theorem opening_of_unnamed {listed : List Char} (unnamed : nameOpening? here = none)
    (next : here.rest = '?' :: listed) :
    opening ('?' :: listed) =
      match listed.dropWhile listsFlag with
      | ')' :: rest => (.sets (listed.takeWhile listsFlag), rest)
      | stop => (.opensWith (listed.takeWhile listsFlag), stop.tail) := by
  rw [nameOpening?, List.findSome?_eq_none_iff] at unnamed
  unfold opening
  split
  · rename_i others same
    have found := unnamed ['?', 'P', '<'] (by simp)
    rw [Cursor.afterText?, next, same, if_pos (by simp)] at found
    cases found
  · rename_i others same
    have found := unnamed ['?', '<'] (by simp)
    rw [Cursor.afterText?, next, same, if_pos (by simp)] at found
    cases found
  · rename_i others same
    cases same
    rfl
  · rename_i other
    exact absurd rfl (other listed)

/-- How flags behind a parenthesis are taken: as far as they go and by what is behind them. -/
private theorem flags_of_read {kind : GroupPrefix} (next : start.rest = '(' :: rest)
    (notCapturing : ∀ found, kind ≠ .capturing found)
    (read' : read data flags taken start = .ok (kind, after)) :
    ∃ listed flags', nameOpening? start.skip = none ∧ rest = '?' :: listed ∧
      Accords (.sets (listed.takeWhile listsFlag)) flags flags' ∧
        (∃ more, listed.dropWhile listsFlag = ')' :: more ∧ kind = .directive flags' ∧
            after.rest = ')' :: more ∨
          listed.dropWhile listsFlag = ':' :: more ∧ kind = .flagged flags' ∧ after.rest = more) := by
  have behind : start.skip.rest = rest := by rw [Cursor.rest_skip, next, List.tail_cons]
  obtain ⟨-, ⟨_, _, -, -, same⟩ | ⟨unnamed, ⟨marked, isRead⟩ | ⟨-, same, -⟩⟩⟩ := read_eq_ok.mp read'
  · exact absurd same (notCapturing _)
  · obtain ⟨listed, isMark⟩ := List.head?_eq_some_iff.mp marked
    rw [behind] at isMark
    obtain ⟨flags', stop, isFlags, found⟩ := readFlags_eq_ok.mp isRead
    have listing : start.skip.skip.rest = listed := by
      rw [Cursor.rest_skip, behind, isMark, List.tail_cons]
    have stops := rest_of_flagList isFlags
    have accords : Accords (.sets (listed.takeWhile listsFlag)) flags flags' := by
      intro ignoring keeps
      refine ignoreCase_of_flagList isFlags ignoring ?_
      rw [listing]
      exact keeps
    rw [listing] at stops
    obtain ⟨c, more, ends, isEnd⟩ := stop_of_flagList isFlags
    refine ⟨listed, flags', unnamed, isMark, accords, more, ?_⟩
    rw [← stops, ends]
    rcases found with ⟨isClose, -, isKind, rfl⟩ | ⟨isOpen, isKind, rfl⟩
    · rw [ends] at isClose
      cases isClose
      exact .inl ⟨rfl, isKind, ends⟩
    · have isColon : c = ':' := isEnd.resolve_right fun isClose => isOpen (by rw [ends, isClose]; rfl)
      rw [isColon, Cursor.rest_skip, ends]
      exact .inr ⟨rfl, isKind, rfl⟩
  · exact absurd same (notCapturing none)

/-- A parenthesis that opens a group under flags. -/
theorem opening_of_flagged (next : start.rest = '(' :: rest)
    (read' : read data flags taken start = .ok (.flagged flags', after)) :
    ∃ listed, opening rest = (.opensWith listed, after.rest) ∧ Accords (.opensWith listed) flags flags' := by
  obtain ⟨listed, flags'', unnamed, rfl, accords, more, ⟨-, kind, -⟩ | ⟨stops, kind, rfl⟩⟩ :=
    flags_of_read next (by simp) read'
  · cases kind
  · cases kind
    refine ⟨listed.takeWhile listsFlag, ?_, accords⟩
    rw [opening_of_unnamed unnamed (by rw [Cursor.rest_skip, next, List.tail_cons]), stops]
    rfl

/-- A parenthesis that sets flags and opens no group. -/
theorem opening_of_directive (next : start.rest = '(' :: rest)
    (read' : read data flags taken start = .ok (.directive flags', after)) :
    ∃ listed, opening rest = (.sets listed, after.skip.rest) ∧ Accords (.sets listed) flags flags' := by
  obtain ⟨listed, flags'', unnamed, rfl, accords, more, ⟨stops, kind, closes⟩ | ⟨-, kind, -⟩⟩ :=
    flags_of_read next (by simp) read'
  · cases kind
    refine ⟨listed.takeWhile listsFlag, ?_, accords⟩
    rw [opening_of_unnamed unnamed (by rw [Cursor.rest_skip, next, List.tail_cons]), stops,
      Cursor.rest_skip, closes]
    rfl
  · cases kind

end GroupPrefix

end PatternForge
