import PatternForge.Proofs.Reading.ClassTurns
import PatternForge.Reading.GroupPrefix
import PatternForge.Reading.Repeat

/-!
Where a refused construct is said to be. A failure carries a byte offset, and some failures repeat a part of
the text (`Failure.Cites`). Each reader of a construct is followed to all the failures it may give: the place
is the one that the construct starts at, or one that the reader has come to, and what is repeated is what lies
between two such places.
-/
namespace PatternForge

/-- A failure is at a place of a text. A construct that is not supported is repeated from there on, as far as
it was read, and a reference is a backslash there with the digit that is named. -/
inductive Failure.Cites (text : List Char) : Failure → Prop
  | malformed {place : Cursor} (within : place.Within text) (reason : Malformation) :
    Cites text (.malformed place.offset reason)
  | unsupported {place after : Cursor} (within : place.Within text) (reaches : place.Reaches after)
    (taken : after.rest.length < place.rest.length) :
    Cites text (.unsupported place.offset (place.textTo after))
  | danglingReference {place : Cursor} {digit : Char} {rest : List Char} (within : place.Within text)
    (next : place.rest = '\\' :: digit :: rest) (isDigit : '1' ≤ digit ∧ digit ≤ '9') :
    Cites text (.danglingReference place.offset (digit.toNat - '0'.toNat))

/-- A reader that fails gives a failure that is at a place of the text. -/
def Citing (text : List Char) {α : Type} (read : Except Failure α) : Prop :=
  ∀ failure, read = .error failure → failure.Cites text

namespace Citing

variable {text : List Char} {α β : Type} {read : Except Failure α}

theorem ok (value : α) : Citing text (.ok value : Except Failure α) := by
  intro failure failed
  cases failed

theorem error {failure : Failure} (cites : failure.Cites text) :
    Citing text (.error failure : Except Failure α) := by
  intro failure' failed
  cases failed
  exact cites

theorem map (citing : Citing text read) (f : α → β) : Citing text (f <$> read) := by
  intro failure failed
  apply citing
  cases read with
  | error => exact congrArg _ (Except.error.inj failed)
  | ok => cases failed

theorem bind {f : α → Except Failure β} (citing : Citing text read)
    (onward : ∀ value, read = .ok value → Citing text (f value)) : Citing text (read >>= f) := by
  cases read with
  | error => exact error (citing _ rfl)
  | ok value => exact onward value rfl

end Citing

/-! ### The span of a construct -/

/-- A construct of a text, by the place where it starts and the place that its reader has come to. -/
structure Cursor.Spans (text : List Char) (start here : Cursor) : Prop where
  within : start.Within text
  starts : start.rest ≠ []
  reaches : start.skip.Reaches here

namespace Cursor

variable {text : List Char} {start here after : Cursor} {c : Char} {rest : List Char}

/-- The place behind the first character of a construct. -/
theorem Within.spans (within : start.Within text) (next : start.rest = c :: rest) :
    Spans text start start.skip :=
  ⟨within, by simp [next], .refl _⟩

namespace Spans

theorem on (spans : Spans text start here) (reaches : here.Reaches after) : Spans text start after :=
  ⟨spans.within, spans.starts, spans.reaches.trans reaches⟩

theorem skip (spans : Spans text start here) : Spans text start here.skip := spans.on (reaches_skip here)

theorem place (spans : Spans text start here) : here.Within text := spans.within.skip.on spans.reaches

/-- What has been read of a construct that is not supported is no empty text. -/
theorem unsupported (spans : Spans text start here) :
    Failure.Cites text (.unsupported start.offset (start.textTo here)) := by
  obtain ⟨c, rest, next⟩ := List.exists_cons_of_ne_nil spans.starts
  exact .unsupported spans.within ((reaches_skip start).trans spans.reaches)
    (Reaches.length_lt next spans.reaches)

end Spans

end Cursor

variable {text : List Char} {start here after : Cursor} {c : Char} {rest : List Char}

theorem Settings.citing_classPattern (spans : start.Spans text after) (set : CharSet) (negated : Bool) :
    Citing text (classPattern start after set negated) := by
  unfold classPattern
  dsimp only
  split
  · exact .error spans.unsupported
  · exact .ok _

/-! ### Escape sequences -/

namespace Escape

variable {ctx : Context} {negated : Bool}

theorem citing_backreference (within : start.Within text) (slash : start.rest = '\\' :: here.rest)
    (next : here.rest = c :: rest) (isDigit : '1' ≤ c ∧ c ≤ '9') :
    Citing text (backreference ctx start here c) := by
  unfold backreference
  dsimp only
  split
  · exact .ok _
  · exact .error (.danglingReference within (next ▸ slash) isDigit)

theorem citing_namedProperty (spans : start.Spans text after) (name : List Char) :
    Citing text (namedProperty ctx start after name negated) := by
  unfold namedProperty
  split
  · exact .error spans.unsupported
  · split
    · rename_i failed
      exact .error (Settings.citing_classPattern spans _ _ _ failed)
    · exact .ok _

theorem citing_propertyClass (spans : start.Spans text here) :
    Citing text (propertyClass ctx start here negated) := by
  unfold propertyClass
  split
  · exact .error (.malformed spans.within _)
  · dsimp only
    split
    · exact .error (.malformed spans.within _)
    · apply citing_namedProperty
      exact (spans.skip.skip.on (Cursor.reaches_skipWhile _ _)).skip
  · exact citing_namedProperty spans.skip.skip _

theorem citing_bracedHex (within : start.Within text) (place : here.Within text) :
    Citing text (bracedHex start here) := by
  unfold bracedHex
  dsimp only
  split
  · exact .error (.malformed within _)
  · split
    · exact .error (.malformed within _)
    · split
      · exact .ok _
      · exact .error (.malformed within _)
  · exact .error (.malformed (place.on (Cursor.reaches_skipWhile _ _)) _)

theorem citing_fixedHex (within : start.Within text) (place : here.Within text) (count : Nat) :
    Citing text (fixedHex start here count) := by
  unfold fixedHex
  dsimp only
  split
  · split
    · exact .error (.malformed within _)
    · exact .error (.malformed (place.on (Cursor.reaches_skipMany _ _)) _)
  · split
    · exact .ok _
    · exact .error (.malformed within _)

theorem citing_hex (within : start.Within text) (place : here.Within text) (count : Nat) :
    Citing text (hex start here count) := by
  unfold hex
  split
  · exact .error (.malformed within _)
  · exact citing_bracedHex within place.skip.skip
  · exact citing_fixedHex within place.skip count

theorem citing_hexLeaf (within : start.Within text) (place : here.Within text) (count : Nat) :
    Citing text (hexLeaf ctx start here count) := by
  unfold hexLeaf
  split
  · rename_i failed
    exact .error (citing_hex within place count _ failed)
  · exact .ok _

theorem citing_perlClass (spans : start.Spans text here) (holds : Char → Bool) :
    Citing text (perlClass ctx start here holds negated) := by
  unfold perlClass
  split
  · rename_i failed
    exact .error (Settings.citing_classPattern spans.skip _ _ _ failed)
  · exact .ok _

theorem citing_single (within : start.Within text) (here : Cursor) (c : Char) :
    Citing text (single ctx start here c) := by
  unfold single
  split
  · exact .ok _
  · split
    · exact .ok _
    · exact .ok _
    · exact .error (.malformed within _)

/-- A refused escape sequence. -/
theorem citing_read (within : start.Within text) (slash : start.rest = '\\' :: rest) :
    Citing text (read ctx start start.skip) := by
  have spans := within.spans slash
  have behind : start.skip.rest = rest := by rw [Cursor.rest_skip, slash, List.tail_cons]
  unfold read
  split
  · exact .error (.malformed within _)
  · rename_i c others next
    dsimp only
    split
    case h_1 => exact citing_propertyClass spans
    case h_2 => exact citing_propertyClass spans
    case h_3 => exact citing_hexLeaf within spans.place 2
    case h_4 => exact citing_hexLeaf within spans.place 4
    case h_5 => exact citing_hexLeaf within spans.place 8
    case h_12 => exact .error spans.skip.unsupported
    case h_13 => exact .error spans.skip.skip.unsupported
    case h_14 => exact .error spans.skip.skip.unsupported
    case h_15 =>
      split
      · rename_i isDigit
        exact citing_backreference within (behind ▸ slash) next isDigit
      · exact citing_single within _ c
    all_goals exact citing_perlClass spans _

end Escape

/-! ### Classes -/

namespace ClassSet

open Escape (Context)

variable {ctx : Context} {negated : Bool}

theorem citing_primitive (place : here.Within text) : Citing text (primitive ctx here) := by
  unfold primitive
  split
  · exact .error (.malformed place _)
  · rename_i slash
    exact Escape.citing_read place slash
  · exact .ok _

theorem citing_asChar (place : here.Within text) (leaf : Pattern) :
    Citing text (asChar here.offset leaf) := by
  unfold asChar
  split
  · split
    · exact .ok _
    · exact .error (.malformed place _)
  · exact .error (.malformed place _)

theorem citing_asItem (place : here.Within text) (leaf : Pattern) :
    Citing text (asItem here.offset leaf) := by
  unfold asItem
  split
  · exact .ok _
  · exact (citing_asChar place _).map _
  · exact .error (.malformed place _)

theorem citing_asRange (place : here.Within text) (first second : Pattern) :
    Citing text (asRange here.offset first second) := by
  unfold asRange
  refine (citing_asChar place first).bind fun lo _ => (citing_asChar place second).bind fun hi _ => ?_
  split
  · exact .error (.malformed place _)
  · exact .ok _

theorem citing_item (within : start.Within text) (place : here.Within text) :
    Citing text (item ctx start here) := by
  unfold item
  split
  · rename_i failed
    exact .error (citing_primitive place _ failed)
  · rename_i first after isFirst
    have further := place.skip.on (reaches_primitive isFirst)
    split
    · exact .error (.malformed within _)
    · exact .error (.malformed within _)
    · split
      · exact (citing_asItem place first).map _
      · split
        · rename_i failed
          exact .error (citing_primitive further.skip _ failed)
        · exact (citing_asRange place first _).map _
    · exact (citing_asItem place first).map _

theorem citing_build (spans : start.Spans text after) (items : List Item) :
    Citing text (build ctx start after negated items) := by
  unfold build
  split
  · exact .error spans.unsupported
  · exact Settings.citing_classPattern spans _ _

/-- A class that is refused behind its opening. A nested class that turns out to be none is refused at its own
bracket, where the reader has not gone on. -/
theorem citing_readItems (spans : start.Spans text here) (found : List Item) :
    Citing text (readItems ctx start negated here found) := by
  fun_induction readItems ctx start negated here found with
  | case1 here found none => exact .error (.malformed spans.within _)
  | case2 here found rest set next shown isOpen ih => exact ih (spans.skip.on (reaches_posix shown))
  | case3 here found rest shown next => exact .error (spans.place.spans next).unsupported
  | case4 here found rest next notOpen => exact (citing_build spans.skip _).map _
  | case5 here found c rest next notOpen notClose operator =>
    exact .error (spans.place.spans next).skip.unsupported
  | case6 here found c rest next notOpen notClose notOperator failure single =>
    exact .error (citing_item spans.within spans.place _ single)
  | case7 here found c rest next notOpen notClose notOperator one stop single ih =>
    exact ih (spans.skip.on (reaches_item single))

theorem citing_readHyphens (within : start.Within text) (here : Cursor) :
    Citing text (readHyphens start here) := by
  unfold readHyphens
  dsimp only
  split
  · exact .error (.malformed within _)
  · exact .ok _

theorem citing_opening (within : start.Within text) : Citing text (opening start) := by
  unfold opening
  dsimp only
  split
  · exact .error (.malformed within _)
  · split
    · rename_i failed
      exact .error (citing_readHyphens within _ _ failed)
    · split
      · split
        · exact .error (.malformed within _)
        · exact .ok _
      · exact .ok _

/-- A refused class. -/
theorem citing_read (within : start.Within text) (bracket : start.rest = '[' :: rest) :
    Citing text (read ctx start) := by
  rw [read_opening]
  split
  · rename_i failed
    exact .error (citing_opening within _ failed)
  · rename_i found here opens
    obtain ⟨lead, -, rfl, -⟩ := opening_eq_ok.mp opens
    apply citing_readItems
    exact (within.spans bracket).on (Cursor.reaches_skipMany _ _)

end ClassSet

/-! ### Repetitions -/

namespace Repeat

variable {data : CharacterData} {flags : Flags}

theorem citing_decimal (place : here.Within text) : Citing text (decimal data here) := by
  have number := place.on (Cursor.reaches_skipWhile data.space here)
  unfold decimal
  dsimp only
  split
  · exact .error (.malformed number _)
  · split
    · exact .ok _
    · exact .error (.malformed number _)

theorem citing_greediness {last : Cursor} (spans : start.Spans text last.skip) :
    Citing text (greediness flags start last) := by
  unfold greediness
  split
  · exact .ok _
  · exact .error spans.skip.unsupported
  · exact .ok _

theorem citing_count (within : start.Within text) : Citing text (count data start) := by
  unfold count
  dsimp only
  split
  · exact .error (.malformed within _)
  · refine (citing_decimal within.skip).bind fun ⟨least, behind⟩ isLeast => ?_
    have further := within.skip.on (reaches_decimal isLeast)
    dsimp only
    split
    · exact .error (.malformed within _)
    · split
      · exact .error (.malformed within _)
      · split
        · exact .ok _
        · refine (citing_decimal further.skip).bind fun ⟨most, close⟩ isMost => ?_
          dsimp only
          split
          · exact .error (.malformed within _)
          · exact .ok _
          · exact .error (.malformed (further.skip.on (reaches_decimal isMost)) _)
    · exact .ok _
    · exact .error (.malformed further _)

theorem citing_counted (within : start.Within text) (next : start.rest = c :: rest) :
    Citing text (counted data flags start) := by
  unfold counted
  refine (citing_count within).bind fun ⟨least, most, close⟩ isCount => ?_
  have spans := (within.spans next).on (reaches_count isCount)
  refine (citing_greediness spans.skip).bind fun ⟨greedy, after⟩ _ => ?_
  dsimp only
  split
  · split
    · exact .error (.malformed within _)
    · exact .ok _
  · exact .ok _

theorem citing_plain (within : start.Within text) (next : start.rest = c :: rest) (least : UInt32)
    (most : Option UInt32) : Citing text (plain flags start least most) :=
  (citing_greediness (within.spans next)).bind fun _ _ => .ok _

/-- A refused repetition. -/
theorem citing_read (within : start.Within text) (next : start.rest = c :: rest) :
    Citing text (read data flags start c) := by
  unfold read
  split
  · exact citing_plain within next _ _
  · exact citing_plain within next _ _
  · exact citing_plain within next _ _
  · exact citing_counted within next

end Repeat

/-! ### Groups -/

namespace GroupPrefix

variable {data : CharacterData} {flags : Flags} {taken : List String}

theorem citing_name (place : here.Within text) : Citing text (name data taken here) := by
  unfold name
  dsimp only
  split
  · split
    · exact .error (.malformed place _)
    · exact .error (.malformed place _)
  · split
    · exact .error (.malformed (place.on (Cursor.reaches_skipMany _ _)) _)
    · split
      · exact .error (.malformed place _)
      · split
        · exact .error (.malformed place _)
        · exact .ok _

theorem citing_flagStep (place : here.Within text) (next : here.rest = c :: rest) (state : FlagState) :
    Citing text (flagStep state here c) := by
  unfold flagStep
  split
  · split
    · exact .error (.malformed place _)
    · exact .ok _
  · split
    · have letter : here.textTo here.skip = c.toString := by
        rw [Cursor.textTo, Cursor.charsTo_skip next]
        rfl
      rw [← letter]
      exact .error (place.spans next).unsupported
    · split
      · exact .error (.malformed place _)
      · exact .ok _

theorem citing_flagList (place : here.Within text) (state : FlagState) :
    Citing text (flagList state here) := by
  fun_induction flagList state here with
  | case1 => exact .error (.malformed place _)
  | case2 => exact .error (.malformed place _)
  | case3 => exact .ok _
  | case4 state here c rest next going failure stepped => exact .error (citing_flagStep place next state _ stepped)
  | case5 state here c rest next going state' stepped ih => exact ih place.skip

theorem citing_readFlags (within : start.Within text) (place : here.Within text) :
    Citing text (readFlags flags start here) := by
  unfold readFlags
  split
  · exact .error (.malformed within _)
  · split
    · rename_i failed
      exact .error (citing_flagList place _ _ failed)
    · split
      · split
        · exact .error (.malformed within _)
        · exact .ok _
      · exact .ok _

/-- What may not follow an opening parenthesis. -/
theorem citing_read (within : start.Within text) (next : start.rest = c :: rest) :
    Citing text (read data flags taken start) := by
  have spans := within.spans next
  unfold read
  dsimp only
  split
  · rename_i after isLookAround
    obtain ⟨mark, -, found⟩ := List.exists_of_findSome?_eq_some isLookAround
    exact .error (spans.on (Cursor.reaches_afterText found)).unsupported
  · split
    · rename_i isName
      exact (citing_name (spans.on (reaches_nameOpening isName)).place).map _
    · split
      · exact citing_readFlags within spans.skip.place
      · exact .ok _

end GroupPrefix

end PatternForge
