import PatternForge.Proofs.Reading.Places
import PatternForge.Reading.GroupPrefix
import PatternForge.Reading.Repeat

/-!
Which repetition operators, which group names and which lists of flags are accepted, and where they end.
-/
namespace PatternForge

/-- Whether a text is read as a group name where a closing angle follows. -/
def IsName (data : CharacterData) (name : String) : Prop :=
  name.toList ≠ [] ∧
    ∀ rest, GroupPrefix.nameChars data (name.toList ++ '>' :: rest) = name.toList

namespace Repeat

variable {data : CharacterData} {flags : Flags} {start after : Cursor}

/-- What stands between the braces of a count: a number, a number with a comma, or two numbers. -/
theorem count_eq_ok {close : Cursor} {least : UInt32} {most : Option UInt32} :
    count data start = .ok (least, most, close) ↔
      start.skip.rest ≠ [] ∧ ∃ behind, decimal data start.skip = .ok (least, behind) ∧
        ((∃ rest, behind.rest = '\x7d' :: rest) ∧ most = some least ∧ close = behind ∨
          (∃ rest, behind.rest = ',' :: '\x7d' :: rest) ∧ most = none ∧ close = behind.skip ∨
            (∃ d rest, behind.rest = ',' :: d :: rest ∧ d ≠ '\x7d') ∧
              ∃ bound, decimal data behind.skip = .ok (bound, close) ∧
                (∃ rest, close.rest = '\x7d' :: rest) ∧ most = some bound) := by
  unfold count
  simp only [bind, Except.bind, pure, Except.pure, throw, throwThe, MonadExceptOf.throw]
  constructor
  · intro read
    split at read
    · cases read
    · rename_i some
      refine ⟨mt Cursor.rest_of_atEnd.mpr some, ?_⟩
      split at read
      · cases read
      · rename_i found isLeast
        obtain ⟨least', behind⟩ := found
        dsimp only at read
        split at read
        · cases read
        · rename_i others comma
          split at read
          · cases read
          · rename_i more
            obtain ⟨d, rest, rfl⟩ := List.exists_cons_of_ne_nil (mt List.isEmpty_iff.mpr more)
            split at read
            · rename_i isBrace
              cases read
              cases isBrace
              exact ⟨behind, isLeast, .inr (.inl ⟨⟨rest, comma⟩, rfl, rfl⟩)⟩
            · rename_i notBrace
              split at read
              · cases read
              · rename_i found isMost
                split at read <;> cases read
                exact ⟨behind, isLeast, .inr (.inr ⟨⟨d, rest, comma, fun same => notBrace (by rw [same]; rfl)⟩, _,
                  isMost, ⟨_, ‹_›⟩, rfl⟩)⟩
        · rename_i rest brace
          cases read
          exact ⟨_, isLeast, .inl ⟨⟨rest, brace⟩, rfl, rfl⟩⟩
        · cases read
  · rintro ⟨some, behind, isLeast, found⟩
    rw [if_neg (mt Cursor.rest_of_atEnd.mp some), isLeast]
    dsimp only
    rcases found with ⟨⟨rest, brace⟩, rfl, rfl⟩ | ⟨⟨rest, comma⟩, rfl, rfl⟩ |
      ⟨⟨d, rest, comma, notBrace⟩, bound, isMost, ⟨text, brace⟩, rfl⟩
    · rw [brace]
      rfl
    · rw [comma]
      rfl
    · rw [comma]
      refine (if_neg (by simp)).trans ((if_neg (by simpa using notBrace)).trans ?_)
      rw [isMost]
      dsimp only
      rw [brace]
      rfl

theorem through_of_decimal {holds : Char → Prop} (space : ∀ c, data.space c = true → holds c)
    (digit : ∀ c : Char, c.isDigit = true → holds c) {here : Cursor} {n : UInt32}
    (read : decimal data here = .ok (n, after)) : here.Through holds after := by
  unfold decimal at read
  dsimp only at read
  split at read
  · cases read
  · split at read <;> cases read
    exact (Cursor.through_skipWhile space here).trans
      ((Cursor.through_skipWhile digit _).trans (Cursor.through_skipWhile space _))

/-- A count is made of digits, white space and a comma. -/
theorem through_of_count {holds : Char → Prop} (space : ∀ c, data.space c = true → holds c)
    (digit : ∀ c : Char, c.isDigit = true → holds c) (isComma : holds ',') {least : UInt32}
    {most : Option UInt32} {close : Cursor} (read : count data start = .ok (least, most, close)) :
    start.skip.Through holds close := by
  obtain ⟨-, behind, isLeast, ⟨-, -, rfl⟩ | ⟨⟨rest, comma⟩, -, rfl⟩ |
    ⟨⟨d, rest, comma, -⟩, bound, isMost, -, -⟩⟩ := count_eq_ok.mp read
  · exact through_of_decimal space digit isLeast
  · exact (through_of_decimal space digit isLeast).trans (Cursor.through_skip comma isComma)
  · exact (through_of_decimal space digit isLeast).trans
      ((Cursor.through_skip comma isComma).trans (through_of_decimal space digit isMost))

/-- A count ends at its closing brace. -/
theorem brace_of_count {close : Cursor} {least : UInt32} {most : Option UInt32}
    (read : count data start = .ok (least, most, close)) : ∃ rest, close.rest = '\x7d' :: rest := by
  obtain ⟨-, behind, -, ⟨brace, -, rfl⟩ | ⟨⟨rest, comma⟩, -, rfl⟩ | ⟨-, bound, -, brace, -⟩⟩ :=
    count_eq_ok.mp read
  · exact brace
  · exact ⟨rest, by rw [Cursor.rest_skip, comma, List.tail_cons]⟩
  · exact brace

/-- The mark behind an operator is a question mark, or there is none. -/
theorem greediness_eq_ok {last : Cursor} {greedy : Bool} :
    greediness flags start last = .ok (greedy, after) ↔
      last.skip.rest.head? = some '?' ∧ greedy = flags.swapGreed ∧ after = last.skip.skip ∨
        last.skip.rest.head? ≠ some '?' ∧ last.skip.rest.head? ≠ some '+' ∧ greedy = (!flags.swapGreed) ∧
          after = last.skip := by
  unfold greediness
  generalize last.skip = behind
  split
  · rename_i others isMark
    simp [isMark, eq_comm]
  · rename_i others isMark
    simp [isMark]
  · rename_i notLazy notPossessive
    have lazy : behind.rest.head? ≠ some '?' := by
      intro head
      obtain ⟨others, same⟩ := List.head?_eq_some_iff.mp head
      exact notLazy others same
    have possessive : behind.rest.head? ≠ some '+' := by
      intro head
      obtain ⟨others, same⟩ := List.head?_eq_some_iff.mp head
      exact notPossessive others same
    simp [lazy, possessive, eq_comm]

/-- An operator of one character has the bounds it stands for, and a mark. -/
theorem plain_eq_ok {least : UInt32} {most : Option UInt32} {bounds : Bounds} :
    plain flags start least most = .ok (bounds, after) ↔
      ∃ greedy, greediness flags start start = .ok (greedy, after) ∧ bounds = { least, most, greedy } := by
  unfold plain
  constructor
  · intro read
    cases isMark : greediness flags start start with
    | error failure =>
      rw [isMark] at read
      cases read
    | ok mark =>
      rw [isMark] at read
      cases read
      exact ⟨mark.1, rfl, rfl⟩
  · rintro ⟨greedy, isMark, rfl⟩
    rw [isMark]
    rfl

/-- A count with its mark, where the numbers are in order. -/
theorem counted_eq_ok {bounds : Bounds} :
    counted data flags start = .ok (bounds, after) ↔
      ∃ least most close greedy, count data start = .ok (least, most, close) ∧
        greediness flags start close = .ok (greedy, after) ∧ (∀ bound, most = some bound → ¬bound < least) ∧
          bounds = { least, most, greedy } := by
  unfold counted
  simp only [bind, Except.bind, pure, Except.pure, throw, throwThe, MonadExceptOf.throw]
  constructor
  · intro read
    split at read
    · cases read
    · rename_i found isCount
      split at read
      · cases read
      · rename_i mark isMark
        obtain ⟨least, most, close⟩ := found
        obtain ⟨greedy, after⟩ := mark
        refine ⟨least, most, close, greedy, isCount, ?_⟩
        cases most with
        | none =>
          cases read
          exact ⟨isMark, nofun, rfl⟩
        | some bound =>
          dsimp only at read
          split at read
          · cases read
          · rename_i ordered
            cases read
            refine ⟨isMark, fun other same => ?_, rfl⟩
            cases same
            exact ordered
  · rintro ⟨least, most, close, greedy, isCount, isMark, ordered, rfl⟩
    rw [isCount]
    dsimp only
    rw [isMark]
    cases most with
    | none => rfl
    | some bound => exact if_neg (ordered bound rfl)

end Repeat

namespace GroupPrefix

variable {data : CharacterData} {flags : Flags} {start after : Cursor} {kind : GroupPrefix}

/-- A name is new, and a closing angle stands behind it. -/
theorem name_eq_ok {taken : List String} {found : String} :
    name data taken start = .ok (found, after) ↔
      IsName data found ∧ found ∉ taken ∧
        ∃ rest, start.rest = found.toList ++ '>' :: rest ∧ after = (start.skipMany found.toList.length).skip := by
  unfold name
  dsimp only
  constructor
  · intro read
    split at read
    · cases read
    · rename_i c rest stops
      split at read
      · cases read
      · rename_i isAngle
        obtain rfl := Decidable.not_not.mp isAngle
        split at read
        · cases read
        · rename_i some
          split at read
          · cases read
          · rename_i isNew
            cases read
            rw [Cursor.rest_skipMany] at stops
            have spelled := nameChars_append_drop data start.rest
            rw [stops] at spelled
            rw [IsName, String.toList_ofList]
            exact ⟨⟨by simpa using some, nameChars_again stops⟩, by simpa using isNew, rest, spelled.symm, rfl⟩
  · rintro ⟨⟨some, again⟩, isNew, rest, spelled, rfl⟩
    have chars : nameChars data start.rest = found.toList := by rw [spelled, again]
    have stops : (start.skipMany found.toList.length).rest = '>' :: rest := by
      rw [Cursor.rest_skipMany, spelled, List.drop_left]
    rw [chars, stops]
    simp [some, isNew]

/-- Flags are a directive or belong to a group, as the character behind them says. -/
theorem readFlags_eq_ok {here : Cursor} : readFlags flags start here = .ok (kind, after) ↔
    ∃ flags' stop, flagList { flags } here = .ok (flags', stop) ∧
      (stop.rest.head? = some ')' ∧ stop.offset ≠ here.offset ∧ kind = .directive flags' ∧ after = stop ∨
        stop.rest.head? ≠ some ')' ∧ kind = .flagged flags' ∧ after = stop.skip) := by
  unfold readFlags
  constructor
  · intro read
    split at read
    · cases read
    · split at read
      · cases read
      · rename_i flags' stop isFlags
        refine ⟨flags', stop, isFlags, ?_⟩
        split at read
        · rename_i isClose
          split at read
          · cases read
          · rename_i some
            cases read
            exact .inl ⟨isClose, some, rfl, rfl⟩
        · rename_i isOpen
          cases read
          exact .inr ⟨isOpen, rfl, rfl⟩
  · rintro ⟨flags', stop, isFlags, found⟩
    have going : here.atEnd = false := by
      cases next : here.rest with
      | nil =>
        rw [flagList_atEnd _ next] at isFlags
        cases isFlags
      | cons c rest => exact Cursor.atEnd_of_cons next
    rw [going, isFlags]
    dsimp only
    rcases found with ⟨isClose, some, rfl, rfl⟩ | ⟨isOpen, rfl, rfl⟩
    · exact (if_pos isClose).trans (if_neg some)
    · exact if_neg isOpen

/-- What follows an opening parenthesis is a name, a list of flags or neither; look-around is refused. -/
theorem read_eq_ok {taken : List String} : read data flags taken start = .ok (kind, after) ↔
    lookAround? start.skip = none ∧
      ((∃ nameStart found, nameOpening? start.skip = some nameStart ∧
          name data taken nameStart = .ok (found, after) ∧ kind = .capturing (some found)) ∨
        nameOpening? start.skip = none ∧
          (start.skip.rest.head? = some '?' ∧ readFlags flags start start.skip.skip = .ok (kind, after) ∨
            start.skip.rest.head? ≠ some '?' ∧ kind = .capturing none ∧ after = start.skip)) := by
  unfold read
  dsimp only
  constructor
  · intro read
    split at read
    · cases read
    · rename_i noLook
      refine ⟨noLook, ?_⟩
      split at read
      · rename_i nameStart opening
        cases isName : name data taken nameStart with
        | error failure =>
          rw [isName] at read
          cases read
        | ok found =>
          rw [isName] at read
          cases read
          exact .inl ⟨nameStart, found.1, opening, isName, rfl⟩
      · rename_i unnamed
        split at read
        · rename_i isMark
          exact .inr ⟨unnamed, .inl ⟨isMark, read⟩⟩
        · rename_i noMark
          cases read
          exact .inr ⟨unnamed, .inr ⟨noMark, rfl, rfl⟩⟩
  · rintro ⟨noLook, ⟨nameStart, found, opening, isName, rfl⟩ |
      ⟨unnamed, ⟨isMark, isFlags⟩ | ⟨noMark, rfl, rfl⟩⟩⟩
    · rw [noLook, opening]
      dsimp only
      rw [isName]
      rfl
    · rw [noLook, unnamed]
      exact (if_pos isMark).trans isFlags
    · rw [noLook, unnamed]
      exact if_neg noMark

end GroupPrefix

end PatternForge
