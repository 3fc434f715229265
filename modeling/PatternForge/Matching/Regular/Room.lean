import PatternForge.Matching.Expression

/-!
How large the automaton of an expression is. The finite engine works on bytes, so a class takes a
state for every range of bytes that its characters begin with, and a body that is repeated a number
of times is there as often. `fits` tells whether an expression is small enough for the engine.
-/
namespace PatternForge.Regular

/-- The room for one state. -/
def stateRoom : Nat := 32

/-- The room for an edge from a state that has many. -/
def edgeRoom : Nat := 4

/-- The room for a range of bytes at a state that has many. -/
def rangeRoom : Nat := 8

/-- The room for an automaton. -/
def roomLimit : Nat := 10 * 1024 * 1024

/-- The greatest runs of codes that belong to allowed characters, latest first. The codes start at
`code`, and `runs` has those before. -/
def runsFrom (allowed : Char → Bool) : Nat → Nat → List (Nat × Nat) → List (Nat × Nat)
  | 0, _, runs => runs
  | left + 1, code, runs =>
    let runs :=
      if !(code.isValidChar && allowed (Char.ofNat code)) then runs
      else
        match runs with
        | (first, last) :: others =>
          if last + 1 = code then (first, code) :: others else (code, code) :: runs
        | [] => [(code, code)]
    runsFrom allowed left (code + 1) runs

/-- The greatest runs of codes that belong to allowed characters. -/
def runsOf (allowed : Char → Bool) : List (Nat × Nat) := (runsFrom allowed 0x110000 0 []).reverse

/-- The codes from `low` to `high` as sequences of ranges, one for each byte. Behind the first byte
there are a number of others, which hold six bits each. -/
def byteRanges : Nat → (low high : Nat) → List (List (Nat × Nat))
  | 0, low, high => [[(low, high)]]
  | others + 1, low, high =>
    let unit := 1 <<< (6 * (others + 1))
    let first := low / unit
    let last := high / unit
    if first = last then (byteRanges others (low % unit) (high % unit)).map ((first, first) :: ·)
    else
      let opensEven := low % unit = 0
      let closesEven := high % unit = unit - 1
      let opening :=
        if opensEven then []
        else (byteRanges others (low % unit) (unit - 1)).map ((first, first) :: ·)
      let closing :=
        if closesEven then [] else (byteRanges others 0 (high % unit)).map ((last, last) :: ·)
      let low := if opensEven then first else first + 1
      let high := if closesEven then last else last - 1
      let middle :=
        if low ≤ high then [(low, high) :: List.replicate (others + 1) (0, 63)] else []
      opening ++ middle ++ closing

/-- The lengths of encoded characters, less one, with the codes that have them. -/
def lengths : List (Nat × Nat × Nat) :=
  [(0, 0, 0x7F), (1, 0x80, 0x7FF), (2, 0x800, 0xFFFF), (3, 0x10000, 0x10FFFF)]

/-- The sequences of byte ranges for a run of codes. -/
def sequencesOf (run : Nat × Nat) : List (List (Nat × Nat)) :=
  lengths.flatMap fun entry =>
    let low := max run.1 entry.2.1
    let high := min run.2 entry.2.2
    if low ≤ high then byteRanges entry.1 low high else []

/-- How many items two lists have in common from their starts. -/
def sharedLength : List (Nat × Nat) → List (Nat × Nat) → Nat
  | a :: as, b :: bs => if a = b then sharedLength as bs + 1 else 0
  | _, _ => 0

/-- The room for sequences of byte ranges. States for the same start of a sequence are shared. -/
def sequenceRoom : List (Nat × Nat) → List (List (Nat × Nat)) → Nat
  | _, [] => 0
  | previous, sequence :: rest =>
    let shared := if sequence.length = previous.length then sharedLength previous sequence else 0
    edgeRoom + stateRoom * (sequence.length - shared) + sequenceRoom sequence rest

/-- The codes of characters as runs, in a list that is ascending. -/
def runsOfCodes : List Nat → List (Nat × Nat)
  | [] => []
  | code :: rest =>
    match runsOfCodes rest with
    | (first, last) :: others =>
      if first = code then (first, last) :: others
      else if first = code + 1 then (code, last) :: others
      else (code, code) :: (first, last) :: others
    | [] => [(code, code)]

/-- The room for a class with the given runs of codes. The ranges of a class within ASCII need no
states of their own. -/
def runsRoom (runs : List (Nat × Nat)) : Nat :=
  if runs.all (·.2 < 0x80) then 2 * stateRoom + rangeRoom * runs.length
  else 2 * stateRoom + sequenceRoom [] (runs.flatMap sequencesOf)

/-- The room for a class. -/
def classRoom (allowed : Char → Bool) : Nat := runsRoom (runsOf allowed)

/-- The room for characters of which one is to be taken: for a single one, a state for each of its
bytes. -/
def charsRoom (chars : List Char) : Nat :=
  match chars with
  | [c] => stateRoom * c.utf8Size
  | _ => runsRoom (runsOfCodes (chars.map Char.toNat).mergeSort)

/-- The room for a test, with that for classes given. -/
def testRoom (ofClass : (Char → Bool) → Nat) (test : CharTest) : Nat :=
  match test.listed with
  | some chars => charsRoom chars
  | none => ofClass test.allows

/-- The room for a group whose text is kept. -/
def groupRoom : Nat := 2 * stateRoom

/-- How often a repeated body is there, and how many of these may be left out. -/
def copies (least : Nat) (most : Option Nat) : Nat × Nat :=
  match most with
  | some most => (most, most - least)
  | none => (max least 1, 1)

/-- The tests that branches consist of, if each of them is one test. -/
def testsOf? : List Expression → Option (List CharTest)
  | [] => some []
  | .one test :: rest => (testsOf? rest).map (test :: ·)
  | _ :: _ => none

/-- A choice between tests as one test, if they are all characters or all classes. -/
def mergedTest? (tests : List CharTest) : Option CharTest :=
  let allows := fun c => tests.any (·.allows c)
  let chars := tests.filterMap fun test => test.listed.filter (·.length = 1)
  if chars.length = tests.length then some { allows, listed := some chars.flatten.eraseDups }
  else if chars.isEmpty then some { allows }
  else none

mutual

/-- The room for an expression, with that for classes given. The empty text takes none on its own;
as a branch or as a body it takes a state. -/
def room (ofClass : (Char → Bool) → Nat) : Expression → Nat
  | .one test => testRoom ofClass test
  | .look _ => stateRoom
  | .sequence items => roomOfAll ofClass items
  | .choice branches =>
    match (testsOf? branches).bind mergedTest? with
    | some test => testRoom ofClass test
    | none => 2 * stateRoom + edgeRoom * branches.length + roomOfEach ofClass branches
  | .repeated least most _ body =>
    let (all, optional) := copies least most
    let all := if body.takesNothing then min all 1 else all
    all * max (room ofClass body) stateRoom + min all optional * (stateRoom + 2 * edgeRoom) +
      stateRoom
  | .group index body => room ofClass body + if index.isSome then groupRoom else 0

/-- The room for several expressions, one after another. -/
def roomOfAll (ofClass : (Char → Bool) → Nat) : List Expression → Nat
  | [] => 0
  | e :: rest => room ofClass e + roomOfAll ofClass rest

/-- The room for several branches. -/
def roomOfEach (ofClass : (Char → Bool) → Nat) : List Expression → Nat
  | [] => 0
  | e :: rest => max (room ofClass e) stateRoom + roomOfEach ofClass rest

end

/-- More room than a class is likely to take. -/
def ampleRoom : Nat := 128 * 1024

/-- Whether there is room for an expression. Classes are looked at only where that can matter. -/
def fits (e : Expression) : Bool :=
  room (fun _ => ampleRoom) e ≤ roomLimit || room classRoom e ≤ roomLimit

end PatternForge.Regular
