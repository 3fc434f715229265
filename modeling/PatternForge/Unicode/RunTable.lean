/-!
Tables over the code points, stored as the places where the value changes. A lookup is a binary
search for the last run that starts at or before the code point. Tables are written down as text:
hexadecimal run starts with a code each, or a list of ranges for a yes-or-no table.
-/
namespace PatternForge.Unicode

/-- The value of a hexadecimal digit, zero for any other character. -/
def hexDigitValue (c : Char) : Nat :=
  if '0' ≤ c ∧ c ≤ '9' then c.toNat - '0'.toNat
  else if 'A' ≤ c ∧ c ≤ 'F' then c.toNat - 'A'.toNat + 10
  else if 'a' ≤ c ∧ c ≤ 'f' then c.toNat - 'a'.toNat + 10
  else 0

/-- The number written by hexadecimal digits. -/
def hexValue (digits : String) : Nat :=
  digits.toList.foldl (fun n c => 16 * n + hexDigitValue c) 0

/-- The words of some lines of text. -/
def words (lines : List String) : List String := lines.flatMap fun line => line.splitOn " "

/-- How many of the ascending `starts` between places `lo` and `hi`, and before `lo`, are at most
`code`. -/
def rankBetween (starts : Array Nat) (code lo hi : Nat) : Nat :=
  if lo < hi then
    let mid := (lo + hi) / 2
    if starts.getD mid 0 ≤ code then rankBetween starts code (mid + 1) hi
    else rankBetween starts code lo mid
  else lo
termination_by hi - lo

/-- How many of the ascending `starts` are at most `code`. -/
def rank (starts : Array Nat) (code : Nat) : Nat := rankBetween starts code 0 starts.size

/-- A function on code points that is constant on runs. -/
structure RunTable (α : Type) where
  /-- The value before the first run. -/
  outside : α
  /-- Where the runs start, ascending. -/
  starts : Array Nat
  /-- The value on each run. -/
  values : Array α

namespace RunTable

/-- The value at a code point. -/
def lookup (table : RunTable α) (code : Nat) : α :=
  match rank table.starts code with
  | 0 => table.outside
  | place + 1 => table.values.getD place table.outside

/-- Whether a yes-or-no table says yes. -/
def holds (table : RunTable Bool) (c : Char) : Bool := table.lookup c.toNat

/-- The table of a list of runs. -/
def ofRuns (outside : α) (runs : List (Nat × α)) : RunTable α where
  outside := outside
  starts := (runs.map (·.1)).toArray
  values := (runs.map (·.2)).toArray

/-- Pairs up alternating starts and codes. -/
def pairs (read : String → α) : List String → List (Nat × α)
  | start :: code :: rest => (hexValue start, read code) :: pairs read rest
  | _ => []

/-- Reads a table from lines of `START CODE START CODE …`. -/
def ofText (outside : α) (read : String → α) (lines : List String) : RunTable α :=
  ofRuns outside (pairs read (words lines))

/-- The runs of one range: `LO`, `LO-HI`, or `LO-HI/2` for every second character. -/
def rangeRuns (token : String) : List (Nat × Bool) :=
  match token.splitOn "-" with
  | [lo] => [(hexValue lo, true), (hexValue lo + 1, false)]
  | [lo, hi] =>
    match hi.splitOn "/" with
    | [last] => [(hexValue lo, true), (hexValue last + 1, false)]
    | last :: _ =>
      (List.range ((hexValue last - hexValue lo) / 2 + 1)).flatMap fun i =>
        [(hexValue lo + 2 * i, true), (hexValue lo + 2 * i + 1, false)]
    | [] => []
  | _ => []

/-- Reads a yes-or-no table from lines of ascending ranges. -/
def ofRanges (lines : List String) : RunTable Bool :=
  ofRuns false ((words lines).flatMap rangeRuns)

end RunTable

end PatternForge.Unicode
