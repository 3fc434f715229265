import PatternForge.Random.Keystream

/-!
Sources of random words and uniform choices from them. A source either plays a list of words and
then a mixed counter, or a keystream. Choices are made by widening multiplication: the draw is
scaled to the range, and a draw whose low half falls into the uneven rest is thrown away.
-/
namespace PatternForge

/-- A source of random words. -/
inductive Source where
  /-- The words of a list, and after them the images of a counter. -/
  | scripted (words : List UInt64) (counter : UInt64)
  /-- A keystream, whose words have 32 bits. -/
  | keyed (stream : Keystream)
  deriving DecidableEq, Repr

namespace Source

/-- The next value of the counter and the word that it is mixed to. -/
def mix (counter : UInt64) : UInt64 × UInt64 :=
  let state := counter + 0x9E3779B97F4A7C15
  let z := (state ^^^ (state >>> 30)) * 0xBF58476D1CE4E5B9
  let z := (z ^^^ (z >>> 27)) * 0x94D049BB133111EB
  (state, z ^^^ (z >>> 31))

/-- The next 64 bits. A keystream gives the low half first. -/
def next64 : Source → UInt64 × Source
  | scripted (word :: rest) counter => (word, scripted rest counter)
  | scripted [] counter =>
    let (counter', word) := mix counter
    (word, scripted [] counter')
  | keyed stream =>
    let (low, stream) := stream.next
    let (high, stream) := stream.next
    (low.toUInt64 ||| (high.toUInt64 <<< 32), keyed stream)

/-- The next 32 bits, for which a source of longer words gives up a whole word. -/
def next32 : Source → UInt32 × Source
  | keyed stream =>
    let (word, stream) := stream.next
    (word, keyed stream)
  | source =>
    let (word, source) := source.next64
    (word.toUInt32, source)

/-- Whether a draw of `width` bits is even-handed for a range: its low half, once it is scaled to
the range, lies in the largest multiple of the range that has the same leading bit as the width. -/
def accepts (width range draw : Nat) : Bool :=
  (draw * range) % (1 <<< width) ≤ (range <<< (width - (range.log2 + 1))) - 1

/-- A number below `range`, by draws of `width` bits. Past `tries` refused draws the next one is
taken as it is, so that the choice ends for every source. -/
def scaled (width : Nat) (draw : Source → Nat × Source) (range : Nat) :
    Nat → Source → Nat × Source
  | 0, source =>
    let (v, source) := draw source
    ((v * range) >>> width, source)
  | tries + 1, source =>
    let (v, source) := draw source
    if accepts width range v then ((v * range) >>> width, source)
    else scaled width draw range tries source

/-- How many refused draws are put up with. At least one draw in two is taken. -/
def patience : Nat := 1 <<< 62

/-- A number below `n`. -/
def below (source : Source) (n : Nat) : Nat × Source :=
  scaled 64 (fun source => (source.next64.1.toNat, source.next64.2)) n patience source

/-- A number from `lo` to `hi`. The full range takes one draw as it is. -/
def between (source : Source) (lo hi : UInt32) : UInt32 × Source :=
  let range := hi - lo + 1
  if range = 0 then source.next32
  else
    let (offset, source) :=
      scaled 32 (fun source => (source.next32.1.toNat, source.next32.2)) range.toNat patience source
    (lo + offset.toUInt32, source)

end Source

end PatternForge
