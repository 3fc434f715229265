/-!
Bytes as text. A sequence of bytes falls into characters and broken pieces, each the longest start
of a character that goes wrong; text is what has no broken pieces.
-/
namespace PatternForge.Text.Utf8

/-- What a sequence of bytes consists of. -/
inductive Piece where
  /-- A character. -/
  | char (c : Char)
  /-- Bytes that are no character. -/
  | broken (bytes : List UInt8)
  deriving DecidableEq, Repr

/-- The bounds of the second byte of a character, by its first byte. -/
def secondBounds? (first : UInt8) : Option (UInt8 × UInt8) :=
  if 0xC2 ≤ first && first ≤ 0xDF then some (0x80, 0xBF)
  else if first = 0xE0 then some (0xA0, 0xBF)
  else if first = 0xED then some (0x80, 0x9F)
  else if 0xE1 ≤ first && first ≤ 0xEF then some (0x80, 0xBF)
  else if first = 0xF0 then some (0x90, 0xBF)
  else if first = 0xF4 then some (0x80, 0x8F)
  else if 0xF1 ≤ first && first ≤ 0xF3 then some (0x80, 0xBF)
  else none

/-- Whether a byte continues a character after the second byte. -/
def isTail (b : UInt8) : Bool := 0x80 ≤ b && b ≤ 0xBF

/-- The character of a first byte, of which `bits` are kept, and tails of six bits each. -/
def assembled (first : UInt8) (bits : Nat) (tails : List UInt8) : Piece :=
  .char <| Char.ofNat <|
    tails.foldl (fun code b => 64 * code + b.toNat % 64) (first.toNat % (1 <<< bits))

/-- The first piece of a sequence of bytes, and how many bytes behind the first it takes. -/
def firstPiece (a : UInt8) (rest : List UInt8) : Piece × Nat :=
  if a < 0x80 then (assembled a 7 [], 0)
  else
    match secondBounds? a, rest with
    | some (lo, hi), b :: rest =>
      if !(lo ≤ b && b ≤ hi) then (.broken [a], 0)
      else if a < 0xE0 then (assembled a 5 [b], 1)
      else
        match rest with
        | c :: rest =>
          if !isTail c then (.broken [a, b], 1)
          else if a < 0xF0 then (assembled a 4 [b, c], 2)
          else
            match rest with
            | d :: _ =>
              if isTail d then (assembled a 3 [b, c, d], 3) else (.broken [a, b, c], 2)
            | [] => (.broken [a, b, c], 2)
        | [] => (.broken [a, b], 1)
    | _, _ => (.broken [a], 0)

/-- The pieces of a sequence of bytes. -/
def pieces : List UInt8 → List Piece
  | [] => []
  | a :: rest =>
    let (piece, count) := firstPiece a rest
    piece :: pieces (rest.drop count)
termination_by bytes => bytes.length
decreasing_by
  simp only [List.length_drop, List.length_cons]
  omega

/-- The text of some pieces, if none is broken. -/
def textOf? : List Piece → Option (List Char)
  | [] => some []
  | .char c :: rest => (textOf? rest).map (c :: ·)
  | .broken _ :: _ => none

/-- The text that some bytes are. -/
def decode? (bytes : List UInt8) : Option String := (textOf? (pieces bytes)).map String.ofList

/-- The text that some bytes are most like: a replacement character stands for each broken piece. -/
def lossy (bytes : List UInt8) : String :=
  String.ofList ((pieces bytes).map fun
    | .char c => c
    | .broken _ => Char.ofNat 0xFFFD)

end PatternForge.Text.Utf8
