import PatternForge.Pattern

/-!
Patterns written as text. `Pattern.render` writes what a pattern generates: a class is written as
the runs of the characters it allows. `Pattern.outline` gives one indented line to each node.
-/
namespace PatternForge.Pattern

/-- Characters with a meaning of their own, which a literal has to escape. -/
def isMeta (c : Char) : Bool :=
  ['\\', '.', '+', '*', '?', '(', ')', '|', '[', ']', '\x7b', '\x7d', '^', '$', '#', '&', '-',
    '~'].contains c

/-- A character that stands for itself. -/
def literalChar (c : Char) : List Char :=
  if isMeta c then ['\\', c] else Text.Shown.chars c

/-- A run of a class. Two neighbours are written without a hyphen. -/
def classRun (run : Char × Char) : List Char :=
  let (lo, hi) := run
  if lo = hi then literalChar lo
  else literalChar lo ++ (if hi.toNat - lo.toNat > 1 then ['-'] else []) ++ literalChar hi

/-- A set between brackets. -/
def classText (set : CharSet) : List Char := '[' :: set.runs.flatMap classRun ++ [']']

/-- An anchor. -/
def anchorText : Anchor → List Char
  | .start => ['^']
  | .finish => ['$']
  | .wordBoundary => ['\\', 'b']
  | .notWordBoundary => ['\\', 'B']

/-- A repetition operator, in its shortest form. -/
def boundsText (bounds : Bounds) : List Char :=
  let count :=
    match bounds.least.toNat, bounds.most.map UInt32.toNat with
    | 0, some 1 => ['?']
    | 0, none => ['*']
    | 1, none => ['+']
    | least, none => '\x7b' :: Text.decimal least ++ [',', '\x7d']
    | least, some most =>
      if least = most then '\x7b' :: Text.decimal least ++ ['\x7d']
      else '\x7b' :: Text.decimal least ++ ',' :: Text.decimal most ++ ['\x7d']
  count ++ if bounds.greedy then [] else ['?']

/-- Text that is kept together by a group without a number. -/
def grouped (wrap : Bool) (text : List Char) : List Char :=
  if wrap then ['(', '?', ':'] ++ text ++ [')'] else text

/-- Whether the text of a pattern starts with a digit, which must not follow a reference. -/
def startsWithDigit : Pattern → Bool
  | literal text =>
    match text.toList with
    | c :: _ => c.isDigit
    | [] => false
  | repetition _ body => startsWithDigit body
  | sequence (item :: _) => startsWithDigit item
  | _ => false

/-- Whether a pattern is an alternation. -/
def isAlternation : Pattern → Bool
  | alternation _ => true
  | _ => false

/-- Whether a pattern is a reference. -/
def isBackreference : Pattern → Bool
  | backreference _ => true
  | _ => false

mutual

/-- The text of a pattern. With `wrap`, a pattern to which an operator would not bind as a whole is
put into a group. -/
def text (wrap : Bool) (p : Pattern) : List Char :=
  match p with
  | literal s => grouped (wrap && s.toList.length ≠ 1) (s.toList.flatMap literalChar)
  | oneOf cls => classText cls.effective
  | anchor kind => anchorText kind
  | sequence items => grouped (wrap && items.length ≠ 1) (sequenceText false items)
  | alternation branches => grouped wrap (branchesText branches)
  | repetition bounds body => grouped wrap (text true body ++ boundsText bounds)
  | group _ none body => '(' :: text false body ++ [')']
  | group _ (some name) body => ['(', '?', '<'] ++ name.toList ++ '>' :: text false body ++ [')']
  | backreference index => '\\' :: Text.decimal index

/-- The text of items in a row. A digit after a reference would be read as part of it. -/
def sequenceText (afterReference : Bool) (items : List Pattern) : List Char :=
  match items with
  | [] => []
  | item :: rest =>
    (if afterReference && startsWithDigit item then grouped true (text false item)
     else text (isAlternation item) item) ++
      sequenceText (isBackreference item) rest

/-- The text of branches, bars between them. -/
def branchesText (branches : List Pattern) : List Char :=
  match branches with
  | [] => []
  | [branch] => text false branch
  | branch :: rest => text false branch ++ '|' :: branchesText rest

end

/-- The pattern as text. -/
def render (p : Pattern) : String := String.ofList (text false p)

/-- One node in words; leaves are written out. -/
def summary (p : Pattern) : String :=
  match p with
  | literal _ | oneOf _ | anchor _ | backreference _ => p.render
  | sequence items => s!"sequence ({items.length} items)"
  | alternation branches => s!"alternation ({branches.length} branches)"
  | repetition bounds _ => "repeat " ++ String.ofList (boundsText bounds)
  | group index none _ => s!"group {index}"
  | group index (some name) _ => s!"group {index} <{name}>"

/-- The lines of the outline, two spaces deeper for each level. -/
def outlineLines (p : Pattern) : List String :=
  p.walk.map fun node => String.ofList (List.replicate (2 * node.1) ' ') ++ node.2.summary

/-- One line for each node in pre-order. -/
def outline (p : Pattern) : String := String.join (p.outlineLines.map (· ++ "\n"))

end PatternForge.Pattern
