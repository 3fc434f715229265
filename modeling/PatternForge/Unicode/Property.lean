import PatternForge.Unicode.Age
import PatternForge.Unicode.Script
import PatternForge.Unicode.Segmentation

/-!
Properties by name, as they are written between the braces of a property class. A query is a lone
name (`Lu`, `Greek`, `Alphabetic`), or a property with a value (`sc=Greek`, `age:4.1`), or one with
a value it must not have (`gc!=Lu`). Names are compared without case, spaces, hyphens, underscores
and a leading `is`.
-/
namespace PatternForge.Unicode.Property

/-- A property together with the value that is asked for. -/
inductive Query where
  /-- A name that stands alone. -/
  | named (name : String)
  /-- A property and its value; `wanted` is false where the value is excluded. -/
  | valued (property value : String) (wanted : Bool)
  deriving DecidableEq, Repr

/-- The first place where `mark` occurs, as the text before and after it. -/
def cutAt (mark : List Char) : List Char → Option (List Char × List Char)
  | [] => if mark.isEmpty then some ([], []) else none
  | c :: rest =>
    if mark.isPrefixOf (c :: rest) then some ([], (c :: rest).drop mark.length)
    else (cutAt mark rest).map fun cut => (c :: cut.1, cut.2)

/-- Splits the text of a property class. An exclusion sign wins over a colon, a colon over an equals
sign, wherever they stand. -/
def Query.ofText (text : String) : Query :=
  let chars := text.toList
  match cutAt ['!', '='] chars with
  | some (name, value) => .valued (String.ofList name) (String.ofList value) false
  | none =>
    match cutAt [':'] chars with
    | some (name, value) => .valued (String.ofList name) (String.ofList value) true
    | none =>
      match cutAt ['='] chars with
      | some (name, value) => .valued (String.ofList name) (String.ofList value) true
      | none => .named text

/-- The form in which names are compared. A name that is `isc` but for the ignored characters keeps
its first two letters. -/
def normalise (name : String) : String :=
  let chars := name.toList
  let headed := match chars with
    | i :: s :: _ => (i = 'i' || i = 'I') && (s = 's' || s = 'S')
    | _ => false
  let kept := (if headed then chars.drop 2 else chars).filterMap fun c =>
    if c = ' ' || c = '_' || c = '-' || 0x7F < c.toNat then none else some c.toLower
  if headed && kept = ['c'] then "isc" else String.ofList kept

/-- Groups of general categories, and the single categories, with their normalised names. -/
def categoryNames : List (List String × List GeneralCategory) :=
  [(["l", "letter"], [.Lu, .Ll, .Lt, .Lm, .Lo]),
   (["lc", "casedletter"], [.Lu, .Ll, .Lt]),
   (["lu", "uppercaseletter"], [.Lu]), (["ll", "lowercaseletter"], [.Ll]),
   (["lt", "titlecaseletter"], [.Lt]), (["lm", "modifierletter"], [.Lm]),
   (["lo", "otherletter"], [.Lo]),
   (["m", "mark", "combiningmark"], [.Mn, .Mc, .Me]),
   (["mn", "nonspacingmark"], [.Mn]), (["mc", "spacingmark"], [.Mc]),
   (["me", "enclosingmark"], [.Me]),
   (["n", "number"], [.Nd, .Nl, .No]),
   (["nd", "decimalnumber", "digit"], [.Nd]), (["nl", "letternumber"], [.Nl]),
   (["no", "othernumber"], [.No]),
   (["p", "punctuation", "punct"], [.Pc, .Pd, .Ps, .Pe, .Pi, .Pf, .Po]),
   (["pc", "connectorpunctuation"], [.Pc]), (["pd", "dashpunctuation"], [.Pd]),
   (["ps", "openpunctuation"], [.Ps]), (["pe", "closepunctuation"], [.Pe]),
   (["pi", "initialpunctuation"], [.Pi]), (["pf", "finalpunctuation"], [.Pf]),
   (["po", "otherpunctuation"], [.Po]),
   (["s", "symbol"], [.Sm, .Sc, .Sk, .So]),
   (["sm", "mathsymbol"], [.Sm]), (["sc", "currencysymbol"], [.Sc]),
   (["sk", "modifiersymbol"], [.Sk]), (["so", "othersymbol"], [.So]),
   (["z", "separator"], [.Zs, .Zl, .Zp]),
   (["zs", "spaceseparator"], [.Zs]), (["zl", "lineseparator"], [.Zl]),
   (["zp", "paragraphseparator"], [.Zp]),
   (["c", "other"], [.Cc, .Cf, .Co, .Cn]),
   (["cc", "control", "cntrl"], [.Cc]), (["cf", "format"], [.Cf]),
   (["co", "privateuse"], [.Co]), (["cn", "unassigned"], [.Cn])]

/-- The category, or group of categories, with the given normalised name. -/
def category? (name : String) : Option (Char → Bool) :=
  match name with
  | "any" => some fun _ => true
  | "ascii" => some fun c => c.toNat ≤ 0x7F
  | "assigned" => some fun c => GeneralCategory.ofChar c ≠ .Cn
  | _ => (categoryNames.find? fun entry => entry.1.contains name).map fun entry c =>
      entry.2.contains (GeneralCategory.ofChar c)

/-- The script with the given normalised name. -/
def script? (name : String) : Option (Char → Bool) :=
  (Script.named? name).map fun code c => Script.ofChar c = code

/-- A lone name is a binary property, else a general category, else a script. -/
def named? (name : String) : Option (Char → Bool) :=
  let name := normalise name
  (BinaryProperty.named? name).orElse fun _ => (category? name).orElse fun _ => script? name

/-- The characters that have the given value of a property. -/
def valued? (property value : String) : Option (Char → Bool) :=
  let value := normalise value
  match normalise property with
  | "gc" | "generalcategory" | "category" => category? value
  | "sc" | "script" => script? value
  | "scx" | "scriptextensions" => (Script.named? value).map Script.usedWith
  | "age" => (Age.named? value).map Age.assignedBy
  | "gcb" | "graphemeclusterbreak" =>
    (Segmentation.named? Segmentation.graphemeNames value).map fun code c =>
      Segmentation.grapheme c = code
  | "wb" | "wordbreak" =>
    (Segmentation.named? Segmentation.wordNames value).map fun code c => Segmentation.word c = code
  | "sb" | "sentencebreak" =>
    (Segmentation.named? Segmentation.sentenceNames value).map fun code c =>
      Segmentation.sentence c = code
  | _ => none

/-- The characters that have a property, widened by their case variants where case is ignored. A
query that names nothing, or excludes every character, has no answer. -/
def resolve (ignoringCase : Bool) (variants : Char → List Char) (text : String) :
    Option (Char → Bool) :=
  let widen (holds : Char → Bool) : Char → Bool :=
    if ignoringCase then fun c => (variants c).any holds else holds
  match Query.ofText text with
  | .named name => (named? name).map widen
  | .valued property value true => (valued? property value).map widen
  | .valued property value false =>
    if normalise value = "any" then none
    else (valued? property value).map fun holds c => !widen holds c

/-- Whether a query names a property and excludes all of its values, so that no character is left. -/
def excludesAll (text : String) : Bool :=
  match Query.ofText text with
  | .valued property value false => normalise value = "any" && (valued? property value).isSome
  | _ => false

end PatternForge.Unicode.Property
