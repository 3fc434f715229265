import PatternForge.Proofs.Pattern.Nodes
import PatternForge.Reading.Parser

/-! Trees with other classes in the same places. Putting trees together looks at no class, so it does not
matter whether the classes are changed before or after. -/
namespace PatternForge.Pattern

mutual

/-- The pattern with its classes changed. -/
def mapClasses (f : CharClass → CharClass) (p : Pattern) : Pattern :=
  match p with
  | literal text => literal text
  | oneOf cls => oneOf (f cls)
  | anchor kind => anchor kind
  | sequence items => sequence (mapClassesAll f items)
  | alternation branches => alternation (mapClassesAll f branches)
  | repetition bounds body => repetition bounds (mapClasses f body)
  | group index name body => group index name (mapClasses f body)
  | backreference index => backreference index

/-- Several patterns with their classes changed. -/
def mapClassesAll (f : CharClass → CharClass) (ps : List Pattern) : List Pattern :=
  match ps with
  | [] => []
  | p :: rest => mapClasses f p :: mapClassesAll f rest

end

variable {f : CharClass → CharClass}

theorem mapClassesAll_eq_map (ps : List Pattern) : mapClassesAll f ps = ps.map (mapClasses f) := by
  induction ps with
  | nil => rfl
  | cons p rest ih => rw [mapClassesAll, ih, List.map_cons]

private theorem pushMerging_mapClasses (items : List Pattern) (item : Pattern) :
    pushMerging (items.map (mapClasses f)) (item.mapClasses f) =
      (pushMerging items item).map (mapClasses f) := by
  cases items with
  | nil => cases item <;> rfl
  | cons first rest => cases first <;> cases item <;> rfl

private theorem foldl_mapClasses (items latestFirst : List Pattern) :
    (items.map (mapClasses f)).foldl pushMerging (latestFirst.map (mapClasses f)) =
      (items.foldl pushMerging latestFirst).map (mapClasses f) := by
  induction items generalizing latestFirst with
  | nil => rfl
  | cons item rest ih =>
    rw [List.map_cons, List.foldl_cons, pushMerging_mapClasses, ih, List.foldl_cons]

private theorem spliced_mapClasses (p : Pattern) :
    (p.mapClasses f).spliced = p.spliced.map (mapClasses f) := by
  cases p with
  | sequence items => exact mapClassesAll_eq_map items
  | literal _ | oneOf _ | anchor _ | alternation _ | repetition _ _ | group _ _ _ | backreference _ => rfl

theorem flattened_mapClasses (items : List Pattern) :
    flattened (items.map (mapClasses f)) = (flattened items).map (mapClasses f) := by
  have parts : (items.map (mapClasses f)).flatMap spliced =
      (items.flatMap spliced).map (mapClasses f) := by
    simp only [List.flatMap_map, List.map_flatMap, spliced_mapClasses]
  rw [flattened, parts]
  exact foldl_mapClasses _ []

theorem concat_mapClasses (items : List Pattern) :
    concat (items.map (mapClasses f)) = (concat items).mapClasses f := by
  unfold concat
  rw [flattened_mapClasses]
  match flattened items with
  | [] => rfl
  | [item] => rfl
  | first :: second :: rest => simp [mapClasses, mapClassesAll_eq_map]

theorem choice_mapClasses (branches : List Pattern) :
    choice (branches.map (mapClasses f)) = (choice branches).mapClasses f := by
  match branches with
  | [] => rfl
  | [branch] => rfl
  | first :: second :: rest => simp [choice, mapClasses, mapClassesAll_eq_map]

theorem ofLevel_mapClasses (branches items : List Pattern) :
    ofLevel (branches.map (mapClasses f)) (items.map (mapClasses f)) =
      (ofLevel branches items).mapClasses f := by
  unfold ofLevel
  rw [← choice_mapClasses, List.map_reverse, List.map_cons, ← concat_mapClasses, List.map_reverse]

end PatternForge.Pattern
