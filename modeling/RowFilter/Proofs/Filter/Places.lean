import RowFilter.Proofs.Filter.Arguments
import RowFilter.Proofs.Filter.Reencoding
import RowFilter.Proofs.Filter.WrittenText
import RowFilter.Proofs.Json.Places

/-!
# Places of conditions in a text

Every condition of a filter that was read stands in the text as an object of its own, and its values
stand at places in it: the items of a list, or the single value.
-/

namespace RowFilter.Filter

open Json (IsLeaf Placed PlacedAt Source skipBlanks)
open Json.Placed (lastPlaced)

/-! ### Values at places -/

/-- The places of the values of a condition: those of the items of a list, or that of the only
value. -/
def argumentPlaces (members : List (String × Placed)) : List Placed :=
  match lastPlaced "value" members with
  | none => []
  | some (.array items) => items
  | some place => [place]

/-- What a condition compares with at a place. -/
def placeValue (place : Placed) : Value := Value.ofJson place.json.normalised

theorem placeValue_leaf (start : Source) :
    placeValue (.leaf start) = Value.ofJson (Json.leafValue start) := by
  rw [placeValue, Placed.json, Json.normalised_of_isLeaf (Json.isLeaf_leafValue start)]

theorem placeValue_array (items : List Placed) :
    placeValue (.array items) = .list (items.map placeValue) := by
  rw [placeValue, Placed.json, Json.normalised, Value.ofJson, Value.ofJsonItems_eq_map,
    Json.normalisedItems_eq_map, Placed.jsonItems_eq_map, List.map_map, List.map_map]
  rfl

/-- A value that holds no others is no list. -/
theorem list?_ofJson_of_isLeaf {json : Json} (leaf : IsLeaf json) :
    (Value.ofJson json).list? = none := by
  cases leaf with
  | @number _ _ _ n _ =>
      cases n with
      | integer n =>
          rw [Value.ofJson, Value.ofInt]
          split <;> rfl
      | double x => rfl
  | _ => rfl

/-- The values of a condition that mirrors an object are those at the places in it. -/
theorem values_eq_map_argumentPlaces {condition : Condition} {members : List (String × Placed)}
    (mirrors : Mirrors (.condition condition) (Placed.object members).json) :
    condition.values = (argumentPlaces members).map placeValue := by
  rw [Placed.json] at mirrors
  cases mirrors with
  | condition field operator value =>
      rw [Placed.lastNamed_eq_lastPlaced, Option.map_map] at value
      rw [Condition.values, ← value, argumentPlaces]
      cases lastPlaced "value" members with
      | none => rfl
      | some place =>
          show Validation.singleValues (placeValue place) = _
          rw [Validation.singleValues]
          cases place with
          | leaf start =>
              rw [placeValue_leaf, list?_ofJson_of_isLeaf (Json.isLeaf_leafValue start),
                List.map_singleton, placeValue_leaf]
              rfl
          | array items =>
              rw [placeValue_array]
              rfl
          | object members => rfl

/-! ### Conditions at places -/

/-- Whether a condition stands as an object somewhere in a value. -/
def StandsIn (condition : Condition) (tree : Placed) : Prop :=
  ∃ members, tree.Has (.object members) ∧
    Mirrors (.condition condition) (Placed.object members).json

namespace StandsIn

variable {condition : Condition} {place : Placed}

theorem item {items : List Placed} (stands : StandsIn condition place) (member : place ∈ items) :
    StandsIn condition (.array items) := by
  obtain ⟨members, has, mirrors⟩ := stands
  exact ⟨members, .item member has, mirrors⟩

theorem member {members : List (String × Placed)} {name : String}
    (stands : StandsIn condition place) (last : lastPlaced name members = some place) :
    StandsIn condition (.object members) := by
  obtain ⟨inner, has, mirrors⟩ := stands
  exact ⟨inner, .member (Placed.mem_of_lastPlaced last) has, mirrors⟩

end StandsIn

/-- Whether the conditions of a node stand in everything that the node mirrors. -/
private def ConditionsStand (node : Node) : Prop :=
  ∀ {tree : Placed}, Mirrors node tree.json → ∀ condition ∈ node.conditions, StandsIn condition tree

/-- The conditions of a bucket stand in what is written for it. -/
private theorem exists_standsIn_of_bucket {bucket : Option (List Node)} {place : Option Placed}
    (nodes : ∀ node ∈ bucketNodes bucket, ConditionsStand node)
    (mirrors : BucketMirrors Mirrors bucket (place.map Placed.json)) {condition : Condition}
    (member : condition ∈ (bucketNodes bucket).flatMap Node.conditions) :
    ∃ tree ∈ place, StandsIn condition tree := by
  obtain ⟨node, hnode, inNode⟩ := List.mem_flatMap.mp member
  generalize written : place.map Placed.json = whole at mirrors
  cases mirrors with
  | absent => cases hnode
  | null => cases hnode
  | list each =>
      obtain ⟨tree, present, same⟩ := Option.map_eq_some_iff.mp written
      obtain ⟨trees, rfl, rfl⟩ := Placed.exists_of_json_eq_array same
      rw [List.forall₂_map_right_iff] at each
      obtain ⟨item, hitem, mirrors⟩ := exists_of_mem_right each.flip hnode
      exact ⟨_, present, (nodes node hnode mirrors condition inNode).item hitem⟩

/-- The conditions of a group stand where its two buckets are written. -/
private theorem exists_standsIn_of_group {all any : Option (List Node)}
    {first second : Option Placed} (hall : ∀ node ∈ bucketNodes all, ConditionsStand node)
    (hany : ∀ node ∈ bucketNodes any, ConditionsStand node)
    (mirrorsAll : BucketMirrors Mirrors all (first.map Placed.json))
    (mirrorsAny : BucketMirrors Mirrors any (second.map Placed.json)) {condition : Condition}
    (member : condition ∈ (Node.group all any).conditions) :
    (∃ tree ∈ first, StandsIn condition tree) ∨ ∃ tree ∈ second, StandsIn condition tree := by
  rw [Node.conditions_group] at member
  rcases List.mem_append.mp member with inAll | inAny
  · exact .inl (exists_standsIn_of_bucket hall mirrorsAll inAll)
  · exact .inr (exists_standsIn_of_bucket hany mirrorsAny inAny)

private theorem conditionsStand (node : Node) : ConditionsStand node := by
  induction node using Node.induction with
  | condition given =>
      intro tree mirrors condition member
      rw [Node.conditions_condition] at member
      obtain rfl := List.mem_singleton.mp member
      generalize same : tree.json = whole at mirrors
      cases mirrors with
      | condition field operator value =>
          obtain ⟨trees, rfl, rfl⟩ := Placed.exists_of_json_eq_object same
          exact ⟨trees, .here _, .condition field operator value⟩
  | group all any hall hany =>
      intro tree mirrors condition member
      generalize same : tree.json = whole at mirrors
      cases mirrors with
      | object noField first second =>
          obtain ⟨trees, rfl, rfl⟩ := Placed.exists_of_json_eq_object same
          rw [Placed.lastNamed_eq_lastPlaced] at first second
          rcases exists_standsIn_of_group hall hany first second member with
            ⟨place, last, stands⟩ | ⟨place, last, stands⟩
          · exact stands.member last
          · exact stands.member last
      | list first second =>
          obtain ⟨trees, rfl, rfl⟩ := Placed.exists_of_json_eq_array same
          rw [List.getElem?_map] at first second
          rcases exists_standsIn_of_group hall hany first second member with
            ⟨place, found, stands⟩ | ⟨place, found, stands⟩
          · exact stands.item (List.mem_of_getElem? found)
          · exact stands.item (List.mem_of_getElem? found)

/-- Every condition of a node that mirrors a value stands as an object somewhere in it. -/
theorem standsIn_of_mirrors {node : Node} {tree : Placed} (mirrors : Mirrors node tree.json) :
    ∀ condition ∈ node.conditions, StandsIn condition tree :=
  conditionsStand node mirrors

/-! ### Whole texts -/

/-- Whether a value stands in a text at these places, and nothing else does. -/
def IsPlaced (text : Source) (tree : Placed) : Prop :=
  ∃ rest, PlacedAt Json.greatestDepth text tree rest ∧ skipBlanks rest = []

/-- A text has one value at most, at the same places. -/
theorem IsPlaced.unique {text : Source} {tree other : Placed} (first : IsPlaced text tree)
    (second : IsPlaced text other) : tree = other := by
  obtain ⟨_, one, _⟩ := first
  obtain ⟨_, two, _⟩ := second
  exact (one.unique two).1

/-- Every condition of a filter that was read stands as an object in the text. -/
theorem exists_isPlaced_of_parse {text : String} {filter : Group} (read : parse text = .ok filter) :
    ∃ tree, IsPlaced (Text.symbols text) tree ∧
      ∀ condition ∈ filter.conditions, StandsIn condition tree := by
  obtain ⟨rest, group, blank⟩ := Json.document_eq_ok_iff.mp read
  obtain ⟨whole, written, mirrors, _⟩ := exists_written_of_readGroup group
  obtain ⟨tree, placed, rfl⟩ := written.exists_placedAt
  exact ⟨tree, ⟨rest, placed, blank⟩, standsIn_of_mirrors mirrors⟩

end RowFilter.Filter
