import RowFilter.Proofs.Json.AsWritten

/-!
# Places of values in a text

A value as it is written can be kept with the places in the text where its leaves stand, so that
what a leaf was read as can be compared with its characters. At the place of a leaf stands all that
follows in the text as well.
-/

namespace RowFilter.Json

open RowFilter.Filter

/-- A value as it is written, with the places of the values that hold no others. -/
inductive Placed where
  /-- A value that holds no others, at its place. -/
  | leaf (start : Source)
  /-- Values in a row. -/
  | array (items : List Placed)
  /-- Values by name, in the order in which they stand. -/
  | object (members : List (String × Placed))

/-- The value that is read at the place of a leaf: one without brackets and braces. -/
def leafValue (start : Source) : Json :=
  match plain 0 start with
  | .ok (read, _) => read
  | .error _ => .null

theorem leafValue_eq {start rest : Source} {read : Json}
    (given : plain 0 start = .ok (read, rest)) : leafValue start = read := by
  rw [leafValue, given]

/-- At the place of a leaf stands neither a list nor an object. -/
theorem isLeaf_leafValue (start : Source) : IsLeaf (leafValue start) := by
  unfold leafValue
  split
  · rename_i read rest given
    cases readAs_of_value given with
    | leaf leaf noBracket noBrace alone => exact leaf
  · exact .null

namespace Placed

variable {part tree : Placed}

mutual

/-- The value that is written. -/
def json : Placed → Json
  | .leaf start => leafValue start
  | .array items => .array (jsonItems items)
  | .object members => .object (jsonMembers members)

/-- The values that are written. -/
def jsonItems : List Placed → List Json
  | [] => []
  | item :: rest => json item :: jsonItems rest

/-- The members that are written. -/
def jsonMembers : List (String × Placed) → List (String × Json)
  | [] => []
  | (name, tree) :: rest => (name, json tree) :: jsonMembers rest

end

theorem jsonItems_eq_map (items : List Placed) : jsonItems items = items.map json := by
  induction items with
  | nil => rfl
  | cons item rest ih => rw [jsonItems, ih, List.map_cons]

theorem jsonMembers_eq_map (members : List (String × Placed)) :
    jsonMembers members = members.map fun member => (member.1, member.2.json) := by
  induction members with
  | nil => rfl
  | cons member rest ih => rw [jsonMembers, ih, List.map_cons]

/-- What is written as a list has places for its items. -/
theorem exists_of_json_eq_array {items : List Json} (same : tree.json = .array items) :
    ∃ trees, tree = .array trees ∧ items = trees.map json := by
  cases tree with
  | leaf start =>
      have leaf := isLeaf_leafValue start
      rw [show leafValue start = .array items from same] at leaf
      cases leaf
  | array trees =>
      obtain rfl := Json.array.inj same
      exact ⟨trees, rfl, jsonItems_eq_map trees⟩
  | object members => cases same

/-- What is written as an object has places for its members. -/
theorem exists_of_json_eq_object {members : List (String × Json)}
    (same : tree.json = .object members) :
    ∃ trees, tree = .object trees ∧ members = jsonMembers trees := by
  cases tree with
  | leaf start =>
      have leaf := isLeaf_leafValue start
      rw [show leafValue start = .object members from same] at leaf
      cases leaf
  | array trees => cases same
  | object trees =>
      obtain rfl := Json.object.inj same
      exact ⟨trees, rfl, rfl⟩

/-- Whether a value with its places is part of another one. -/
inductive Has : Placed → Placed → Prop
  | here (tree : Placed) : Has tree tree
  | item {items : List Placed} {item part : Placed} (member : item ∈ items)
      (inItem : Has item part) : Has (.array items) part
  | member {members : List (String × Placed)} {name : String} {tree part : Placed}
      (member : (name, tree) ∈ members) (inTree : Has tree part) : Has (.object members) part

/-- The last member of a name, with its places. -/
def lastPlaced (name : String) (members : List (String × Placed)) : Option Placed :=
  ((members.filter fun member => member.1 == name).map Prod.snd).getLast?

theorem lastNamed_eq_lastPlaced (name : String) (members : List (String × Placed)) :
    lastNamed name (jsonMembers members) = (lastPlaced name members).map json := by
  rw [jsonMembers_eq_map, lastNamed, valuesNamed, lastPlaced, List.filter_map, List.map_map,
    ← List.getLast?_map, List.map_map]
  rfl

theorem mem_of_lastPlaced {name : String} {members : List (String × Placed)}
    (last : lastPlaced name members = some tree) : (name, tree) ∈ members := by
  obtain ⟨⟨key, found⟩, selected, rfl⟩ := List.mem_map.mp (List.mem_of_getLast? last)
  obtain ⟨member, same⟩ := List.mem_filter.mp selected
  obtain rfl : key = name := by simpa using same
  exact member

end Placed

/-- Reads a member of an object with its places, after the members before it. -/
def placedMember (tree : Source → Attempt (Placed × Source)) (name : String)
    (members : List (String × Placed)) (text : Source) :
    Attempt (List (String × Placed) × Source) := do
  let rest ← colon text
  let (read, rest) ← tree rest
  return (members ++ [(name, read)], rest)

/-- Reads a value as it is written, with its places. The first argument bounds the steps; the second
is how many lists and objects may still be opened inside one another. -/
def placed : Nat → Nat → Source → Attempt (Placed × Source)
  | 0, _, text => .error (.at .endInValue text 0)
  | bound + 1, depth, text =>
    match skipBlanks text with
    | .char '[' :: rest =>
      nested depth (.char '[' :: rest) fun depth => do
        let (items, rest) ← enclosed closeList (listItems (placed bound depth) bound true) rest
        return (.array items, rest)
    | .char '{' :: rest =>
      nested depth (.char '{' :: rest) fun depth => do
        let (members, rest) ←
          enclosed closeObject (objectMembers (placedMember (placed bound depth)) bound true [])
            rest
        return (.object members, rest)
    | _ => (value 1 depth text).map fun read => (.leaf text, read.2)

/-- Whether a text starts with a value as it is written, at these places: with enough steps it is
read so. -/
def PlacedAt (depth : Nat) (text : Source) (tree : Placed) (rest : Source) : Prop :=
  FromSomeBound fun bound => placed bound depth text = .ok (tree, rest)

namespace PlacedAt

variable {depth : Nat} {text rest inner last : Source} {tree : Placed}

/-- A text starts with one value at most, at the same places. -/
theorem unique {other : Placed} {after : Source} (first : PlacedAt depth text tree rest)
    (second : PlacedAt depth text other after) : tree = other ∧ rest = after := by
  obtain ⟨bound, one, two⟩ := (FromSomeBound.and first second).exists_bound
  rw [one] at two
  exact Prod.mk.inj (Except.ok.inj two)

/-- What is read without brackets and braces is a leaf. -/
theorem leaf (noBracket : ∀ inner, skipBlanks text ≠ .char '[' :: inner)
    (noBrace : ∀ inner, skipBlanks text ≠ .char '{' :: inner) {read : Json}
    (given : Json.value 1 depth text = .ok (read, rest)) :
    PlacedAt depth text (.leaf text) rest := by
  refine .of_succ 0 (.of_forall fun more _ => ?_)
  rw [placed]
  split
  · exact absurd ‹_› (noBracket _)
  · exact absurd ‹_› (noBrace _)
  · rw [given]
    rfl

theorem array {items : List Placed} {rounds : Nat} (bracket : skipBlanks text = .char '[' :: inner)
    (each : FromSomeBound fun bound => ∀ more, rounds ≤ more →
      listItems (placed bound depth) more true inner = .ok (items, last))
    (closed : closeList last = ⟨none, rest⟩) : PlacedAt (depth + 1) text (.array items) rest := by
  refine .of_succ rounds (each.mono fun bound reads enough => ?_)
  have read : enclosed closeList (listItems (placed bound depth) bound true) inner =
      .ok (items, rest) := enclosed_eq_ok_iff.mpr ⟨last, reads bound enough, closed⟩
  simp only [placed, bracket, nested, read, ok_bind]
  rfl

theorem object {members : List (String × Placed)} {rounds : Nat}
    (brace : skipBlanks text = .char '{' :: inner)
    (each : FromSomeBound fun bound => ∀ more, rounds ≤ more →
      objectMembers (placedMember (placed bound depth)) more true [] inner = .ok (members, last))
    (closed : closeObject last = ⟨none, rest⟩) :
    PlacedAt (depth + 1) text (.object members) rest := by
  refine .of_succ rounds (each.mono fun bound reads enough => ?_)
  have read : enclosed closeObject (objectMembers (placedMember (placed bound depth)) bound true [])
      inner = .ok (members, rest) := enclosed_eq_ok_iff.mpr ⟨last, reads bound enough, closed⟩
  simp only [placed, brace, nested, read, ok_bind]
  rfl

theorem member {name : String} {members : List (String × Placed)} {start : Source}
    (mark : colon text = .ok start) (given : PlacedAt depth start tree rest) :
    FromSomeBound fun bound => placedMember (placed bound depth) name members text =
      .ok (members ++ [(name, tree)], rest) := by
  refine given.mono fun bound read => ?_
  simp only [placedMember, mark, read, ok_bind]
  rfl

end PlacedAt

/-- Where a reader of values is matched by values with places, so is the reader of members. -/
theorem exists_placedMember {reader : Source → Attempt (Json × Source)} {depth : Nat}
    (each : ∀ {text rest : Source} {read : Json}, reader text = .ok (read, rest) →
      ∃ tree, PlacedAt depth text tree rest ∧ read = tree.json)
    {name : String} {members more : List (String × Json)} {trees : List (String × Placed)}
    {text rest : Source} (same : members = Placed.jsonMembers trees)
    (given : writtenMember reader name members text = .ok (more, rest)) :
    ∃ others, (FromSomeBound fun bound => placedMember (placed bound depth) name trees text =
      .ok (others, rest)) ∧ more = Placed.jsonMembers others := by
  obtain ⟨start, mark, body⟩ := (bind_eq_ok_iff _ _ _).mp given
  obtain ⟨⟨read, after⟩, done, last⟩ := (bind_eq_ok_iff _ _ _).mp body
  obtain ⟨rfl, rfl⟩ := Prod.mk.inj (Except.ok.inj last)
  obtain ⟨tree, reads, rfl⟩ := each done
  refine ⟨trees ++ [(name, tree)], PlacedAt.member mark reads, ?_⟩
  rw [same, Placed.jsonMembers_eq_map, Placed.jsonMembers_eq_map, List.map_append]
  rfl

/-- What is written in a text stands there at places. -/
theorem exists_placedAt_of_written {bound depth : Nat} {text rest : Source} {read : Json}
    (given : written bound depth text = .ok (read, rest)) :
    ∃ tree, PlacedAt depth text tree rest ∧ read = tree.json := by
  induction bound generalizing depth text rest read with
  | zero => cases given
  | succ bound ih =>
      rw [written] at given
      split at given
      · rename_i inner bracket
        obtain ⟨less, rfl, body⟩ := nested_eq_ok_iff.mp given
        obtain ⟨⟨items, after⟩, list, same⟩ := (bind_eq_ok_iff _ _ _).mp body
        obtain ⟨rfl, rfl⟩ := Prod.mk.inj (Except.ok.inj same)
        obtain ⟨last, each, closed⟩ := enclosed_eq_ok_iff.mp list
        obtain ⟨trees, reads, related⟩ := listItems_related each fun _ _ _ done => ih done
        refine ⟨.array trees, .array bracket reads closed, ?_⟩
        rw [Placed.json, Placed.jsonItems_eq_map,
          map_eq_map_of_forall₂ related fun _ _ _ same => same.symm, List.map_id']
      · rename_i inner brace
        obtain ⟨less, rfl, body⟩ := nested_eq_ok_iff.mp given
        obtain ⟨⟨members, after⟩, object, same⟩ := (bind_eq_ok_iff _ _ _).mp body
        obtain ⟨rfl, rfl⟩ := Prod.mk.inj (Except.ok.inj same)
        obtain ⟨last, each, closed⟩ := enclosed_eq_ok_iff.mp object
        obtain ⟨trees, reads, same⟩ := objectMembers_related
          (R := fun members trees => members = Placed.jsonMembers trees) each
          (show [] = Placed.jsonMembers [] from rfl) fun _ _ _ _ _ _ => exists_placedMember ih
        refine ⟨.object trees, .object brace reads closed, ?_⟩
        rw [Placed.json, same]
      · rename_i noBracket noBrace
        refine ⟨.leaf text, .leaf noBracket noBrace given, ?_⟩
        cases readAs_of_value given with
        | leaf leaf _ _ alone => exact (leafValue_eq (alone _ _)).symm
        | array bracket _ => exact absurd bracket (noBracket _)
        | object brace _ => exact absurd brace (noBrace _)

/-- The value that is written in a text, and the one that stands there with its places, are one. -/
theorem WrittenAt.exists_placedAt {depth : Nat} {text rest : Source} {whole : Json}
    (given : WrittenAt depth text whole rest) :
    ∃ tree, PlacedAt depth text tree rest ∧ whole = tree.json := by
  obtain ⟨bound, read⟩ := FromSomeBound.exists_bound given
  exact exists_placedAt_of_written read

end RowFilter.Json
