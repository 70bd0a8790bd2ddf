import Mathlib.Data.List.Forall2
import RowFilter.Proofs.Json.PrintedCollections
import RowFilter.Proofs.Json.PrintedNumbers
import RowFilter.Proofs.Json.Readable

/-!
# Values read back

A value that was read, written again, is read as itself, if each double in it is what its own text
is read as.
-/

namespace RowFilter.Json

open Number Text

mutual

/-- The doubles of a value, in their order. -/
def doubles : Json → List Double
  | .number (.double x) => [x]
  | .array items => doublesOfItems items
  | .object members => doublesOfMembers members
  | _ => []

/-- The doubles of each value. -/
def doublesOfItems : List Json → List Double
  | [] => []
  | item :: rest => doubles item ++ doublesOfItems rest

/-- The doubles of each member's value. -/
def doublesOfMembers : List (String × Json) → List Double
  | [] => []
  | (_, value) :: rest => doubles value ++ doublesOfMembers rest

end

/-- Whether each double of a value is what its own text is read as. -/
def DoublesReadBack (value : Json) : Prop := ∀ x ∈ value.doubles, ReadsBack x

instance (value : Json) : Decidable value.DoublesReadBack :=
  inferInstanceAs (Decidable (∀ x ∈ value.doubles, ReadsBack x))

theorem doublesOfItems_eq_flatMap (items : List Json) :
    doublesOfItems items = items.flatMap doubles := by
  induction items with
  | nil => rfl
  | cons item rest ih => rw [doublesOfItems, ih, List.flatMap_cons]

theorem doublesOfMembers_eq_flatMap (members : List (String × Json)) :
    doublesOfMembers members = members.flatMap fun member => member.2.doubles := by
  induction members with
  | nil => rfl
  | cons member rest ih => rw [doublesOfMembers, ih, List.flatMap_cons]

theorem DoublesReadBack.number {n : Numeral} (back : DoublesReadBack (.number n)) (x : Double)
    (same : n = .double x) : ReadsBack x := by
  subst same
  refine back x ?_
  rw [doubles]
  exact List.mem_singleton_self x

theorem DoublesReadBack.item {items : List Json} (back : DoublesReadBack (.array items))
    {item : Json} (hitem : item ∈ items) : DoublesReadBack item := by
  intro x hx
  refine back x ?_
  rw [doubles, doublesOfItems_eq_flatMap]
  exact List.mem_flatMap.mpr ⟨item, hitem, hx⟩

theorem DoublesReadBack.member {members : List (String × Json)}
    (back : DoublesReadBack (.object members)) {member : String × Json}
    (hmember : member ∈ members) : DoublesReadBack member.2 := by
  intro x hx
  refine back x ?_
  rw [doubles, doublesOfMembers_eq_flatMap]
  exact List.mem_flatMap.mpr ⟨member, hmember, hx⟩

theorem charsOfItems_eq_map (items : List Json) : charsOfItems items = items.map chars := by
  induction items with
  | nil => rfl
  | cons item rest ih => rw [charsOfItems, ih, List.map_cons]

theorem charsOfMembers_eq_map (members : List (String × Json)) :
    charsOfMembers members = members.map fun member => (member.1, member.2.chars) := by
  induction members with
  | nil => rfl
  | cons member rest ih => rw [charsOfMembers, ih, List.map_cons]

/-! ### Values of each kind -/

/-- Whether a row of characters is read as a value, where so many lists and objects may still be
opened, with any number of steps beyond its length. -/
def Spells (depth : Nat) (row : List Char) (value : Json) : Prop :=
  ∀ bound, row.length ≤ bound → ReadsRow (Json.value (bound + 1) depth) row value

variable {depth : Nat}

theorem spells_numeralChars {n : Numeral} (range : n.InRange)
    (back : DoublesReadBack (.number n)) : Spells depth (numeralChars n) (.number n) := by
  refine fun bound _ => ⟨?_, value_numeralChars range back.number⟩
  have written : numeralChars n ≠ [] := by
    intro none
    -- Nothing would be read as a number.
    have read := @value_numeralChars 0 0 [] n range back.number stopsNumber_nil
    rw [none] at read
    cases read
  obtain ⟨c, more, same⟩ := List.exists_cons_of_ne_nil written
  have number := isNumberChar_of_mem_numeralChars range (c := c) (by simp [same])
  exact ⟨c, more, same, number.isBlank, number.ne_bracket⟩

theorem text_string (text : String) :
    (Json.string text).text = String.ofList (stringChars text) := by
  rw [Json.text, chars]

theorem spells_stringChars (text : String) : Spells depth (stringChars text) (.string text) := by
  refine fun bound _ => ⟨⟨'"', _, rfl, by decide, by decide⟩, fun {rest} _ => ?_⟩
  have step : value (bound + 1) depth
      (.char '"' :: ((text.toList.flatMap escapedChar).map .char ++ .char '"' :: rest)) =
        (stringToken ((text.toList.flatMap escapedChar).map .char ++ .char '"' :: rest)).bind
          fun read => .ok (.string read.1, read.2) := rfl
  rw [map_stringChars_append, step, stringToken_escapedChars]
  rfl

theorem spells_arrayChars {rows : List (List Char)} {items : List Json}
    (each : List.Forall₂ (Spells depth) rows items) :
    Spells (depth + 1) (arrayChars rows) (.array items) := by
  intro bound enough
  refine ⟨⟨'[', _, rfl, by decide, by decide⟩, fun {rest} _ => ?_⟩
  rw [length_arrayChars] at enough
  obtain ⟨less, rfl⟩ : ∃ less, bound = less + 1 := ⟨bound - 1, by omega⟩
  have within : ∀ row ∈ rows, row.length ≤ less := fun row hrow =>
    (length_le_of_mem hrow).trans (by omega)
  have reads : List.Forall₂ (ReadsRow (value (less + 1) depth)) rows items :=
    ((List.forall₂_and_left rows items).mpr ⟨within, each⟩).imp fun _ _ one => one.2 less one.1
  have count := length_le_commaSeparated rows
  have step : ∀ inner, value (less + 1 + 1) (depth + 1) (.char '[' :: inner) =
      (enclosed closeList (listItems (value (less + 1) depth) (less + 1) true) inner).bind
        fun read => .ok (.array read.1, read.2) := fun _ => rfl
  rw [map_arrayChars_append, step, enclosed_arrayChars reads (by omega)]
  rfl

/-- Whether a named row of characters is read as a member of its name. -/
structure SpellsMember (depth : Nat) (named : String × List Char) (member : String × Json) :
    Prop where
  /-- The name is the member's. -/
  name_eq : named.1 = member.1
  /-- The row is read as the member's value. -/
  spells : Spells depth named.2 member.2

theorem Spells.named {row : List Char} {value : Json} (spells : Spells depth row value)
    (name : String) : SpellsMember depth (name, row) (name, value) :=
  ⟨rfl, spells⟩

/-- Rows that are read as members are collected in the order of the names. -/
theorem collectsRows_insertMember {bound : Nat} {named : List (String × List Char)}
    {members : List (String × Json)} (each : List.Forall₂ (SpellsMember depth) named members)
    (within : ∀ row ∈ named, row.2.length ≤ bound) (before : List (String × Json)) :
    CollectsRows (plainMember (value (bound + 1) depth)) before named
      (members.foldl (fun members pair => insertMember pair.1 pair.2 members) before) := by
  induction each generalizing before with
  | nil => exact .nil before
  | @cons row member named members head tail ih =>
      obtain ⟨name, chars⟩ := row
      obtain ⟨rfl, spells⟩ := head
      rw [List.forall_mem_cons] at within
      refine .cons (fun stops => ?_) (ih within.2 (insertMember member.1 member.2 before))
      exact plainMember_eq_ok_iff.mpr
        ⟨_, member.2, rfl, (spells bound within.1).reads stops, rfl⟩

theorem spells_objectChars {named : List (String × List Char)} {members : List (String × Json)}
    (each : List.Forall₂ (SpellsMember depth) named members) :
    Spells (depth + 1) (objectChars named) (.object (membersOf members)) := by
  intro bound enough
  refine ⟨⟨'{', _, rfl, by decide, by decide⟩, fun {rest} _ => ?_⟩
  rw [length_objectChars] at enough
  obtain ⟨less, rfl⟩ : ∃ less, bound = less + 1 := ⟨bound - 1, by omega⟩
  have within : ∀ row ∈ named, row.2.length ≤ less := fun row hrow =>
    (length_lt_memberRows hrow).le.trans (by omega)
  have collects := collectsRows_insertMember each within []
  have count := length_le_memberRows named
  have step : ∀ inner, value (less + 1 + 1) (depth + 1) (.char '{' :: inner) =
      (enclosed closeObject
        (objectMembers (plainMember (value (less + 1) depth)) (less + 1) true []) inner).bind
          fun read => .ok (.object read.1, read.2) := fun _ => rfl
  rw [map_objectChars_append, step, enclosed_objectChars collects (by omega)]
  rfl

/-! ### All values -/

theorem spells_null : Spells depth (chars .null) .null :=
  fun _ _ => ⟨⟨'n', _, by rw [chars], by decide, by decide⟩, fun _ => by rw [chars]; rfl⟩

theorem spells_boolean (b : Bool) : Spells depth (chars (.boolean b)) (.boolean b) := by
  intro bound _
  cases b with
  | true => exact ⟨⟨'t', _, by rw [chars], by decide, by decide⟩, fun _ => by rw [chars]; rfl⟩
  | false => exact ⟨⟨'f', _, by rw [chars], by decide, by decide⟩, fun _ => by rw [chars]; rfl⟩

/-- A readable value that is written is read as itself. -/
theorem spells_chars {value : Json} (readable : Readable depth value)
    (back : DoublesReadBack value) : Spells depth value.chars value := by
  induction readable with
  | null => exact spells_null
  | boolean b => exact spells_boolean b
  | string text =>
      rw [chars]
      exact spells_stringChars text
  | number range =>
      rw [chars]
      exact spells_numeralChars range back
  | @array depth items each ih =>
      rw [chars, charsOfItems_eq_map]
      refine spells_arrayChars ?_
      rw [List.forall₂_map_left_iff, List.forall₂_same]
      exact fun item hitem => ih item hitem (back.item hitem)
  | @object depth members ordered each ih =>
      rw [chars, charsOfMembers_eq_map]
      have spelled : List.Forall₂ (SpellsMember depth)
          (members.map fun member => (member.1, member.2.chars)) members := by
        rw [List.forall₂_map_left_iff, List.forall₂_same]
        exact fun member hmember => (ih member hmember (back.member hmember)).named member.1
      have collected := spells_objectChars spelled
      rwa [Record.membersOf_of_isOrdered ordered] at collected

/-- What spells a value is read as it, as a plain value. -/
theorem Spells.readsRow_plain {row : List Char} {value : Json} (spells : Spells depth row value) :
    ReadsRow (plain depth) row value where
  starts := (spells _ (Nat.le_refl _)).starts
  reads := by
    intro rest stops
    refine (spells _ ?_).reads stops
    rw [List.length_append, List.length_map]
    exact Nat.le_add_right _ _

/-- A text that spells a value is parsed as it. -/
theorem Spells.parse_eq_ok {row : List Char} {value : Json}
    (spells : Spells greatestDepth row value) : parse (String.ofList row) = .ok value := by
  have read := spells.readsRow_plain.reads stopsNumber_nil
  rw [List.append_nil] at read
  refine document_eq_ok_iff.mpr ⟨[], ?_, rfl⟩
  rw [symbols, String.toList_ofList]
  exact read

/-- A value that was parsed is parsed again from its text. -/
theorem parse_text_of_parse {source : String} {value : Json} (parsed : parse source = .ok value)
    (back : DoublesReadBack value) : parse value.text = .ok value := by
  obtain ⟨rest, read, _⟩ := document_eq_ok_iff.mp parsed
  exact (spells_chars (readable_of_value read) back).parse_eq_ok

end RowFilter.Json
