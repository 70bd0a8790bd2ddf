import Mathlib.Data.List.Induction
import RowFilter.Proofs.Json.Records

/-!
# Members by name

A row of members may name one several times. An object that is put together from the row keeps the
last of each name.
-/

namespace RowFilter.Json

variable {name key : String} {value : Json} {members pairs : List (String × Json)}

/-- The values of the members of a name, in their order. -/
def valuesNamed (name : String) (members : List (String × Json)) : List Json :=
  (members.filter fun member => member.1 == name).map Prod.snd

/-- The value of the last member of a name. -/
def lastNamed (name : String) (members : List (String × Json)) : Option Json :=
  (valuesNamed name members).getLast?

theorem valuesNamed_append (name : String) (members others : List (String × Json)) :
    valuesNamed name (members ++ others) = valuesNamed name members ++ valuesNamed name others := by
  rw [valuesNamed, List.filter_append, List.map_append]
  rfl

theorem valuesNamed_singleton (name key : String) (value : Json) :
    valuesNamed name [(key, value)] = if key = name then [value] else [] := by
  by_cases same : key = name <;> simp [valuesNamed, same]

theorem lastNamed_append (name : String) (members others : List (String × Json)) :
    lastNamed name (members ++ others) =
      (lastNamed name others).or (lastNamed name members) := by
  rw [lastNamed, valuesNamed_append, List.getLast?_append]
  rfl

theorem lastNamed_singleton (name key : String) (value : Json) :
    lastNamed name [(key, value)] = if key = name then some value else none := by
  rw [lastNamed, valuesNamed_singleton]
  split <;> rfl

/-- A member at the end is the last of its name, and no other's. -/
theorem lastNamed_append_singleton (name : String) (members : List (String × Json)) (key : String)
    (value : Json) :
    lastNamed name (members ++ [(key, value)]) =
      if key = name then some value else lastNamed name members := by
  rw [lastNamed_append, lastNamed_singleton]
  split <;> rfl

theorem lastNamed_cons (name : String) (key : String) (value : Json)
    (members : List (String × Json)) :
    lastNamed name ((key, value) :: members) =
      (lastNamed name members).or (if key = name then some value else none) := by
  rw [← List.singleton_append, lastNamed_append, lastNamed_singleton]

theorem lastNamed_map (name : String) (f : Json → Json) (members : List (String × Json)) :
    lastNamed name (members.map fun member => (member.1, f member.2)) =
      (lastNamed name members).map f := by
  rw [lastNamed, lastNamed, valuesNamed, valuesNamed, List.filter_map, List.map_map,
    ← List.getLast?_map, List.map_map]
  rfl

theorem lastNamed_eq_none_iff :
    lastNamed name members = none ↔ ∀ member ∈ members, member.1 ≠ name := by
  simp [lastNamed, valuesNamed]

/-- A value of a name is the value of a member of that name. -/
theorem mem_valuesNamed (named : value ∈ valuesNamed name members) : (name, value) ∈ members := by
  obtain ⟨⟨key, found⟩, selected, rfl⟩ := List.mem_map.mp named
  obtain ⟨member, same⟩ := List.mem_filter.mp selected
  obtain rfl : key = name := by simpa using same
  exact member

theorem mem_of_lastNamed (last : lastNamed name members = some value) : (name, value) ∈ members :=
  mem_valuesNamed (List.mem_of_getLast? last)

private theorem lastNamed_of_before (before : ∀ member ∈ members, name < member.1) :
    lastNamed name members = none :=
  lastNamed_eq_none_iff.mpr fun member hmember => (before member hmember).ne'

/-- Inserting a member makes it the one of its name, and changes no other. -/
theorem lastNamed_insertMember (ordered : Record.IsOrdered members) :
    lastNamed name (insertMember key value members) =
      if key = name then some value else lastNamed name members := by
  induction members with
  | nil => exact lastNamed_singleton name key value
  | cons head rest ih =>
      obtain ⟨first, old⟩ := head
      obtain ⟨beyond, tail⟩ := List.pairwise_cons.mp ordered
      rw [insertMember]
      split
      · rename_i same
        subst same
        rw [lastNamed_cons, lastNamed_cons]
        split
        · rename_i here
          rw [← here, lastNamed_of_before beyond, Option.none_or]
        · rfl
      · split
        · rename_i before
          rw [lastNamed_cons _ key]
          split
          · rename_i here
            have later : ∀ member ∈ (first, old) :: rest, key < member.1 :=
              List.forall_mem_cons.mpr
                ⟨before, fun member hmember => before.trans (beyond member hmember)⟩
            rw [← here, lastNamed_of_before later, Option.none_or]
          · rw [Option.or_none]
        · rename_i different _
          rw [lastNamed_cons, lastNamed_cons, ih tail]
          split
          · rename_i here
            rw [if_neg (here ▸ Ne.symm different), Option.or_none]
          · rfl

theorem membersOf_append_singleton (pairs : List (String × Json)) (name : String) (value : Json) :
    membersOf (pairs ++ [(name, value)]) = insertMember name value (membersOf pairs) := by
  rw [membersOf, List.foldl_append]
  rfl

/-- The members that an object keeps are among those it is put together from. -/
theorem mem_of_mem_membersOf {member : String × Json} (kept : member ∈ membersOf pairs) :
    member ∈ pairs := by
  induction pairs using List.reverseRecOn with
  | nil => cases kept
  | append_singleton pairs pair ih =>
      rw [membersOf_append_singleton] at kept
      rcases Record.mem_insertMember kept with rfl | earlier
      · exact List.mem_append_right pairs (List.mem_singleton_self _)
      · exact List.mem_append_left _ (ih earlier)

/-- What an object keeps of several members of one name is the last. -/
theorem lastNamed_membersOf (name : String) (pairs : List (String × Json)) :
    lastNamed name (membersOf pairs) = lastNamed name pairs := by
  induction pairs using List.reverseRecOn with
  | nil => rfl
  | append_singleton pairs pair ih =>
      obtain ⟨key, value⟩ := pair
      rw [membersOf_append_singleton, lastNamed_insertMember (Record.isOrdered_membersOf pairs),
        lastNamed_append_singleton, ih]

end RowFilter.Json
