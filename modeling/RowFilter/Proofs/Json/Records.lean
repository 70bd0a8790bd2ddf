import Mathlib.Data.String.Basic
import RowFilter.Json.Basic

/-!
# Records as finite maps

A record holds its columns in the order of their names, each name once. Records are only ever built
by inserting columns at their places, which keeps the order. In this order a record is determined by
what its columns are looked up as, so two records with the same columns are the same record.
-/

namespace RowFilter.Record

variable {record other : Record}

/-- What stands in a column: nothing if it is missing, nor if it is null. -/
def value? (record : Record) (name : String) : Option Json :=
  match record.lookup name with
  | none => none
  | some .null => none
  | some value => some value

theorem value?_of_lookup {name : String} {value : Json} (found : record.lookup name = some value)
    (present : value.isNull = false) : record.value? name = some value := by
  rw [value?, found]
  cases value with
  | null => cases present
  | _ => rfl

/-- Whether the columns stand in the order of their names, each name once. -/
def IsOrdered (record : Record) : Prop := record.Pairwise fun first second => first.1 < second.1

instance (record : Record) : Decidable record.IsOrdered :=
  inferInstanceAs (Decidable (record.Pairwise fun first second => first.1 < second.1))

theorem isOrdered_iff_names : record.IsOrdered ↔ (record.map Prod.fst).Pairwise (· < ·) :=
  List.pairwise_map.symm

theorem mem_insertMember {name : String} {value : Json} {column : String × Json}
    (member : column ∈ Json.insertMember name value record) :
    column = (name, value) ∨ column ∈ record := by
  induction record with
  | nil => simpa [Json.insertMember] using member
  | cons head rest ih =>
      obtain ⟨key, old⟩ := head
      rw [Json.insertMember] at member
      split at member
      · rename_i same
        rcases List.mem_cons.mp member with rfl | later
        · exact .inl (by rw [same])
        · exact .inr (List.mem_cons_of_mem _ later)
      · split at member
        · exact List.mem_cons.mp member
        · rcases List.mem_cons.mp member with rfl | later
          · exact .inr List.mem_cons_self
          · exact (ih later).imp_right (List.mem_cons_of_mem _)

/-- Inserting a column keeps the order. -/
theorem IsOrdered.insertMember (ordered : record.IsOrdered) (name : String) (value : Json) :
    IsOrdered (Json.insertMember name value record) := by
  induction record with
  | nil => exact List.pairwise_singleton _ _
  | cons head rest ih =>
      obtain ⟨key, old⟩ := head
      obtain ⟨beyond, tail⟩ := List.pairwise_cons.mp ordered
      rw [Json.insertMember]
      split
      · exact List.pairwise_cons.mpr ⟨beyond, tail⟩
      · rename_i different
        split
        · rename_i before
          refine List.pairwise_cons.mpr ⟨?_, ordered⟩
          intro column member
          rcases List.mem_cons.mp member with rfl | later
          · exact before
          · exact before.trans (beyond column later)
        · rename_i notBefore
          refine List.pairwise_cons.mpr ⟨?_, ih tail⟩
          intro column member
          rcases mem_insertMember member with rfl | later
          · exact lt_of_le_of_ne (not_lt.mp notBefore) (Ne.symm different)
          · exact beyond column later

/-- A column after those of a record is inserted at its end. -/
theorem insertMember_of_after {name : String} (after : ∀ column ∈ record, column.1 < name)
    (value : Json) : Json.insertMember name value record = record ++ [(name, value)] := by
  induction record with
  | nil => rfl
  | cons head rest ih =>
      obtain ⟨key, old⟩ := head
      rw [List.forall_mem_cons] at after
      rw [Json.insertMember, if_neg after.1.ne', if_neg (not_lt_of_gt after.1), ih after.2]
      rfl

/-- Columns in order, all of them after those of a record, are inserted as they stand. -/
theorem foldl_insertMember_of_isOrdered (ordered : IsOrdered (record ++ other)) :
    other.foldl (fun members pair => Json.insertMember pair.1 pair.2 members) record =
      record ++ other := by
  induction other generalizing record with
  | nil => exact (List.append_nil record).symm
  | cons head rest ih =>
      have after : ∀ column ∈ record, column.1 < head.1 := fun column hcolumn =>
        (List.pairwise_append.mp ordered).2.2 column hcolumn _ List.mem_cons_self
      rw [List.append_cons] at ordered ⊢
      rw [List.foldl_cons, insertMember_of_after after, ih ordered]

/-- Members in order are put together as they stand. -/
theorem membersOf_of_isOrdered (ordered : record.IsOrdered) : Json.membersOf record = record :=
  foldl_insertMember_of_isOrdered (List.nil_append record ▸ ordered)

theorem membersOf_pair_of_lt {name key : String} (before : key < name) (value other : Json) :
    Json.membersOf [(name, value), (key, other)] = [(key, other), (name, value)] := by
  show Json.insertMember key other [(name, value)] = _
  rw [Json.insertMember, if_neg before.ne, if_pos before]

/-- Records that are put together from names and values are ordered. -/
theorem isOrdered_membersOf (pairs : List (String × Json)) : IsOrdered (Json.membersOf pairs) := by
  have kept : ∀ members : Record, members.IsOrdered →
      IsOrdered
        (pairs.foldl (fun members pair => Json.insertMember pair.1 pair.2 members) members) := by
    induction pairs with
    | nil => exact fun _ ordered => ordered
    | cons pair rest ih => exact fun members ordered => ih _ (ordered.insertMember pair.1 pair.2)
  exact kept [] List.Pairwise.nil

theorem lookup_cons_ne {name key : String} (different : name ≠ key) (value : Json)
    (record : Record) :
    List.lookup name ((key, value) :: record) = record.lookup name := by
  have unequal : (name == key) = false := beq_false_of_ne different
  rw [List.lookup_cons, unequal]

/-- A name before those of all columns is no column's. -/
theorem lookup_eq_none_of_before {name : String} (before : ∀ column ∈ record, name < column.1) :
    record.lookup name = none := by
  rw [List.lookup_eq_none_iff]
  intro column member
  simpa using (before column member).ne

/-- A filter on names lets through exactly the columns of the names it lets through. -/
theorem lookup_filter (p : String → Bool) (name : String) (record : Record) :
    List.lookup name (record.filter fun column => p column.1) =
      if p name then record.lookup name else none := by
  induction record with
  | nil => simp
  | cons head rest ih =>
      obtain ⟨key, value⟩ := head
      have step : ((key, value) :: rest).filter (fun column => p column.1) =
          if p key then (key, value) :: rest.filter (fun column => p column.1)
          else rest.filter fun column => p column.1 := List.filter_cons
      rw [step]
      by_cases same : name = key
      · subst same
        rw [List.lookup_cons_self]
        split
        · rw [List.lookup_cons_self]
        · rename_i stopped
          rw [ih, if_neg stopped]
      · rw [lookup_cons_ne same, ← ih]
        split
        · rw [lookup_cons_ne same]
        · rfl

/-- Ordered records in which every name is looked up as the same value are the same. -/
theorem eq_of_lookup_eq (ordered : record.IsOrdered) (otherOrdered : other.IsOrdered)
    (same : ∀ name, record.lookup name = other.lookup name) : record = other := by
  induction record generalizing other with
  | nil =>
      cases other with
      | nil => rfl
      | cons head rest =>
          have found := same head.1
          rw [List.lookup_cons_self] at found
          simp at found
  | cons head rest ih =>
      obtain ⟨key, value⟩ := head
      obtain ⟨beyond, tail⟩ := List.pairwise_cons.mp ordered
      cases other with
      | nil =>
          have found := same key
          rw [List.lookup_cons_self] at found
          simp at found
      | cons otherHead otherRest =>
          obtain ⟨otherKey, otherValue⟩ := otherHead
          obtain ⟨otherBeyond, otherTail⟩ := List.pairwise_cons.mp otherOrdered
          have absent : rest.lookup key = none := lookup_eq_none_of_before beyond
          have otherAbsent : otherRest.lookup otherKey = none :=
            lookup_eq_none_of_before otherBeyond
          -- If the first names differ, the smaller one is missing from the other record.
          rcases lt_trichotomy key otherKey with before | rfl | after
          · have missing : List.lookup key ((otherKey, otherValue) :: otherRest) = none := by
              rw [lookup_cons_ne before.ne]
              exact lookup_eq_none_of_before fun column member =>
                before.trans (otherBeyond column member)
            have found := same key
            rw [List.lookup_cons_self, missing] at found
            simp at found
          · have found := same key
            rw [List.lookup_cons_self, List.lookup_cons_self] at found
            obtain rfl := Option.some.inj found
            have later : ∀ name, rest.lookup name = otherRest.lookup name := by
              intro name
              by_cases first : name = key
              · rw [first, absent, otherAbsent]
              · have looked := same name
                rwa [lookup_cons_ne first, lookup_cons_ne first] at looked
            rw [ih tail otherTail later]
          · have missing : List.lookup otherKey ((key, value) :: rest) = none := by
              rw [lookup_cons_ne after.ne]
              exact lookup_eq_none_of_before fun column member => after.trans (beyond column member)
            have found := same otherKey
            rw [List.lookup_cons_self, missing] at found
            simp at found

end RowFilter.Record
