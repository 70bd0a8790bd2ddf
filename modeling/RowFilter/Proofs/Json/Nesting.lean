import RowFilter.Proofs.Json.AsWritten

/-!
# Nesting of values

How deeply lists and objects stand in one another. Reading a value opens one list or object for each
level of the value as it is written, so what is read is nested no deeper than the reader may go.
-/

namespace RowFilter.Json

open RowFilter.Filter

mutual

/-- How many lists and objects stand in one another, at most. -/
def nesting : Json → Nat
  | .array items => 1 + nestingOfItems items
  | .object members => 1 + nestingOfMembers members
  | _ => 0

/-- The greatest nesting of some values. -/
def nestingOfItems : List Json → Nat
  | [] => 0
  | item :: rest => max (nesting item) (nestingOfItems rest)

/-- The greatest nesting of the values of some members. -/
def nestingOfMembers : List (String × Json) → Nat
  | [] => 0
  | (_, value) :: rest => max (nesting value) (nestingOfMembers rest)

end

theorem nestingOfItems_le_iff {items : List Json} {depth : Nat} :
    nestingOfItems items ≤ depth ↔ ∀ item ∈ items, item.nesting ≤ depth := by
  induction items with
  | nil => simp [nestingOfItems]
  | cons item rest ih => rw [nestingOfItems, max_le_iff, ih, List.forall_mem_cons]

theorem nestingOfMembers_le_iff {members : List (String × Json)} {depth : Nat} :
    nestingOfMembers members ≤ depth ↔ ∀ member ∈ members, member.2.nesting ≤ depth := by
  induction members with
  | nil => simp [nestingOfMembers]
  | cons member rest ih => rw [nestingOfMembers, max_le_iff, ih, List.forall_mem_cons]

theorem nesting_of_isLeaf {value : Json} (leaf : IsLeaf value) : value.nesting = 0 := by
  cases leaf <;> rfl

/-- An item of a list is nested less deeply than the list. -/
theorem nesting_lt_of_mem_items {items : List Json} {item : Json} (hitem : item ∈ items) :
    item.nesting < (array items).nesting := by
  have bound := nestingOfItems_le_iff.mp le_rfl item hitem
  rw [nesting]
  omega

/-- The value of a member of an object is nested less deeply than the object. -/
theorem nesting_lt_of_mem_members {members : List (String × Json)} {member : String × Json}
    (hmember : member ∈ members) : member.2.nesting < (object members).nesting := by
  have bound := nestingOfMembers_le_iff.mp le_rfl member hmember
  rw [nesting]
  omega

variable {bound depth : Nat} {text rest : Source} {whole : Json}

/-- Reading one more member keeps what holds of the values of the members, if it holds of each value
that is read. -/
theorem forall_mem_of_writtenMember {reader : Source → Attempt (Json × Source)} {P : Json → Prop}
    (each : ∀ {text rest : Source} {value : Json}, reader text = .ok (value, rest) → P value)
    {name : String} {members more : List (String × Json)}
    (before : ∀ member ∈ members, P member.2)
    (read : writtenMember reader name members text = .ok (more, rest)) :
    ∀ member ∈ more, P member.2 := by
  obtain ⟨start, _, body⟩ := (bind_eq_ok_iff _ _ _).mp read
  obtain ⟨⟨value, after⟩, one, same⟩ := (bind_eq_ok_iff _ _ _).mp body
  obtain ⟨rfl, _⟩ := Prod.mk.inj (Except.ok.inj same)
  exact List.forall_mem_append.mpr ⟨before, List.forall_mem_singleton.mpr (each one)⟩

/-- A value is nested no deeper than the reader may go. -/
theorem nesting_le_of_written (read : written bound depth text = .ok (whole, rest)) :
    whole.nesting ≤ depth := by
  induction bound generalizing depth text rest whole with
  | zero => cases read
  | succ bound ih =>
      rw [written] at read
      split at read
      · obtain ⟨less, rfl, body⟩ := nested_eq_ok_iff.mp read
        obtain ⟨⟨items, after⟩, list, same⟩ := (bind_eq_ok_iff _ _ _).mp body
        obtain ⟨rfl, rfl⟩ := Prod.mk.inj (Except.ok.inj same)
        obtain ⟨last, each, _⟩ := enclosed_eq_ok_iff.mp list
        have items := nestingOfItems_le_iff.mpr
          (forall_mem_of_listItems (P := (·.nesting ≤ less)) ih each)
        rw [nesting]
        omega
      · obtain ⟨less, rfl, body⟩ := nested_eq_ok_iff.mp read
        obtain ⟨⟨members, after⟩, object, same⟩ := (bind_eq_ok_iff _ _ _).mp body
        obtain ⟨rfl, rfl⟩ := Prod.mk.inj (Except.ok.inj same)
        obtain ⟨last, each, _⟩ := enclosed_eq_ok_iff.mp object
        have members := nestingOfMembers_le_iff.mpr
          (objectMembers_invariant (forall_mem_of_writtenMember (P := (·.nesting ≤ less)) ih)
            (List.forall_mem_nil _) each)
        rw [nesting]
        omega
      · rename_i noBracket noBrace
        cases readAs_of_value read with
        | leaf leaf => exact (nesting_of_isLeaf leaf).le.trans (Nat.zero_le _)
        | array bracket => exact absurd bracket (noBracket _)
        | object brace => exact absurd brace (noBrace _)

/-- What is written in a text is nested no deeper than its reader may go. -/
theorem WrittenAt.nesting_le (given : WrittenAt depth text whole rest) : whole.nesting ≤ depth := by
  obtain ⟨bound, read⟩ := FromSomeBound.exists_bound given
  exact nesting_le_of_written read

end RowFilter.Json
