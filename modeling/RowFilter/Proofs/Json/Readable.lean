import RowFilter.Proofs.Json.AsWritten
import RowFilter.Proofs.Json.NumberRange

/-!
# The values that are read

Not every value can be read from a text: the numbers of one that was read are in range, the members
of its objects are in the order of their names, each name once, and it is nested no deeper than
reading allows.
-/

namespace RowFilter.Json

/-- Whether a value is one that may be read where so many lists and objects may still be opened. -/
inductive Readable : Nat → Json → Prop
  | null {depth : Nat} : Readable depth .null
  | boolean {depth : Nat} (b : Bool) : Readable depth (.boolean b)
  | string {depth : Nat} (text : String) : Readable depth (.string text)
  | number {depth : Nat} {n : Numeral} (range : n.InRange) : Readable depth (.number n)
  | array {depth : Nat} {items : List Json} (each : ∀ item ∈ items, Readable depth item) :
      Readable (depth + 1) (.array items)
  | object {depth : Nat} {members : List (String × Json)} (ordered : Record.IsOrdered members)
      (each : ∀ member ∈ members, Readable depth member.2) : Readable (depth + 1) (.object members)

variable {depth : Nat} {text rest : Source}

theorem Readable.of_isLeaf {read : Json} (leaf : IsLeaf read) : Readable depth read := by
  cases leaf with
  | null => exact .null
  | boolean b => exact .boolean b
  | string text => exact .string text
  | number number => exact .number (givesInRange_numeral _ number)

/-- Whether the members of an object are in order, with readable values. -/
def ReadableMembers (depth : Nat) (members : List (String × Json)) : Prop :=
  Record.IsOrdered members ∧ ∀ member ∈ members, Readable depth member.2

/-- Reading one more member keeps the members readable. -/
theorem ReadableMembers.plainMember {reader : Source → Attempt (Json × Source)}
    (each : ∀ {text rest : Source} {read : Json}, reader text = .ok (read, rest) →
      Readable depth read) {name : String} {members more : List (String × Json)}
    (before : ReadableMembers depth members)
    (read : Json.plainMember reader name members text = .ok (more, rest)) :
    ReadableMembers depth more := by
  obtain ⟨start, value, _, one, rfl⟩ := plainMember_eq_ok_iff.mp read
  refine ⟨before.1.insertMember name value, fun member hmember => ?_⟩
  rcases Record.mem_insertMember hmember with rfl | earlier
  · exact each one
  · exact before.2 member earlier

/-- A value that was read is readable. -/
theorem readable_of_value {bound : Nat} {read : Json}
    (given : value bound depth text = .ok (read, rest)) : Readable depth read := by
  induction bound generalizing depth text rest read with
  | zero => cases given
  | succ bound ih =>
      cases readAs_of_value given with
      | leaf leaf _ _ _ => exact .of_isLeaf leaf
      | array _ list =>
          obtain ⟨last, items, _⟩ := enclosed_eq_ok_iff.mp list
          exact .array (forall_mem_of_listItems ih items)
      | object _ object =>
          obtain ⟨last, members, _⟩ := enclosed_eq_ok_iff.mp object
          have readable : ReadableMembers _ _ :=
            objectMembers_invariant (ReadableMembers.plainMember ih)
              ⟨List.Pairwise.nil, List.forall_mem_nil _⟩ members
          exact .object readable.1 readable.2

end RowFilter.Json
