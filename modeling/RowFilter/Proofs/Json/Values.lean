import RowFilter.Proofs.Json.Collections

/-!
# Values read from text

A value is a leaf, which holds no other values and is read at once, or a list or an object, which is
read item by item with a smaller bound and one level less to go.
-/

namespace RowFilter.Json

open RowFilter.Filter

/-- Induction over values: of a list the statement may be assumed for its items, of an object for
the values of its members. -/
@[elab_as_elim]
theorem induction {motive : Json → Prop} (null : motive .null)
    (boolean : ∀ b, motive (.boolean b)) (number : ∀ n, motive (.number n))
    (string : ∀ text, motive (.string text))
    (array : ∀ items, (∀ item ∈ items, motive item) → motive (.array items))
    (object : ∀ members, (∀ member ∈ members, motive member.2) → motive (.object members))
    (value : Json) : motive value := by
  refine @Json.rec motive (fun items => ∀ item ∈ items, motive item)
    (fun members => ∀ member ∈ members, motive member.2) (fun member => motive member.2)
    null boolean number string array object ?_ ?_ ?_ ?_ ?_ value
  · intro item hitem
    cases hitem
  · intro head tail hhead htail item hitem
    rcases List.mem_cons.mp hitem with rfl | later
    · exact hhead
    · exact htail item later
  · intro member hmember
    cases hmember
  · intro head tail hhead htail member hmember
    rcases List.mem_cons.mp hmember with rfl | later
    · exact hhead
    · exact htail member later
  · intro name value holds
    exact holds

/-- A value that holds no others; a number is one that was read. -/
inductive IsLeaf : Json → Prop
  | null : IsLeaf .null
  | boolean (b : Bool) : IsLeaf (.boolean b)
  | string (text : String) : IsLeaf (.string text)
  | number {negative : Bool} {text rest : Source} {n : Numeral}
      (read : numeral negative text = .ok (n, rest)) : IsLeaf (.number n)

/-- How a value was read with a bound that is one greater than the given. -/
inductive ReadAs (bound : Nat) : Nat → Source → Json → Source → Prop
  | leaf {depth : Nat} {text rest : Source} {read : Json} (leaf : IsLeaf read)
      (noBracket : ∀ inner, skipBlanks text ≠ .char '[' :: inner)
      (noBrace : ∀ inner, skipBlanks text ≠ .char '{' :: inner)
      (alone : ∀ more depth, value (more + 1) depth text = .ok (read, rest)) :
      ReadAs bound depth text read rest
  | array {depth : Nat} {text inner rest : Source} {items : List Json}
      (bracket : skipBlanks text = .char '[' :: inner)
      (read : enclosed closeList (listItems (value bound depth) bound true) inner =
        .ok (items, rest)) :
      ReadAs bound (depth + 1) text (.array items) rest
  | object {depth : Nat} {text inner rest : Source} {members : List (String × Json)}
      (brace : skipBlanks text = .char '{' :: inner)
      (read : enclosed closeObject (objectMembers (plainMember (value bound depth)) bound true [])
        inner = .ok (members, rest)) :
      ReadAs bound (depth + 1) text (.object members) rest

/-- Reading a value is reading a leaf, a list or an object. -/
theorem readAs_of_value {bound depth : Nat} {text rest : Source} {read : Json}
    (given : value (bound + 1) depth text = .ok (read, rest)) :
    ReadAs bound depth text read rest := by
  rw [value] at given
  split at given
  · cases given
  · cases given
  · rename_i c inner skipped
    -- A leaf is read without regard to the bound and the depth.
    have leaf : ∀ {found : Attempt (Json × Source)}, found = .ok (read, rest) → IsLeaf read →
        c ≠ '[' → c ≠ '{' → (∀ more depth, value (more + 1) depth text = found) →
          ReadAs bound depth text read rest := by
      intro found done leaf noBracket noBrace same
      refine .leaf leaf ?_ ?_ fun more depth => (same more depth).trans done
      · intro other start
        rw [skipped] at start
        exact noBracket (Text.Symbol.char.inj (List.cons.inj start).1)
      · intro other start
        rw [skipped] at start
        exact noBrace (Text.Symbol.char.inj (List.cons.inj start).1)
    split at given
    · obtain ⟨after, _, same⟩ := (bind_eq_ok_iff _ _ _).mp given
      cases same
      exact leaf given .null (by decide) (by decide) fun _ _ => by simp only [value, skipped]
    · obtain ⟨after, _, same⟩ := (bind_eq_ok_iff _ _ _).mp given
      cases same
      exact leaf given (.boolean true) (by decide) (by decide) fun _ _ => by
        simp only [value, skipped]
    · obtain ⟨after, _, same⟩ := (bind_eq_ok_iff _ _ _).mp given
      cases same
      exact leaf given (.boolean false) (by decide) (by decide) fun _ _ => by
        simp only [value, skipped]
    · obtain ⟨⟨spelled, after⟩, _, same⟩ := (bind_eq_ok_iff _ _ _).mp given
      cases same
      exact leaf given (.string spelled) (by decide) (by decide) fun _ _ => by
        simp only [value, skipped]
    · obtain ⟨⟨n, after⟩, number, same⟩ := (bind_eq_ok_iff _ _ _).mp given
      cases same
      exact leaf given (.number number) (by decide) (by decide) fun _ _ => by
        simp only [value, skipped]
    · obtain ⟨less, rfl, given⟩ := nested_eq_ok_iff.mp given
      obtain ⟨⟨items, after⟩, list, same⟩ := (bind_eq_ok_iff _ _ _).mp given
      cases same
      exact .array skipped list
    · obtain ⟨less, rfl, given⟩ := nested_eq_ok_iff.mp given
      obtain ⟨⟨members, after⟩, object, same⟩ := (bind_eq_ok_iff _ _ _).mp given
      cases same
      exact .object skipped object
    · rename_i noBracket noBrace
      split at given
      · rename_i digit
        obtain ⟨⟨n, after⟩, number, same⟩ := (bind_eq_ok_iff _ _ _).mp given
        cases same
        exact leaf given (.number number) noBracket noBrace fun _ _ => by
          simp only [value, skipped, digit, if_true]
      · cases given

/-- A document is read to its end, blanks apart. -/
theorem document_eq_ok_iff {α : Type} {reader : Nat → Source → Attempt (α × Source)}
    {text : Source} {value : α} :
    document reader text = .ok value ↔
      ∃ rest, reader greatestDepth text = .ok (value, rest) ∧ skipBlanks rest = [] := by
  unfold document
  cases reader greatestDepth text with
  | error stop => simp
  | ok read =>
      obtain ⟨found, rest⟩ := read
      cases blank : skipBlanks rest with
      | nil => simp [blank]
      | cons symbol after =>
          simp only [blank, reduceCtorEq, Except.ok.injEq, Prod.mk.injEq, false_iff]
          rintro ⟨_, ⟨_, rfl⟩, none⟩
          rw [blank] at none
          cases none

end RowFilter.Json
