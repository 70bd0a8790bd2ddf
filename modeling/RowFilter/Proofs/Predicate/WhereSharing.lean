import Mathlib.Data.List.Perm.Basic
import RowFilter.Predicate.WhereObject
import RowFilter.Proofs.Json.Records

/-!
# Tests that share an object

Tests of one field are put into one object only if no name stands in two of them. So the object
holds the members of the tests that it is made from, every one of them unchanged and no others, in
the order of the names.
-/

namespace RowFilter.Json

/-- A member of a new name is added to the members that there are. -/
theorem insertMember_perm {name : String} {members : List (String × Json)}
    (fresh : members.lookup name = none) (value : Json) :
    (insertMember name value members).Perm ((name, value) :: members) := by
  induction members with
  | nil => exact .refl _
  | cons head rest ih =>
      obtain ⟨key, old⟩ := head
      have different : name ≠ key := by
        rintro rfl
        rw [List.lookup_cons_self] at fresh
        simp at fresh
      rw [Record.lookup_cons_ne different] at fresh
      rw [insertMember, if_neg different]
      split
      · exact .refl _
      · exact ((ih fresh).cons _).trans (.swap _ _ _)

/-- Whether no name stands in two of the members. -/
def NamedOnce (members : List (String × Json)) : Prop := (members.map Prod.fst).Nodup

theorem NamedOnce.perm {members others : List (String × Json)} (once : NamedOnce members)
    (same : members.Perm others) : NamedOnce others :=
  (same.map Prod.fst).nodup once

theorem NamedOnce.cons {name : String} {members : List (String × Json)}
    (once : NamedOnce members) (fresh : members.lookup name = none) (value : Json) :
    NamedOnce ((name, value) :: members) := by
  refine List.nodup_cons.mpr ⟨?_, once⟩
  intro listed
  obtain ⟨member, hmember, same⟩ := List.mem_map.mp listed
  have different := List.lookup_eq_none_iff.mp fresh member hmember
  simp [same] at different

end RowFilter.Json

namespace RowFilter.Predicate

open RowFilter.Json

/-- Two lists of members can be united only into all members of both, with no name in two. -/
theorem unite?_perm {members tests united : List (String × Json)} (once : NamedOnce members)
    (done : unite? members tests = some united) :
    united.Perm (members ++ tests) ∧ NamedOnce united := by
  induction tests generalizing members with
  | nil =>
      obtain rfl := Option.some.inj done
      exact ⟨by rw [List.append_nil], once⟩
  | cons test rest ih =>
      obtain ⟨name, value⟩ := test
      rw [unite?] at done
      split at done
      · simp at done
      · rename_i absent
        have fresh : members.lookup name = none := Option.not_isSome_iff_eq_none.mp absent
        have added := insertMember_perm fresh value
        obtain ⟨same, onceMore⟩ := ih ((once.cons fresh value).perm added.symm) done
        refine ⟨same.trans ?_, onceMore⟩
        exact (added.append_right rest).trans List.perm_middle.symm

/-- How parts share an object of a field. Each tests that field and does not search without regard
to case, and the object holds their members: all of them, each unchanged and under a name of its
own. -/
structure Shares (parts : List Predicate) (field : String) (tests : List (String × Json)) :
    Prop where
  kept : ∃ objects, tests.Perm objects.flatten ∧
    List.Forall₂ (fun part members => part.fieldTests? = some (field, members)) parts objects ∧
    ∀ members ∈ objects, members.lookup modeKey = none
  once : NamedOnce tests

/-- What a field's tests so far become with those of further parts. -/
theorem shareObject?_perm {field other : String} {members tests : List (String × Json)}
    {parts : List Predicate} (once : NamedOnce members)
    (done : shareObject? field members parts = some (other, tests)) :
    other = field ∧ NamedOnce tests ∧ ∃ objects, tests.Perm (members ++ objects.flatten) ∧
      List.Forall₂ (fun part members => part.fieldTests? = some (field, members)) parts objects ∧
      ∀ members ∈ objects, members.lookup modeKey = none := by
  induction parts generalizing members with
  | nil =>
      obtain ⟨rfl, rfl⟩ := Prod.mk.inj (Option.some.inj done)
      exact ⟨rfl, once, [], by simp, .nil, by simp⟩
  | cons part rest ih =>
      rw [shareObject?] at done
      split at done
      · simp at done
      · rename_i tested own of_part
        split at done
        · simp at done
        · rename_i shareable
          rw [Bool.or_eq_true, not_or, Option.not_isSome_iff_eq_none, decide_eq_true_eq,
            not_not] at shareable
          obtain ⟨sensitive, rfl⟩ := shareable
          obtain ⟨united, unite, later⟩ := Option.bind_eq_some_iff.mp done
          obtain ⟨added, onceMore⟩ := unite?_perm once unite
          obtain ⟨rfl, onceAll, objects, same, each, modes⟩ := ih onceMore later
          refine ⟨rfl, onceAll, own :: objects, ?_, .cons of_part each,
            List.forall_mem_cons.mpr ⟨sensitive, modes⟩⟩
          rw [List.flatten_cons, ← List.append_assoc]
          exact same.trans (added.append_right _)

theorem shares_of_sharedTests? {parts : List Predicate} {field : String}
    {tests : List (String × Json)} (shared : sharedTests? parts = some (field, tests)) :
    Shares parts field tests := by
  cases parts with
  | nil => simp [sharedTests?] at shared
  | cons part rest =>
      obtain ⟨⟨first, _⟩, _, done⟩ := Option.bind_eq_some_iff.mp shared
      have empty : NamedOnce [] := List.nodup_nil
      obtain ⟨rfl, once, objects, same, each, modes⟩ := shareObject?_perm empty done
      exact ⟨⟨objects, same, each, modes⟩, once⟩

end RowFilter.Predicate
