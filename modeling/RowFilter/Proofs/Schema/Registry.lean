import Mathlib.Data.List.Nodup
import RowFilter.Proofs.Filter.Folding
import RowFilter.Proofs.Schema.TypeNames
import RowFilter.Schema.Registry

/-!
# What a registry guarantees

The check of a list of fields goes from field to field and stops at the first that may not stand
after those before it: one that repeats a name, or has a database type that is no type name. A list
passes exactly if it has no such field. So in a registry every database type is a type name, and a
name finds the only field that has it.
-/

namespace RowFilter.Schema

open RowFilter.Filter

/-- Whether a list of fields is a schema. -/
structure IsSchema (fields : List Field) : Prop where
  /-- No two fields have one name. -/
  nodup_names : (fields.map Field.name).Nodup
  /-- The database types are type names. -/
  plain_types : ∀ field ∈ fields, ∀ type ∈ field.enumType, TypeName.IsPlain type

/-- Whether a field may stand after others. -/
structure MayFollow (earlier : List Field) (field : Field) : Prop where
  /-- None of them has its name. -/
  new_name : field.name ∉ earlier.map Field.name
  /-- Its database type is a type name. -/
  plain_type : ∀ type ∈ field.enumType, TypeName.IsPlain type

/-- The failure of a field after others: it repeats one of their names, or else its database type is
no type name. -/
inductive Offends (earlier : List Field) (field : Field) : Failure → Prop
  /-- The name stands before. -/
  | repeated (again : field.name ∈ earlier.map Field.name) :
      Offends earlier field (duplicateField field.name)
  /-- The name is new, and the database type is no type name. -/
  | misnamed {type : String} (new_name : field.name ∉ earlier.map Field.name)
      (typed : field.enumType = some type) (bad : ¬ TypeName.IsPlain type) :
      Offends earlier field (badEnumType field.name type)

theorem isSchema_nil : IsSchema [] := ⟨List.nodup_nil, List.forall_mem_nil _⟩

/-- A schema with one more field is a schema exactly if the field may follow. -/
theorem isSchema_concat_iff {earlier : List Field} {field : Field} :
    IsSchema (earlier ++ [field]) ↔ IsSchema earlier ∧ MayFollow earlier field := by
  have names : ((earlier ++ [field]).map Field.name).Nodup ↔
      (earlier.map Field.name).Nodup ∧ field.name ∉ earlier.map Field.name := by
    rw [List.map_append, List.map_singleton, ← List.concat_eq_append, List.nodup_concat, and_comm]
  constructor
  · rintro ⟨nodup, plain⟩
    rw [List.forall_mem_append, List.forall_mem_singleton] at plain
    obtain ⟨nodup, new⟩ := names.mp nodup
    exact ⟨⟨nodup, plain.1⟩, ⟨new, plain.2⟩⟩
  · rintro ⟨⟨nodup, plain⟩, ⟨new, typed⟩⟩
    refine ⟨names.mpr ⟨nodup, new⟩, ?_⟩
    rw [List.forall_mem_append, List.forall_mem_singleton]
    exact ⟨plain, typed⟩

/-! ### The check of a list -/

section Check

variable {earlier fields : List Field} {field : Field} {failure : Failure}

theorem badEnumType?_eq_some_iff {type : String} :
    badEnumType? field = some type ↔ field.enumType = some type ∧ ¬ TypeName.IsPlain type := by
  rw [badEnumType?, Option.filter_eq_some_iff, ← TypeName.isTypeName_iff, Bool.not_eq_true',
    Bool.not_eq_true]

theorem badEnumType?_eq_none_iff :
    badEnumType? field = none ↔ ∀ type ∈ field.enumType, TypeName.IsPlain type := by
  simp only [badEnumType?, Option.filter_eq_none_iff, ← TypeName.isTypeName_iff,
    Bool.not_eq_true', Bool.not_eq_false, Option.mem_def]

/-- A field that may follow passes, and any other fails by what is wrong with it. -/
theorem checkField_spec (earlier : List Field) (field : Field) :
    (checkField earlier field = .ok () ∧ MayFollow earlier field) ∨
      ∃ failure, checkField earlier field = .error failure ∧ Offends earlier field failure := by
  have again_iff : (earlier.any fun other => other.name == field.name) = true ↔
      field.name ∈ earlier.map Field.name := by
    simp [List.any_eq_true, List.mem_map]
  unfold checkField
  split
  · rename_i again
    exact .inr ⟨_, rfl, .repeated (again_iff.mp again)⟩
  · rename_i new
    rw [again_iff] at new
    cases bad : badEnumType? field with
    | none => exact .inl ⟨rfl, new, badEnumType?_eq_none_iff.mp bad⟩
    | some type =>
        obtain ⟨typed, notPlain⟩ := badEnumType?_eq_some_iff.mp bad
        exact .inr ⟨_, rfl, .misnamed new typed notPlain⟩

theorem Offends.not_mayFollow (offends : Offends earlier field failure) :
    ¬ MayFollow earlier field := by
  rintro ⟨new, plain⟩
  cases offends with
  | repeated again => exact new again
  | misnamed _ typed bad => exact bad (plain _ typed)

/-- A field fails in one way. -/
theorem Offends.unique {other : Failure} (first : Offends earlier field failure)
    (second : Offends earlier field other) : failure = other := by
  cases first with
  | repeated again =>
      cases second with
      | repeated => rfl
      | misnamed new => exact absurd again new
  | misnamed new typed bad =>
      cases second with
      | repeated again => exact absurd again new
      | misnamed _ same => rw [Option.some.inj (typed.symm.trans same)]

/-- The check of a list stops at its first field if that fails, and goes on after it otherwise. -/
theorem checkFields_cons (earlier : List Field) (field : Field) (rest : List Field) :
    (MayFollow earlier field ∧
      checkFields earlier (field :: rest) = checkFields (earlier ++ [field]) rest) ∨
    ∃ failure, Offends earlier field failure ∧
      checkFields earlier (field :: rest) = .error failure := by
  rw [checkFields]
  rcases checkField_spec earlier field with ⟨passed, follows⟩ | ⟨failure, failed, offends⟩
  · exact .inl ⟨follows, by rw [passed]; rfl⟩
  · exact .inr ⟨failure, offends, by rw [failed]; rfl⟩

/-- The beginning of a schema is one. -/
theorem IsSchema.of_append {later : List Field} (schema : IsSchema (earlier ++ later)) :
    IsSchema earlier where
  nodup_names := by
    have nodup := schema.nodup_names
    rw [List.map_append] at nodup
    exact nodup.of_append_left
  plain_types := (List.forall_mem_append.mp schema.plain_types).1

/-- Fields pass after a schema exactly if they make a schema with it. -/
theorem checkFields_eq_ok_iff (schema : IsSchema earlier) :
    checkFields earlier fields = .ok () ↔ IsSchema (earlier ++ fields) := by
  induction fields generalizing earlier with
  | nil =>
      rw [List.append_nil]
      exact iff_of_true rfl schema
  | cons field rest ih =>
      have whole : earlier ++ field :: rest = earlier ++ [field] ++ rest := by simp
      rw [whole]
      rcases checkFields_cons earlier field rest with ⟨follows, later⟩ | ⟨failure, offends, failed⟩
      · rw [later]
        exact ih (isSchema_concat_iff.mpr ⟨schema, follows⟩)
      · refine iff_of_false (fun passed => ?_) fun all => ?_
        · rw [failed] at passed
          cases passed
        · exact offends.not_mayFollow (isSchema_concat_iff.mp all.of_append).2

/-- Whether a failure is that of the first field of a list that may not follow those before it: the
earlier ones and those of the list. -/
def FirstOffence (earlier fields : List Field) (failure : Failure) : Prop :=
  ∃ before field after, fields = before ++ field :: after ∧ IsSchema (earlier ++ before) ∧
    Offends (earlier ++ before) field failure

/-- The first field that may not follow is the first field, or the first of the others that may not
follow after it. -/
theorem firstOffence_cons_iff {rest : List Field} (schema : IsSchema earlier) :
    FirstOffence earlier (field :: rest) failure ↔ Offends earlier field failure ∨
      MayFollow earlier field ∧ FirstOffence (earlier ++ [field]) rest failure := by
  have moved (before : List Field) : earlier ++ [field] ++ before = earlier ++ field :: before := by
    simp
  constructor
  · rintro ⟨before, other, after, parts, good, bad⟩
    cases before with
    | nil =>
        obtain ⟨rfl, rfl⟩ := List.cons.inj parts
        exact .inl (by rwa [List.append_nil] at bad)
    | cons first before =>
        obtain ⟨rfl, rfl⟩ := List.cons.inj parts
        rw [← moved] at good bad
        have follows := (isSchema_concat_iff.mp good.of_append).2
        exact .inr ⟨follows, before, other, after, rfl, good, bad⟩
  · rintro (bad | ⟨_, before, other, after, rfl, good, bad⟩)
    · exact ⟨[], field, rest, rfl, by rwa [List.append_nil], by rwa [List.append_nil]⟩
    · rw [moved] at good bad
      exact ⟨field :: before, other, after, rfl, good, bad⟩

/-- Fields fail after a schema by the first of them that may not follow those before it. -/
theorem checkFields_eq_error_iff (schema : IsSchema earlier) :
    checkFields earlier fields = .error failure ↔ FirstOffence earlier fields failure := by
  induction fields generalizing earlier with
  | nil =>
      refine iff_of_false (fun failed => by cases failed) ?_
      rintro ⟨before, field, after, parts, _⟩
      exact absurd parts (by simp)
  | cons field rest ih =>
      rw [firstOffence_cons_iff schema]
      rcases checkFields_cons earlier field rest with ⟨follows, later⟩ | ⟨own, offends, failed⟩
      · rw [later, ih (isSchema_concat_iff.mpr ⟨schema, follows⟩)]
        constructor
        · exact fun first => .inr ⟨follows, first⟩
        · rintro (bad | ⟨_, first⟩)
          · exact absurd follows bad.not_mayFollow
          · exact first
      · rw [failed, Except.error.injEq]
        constructor
        · rintro rfl
          exact .inl offends
        · rintro (bad | ⟨follows, _⟩)
          · exact offends.unique bad
          · exact absurd follows offends.not_mayFollow

end Check

/-! ### Registries -/

/-- Whether a registry gives the fields of a list by their place and by their name. -/
structure Registry.Lists (registry : Registry) (fields : List Field) : Prop where
  /-- The fields, in order. -/
  fields_eq : registry.fields = fields
  /-- Their names, in order. -/
  names_eq : registry.names = fields.map Field.name
  /-- How many there are. -/
  size_eq : registry.size = fields.length
  /-- A name finds the one field that has it. -/
  find?_eq_some_iff : ∀ name field, registry.find? name = some field ↔
    field ∈ fields ∧ field.name = name
  /-- Any other name finds nothing. -/
  find?_eq_none_iff : ∀ name, registry.find? name = none ↔ name ∉ fields.map Field.name

namespace Registry

variable {fields : List Field} {registry : Registry}

/-- The fields of a registry are a schema. -/
theorem isSchema (registry : Registry) : IsSchema registry.fields :=
  (checkFields_eq_ok_iff isSchema_nil).mp registry.checked

/-- A registry is made of its own fields only. -/
theorem ofFields_eq_ok_iff : ofFields fields = .ok registry ↔ registry.fields = fields := by
  obtain ⟨own, passed⟩ := registry
  unfold ofFields
  split
  · simp [eq_comm]
  · rename_i failed
    refine iff_of_false nofun ?_
    rintro rfl
    rw [passed] at failed
    cases failed

/-- The database types of a registry are type names. -/
theorem isTypeName_of_mem_fields {field : Field} (member : field ∈ registry.fields) {type : String}
    (typed : field.enumType = some type) : TypeName.isTypeName type = true :=
  (TypeName.isTypeName_iff type).mpr (registry.isSchema.plain_types field member type typed)

theorem mem_fields_of_find? {name : String} {field : Field}
    (found : registry.find? name = some field) :
    field ∈ registry.fields :=
  List.mem_of_find?_eq_some found

theorem name_eq_of_find? {name : String} {field : Field}
    (found : registry.find? name = some field) :
    field.name = name := by
  simpa using List.find?_some found

theorem exists_ofFields_iff : (∃ registry, ofFields fields = .ok registry) ↔ IsSchema fields := by
  simp only [ofFields_eq_ok_iff]
  constructor
  · rintro ⟨registry, rfl⟩
    exact registry.isSchema
  · intro schema
    exact ⟨⟨fields, (checkFields_eq_ok_iff isSchema_nil).mpr schema⟩, rfl⟩

theorem ofFields_eq_error_iff {failure : Failure} :
    ofFields fields = .error failure ↔ FirstOffence [] fields failure := by
  rw [← checkFields_eq_error_iff isSchema_nil]
  unfold ofFields
  split
  · rename_i passed
    simp [passed]
  · rename_i failed
    simp [failed]

/-- A name finds the only field that has it. -/
theorem lists_fields (registry : Registry) : registry.Lists registry.fields where
  fields_eq := rfl
  names_eq := rfl
  size_eq := rfl
  find?_eq_some_iff name field := by
    refine ⟨fun found => ⟨mem_fields_of_find? found, name_eq_of_find? found⟩, ?_⟩
    rintro ⟨member, rfl⟩
    cases found : registry.find? field.name with
    | none =>
        have absent := List.find?_eq_none.mp found field member
        simp at absent
    | some other =>
        have same := List.inj_on_of_nodup_map registry.isSchema.nodup_names
          (mem_fields_of_find? found) member (name_eq_of_find? found)
        rw [same]
  find?_eq_none_iff name := by
    simp [find?, List.find?_eq_none, List.mem_map]

end Registry

end RowFilter.Schema
