import Mathlib.Data.List.Nodup
import RowFilter.Proofs.Filter.Grammar
import RowFilter.Proofs.Json.ReadBack
import RowFilter.Proofs.Schema.Registry
import RowFilter.Schema.Reader

/-!
# Schemas written and read again

A field record is read from the text that it is written as, and so is a list of them. So every
schema can be given as a document, and nothing but a schema can.
-/

namespace RowFilter.Json

open RowFilter.Filter

variable {α : Type} {rest : Source}

/-! ### Single values -/

theorem readsRow_expectString (text : String) :
    ReadsRow expectString (stringChars text) text where
  starts := ⟨'"', _, rfl, by decide, by decide⟩
  reads _ := expectString_eq_ok_iff.mpr
    ⟨_, map_stringChars_append text _, stringToken_escapedChars text _⟩

/-- A known word is read from the text that it is written as. -/
theorem readsRow_expectWord {known : List String} {word? : String → Option α} {name : String}
    {word : α} (found : word? name = some word) (depth : Nat) :
    ReadsRow (expectWord known word? depth) (stringChars name) word where
  starts := ⟨'"', _, rfl, by decide, by decide⟩
  reads {rest} _ := by
    have start : skipBlanks ((stringChars name).map Text.Symbol.char ++ rest) =
        .char '"' :: ((name.toList.flatMap escapedChar).map .char ++ .char '"' :: rest) :=
      map_stringChars_append name rest
    simp only [expectWord, start, stringToken_escapedChars, ok_bind, found]

theorem readsRow_expectBoolean (b : Bool) : ReadsRow expectBoolean (Json.boolean b).chars b where
  starts := by cases b <;> exact ⟨_, _, by rw [chars], by decide, by decide⟩
  reads _ := by cases b <;> (rw [chars]; rfl)

theorem readsRow_expectOptional (text : String) :
    ReadsRow (expectOptional expectString) (stringChars text) (some text) where
  starts := (readsRow_expectString text).starts
  reads {rest} stops := by
    have start := map_stringChars_append text rest
    have read := (readsRow_expectString text).reads stops
    rw [start] at read ⊢
    exact expectOptional_eq_ok_iff.mpr (.inr ⟨text, rfl, by rintro _ ⟨⟩, read⟩)

/-- What may stand only once is read after its colon, if it was not seen before. -/
theorem memberOnce_row {reader : Source → Attempt (α × Source)} {row : List Char} {value : α}
    (reads : ReadsRow reader row value) (stops : StopsNumber rest) (name : String) :
    memberOnce name none reader (.char ':' :: (row.map .char ++ rest)) = .ok (value, rest) :=
  memberOnce_eq_ok_iff.mpr ⟨rfl, _, rfl, reads.reads stops⟩

/-- A list is read from its rows, if each row is read. -/
theorem readsRow_expectList {expected : String} {item : Nat → Source → Attempt (α × Source)}
    {depth : Nat} {rows : List (List Char)} {values : List α}
    (each : List.Forall₂ (ReadsRow (item depth)) rows values) :
    ReadsRow (expectList expected item (depth + 1)) (arrayChars rows) values where
  starts := ⟨'[', _, rfl, by decide, by decide⟩
  reads {rest} _ := by
    have count := length_le_commaSeparated rows
    refine expectList_eq_ok_iff.mpr ⟨depth, _, _, rfl, map_arrayChars_append rows rest,
      listItems_commaSeparated each ?_ rest, rfl⟩
    simp only [List.length_append, List.length_map, List.length_cons]
    omega

end RowFilter.Json

namespace RowFilter.Schema

open Json RowFilter.Filter

/-! ### Field records -/

theorem ofName?_name (type : FieldType) : FieldType.ofName? type.name = some type := by
  cases type <;> rfl

/-- Operators that are pairwise different are allowed one after the other. -/
theorem foldl_addOperator {before operators : List Operator}
    (different : (before ++ operators).Nodup) :
    operators.foldl Field.addOperator before = before ++ operators := by
  induction operators generalizing before with
  | nil => exact (List.append_nil before).symm
  | cons operator rest ih =>
      have whole : before ++ operator :: rest = before ++ [operator] ++ rest := by simp
      have new : operator ∉ before := fun old =>
        (List.nodup_append.mp different).2.2 operator old operator List.mem_cons_self rfl
      rw [whole] at different ⊢
      rw [List.foldl_cons, Field.addOperator, if_neg (by simpa using new)]
      exact ih different

/-- A field is put together again from what its members say. -/
theorem assemble_eq {field : Field} (different : field.operators.Nodup) :
    assemble field.name field.type (some field.operators) field.filterable
      (field.enumType.map some) = field := by
  obtain ⟨name, type, operators, filterable, enumType⟩ := field
  have kept : operators.foldl Field.addOperator [] = operators := foldl_addOperator different
  rw [assemble, Field.allowing, Option.getD_some, kept]
  cases enumType <;> rfl

theorem readsRow_operators (operators : List Operator) (depth : Nat) :
    ReadsRow (readOperators (depth + 1))
      (Json.array (operators.map fun operator => .string operator.name)).chars operators := by
  have rows : List.Forall₂ (ReadsRow (readOperator depth))
      (operators.map fun operator => stringChars operator.name) operators := by
    rw [List.forall₂_map_left_iff, List.forall₂_same]
    exact fun operator _ => readsRow_expectWord (ofName?_eq_some_iff.mpr rfl) depth
  have written : (Json.array (operators.map fun operator => .string operator.name)).chars =
      arrayChars (operators.map fun operator => stringChars operator.name) := by
    rw [chars, charsOfItems_eq_map, List.map_map]
    refine congrArg arrayChars (List.map_congr_left fun operator _ => ?_)
    rw [Function.comp_apply, chars]
  rw [written]
  exact readsRow_expectList rows

section Members

variable {parts : FieldParts} {rest : Source} {depth : Nat}

theorem readFieldMember_name (unseen : parts.name = none) (stops : StopsNumber rest)
    (name : String) :
    readFieldMember (depth + 1) "name" parts
      (.char ':' :: ((Json.string name).chars.map .char ++ rest)) =
        .ok ({ parts with name := some name }, rest) := by
  rw [readFieldMember, if_pos rfl, unseen, chars, memberOnce_row (readsRow_expectString name) stops]
  rfl

theorem readFieldMember_type (unseen : parts.type = none) (stops : StopsNumber rest)
    (type : FieldType) :
    readFieldMember (depth + 1) "type" parts
      (.char ':' :: ((Json.string type.name).chars.map .char ++ rest)) =
        .ok ({ parts with type := some type }, rest) := by
  have row : ReadsRow (readType (depth + 1)) (stringChars type.name) type :=
    readsRow_expectWord (ofName?_name type) _
  rw [readFieldMember, if_neg (by decide), if_pos rfl, unseen, chars, memberOnce_row row stops]
  rfl

theorem readFieldMember_operators (unseen : parts.operators = none) (stops : StopsNumber rest)
    (operators : List Operator) :
    readFieldMember (depth + 1) "allowedOperators" parts
      (.char ':' :: ((Json.array (operators.map fun operator => .string operator.name)).chars.map
        .char ++ rest)) =
        .ok ({ parts with operators := some operators }, rest) := by
  rw [readFieldMember, if_neg (by decide), if_neg (by decide), if_pos rfl, unseen,
    memberOnce_row (readsRow_operators operators depth) stops]
  rfl

theorem readFieldMember_filterable (unseen : parts.filterable = none) (stops : StopsNumber rest)
    (filterable : Bool) :
    readFieldMember (depth + 1) "filterable" parts
      (.char ':' :: ((Json.boolean filterable).chars.map .char ++ rest)) =
        .ok ({ parts with filterable := some filterable }, rest) := by
  rw [readFieldMember, if_neg (by decide), if_neg (by decide), if_neg (by decide), if_pos rfl,
    unseen, memberOnce_row (readsRow_expectBoolean filterable) stops]
  rfl

theorem readFieldMember_enumType (unseen : parts.enumType = none) (stops : StopsNumber rest)
    (label : String) :
    readFieldMember (depth + 1) "enumTypeName" parts
      (.char ':' :: ((Json.string label).chars.map .char ++ rest)) =
        .ok ({ parts with enumType := some (some label) }, rest) := by
  rw [readFieldMember, if_neg (by decide), if_neg (by decide), if_neg (by decide),
    if_neg (by decide), if_pos rfl, unseen, chars,
    memberOnce_row (readsRow_expectOptional label) stops]
  rfl

end Members

/-- The members of a field record are collected one after the other. -/
theorem collectsRows_members (field : Field) (depth : Nat) :
    CollectsRows (readFieldMember (depth + 1)) {}
      (field.members.map fun member => (member.1, member.2.chars))
      ⟨some field.name, some field.type, some field.operators, some field.filterable,
        field.enumType.map some⟩ := by
  obtain ⟨name, type, operators, filterable, enumType⟩ := field
  refine .cons (readFieldMember_name rfl · name) <| .cons (readFieldMember_type rfl · type) <|
    .cons (readFieldMember_operators rfl · operators) <|
    .cons (readFieldMember_filterable rfl · filterable) ?_
  cases enumType with
  | none => exact .nil _
  | some label => exact .cons (readFieldMember_enumType rfl · label) (.nil _)

/-- A field record is read from the text that it is written as. -/
theorem readsRow_field {field : Field} (different : field.operators.Nodup) (depth : Nat) :
    ReadsRow (readField (depth + 2)) field.text.toList field where
  starts := ⟨'{', _, String.toList_ofList, by decide, by decide⟩
  reads {rest} _ := by
    have collects := collectsRows_members field depth
    rw [Field.text, String.toList_ofList]
    generalize field.members.map (fun member => (member.1, member.2.chars)) = named at collects
    have count := length_le_memberRows named
    refine expectRecord_eq_ok_iff.mpr ⟨depth + 1, _, _, rfl, .inr ⟨_,
      map_objectChars_append named rest, objectMembers_commaSeparated collects ?_ rest, ?_, rfl⟩⟩
    · simp only [List.length_append, List.length_map, List.length_cons]
      omega
    · exact congrArg Except.ok (assemble_eq different)

/-- The compact text of a list of field records. -/
def listText (fields : List Field) : String :=
  String.ofList (arrayChars (fields.map fun field => field.text.toList))

/-- A list of field records is read from the text that it is written as. -/
theorem parseFields_listText {fields : List Field}
    (different : ∀ field ∈ fields, field.operators.Nodup) :
    parseFields (listText fields) = .ok fields := by
  have rows : List.Forall₂ (ReadsRow (readField 126)) (fields.map fun field => field.text.toList)
      fields := by
    rw [List.forall₂_map_left_iff, List.forall₂_same]
    exact fun field member => readsRow_field (different field member) 124
  have row : ReadsRow (expectList "a sequence" readField greatestDepth)
      (arrayChars (fields.map fun field => field.text.toList)) fields := readsRow_expectList rows
  have read := row.reads stopsNumber_nil
  rw [List.append_nil] at read
  rw [parseFields, listText, Text.symbols, String.toList_ofList]
  exact document_eq_ok_iff.mpr ⟨[], read, rfl⟩

/-! ### Operators of fields that were read -/

theorem nodup_addOperator {operators : List Operator} (different : operators.Nodup)
    (operator : Operator) : (Field.addOperator operators operator).Nodup := by
  unfold Field.addOperator
  split
  · exact different
  · rename_i new
    rw [← List.concat_eq_append, List.nodup_concat]
    exact ⟨by simpa using new, different⟩

theorem nodup_operators_assemble (name : String) (type : FieldType)
    (operators : Option (List Operator)) (filterable : Bool) (enumType : Option (Option String)) :
    (assemble name type operators filterable enumType).operators.Nodup := by
  have kept : ∀ (listed before : List Operator), before.Nodup →
      (listed.foldl Field.addOperator before).Nodup := by
    intro listed
    induction listed with
    | nil => exact fun _ different => different
    | cons operator rest ih => exact fun before different => ih _ (nodup_addOperator different _)
  exact kept _ [] List.nodup_nil

/-- A field that was read lists no operator twice. -/
theorem nodup_operators_of_readField {text rest : Source} {field : Field} {depth : Nat}
    (read : readField depth text = .ok (field, rest)) : field.operators.Nodup := by
  obtain ⟨_, _, _, _, ⟨_, items, _⟩ | ⟨parts, _, _, finished, _⟩⟩ := expectRecord_eq_ok_iff.mp read
  · simp only [readFieldItems, bind_eq_ok_iff] at items
    obtain ⟨_, _, _, _, _, _, _, _, _, _, same⟩ := items
    obtain ⟨rfl, _⟩ := Prod.mk.inj (Except.ok.inj same)
    exact nodup_operators_assemble _ _ _ _ _
  · unfold FieldParts.finish at finished
    split at finished
    · cases finished
    · cases finished
    · cases finished
    · obtain rfl := Except.ok.inj finished
      exact nodup_operators_assemble _ _ _ _ _

theorem nodup_operators_of_parseFields {text : String} {fields : List Field}
    (read : parseFields text = .ok fields) : ∀ field ∈ fields, field.operators.Nodup := by
  obtain ⟨_, read, _⟩ := document_eq_ok_iff.mp read
  obtain ⟨_, _, _, _, _, items, _⟩ := expectList_eq_ok_iff.mp read
  exact forall_mem_of_listItems nodup_operators_of_readField items

/-! ### Registries of documents -/

/-- A document makes a registry exactly if it is read as its fields. -/
theorem Registry.parse_eq_ok_iff {text : String} {registry : Registry} :
    parse text = .ok registry ↔ parseFields text = .ok registry.fields := by
  unfold parse
  cases parseFields text with
  | error error => simp
  | ok fields =>
      dsimp only
      rw [ofFields_eq_ok_iff, Except.ok.injEq, eq_comm]

/-- A list of fields makes a registry exactly if it is a schema, and any other list fails by its
first field that may not follow those before it. The registry gives the fields of the list, by their
place and by their name. A document makes a registry of the list exactly if it is read as the list
and the list is a schema. So whatever way a registry was made, it holds a schema; and every schema
can be given as a document, as long as no field lists an operator twice. -/
theorem registries_hold_schemas (fields : List Field) :
    ((∃ registry, Registry.ofFields fields = .ok registry) ↔ IsSchema fields) ∧
    (∀ failure, Registry.ofFields fields = .error failure ↔ FirstOffence [] fields failure) ∧
    (∀ registry, Registry.ofFields fields = .ok registry →
      registry.Lists fields ∧ IsSchema registry.fields) ∧
    (∀ text, (∃ registry, Registry.parse text = .ok registry ∧ registry.fields = fields) ↔
      parseFields text = .ok fields ∧ IsSchema fields) ∧
    ((∃ text registry, Registry.parse text = .ok registry ∧ registry.fields = fields) ↔
      IsSchema fields ∧ ∀ field ∈ fields, field.operators.Nodup) := by
  have documented : ∀ text,
      (∃ registry, Registry.parse text = .ok registry ∧ registry.fields = fields) ↔
        parseFields text = .ok fields ∧ IsSchema fields := by
    intro text
    constructor
    · rintro ⟨registry, read, rfl⟩
      exact ⟨Registry.parse_eq_ok_iff.mp read, registry.isSchema⟩
    · rintro ⟨listed, schema⟩
      obtain ⟨registry, built⟩ := Registry.exists_ofFields_iff.mpr schema
      obtain rfl := Registry.ofFields_eq_ok_iff.mp built
      exact ⟨registry, Registry.parse_eq_ok_iff.mpr listed, rfl⟩
  refine ⟨Registry.exists_ofFields_iff, fun _ => Registry.ofFields_eq_error_iff,
    fun registry built => ?_, documented, ?_⟩
  · obtain rfl := Registry.ofFields_eq_ok_iff.mp built
    exact ⟨registry.lists_fields, registry.isSchema⟩
  · simp only [documented]
    constructor
    · rintro ⟨text, listed, schema⟩
      exact ⟨schema, nodup_operators_of_parseFields listed⟩
    · rintro ⟨schema, different⟩
      exact ⟨listText fields, parseFields_listText different, schema⟩

/-- Fields of which the second has a database type of three parts and the third repeats a name. -/
def sampleOffenders : List Field :=
  [⟨"role", .enumeration, [.eq], true, some "public.role"⟩,
    ⟨"state", .enumeration, [.eq], true, some "shop.public.state"⟩,
    ⟨"role", .text, [], true, none⟩]

/-- The first of them is a schema, and all three fail by the type of the second. -/
theorem sample_offenders_fail_by_second :
    (∃ registry, Registry.ofFields (sampleOffenders.take 1) = .ok registry ∧
      registry.find? "role" = some ⟨"role", .enumeration, [.eq], true, some "public.role"⟩) ∧
    Registry.ofFields sampleOffenders = .error (badEnumType "state" "shop.public.state") := by
  have first : IsSchema (sampleOffenders.take 1) := by
    refine ⟨by decide, List.forall_mem_singleton.mpr ?_⟩
    rintro _ ⟨⟩
    decide
  have second : Offends (sampleOffenders.take 1) ⟨"state", .enumeration, [.eq], true,
      some "shop.public.state"⟩ (badEnumType "state" "shop.public.state") :=
    .misnamed (by decide) rfl (by decide)
  constructor
  · obtain ⟨⟨_, accepted⟩, _, given, _⟩ := registries_hold_schemas (sampleOffenders.take 1)
    obtain ⟨registry, built⟩ := accepted first
    refine ⟨registry, built, ?_⟩
    exact ((given registry built).1.find?_eq_some_iff _ _).mpr ⟨List.mem_singleton_self _, rfl⟩
  · obtain ⟨_, refused, _⟩ := registries_hold_schemas sampleOffenders
    exact (refused _).mpr ⟨_, _, _, rfl, first, second⟩

end RowFilter.Schema
