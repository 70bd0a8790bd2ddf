import RowFilter.Proofs.Sql.Databases
import RowFilter.Proofs.Sql.StatementFailures

/-!
# Texts compared by character

A statement carries the texts of text fields and of labels exactly, and a database compares them
with the column by character. The predicate of the same condition does not know the type of the
field: it compares texts that both look like dates as instants, and texts that both look like
identifiers in lower case. So the two give the same verdict on a column and a value that do not both
look like either.
-/

namespace RowFilter.Sql

open RowFilter.Comparison RowFilter.Filter RowFilter.Schema RowFilter.Validation

/-- The characters that a quoted literal stands for. -/
def Literal.characters? : Literal → Option String
  | .text s => some s
  | .cast label _ => some label
  | _ => none

/-- The database that compares texts by character, for columns of texts and of labels. -/
def byCharacter : Database Literal where
  order json written := match json with
    | .string text => written.characters?.map (orderOfCharacters text)
    | _ => none
  fits column written := (written.characters?.map fun pattern =>
    Truth.ofPattern column (.text pattern)).getD .unknown

theorem orderOf_byCharacter (text : String) (written : Literal) :
    byCharacter.orderOf (some (.string text)) written =
      written.characters?.map (orderOfCharacters text) :=
  rfl

/-- Whether two texts neither both look like dates nor both look like identifiers. -/
def Plain (text other : String) : Prop :=
  (Calendar.read? text = none ∨ Calendar.read? other = none) ∧
    (Uuid.isUuid text = false ∨ Uuid.isUuid other = false)

theorem orderOfTexts_of_plain {text other : String} (plain : Plain text other) :
    orderOfTexts text other = orderOfCharacters text other := by
  obtain ⟨noDates, noIdentifiers⟩ := plain
  have mixed : (Uuid.isUuid text && Uuid.isUuid other) = false := by
    rwa [Bool.and_eq_false_iff]
  unfold orderOfTexts
  split
  · rename_i first second
    rcases noDates with none | none
    · rw [none] at first
      cases first
    · rw [none] at second
      cases second
  · rw [mixed]
    rfl

theorem exists_text_of_accepts {type : FieldType} {value : Value}
    (textual : type = .text ∨ type = .enumeration) (accepted : type.accepts value = true) :
    ∃ text, value = .text text := by
  have isText : value.text?.isSome = true := by
    rcases textual with rfl | rfl
    · exact accepted
    · exact accepted
  cases value with
  | text text => exact ⟨text, rfl⟩
  | _ => cases isText

/-- A text or a label is written with exactly its characters. -/
theorem characters?_of_literal {field : Field} {text : String} {written : Literal}
    (textual : field.type = .text ∨ field.type = .enumeration)
    (hwritten : literal field (.text text) = .ok written) : written.characters? = some text := by
  rw [literal_eq_ok_iff] at hwritten
  unfold literal? at hwritten
  rcases textual with type | type
  · rw [type] at hwritten
    obtain rfl := Option.some.inj hwritten
    rfl
  · rw [type] at hwritten
    obtain rfl := Option.some.inj hwritten
    unfold labelLiteral
    cases field.enumType <;> rfl

theorem writtenOrder_byCharacter {field : Field}
    (textual : field.type = .text ∨ field.type = .enumeration) (text other : String) :
    writtenOrder byCharacter field (some (.string text)) (.text other) =
      some (orderOfCharacters text other) := by
  have accepted : field.type.accepts (.text other) = true := by
    rcases textual with type | type <;> rw [type] <;> rfl
  obtain ⟨written, hwritten⟩ := literal_of_accepts accepted
  rw [writtenOrder_of_literal hwritten, orderOf_byCharacter,
    characters?_of_literal textual hwritten]
  rfl

/-- A condition on a text or a label is decided on a column with a text in two ways. Its clause has
exactly the texts of the condition, and in a database that compares them by character it is true
where the condition holds by character. Its predicate goes by what the texts look like, and gives
the same verdict if none looks like a date or an identifier together with the column. -/
theorem verdict_by_character {registry : Registry} {condition : Condition} {field : Field}
    {predicate : Predicate} {record : Record} {text : String}
    (found : registry.find? condition.field = some field)
    (textual : field.type = .text ∨
      field.type = .enumeration ∧ condition.operator ∈ [.eq, .neq, .member])
    (comparing : condition.operator.kind.compares = true)
    (clean : conditionIssues registry condition = [])
    (compiled : Predicate.ofCondition condition = .ok predicate)
    (column : record.lookup condition.field = some (.string text)) :
    (∃ clause, conditionClause registry condition = .ok clause ∧
      clause.operands.map Literal.characters? = condition.values.map Value.text? ∧
      (clause.truthIn byCharacter record = .yes ↔
        condition.holdsBy (fun value => value.text?.map (orderOfCharacters text)) = true)) ∧
    predicate.holds record =
      condition.holdsBy (fun value => value.text?.map (orderOfTexts text)) ∧
    ((∀ other, .text other ∈ condition.values → Plain text other) →
      predicate.holds record =
        condition.holdsBy (fun value => value.text?.map (orderOfCharacters text))) := by
  have type : field.type = .text ∨ field.type = .enumeration := textual.imp_right And.left
  have present : record.value? condition.field = some (.string text) :=
    Record.value?_of_lookup column rfl
  have accepted := accepts_of_mem_values found clean
  have verdict : predicate.holds record =
      condition.holdsBy (fun value => value.text?.map (orderOfTexts text)) := by
    rw [Predicate.holds_eq_holdsBy comparing compiled record, present]
    apply Condition.holdsBy_congr
    intro value _
    exact order?_string text value
  refine ⟨?_, verdict, fun plain => ?_⟩
  · obtain ⟨clause, hclause, written⟩ := exists_fieldClause found clean compiled
    have compared := comparingClause_of_fieldClause comparing written
    refine ⟨clause, hclause, ?_, ?_⟩
    · apply map_eq_map_of_forall₂ compared.literals
      intro value member literal hliteral
      obtain ⟨other, rfl⟩ := exists_text_of_accepts type (accepted value member)
      exact characters?_of_literal type hliteral
    · rw [compared.truthIn_iff, present]
      apply iff_of_eq
      congr 1
      apply Condition.holdsBy_congr
      intro value member
      obtain ⟨other, rfl⟩ := exists_text_of_accepts type (accepted value member)
      exact writtenOrder_byCharacter type text other
  · rw [verdict]
    apply Condition.holdsBy_congr
    intro value member
    obtain ⟨other, rfl⟩ := exists_text_of_accepts type (accepted value member)
    exact congrArg some (orderOfTexts_of_plain (plain other member))

/-- A name in capital and small letters. -/
def sampleName : Condition := ⟨"name", .eq, some (.text "John Doe")⟩

/-- The predicate compares it by character with the same name in small letters. -/
theorem sample_name_by_character :
    conditionIssues Users.registry sampleName = [] ∧
      (Predicate.compare "name" .equal (.text "John Doe")).holds [("name", .string "john doe")] =
        sampleName.holdsBy (fun value => value.text?.map (orderOfCharacters "john doe")) := by
  have clean : conditionIssues Users.registry sampleName = [] := by decide +kernel
  have plain : Plain "john doe" "John Doe" := by
    unfold Plain
    decide +kernel
  have column : ([("name", .string "john doe")] : Record).lookup "name" =
      some (.string "john doe") := rfl
  obtain ⟨_, _, alike⟩ := verdict_by_character rfl (.inl rfl) rfl clean rfl column
  refine ⟨clean, alike ?_⟩
  intro other member
  obtain rfl : other = "John Doe" := Value.text.inj (List.mem_singleton.mp member)
  exact plain

/-- A name that looks like a day. -/
def sampleDayName : Condition := ⟨"name", .eq, some (.text "2024-01-15")⟩

/-- The predicate takes the name of a row for the same day, though the two texts differ, and the
statement does not select the row. -/
theorem sample_day_name_as_date :
    conditionIssues Users.registry sampleDayName = [] ∧
      ∃ predicate clause, Predicate.ofCondition sampleDayName = .ok predicate ∧
        conditionClause Users.registry sampleDayName = .ok clause ∧
        predicate.holds [("name", .string "2024-01-15T00:00:00Z")] = true ∧
        sampleDayName.holdsBy
          (fun value => value.text?.map (orderOfCharacters "2024-01-15T00:00:00Z")) = false ∧
        clause.truthIn byCharacter [("name", .string "2024-01-15T00:00:00Z")] = .no :=
  ⟨by decide +kernel, _, _, rfl, rfl, by decide +kernel, by decide +kernel, by decide +kernel⟩

end RowFilter.Sql
