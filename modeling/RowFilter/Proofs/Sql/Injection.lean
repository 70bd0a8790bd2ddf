import RowFilter.Proofs.Sql.StatementText

/-!
# Nothing ends its quotes

Whatever texts stand in a filter and whatever the table and the fields are called, the statement of
the filter splits into tokens, and every token is accounted for. Names and texts decode to what the
caller and the schema supplied; outside quotes there are only the keywords and symbols of the
library, the numbers of the filter, and the database types of the schema.

The last of these are the only caller text without quotes. They are safe because a registry is built
only of type names.
-/

namespace RowFilter.Sql

open RowFilter.Filter RowFilter.Schema

/-- Whether a text is that of a value: the value as it is shown, a pattern of it, or the instant
that it spells. -/
def IsTextOf (value : Value) (text : String) : Prop :=
  text = value.display ∨ (∃ occurrence, text = pattern occurrence value.display) ∨
    ∃ instant, value.text?.bind Calendar.read? = some instant ∧ text = instant.text

/-- Whether some condition of a filter has a value with the property. -/
def HasValue (filter : Group) (property : Value → Prop) : Prop :=
  ∃ condition ∈ filter.conditions, ∃ value ∈ condition.values, property value

/-- Whether a token may stand in a statement: a name is the table or a field of the schema that the
filter uses, a text or a number is one of the filter, and a cast is to a database type of the
schema. -/
def Accounted (registry : Registry) (filter : Group) (table : String) : Token → Prop
  | .identifier name =>
    name = table ∨
      registry.contains name = true ∧ ∃ condition ∈ filter.conditions, condition.field = name
  | .text text => HasValue filter (IsTextOf · text)
  | .numeral chars => HasValue filter fun value => chars = value.display
  | .cast type => ∃ field ∈ registry.fields, field.enumType = some type
  | .keyword _ => True
  | .symbol _ => True
  | .word _ => False
  | .placeholder _ => False

/-- The tokens of a literal that a field renders are the value's own text or number, and the field's
database type. -/
private theorem accounted_of_literal? {registry : Registry} {filter : Group} {table : String}
    {condition : Condition} (member : condition ∈ filter.conditions) {field : Field}
    (inRegistry : field ∈ registry.fields) {value : Value} (hvalue : value ∈ condition.values)
    {literal : Literal} (rendered : literal? field value = some literal) :
    ∀ token ∈ literal.tokens, Accounted registry filter table token := by
  have asText : ∀ {text : String}, IsTextOf value text →
      ∀ token ∈ (Literal.text text).tokens, Accounted registry filter table token := by
    intro text isText token htoken
    obtain rfl := List.mem_singleton.mp htoken
    exact ⟨condition, member, value, hvalue, isText⟩
  have asNumber : ∀ {chars : String}, chars = value.display →
      ∀ token ∈ [Token.numeral chars], Accounted registry filter table token := by
    intro chars shown token htoken
    obtain rfl := List.mem_singleton.mp htoken
    exact ⟨condition, member, value, hvalue, shown⟩
  have display_of_text? : ∀ {text : String}, value.text? = some text → text = value.display := by
    intro text same
    cases value <;> simp_all [Value.text?, Value.display]
  unfold literal? at rendered
  split at rendered
  · simp at rendered
  · simp at rendered
  · cases rendered
    exact asText (.inl rfl)
  · cases rendered
    exact asNumber (by rw [Value.display])
  · split at rendered
    · cases rendered
      exact asNumber (by rw [Value.display])
    · simp at rendered
  · simp at rendered
  · cases rendered
    simp [Literal.tokens, Accounted]
  · simp at rendered
  · obtain ⟨instant, spelled, rfl⟩ := Option.map_eq_some_iff.mp rendered
    exact asText (.inr (.inr ⟨instant, spelled, rfl⟩))
  · obtain ⟨text, same, rfl⟩ := Option.map_eq_some_iff.mp rendered
    exact asText (.inl (display_of_text? (Option.filter_eq_some_iff.mp same).1))
  · obtain ⟨label, same, rfl⟩ := Option.map_eq_some_iff.mp rendered
    have shown := asText (.inl (display_of_text? same))
    unfold labelLiteral
    split
    · rename_i type typed
      refine List.forall_mem_cons.mpr ⟨shown (.text label) List.mem_cons_self, ?_⟩
      exact List.forall_mem_singleton.mpr ⟨field, inRegistry, typed⟩
    · exact shown

/-- A statement of a filter splits into tokens, and every token is accounted for by the table, the
schema and the filter. -/
theorem statement_accounted {registry : Registry} {filter : Group} {table text : String}
    (compiled : statement registry filter table = .ok text) :
    ∃ read, tokens? text = some read ∧ ∀ token ∈ read, Accounted registry filter table token := by
  simp only [statement, bind_eq_ok_iff, filterClause_eq_map_renderedClause,
    map_eq_ok_iff] at compiled
  obtain ⟨_, ⟨clause, hclause, rfl⟩, same⟩ := compiled
  obtain rfl := Except.ok.inj same
  have traced := traced_of_renderedClause hclause
  have wellFormed : ∀ condition ∈ clause.map (Clause.map Rendered.literal),
      ∀ literal ∈ condition.operands,
      literal.WellFormed := by
    intro condition hcondition
    obtain ⟨original, horiginal, rfl⟩ := Option.map_eq_some_iff.mp hcondition
    exact (traced original horiginal).wellFormed
  refine ⟨_, (spells_selectAll table wellFormed).tokens?, ?_⟩
  simp only [statementTokens, List.forall_mem_cons]
  refine ⟨trivial, trivial, trivial, .inl rfl, ?_⟩
  cases clause with
  | none => simp
  | some original =>
      obtain ⟨_, columns, operands⟩ := traced original rfl
      refine List.forall_mem_cons.mpr ⟨trivial, ?_⟩
      refine Clause.forall_mem_tokens (fun _ => trivial) (fun _ => trivial)
        (original.map Rendered.literal) ?_ ?_
      · rw [Clause.columns_map]
        intro name hname
        obtain ⟨condition, member, named, contained⟩ := columns name hname
        exact .inr ⟨contained, condition, member, named⟩
      · rw [Clause.operands_map, List.forall_mem_map]
        intro rendered hrendered
        obtain ⟨condition, member, field, found, value, hvalue, ⟨literal, _⟩ | ⟨occurrence, rfl⟩⟩ :=
          operands rendered hrendered
        · exact accounted_of_literal? member (Registry.mem_fields_of_find? found) hvalue literal
        · intro token htoken
          obtain rfl := List.mem_singleton.mp htoken
          exact ⟨condition, member, value, hvalue, .inr (.inl ⟨occurrence, rfl⟩)⟩

/-- The quotes and the cast of the sample are all accounted for. -/
theorem sample_accounted : ∃ read, tokens? sampleStatement = some read ∧
    ∀ token ∈ read, Accounted sampleRegistry sampleFilter "users" token :=
  statement_accounted statement_sample

end RowFilter.Sql
