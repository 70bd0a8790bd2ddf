import RowFilter.Proofs.Sql.Spelling

/-!
# Numbering of operands

Numbering a clause replaces its operands by consecutive numbers from left to right and changes
nothing else. So a clause is recovered from its numbered form by putting back, for every number, the
operand at that position.

The placeholders of a statement are found among its tokens, so a name that looks like one is none.
A clause brings forth the placeholders of its operands, from left to right, and nothing else in it
is a placeholder. So the placeholders of a numbered clause are the numbers after the last one used.
-/

namespace RowFilter.Sql.Clause

variable {α β : Type}

private theorem operandsOfParts_numberedParts {parts : List (Clause α)}
    (each : ∀ part ∈ parts, ∀ last,
      (part.numberedAfter last).operands = List.range' (last + 1) part.operands.length)
    (last : Nat) :
    operandsOfParts (numberedParts last parts) =
      List.range' (last + 1) (operandsOfParts parts).length := by
  induction parts generalizing last with
  | nil => rfl
  | cons part rest ih =>
      have later := ih (fun other hother => each other (List.mem_cons_of_mem part hother))
      rw [numberedParts, operandsOfParts, operandsOfParts, each part List.mem_cons_self, later,
        List.length_append, ← List.range'_append_1]
      congr 2
      omega

/-- The numbers of a clause run on from the last number used, from left to right. -/
theorem operands_numberedAfter (clause : Clause α) (last : Nat) :
    (clause.numberedAfter last).operands = List.range' (last + 1) clause.operands.length := by
  induction clause using induction generalizing last with
  | always => rfl
  | never => rfl
  | compare => rfl
  | among => rfl
  | between => rfl
  | like => rfl
  | isNull => rfl
  | isNotNull => rfl
  | all parts ih => exact operandsOfParts_numberedParts ih last
  | any parts ih => exact operandsOfParts_numberedParts ih last
  | both left right hleft hright =>
      rw [numberedAfter, operands, operands, hleft, hright, List.length_append,
        ← List.range'_append_1]
      congr 2
      omega

/-- Whether the numbers counted on from the last one used stand for the operands, position by
position. -/
def NumbersStandFor (value : Nat → β) (last : Nat) (operands : List β) : Prop :=
  ∀ i (bound : i < operands.length), value (last + 1 + i) = operands[i]

theorem NumbersStandFor.of_append {value : Nat → β} {last : Nat} {first second : List β}
    (stand : NumbersStandFor value last (first ++ second)) :
    NumbersStandFor value last first ∧ NumbersStandFor value (last + first.length) second := by
  refine ⟨fun i bound => ?_, fun i bound => ?_⟩
  · have whole : i < (first ++ second).length := by
      rw [List.length_append]
      omega
    rw [stand i whole, List.getElem_append_left bound]
  · have whole : first.length + i < (first ++ second).length := by
      rw [List.length_append]
      omega
    have given := stand (first.length + i) whole
    rw [List.getElem_append_right (Nat.le_add_right _ _)] at given
    simp only [Nat.add_sub_cancel_left] at given
    rw [← given]
    congr 1
    omega

/-- The numbers of a row of operands are mapped to the operands that they stand for. -/
theorem map_numbersAfter {value : Nat → β} {last : Nat} (operands : List β)
    (stand : NumbersStandFor value last operands) :
    (numbersAfter last operands).map value = operands := by
  apply List.ext_getElem
  · rw [List.length_map, numbersAfter, List.length_range']
  · intro i _ bound
    rw [List.getElem_map]
    simp only [numbersAfter, List.getElem_range', Nat.one_mul]
    exact stand i bound

private theorem map_numberedParts {value : Nat → β} {parts : List (Clause β)}
    (each : ∀ part ∈ parts, ∀ last,
      NumbersStandFor value last part.operands → (part.numberedAfter last).map value = part)
    {last : Nat} (stand : NumbersStandFor value last (operandsOfParts parts)) :
    (numberedParts last parts).map (map value) = parts := by
  induction parts generalizing last with
  | nil => rfl
  | cons part rest ih =>
      -- The numbers of the rest begin after those of the part.
      obtain ⟨first, second⟩ := stand.of_append
      have later := ih (fun other hother => each other (List.mem_cons_of_mem part hother)) second
      rw [numberedParts, List.map_cons, each part List.mem_cons_self last first, later]

/-- Putting the operands back for their numbers recovers the clause. -/
theorem map_numberedAfter {value : Nat → β} (clause : Clause β) {last : Nat}
    (stand : NumbersStandFor value last clause.operands) :
    (clause.numberedAfter last).map value = clause := by
  induction clause using induction generalizing last with
  | always => rfl
  | never => rfl
  | compare column relation operand =>
      have hoperand : value (last + 1) = operand := stand 0 (by simp [operands])
      rw [numberedAfter, map, hoperand]
  | among column operands =>
      have numbers : NumbersStandFor value last operands := stand
      rw [numberedAfter, map, map_numbersAfter operands numbers]
  | between column low high =>
      have hlow : value (last + 1) = low := stand 0 (by simp [operands])
      have hhigh : value (last + 2) = high := stand 1 (by simp [operands])
      rw [numberedAfter, map, hlow, hhigh]
  | like column pattern =>
      have hpattern : value (last + 1) = pattern := stand 0 (by simp [operands])
      rw [numberedAfter, map, hpattern]
  | isNull => rfl
  | isNotNull => rfl
  | all parts ih =>
      rw [numberedAfter, map_all, map_numberedParts (fun part hpart _ => ih part hpart) stand]
  | any parts ih =>
      rw [numberedAfter, map_any, map_numberedParts (fun part hpart _ => ih part hpart) stand]
  | both left right hleft hright =>
      obtain ⟨first, second⟩ := stand.of_append
      rw [numberedAfter, map, hleft first, hright second]

private theorem numberedParts_map (f : α → β) {parts : List (Clause α)}
    (each : ∀ part ∈ parts, ∀ last, (part.map f).numberedAfter last = part.numberedAfter last)
    (last : Nat) :
    numberedParts last (parts.map (map f)) = numberedParts last parts := by
  induction parts generalizing last with
  | nil => rfl
  | cons part rest ih =>
      have later := ih (fun other hother => each other (List.mem_cons_of_mem part hother))
      rw [List.map_cons, numberedParts, numberedParts, each part List.mem_cons_self, operands_map,
        List.length_map, later]

/-- Numbering does not depend on the operands. -/
theorem numberedAfter_map (f : α → β) (clause : Clause α) (last : Nat) :
    (clause.map f).numberedAfter last = clause.numberedAfter last := by
  induction clause using induction generalizing last with
  | always => rfl
  | never => rfl
  | compare => rfl
  | among column operands =>
      rw [map, numberedAfter, numberedAfter, numbersAfter, numbersAfter, List.length_map]
  | between => rfl
  | like => rfl
  | isNull => rfl
  | isNotNull => rfl
  | all parts ih => rw [map_all, numberedAfter, numberedAfter, numberedParts_map f ih]
  | any parts ih => rw [map_any, numberedAfter, numberedAfter, numberedParts_map f ih]
  | both left right hleft hright =>
      rw [map, numberedAfter, numberedAfter, hleft, hright, operands_map, List.length_map]

/-- Numbering empties no list. -/
theorem ListsNonempty.numberedAfter {clause : Clause α} (lists : clause.ListsNonempty)
    (last : Nat) :
    (clause.numberedAfter last).ListsNonempty := by
  have erased : (clause.map fun _ => ()).ListsNonempty := (listsNonempty_map_iff _ clause).mpr lists
  have stand : NumbersStandFor (fun _ => ()) last (clause.map fun _ => ()).operands :=
    fun _ _ => rfl
  have numbered := map_numberedAfter (clause.map fun _ => ()) stand
  rw [numberedAfter_map] at numbered
  rw [← numbered] at erased
  exact (listsNonempty_map_iff _ _).mp erased

end RowFilter.Sql.Clause

namespace RowFilter.Sql

/-- The number of a placeholder, if a token is one. -/
def Token.placeholder? : Token → Option Nat
  | .placeholder number => some number
  | _ => none

/-- The numbers of the placeholders among some tokens, from left to right. -/
def placeholders (tokens : List Token) : List Nat := tokens.filterMap Token.placeholder?

theorem placeholders_append (first second : List Token) :
    placeholders (first ++ second) = placeholders first ++ placeholders second :=
  List.filterMap_append

theorem placeholders_cons_of_none {token : Token} (other : token.placeholder? = none)
    (rest : List Token) :
    placeholders (token :: rest) = placeholders rest :=
  List.filterMap_cons_none other

/-- A separator without placeholders leaves those of the rows. -/
theorem placeholders_separated {separator : List Token} (none_between : placeholders separator = [])
    (rows : List (List Token)) :
    placeholders (separated separator rows) = rows.flatMap placeholders :=
  filterMap_separated none_between rows

/-- Parentheses are no placeholders. -/
theorem placeholders_parenthesised (inner : List Token) :
    placeholders (.symbol .opening :: inner ++ [.symbol .closing]) = placeholders inner :=
  filterMap_parenthesised (fun _ => rfl) inner

namespace Clause

variable {α : Type}

private theorem placeholders_parts {operand : α → List Token} (connective : Keyword)
    {parts : List (Clause α)}
    (each : ∀ part ∈ parts, placeholders (part.tokens operand) =
      part.operands.flatMap fun a => placeholders (operand a)) :
    placeholders (.symbol .opening :: separated [.keyword connective]
        (parts.map (tokens operand)) ++ [.symbol .closing]) =
      (parts.flatMap operands).flatMap fun a => placeholders (operand a) := by
  rw [placeholders_parenthesised, placeholders_separated rfl, List.flatMap_map, List.flatMap_assoc]
  exact List.flatMap_congr each

/-- The placeholders of a clause are those of its operands. -/
theorem placeholders_tokens (operand : α → List Token) (clause : Clause α) :
    placeholders (clause.tokens operand) =
      clause.operands.flatMap fun a => placeholders (operand a) := by
  induction clause using induction with
  | always => rfl
  | never => rfl
  | compare column relation value => exact (List.flatMap_singleton _ _).symm
  | among column values =>
      have listed := placeholders_parenthesised (separated [.symbol .comma] (values.map operand))
      rw [placeholders_separated rfl, List.flatMap_map] at listed
      exact listed
  | between column low high =>
      show placeholders (operand low ++ .keyword .conjunction :: operand high) = _
      rw [placeholders_append, placeholders_cons_of_none rfl, operands, List.flatMap_cons,
        List.flatMap_singleton]
  | like column pattern => exact (List.flatMap_singleton _ _).symm
  | isNull column => rfl
  | isNotNull column => rfl
  | all parts ih =>
      cases parts with
      | nil => rfl
      | cons part rest =>
          rw [tokens, tokensOfParts_eq_map, operands_all]
          exact placeholders_parts .conjunction ih
  | any parts ih =>
      cases parts with
      | nil => rfl
      | cons part rest =>
          rw [tokens, tokensOfParts_eq_map, operands_any]
          exact placeholders_parts .disjunction ih
  | both left right hleft hright =>
      rw [tokens, placeholders_append, placeholders_cons_of_none rfl, hleft, hright, operands,
        List.flatMap_append]

/-- The tokens of a clause with placeholders for its operands, numbered after the given number. -/
def numberedTokens (last : Nat) (clause : Clause α) : List Token :=
  (clause.numberedAfter last).tokens fun number => [.placeholder number]

/-- The text with placeholders spells these tokens. -/
theorem spells_parameterised (last : Nat) (clause : Clause α) :
    Spells (clause.parameterised last).1.toList (clause.numberedTokens last) :=
  (clause.numberedAfter last).spells_text fun number _ => spells_placeholder number

/-- The placeholders of a numbered clause run on from the last number used, as many as the clause
has operands. -/
theorem placeholders_numberedTokens (last : Nat) (clause : Clause α) :
    placeholders (clause.numberedTokens last) = List.range' (last + 1) clause.operands.length := by
  rw [numberedTokens, placeholders_tokens, ← operands_numberedAfter]
  exact List.flatMap_singleton' _

end Clause

end RowFilter.Sql
