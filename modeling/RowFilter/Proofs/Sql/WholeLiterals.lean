import RowFilter.Proofs.Filter.Places
import RowFilter.Proofs.Json.LongNumerals
import RowFilter.Proofs.Sql.Databases
import RowFilter.Proofs.Sql.StatementFailures
import RowFilter.Proofs.Sql.StatementText
import RowFilter.Users

/-!
# Whole numbers from a text to a statement

A whole number that is written in a filter passes through a value and a literal. Within 64 bits with
sign it arrives in the statement as it is. A longer one is kept as a double, and what arrives is the
number that the fewest digits of the double spell.
-/

namespace RowFilter

open RowFilter.Filter RowFilter.Json RowFilter.Number RowFilter.Schema

namespace Filter

/-- What a whole number is kept as: itself within 64 bits with sign, and else a double near to it.
Zero with a sign is a double as well. -/
inductive KeepsWhole (n : Int) : Value → Prop
  | exact {i : Int64} (same : i.toInt = n) : KeepsWhole n (.integer i)
  | minusZero (zero : n = 0) : KeepsWhole n (.double (.zero true))
  | rounded {x : Double} (beyond : n < -(twoTo 63 : Int) ∨ (twoTo 63 : Int) ≤ n)
      (near : x.NearWhole n) : KeepsWhole n (.double x)

theorem keepsWhole_of_readAsWhole {n : Int} {m : Numeral} (read : ReadAsWhole n m) :
    KeepsWhole n (Value.ofJson (.number m)) := by
  have half : twoTo 63 = 9223372036854775808 := by decide
  have whole : twoTo 64 = 18446744073709551616 := by decide
  cases read with
  | exact range =>
      rw [Numeral.InRange, half, whole] at range
      rw [Value.ofJson, Value.ofInt, half]
      split
      · rename_i within
        simp only [Bool.and_eq_true, decide_eq_true_eq] at within
        refine .exact (Int64.toInt_ofInt_of_le (by omega) (by omega))
      · rename_i beyond
        simp only [Bool.and_eq_true, decide_eq_true_eq] at beyond
        refine .rounded (by omega) (Double.nearWhole_ofInt (by omega) (by omega))
  | minusZero zero => exact .minusZero zero
  | rounded beyond near =>
      rw [Numeral.InRange, half, whole] at beyond
      exact .rounded (by omega) near

end Filter

namespace Sql

/-- The whole number that an operand spells, if it is a numeral without a point. -/
def Operand.whole? : Operand → Option Int
  | .numeral chars => spelledWhole? chars.toList
  | _ => none

/-- Whether one whole number stands for another: it is the same within 64 bits with sign, and off by
one part in two to the fifty at most in any case. -/
structure StandsFor (m n : Int) : Prop where
  /-- Whole numbers of 64 bits with sign stand for themselves. -/
  same : -(twoTo 63 : Int) ≤ n → n < twoTo 63 → m = n
  /-- A longer number is stood for by one that is near. -/
  near : twoTo 50 * (m - n).natAbs ≤ n.natAbs

theorem StandsFor.refl (n : Int) : StandsFor n n :=
  ⟨fun _ _ => rfl, by rw [Int.sub_self]; exact Nat.zero_le _⟩

/-- Whole numbers with one sign are as far apart as without. -/
theorem standsFor_of_near {n : Int} {magnitude : Nat}
    (beyond : n < -(twoTo 63 : Int) ∨ (twoTo 63 : Int) ≤ n)
    (near : Near (twoTo 50) (twoTo 50 + 1) magnitude n.natAbs) :
    StandsFor (if n < 0 then -(magnitude : Int) else magnitude) n := by
  have parts : twoTo 50 = 1125899906842624 := by decide
  rw [Near, parts] at near
  refine ⟨fun low high => by omega, ?_⟩
  rw [parts]
  split <;> omega

/-- The literal of a kept whole number spells one that stands for it. -/
theorem exists_standsFor_of_keepsWhole {n : Int} {value : Value} (keeps : KeepsWhole n value)
    {field : Field} (type : field.type = .number) {written : Literal}
    (compiled : literal field value = .ok written) :
    n.natAbs < tenTo 309 ∧ ∃ m, written.operand.whole? = some m ∧ StandsFor m n := by
  rcases (literal_number_eq_ok_iff type _ _).mp compiled with
    ⟨i, rfl, rfl⟩ | ⟨x, rfl, finite, rfl⟩
  · cases keeps with
    | exact same =>
        subst same
        have low := i.le_toInt
        have high := i.toInt_lt
        have long : 9223372036854775808 < tenTo 309 := by decide +kernel
        exact ⟨by omega, i.toInt, spelledWhole?_toString i.toInt, .refl _⟩
  · cases keeps with
    | minusZero zero =>
        subst zero
        have spelled : spelledWhole? (Double.zero true).display.toList = some 0 :=
          spelledWhole?_display_zero (by decide)
        exact ⟨by decide +kernel, 0, spelled, .refl 0⟩
    | rounded beyond near =>
        have great : twoTo 63 ≤ n.natAbs := by omega
        have nonzero : n ≠ 0 := Int.natAbs_pos.mp (Nat.lt_of_lt_of_le (twoTo_pos 63) great)
        obtain ⟨whole, close⟩ := near.near_shortest plainStyle.tie great
        have spelled := spelledWhole?_display finite (near.isZero nonzero) whole
        rw [near.sign] at spelled
        simp only [decide_eq_true_eq] at spelled
        exact ⟨near.natAbs_lt, _, spelled, standsFor_of_near beyond close⟩

/-! ### From places to literals -/

/-- Whether an operand stands for the whole number that is written at a place, if one is. A number
of 310 digits or more is written at no such place. -/
def WritesWhole (place : Placed) (operand : Operand) : Prop :=
  ∀ start n, place = .leaf start → WholeAt start n →
    n.natAbs < tenTo 309 ∧ ∃ m, operand.whole? = some m ∧ StandsFor m n

/-- The literal of what is read at a place stands for the whole number that is written there. -/
theorem writesWhole_of_literal {field : Field} (type : field.type = .number) {place : Placed}
    {written : Literal} (compiled : literal field (placeValue place) = .ok written) :
    WritesWhole place written.operand := by
  rintro start n rfl whole
  rw [placeValue_leaf, leafValue] at compiled
  cases given : plain 0 start with
  | error stop =>
      rw [given, literal_number_eq_ok_iff type] at compiled
      rcases compiled with ⟨_, number, _⟩ | ⟨_, number, _⟩ <;> cases number
  | ok read =>
      rw [given] at compiled
      obtain ⟨m, same, read⟩ := exists_readAsWhole whole given
      dsimp only at compiled
      rw [same] at compiled
      exact exists_standsFor_of_keepsWhole (keepsWhole_of_readAsWhole read) type compiled

/-- The operands in the clause of a condition on numbers stand for the whole numbers that are
written at the places of its values, one by one. -/
theorem writesWhole_of_conditionClause {registry : Registry} {condition : Condition}
    {members : List (String × Placed)} {clause : Clause Literal} {field : Field}
    (mirrors : Mirrors (.condition condition) (Placed.object members).json)
    (compiled : conditionClause registry condition = .ok clause)
    (found : registry.find? condition.field = some field) (type : field.type = .number)
    (comparing : condition.operator.kind.compares = true) :
    List.Forall₂ WritesWhole (argumentPlaces members) (clause.map Literal.operand).operands := by
  rw [conditionClause, found] at compiled
  have literals := (comparingClause_of_fieldClause comparing compiled).literals
  rw [values_eq_map_argumentPlaces mirrors, List.forall₂_map_left_iff] at literals
  rw [Clause.operands_map, List.forall₂_map_right_iff]
  exact literals.imp fun place written => writesWhole_of_literal type

/-- Whether the statement of a filter writes the whole numbers of the text that the filter was read
from, given where everything stands in the text and what the statement is read back as. -/
structure WritesWholes (registry : Registry) (filter : Group) (text : Source) (tree : Placed)
    (sql table : String) (clause : Option (Clause Operand)) : Prop where
  /-- Everything stands in the text at these places, and at no others. -/
  places : ∀ other, IsPlaced text other ↔ other = tree
  /-- The statement selects from the table by the clause. -/
  readBack : readStatement sql = some (table, clause)
  /-- A condition stands in the text as an object. If it compares numbers, the operands in its
  clause stand for the whole numbers that are its values there, one by one. -/
  conditions : ∀ condition ∈ filter.conditions, ∃ members part, tree.Has (.object members) ∧
    Mirrors (.condition condition) (Placed.object members).json ∧
    conditionClause registry condition = .ok part ∧
    ∀ field, registry.find? condition.field = some field → field.type = .number →
      condition.operator.kind.compares = true →
        List.Forall₂ WritesWhole (argumentPlaces members) (part.map Literal.operand).operands
  /-- Every test of the statement is one in the clause of a condition. -/
  tests : ∀ whole ∈ clause, ∀ test ∈ whole.tests, ∃ condition ∈ filter.conditions, ∃ part,
    conditionClause registry condition = .ok part ∧ test ∈ (part.map Literal.operand).tests

/-- The whole numbers that conditions on numbers compare with, alone or in a list, are written in
the statement: those of 64 bits with sign as they are, and longer ones as whole numbers near to
them. Where there are 310 digits or more, the text is not read as a filter. -/
theorem statement_writes_wholes {registry : Registry} {text table sql : String} {filter : Group}
    (read : Filter.parse text = .ok filter)
    (compiled : statement registry filter table = .ok sql) :
    ∃ tree clause, WritesWholes registry filter (Text.symbols text) tree sql table clause := by
  obtain ⟨tree, placed, stands⟩ := exists_isPlaced_of_parse read
  obtain ⟨clause, hclause, readBack⟩ := readStatement_of_compiled compiled
  refine ⟨tree, _, fun other => ⟨fun also => also.unique placed, fun same => same ▸ placed⟩,
    readBack, fun condition member => ?_, fun whole hwhole test htest => ?_⟩
  · obtain ⟨members, has, mirrors⟩ := stands condition member
    have succeeds : failure? (statement registry filter table) = none := by rw [compiled]; rfl
    rw [failure?_statement, List.findSome?_eq_none_iff] at succeeds
    obtain ⟨part, hpart⟩ := (failure?_eq_none_iff _).mp (succeeds condition member)
    exact ⟨members, part, has, mirrors, hpart, fun field found type comparing =>
      writesWhole_of_conditionClause mirrors hpart found type comparing⟩
  · obtain ⟨original, horiginal, rfl⟩ := Option.map_eq_some_iff.mp hwhole
    rw [Clause.tests_readBack, Clause.tests_map, List.mem_map] at htest
    obtain ⟨source, hsource, rfl⟩ := htest
    obtain ⟨condition, member, part, hpart, inPart⟩ :=
      exists_condition_of_test hclause original horiginal source hsource
    refine ⟨condition, member, part, hpart, ?_⟩
    rw [Clause.tests_map]
    exact List.mem_map_of_mem inPart

/-- Users above an age. -/
def sampleAbove (digits : String) : String :=
  "\x7b\"and\":[\x7b\"field\":\"age\",\"operator\":\"gt\",\"value\":" ++ digits ++ "\x7d]\x7d"

/-- The greatest whole number of 64 bits with sign is written as it is. -/
theorem sample_greatest_written : ∃ filter,
    Filter.parse (sampleAbove "9223372036854775807") = .ok filter ∧
      statement Users.registry filter "users" =
        .ok "SELECT * FROM \"users\" WHERE (\"age\" > 9223372036854775807)" ∧
      ∃ tree clause, WritesWholes Users.registry filter
        (Text.symbols (sampleAbove "9223372036854775807")) tree
        "SELECT * FROM \"users\" WHERE (\"age\" > 9223372036854775807)" "users" clause := by
  have accepted : ((Filter.parse (sampleAbove "9223372036854775807")).toOption.any fun filter =>
      (statement Users.registry filter "users").toOption.any fun sql =>
        sql == "SELECT * FROM \"users\" WHERE (\"age\" > 9223372036854775807)") = true := by
    decide +kernel
  obtain ⟨filter, read, compiles⟩ := exists_ok_of_any accepted
  obtain ⟨sql, compiled, same⟩ := exists_ok_of_any compiles
  obtain rfl := eq_of_beq same
  exact ⟨filter, read, compiled, statement_writes_wholes read compiled⟩

/-- The next whole number is accepted, and another one is written. -/
theorem sample_next_changed :
    WholeAt (Text.symbols "9223372036854775808\x7d]\x7d") 9223372036854775808 ∧
      (∃ filter, Filter.parse (sampleAbove "9223372036854775808") = .ok filter ∧
        Validation.issues Users.registry filter = [] ∧
        statement Users.registry filter "users" =
          .ok "SELECT * FROM \"users\" WHERE (\"age\" > 9223372036854776000)") ∧
      (Operand.numeral "9223372036854776000").whole? = some 9223372036854776000 := by
  have accepted : ((Filter.parse (sampleAbove "9223372036854775808")).toOption.any fun filter =>
      (Validation.issues Users.registry filter).isEmpty &&
        (statement Users.registry filter "users").toOption.any fun sql =>
          sql == "SELECT * FROM \"users\" WHERE (\"age\" > 9223372036854776000)") = true := by
    decide +kernel
  obtain ⟨filter, read, compiles⟩ := exists_ok_of_any accepted
  obtain ⟨clean, compiles⟩ := (Bool.and_eq_true _ _).mp compiles
  obtain ⟨sql, compiled, same⟩ := exists_ok_of_any compiles
  obtain rfl := eq_of_beq same
  refine ⟨⟨false, 9223372036854775808, Text.symbols "\x7d]\x7d", ?_, rfl, ?_⟩,
    ⟨filter, read, List.isEmpty_iff.mp clean, compiled⟩, by decide +kernel⟩
  · intro symbol first
    have brace : (Text.symbols "\x7d]\x7d").head? = some (.char '}') := by decide +kernel
    obtain rfl := Option.some.inj (brace.symm.trans first)
    decide
  · decide +kernel

end Sql

end RowFilter
