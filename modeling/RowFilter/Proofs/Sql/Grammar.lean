import RowFilter.Proofs.Sql.Spelling

/-!
# Reading conditions

The grammar of conditions by which a database reads the tokens of a clause back: a test of a column,
`TRUE` and `FALSE` are atoms, `AND` binds tighter than `OR`, and parentheses group. It is a machine
that takes one token at a time and keeps a frame for every open parenthesis, so that no lookahead is
needed. What it reads is again a clause: a row of disjuncts, each a row of conjuncts. A cast does
not change which column or operand a token names and is passed over; the tokens allow one only
behind a text.

A clause that was written is read back with the same tests under the same connectives. Two clauses
side by side are written without parentheses, and are read back as further conjuncts of what stands
around them.
-/

namespace RowFilter.Sql

/-- An operand as it stands in a statement. -/
inductive Operand where
  /-- A text between quotes. -/
  | text (text : String)
  /-- A number. -/
  | numeral (chars : String)
  /-- A truth value. -/
  | boolean (b : Bool)
  /-- A parameter. -/
  | placeholder (number : Nat)
  deriving DecidableEq, Repr

/-- The operand that a token is. -/
def Operand.ofToken? : Token → Option Operand
  | .text s => some (.text s)
  | .numeral chars => some (.numeral chars)
  | .keyword .yes => some (.boolean true)
  | .keyword .no => some (.boolean false)
  | .placeholder n => some (.placeholder n)
  | _ => none

/-- What is still to come of the atom that is being read. -/
inductive Expecting where
  /-- The whole atom. -/
  | atom
  /-- What a column is tested for. -/
  | test (column : String)
  /-- The operand of a comparison. -/
  | operand (column : String) (relation : Relation)
  /-- The lower bound of a range. -/
  | low (column : String)
  /-- The word between the bounds of a range. -/
  | bounds (column : String) (low : Operand)
  /-- The upper bound of a range. -/
  | high (column : String) (low : Operand)
  /-- The parenthesis that opens a list. -/
  | list (column : String)
  /-- An item of a list, after those before it. -/
  | item (column : String) (before : List Operand)
  /-- A comma or the parenthesis that closes a list, after its items so far. -/
  | comma (column : String) (items : List Operand)
  /-- A pattern. -/
  | pattern (column : String)
  /-- The rest of a test for null. -/
  | null (column : String)
  /-- The last word of a test for a value. -/
  | nullAfterNot (column : String)
  /-- Nothing: a connective, a closing parenthesis or the end. -/
  | nothing

/-- What has been read since a parenthesis was opened: whole disjuncts, and the conjuncts of the
last disjunct so far. -/
structure Frame where
  /-- The disjuncts before the last. -/
  disjuncts : List (Clause Operand) := []
  /-- The conjuncts of the last disjunct. -/
  conjuncts : List (Clause Operand) := []

namespace Frame

/-- The frame with more conjuncts in its last disjunct. -/
def add (frame : Frame) (clauses : List (Clause Operand)) : Frame :=
  { frame with conjuncts := frame.conjuncts ++ clauses }

/-- The frame with its last disjunct closed and the next one begun. -/
def endDisjunct (frame : Frame) : Frame := ⟨frame.disjuncts ++ [.all frame.conjuncts], []⟩

/-- The clause of a frame. -/
def clause (frame : Frame) : Clause Operand := .any frame.endDisjunct.disjuncts

end Frame

/-- Where the reader of conditions stands. -/
structure Parsing where
  /-- What must come next. -/
  expecting : Expecting
  /-- What has been read since the last parenthesis that is still open. -/
  frame : Frame
  /-- What had been read before each open parenthesis, the last one first. -/
  outer : List Frame

namespace Parsing

/-- The reader before the first token. -/
def start : Parsing := ⟨.atom, {}, []⟩

/-- The reader with more of the current atom read. -/
def expect (parsing : Parsing) (expecting : Expecting) : Parsing := { parsing with expecting }

/-- The reader after the last token of an atom. -/
def complete (parsing : Parsing) (atom : Clause Operand) : Parsing :=
  ⟨.nothing, parsing.frame.add [atom], parsing.outer⟩

/-- The reader after an operand; none where no operand can stand. -/
def take (parsing : Parsing) (operand : Operand) : Option Parsing :=
  match parsing.expecting with
  | .operand column relation => some (parsing.complete (.compare column relation operand))
  | .low column => some (parsing.expect (.bounds column operand))
  | .high column low => some (parsing.complete (.between column low operand))
  | .item column before => some (parsing.expect (.comma column (before ++ [operand])))
  | .pattern column => some (parsing.complete (.like column operand))
  | _ => none

/-- The reader after one more token; none where the token cannot stand. -/
def step (parsing : Parsing) (token : Token) : Option Parsing :=
  match parsing.expecting, token with
  | .atom, .symbol .opening => some ⟨.atom, {}, parsing.frame :: parsing.outer⟩
  | .atom, .keyword .yes => some (parsing.complete .always)
  | .atom, .keyword .no => some (parsing.complete .never)
  | .atom, .identifier column => some (parsing.expect (.test column))
  | .test column, .symbol (.relation relation) => some (parsing.expect (.operand column relation))
  | .test column, .keyword .between => some (parsing.expect (.low column))
  | .test column, .keyword .member => some (parsing.expect (.list column))
  | .test column, .keyword .ilike => some (parsing.expect (.pattern column))
  | .test column, .keyword .is => some (parsing.expect (.null column))
  | .bounds column low, .keyword .conjunction => some (parsing.expect (.high column low))
  | .list column, .symbol .opening => some (parsing.expect (.item column []))
  | .comma column items, .symbol .comma => some (parsing.expect (.item column items))
  | .comma column items, .symbol .closing => some (parsing.complete (.among column items))
  | .null column, .keyword .null => some (parsing.complete (.isNull column))
  | .null column, .keyword .not => some (parsing.expect (.nullAfterNot column))
  | .nullAfterNot column, .keyword .null => some (parsing.complete (.isNotNull column))
  | .nothing, .keyword .conjunction => some (parsing.expect .atom)
  | .nothing, .keyword .disjunction => some ⟨.atom, parsing.frame.endDisjunct, parsing.outer⟩
  | .nothing, .symbol .closing =>
    match parsing.outer with
    | [] => none
    | frame :: outer => some ⟨.nothing, frame.add [parsing.frame.clause], outer⟩
  | _, token => (Operand.ofToken? token).bind parsing.take

/-- The clause that was read, if it can end here. -/
def finish (parsing : Parsing) : Option (Clause Operand) :=
  match parsing.expecting, parsing.outer with
  | .nothing, [] => some parsing.frame.clause
  | _, _ => none

end Parsing

/-- Whether a token is a cast. -/
def Token.isCast : Token → Bool
  | .cast _ => true
  | _ => false

/-- The reader after a row of tokens, casts passed over. -/
def Parsing.run (parsing : Parsing) (tokens : List Token) : Option Parsing :=
  (tokens.filter fun token => !token.isCast).foldlM Parsing.step parsing

/-- The clause that a row of tokens is read as. -/
def readTokens (tokens : List Token) : Option (Clause Operand) :=
  (Parsing.start.run tokens).bind Parsing.finish

/-- The clause that the text of a condition is read as. -/
def readCondition (text : String) : Option (Clause Operand) := (tokens? text).bind readTokens

namespace Clause

variable {α : Type}

mutual

/-- The conjuncts as which a clause is read back. -/
def conjuncts : Clause α → List (Clause α)
  | .all [] => [.always]
  | .any [] => [.never]
  | .all (part :: rest) => [.any [.all (conjuncts part ++ conjunctsOfParts rest)]]
  | .any (part :: rest) => [.any (.all (conjuncts part) :: disjunctsOfParts rest)]
  | .both left right => conjuncts left ++ conjuncts right
  | test => [test]

/-- The conjuncts as which clauses are read back. -/
def conjunctsOfParts : List (Clause α) → List (Clause α)
  | [] => []
  | part :: rest => conjuncts part ++ conjunctsOfParts rest

/-- The disjuncts as which clauses are read back. -/
def disjunctsOfParts : List (Clause α) → List (Clause α)
  | [] => []
  | part :: rest => .all (conjuncts part) :: disjunctsOfParts rest

end

/-- What a clause is read back as. -/
def readBack (clause : Clause α) : Clause α := .any [.all clause.conjuncts]

theorem conjunctsOfParts_eq_flatMap (parts : List (Clause α)) :
    conjunctsOfParts parts = parts.flatMap conjuncts := by
  induction parts with
  | nil => rfl
  | cons part rest ih => rw [conjunctsOfParts, ih, List.flatMap_cons]

theorem disjunctsOfParts_eq_map (parts : List (Clause α)) :
    disjunctsOfParts parts = parts.map fun part => .all part.conjuncts := by
  induction parts with
  | nil => rfl
  | cons part rest ih => rw [disjunctsOfParts, ih, List.map_cons]

theorem conjuncts_all_cons (part : Clause α) (rest : List (Clause α)) :
    (all (part :: rest)).conjuncts = [.any [.all ((part :: rest).flatMap conjuncts)]] := by
  rw [conjuncts, conjunctsOfParts_eq_flatMap, List.flatMap_cons]

theorem conjuncts_any_cons (part : Clause α) (rest : List (Clause α)) :
    (any (part :: rest)).conjuncts =
      [.any ((part :: rest).map fun other => .all other.conjuncts)] := by
  rw [conjuncts, disjunctsOfParts_eq_map, List.map_cons]

/-- Reading a clause back as conjuncts keeps its operands and their order. -/
theorem flatMap_operands_conjuncts (clause : Clause α) :
    clause.conjuncts.flatMap operands = clause.operands := by
  induction clause using induction with
  | all parts ih =>
      cases parts with
      | nil => rfl
      | cons part rest =>
          rw [conjuncts_all_cons, List.flatMap_singleton, operands_any, List.flatMap_singleton,
            operands_all, List.flatMap_assoc, operands_all]
          exact List.flatMap_congr ih
  | any parts ih =>
      cases parts with
      | nil => rfl
      | cons part rest =>
          rw [conjuncts_any_cons, List.flatMap_singleton, operands_any, List.flatMap_map,
            operands_any]
          apply List.flatMap_congr
          intro other hother
          rw [operands_all, ih other hother]
  | both left right hleft hright => rw [conjuncts, List.flatMap_append, hleft, hright, operands]
  | _ => exact List.flatMap_singleton _ _

/-- Mapping the operands of a clause maps those of its conjuncts. -/
theorem conjuncts_map {β : Type} (f : α → β) (clause : Clause α) :
    (clause.map f).conjuncts = clause.conjuncts.map (map f) := by
  induction clause using induction with
  | all parts ih =>
      cases parts with
      | nil => rfl
      | cons part rest =>
          rw [map_all, List.map_cons, conjuncts_all_cons, ← List.map_cons, conjuncts_all_cons,
            List.map_singleton, map_any, List.map_singleton, map_all, List.flatMap_map,
            List.map_flatMap]
          exact congrArg (fun inner => [any [all inner]]) (List.flatMap_congr ih)
  | any parts ih =>
      cases parts with
      | nil => rfl
      | cons part rest =>
          rw [map_any, List.map_cons, conjuncts_any_cons, ← List.map_cons, conjuncts_any_cons,
            List.map_singleton, map_any, List.map_map, List.map_map]
          apply congrArg fun inner => [any inner]
          apply List.map_congr_left
          intro other hother
          rw [Function.comp_apply, Function.comp_apply, map_all, ih other hother]
  | both left right hleft hright => rw [map, conjuncts, hleft, hright, conjuncts, List.map_append]
  | _ => rfl

theorem readBack_map {β : Type} (f : α → β) (clause : Clause α) :
    (clause.map f).readBack = clause.readBack.map f := by
  rw [readBack, readBack, map_any, List.map_singleton, map_all, conjuncts_map]

theorem operands_readBack (clause : Clause α) : clause.readBack.operands = clause.operands := by
  rw [readBack, operands_any, List.flatMap_singleton, operands_all, flatMap_operands_conjuncts]

private theorem flatMap_tests_conjuncts (clause : Clause α) :
    clause.conjuncts.flatMap tests = clause.tests := by
  induction clause using induction with
  | all parts ih =>
      cases parts with
      | nil => rfl
      | cons part rest =>
          rw [conjuncts_all_cons, List.flatMap_singleton, tests_any, List.flatMap_singleton,
            tests_all, List.flatMap_assoc, tests_all]
          exact List.flatMap_congr ih
  | any parts ih =>
      cases parts with
      | nil => rfl
      | cons part rest =>
          rw [conjuncts_any_cons, List.flatMap_singleton, tests_any, List.flatMap_map, tests_any]
          apply List.flatMap_congr
          intro other hother
          rw [tests_all, ih other hother]
  | both left right hleft hright => rw [conjuncts, List.flatMap_append, hleft, hright, tests]
  | _ => rfl

/-- Reading a clause back keeps its tests. -/
theorem tests_readBack (clause : Clause α) : clause.readBack.tests = clause.tests := by
  rw [readBack, tests_any, List.flatMap_singleton, tests_all, flatMap_tests_conjuncts]

end Clause

namespace Parsing

@[simp] theorem run_nil (parsing : Parsing) : parsing.run [] = some parsing := rfl

/-- A token that is no cast is one step. -/
theorem run_cons (parsing : Parsing) {token : Token} (plain : token.isCast = false)
    (rest : List Token) :
    parsing.run (token :: rest) = (parsing.step token).bind (·.run rest) := by
  simp only [run, List.filter_cons, plain, Bool.not_false, if_true, List.foldlM_cons]
  rfl

theorem run_identifier (parsing : Parsing) (column : String) (rest : List Token) :
    parsing.run (.identifier column :: rest) =
      (parsing.step (.identifier column)).bind (·.run rest) :=
  run_cons parsing rfl rest

theorem run_keyword (parsing : Parsing) (keyword : Keyword) (rest : List Token) :
    parsing.run (.keyword keyword :: rest) = (parsing.step (.keyword keyword)).bind (·.run rest) :=
  run_cons parsing rfl rest

theorem run_symbol (parsing : Parsing) (symbol : Symbol) (rest : List Token) :
    parsing.run (.symbol symbol :: rest) = (parsing.step (.symbol symbol)).bind (·.run rest) :=
  run_cons parsing rfl rest

theorem run_append (parsing : Parsing) (first second : List Token) :
    parsing.run (first ++ second) = (parsing.run first).bind (·.run second) := by
  rw [run, List.filter_append, List.foldlM_append]
  rfl

end Parsing

/-- Whether tokens stand for an operand: one token, and casts that are passed over. -/
def Denotes (tokens : List Token) (operand : Operand) : Prop :=
  ∃ token, (tokens.filter fun token => !token.isCast) = [token] ∧
    Operand.ofToken? token = some operand

/-- Where an operand can stand, its token is taken as that operand. -/
theorem Parsing.step_of_take {parsing next : Parsing} {token : Token} {operand : Operand}
    (read : Operand.ofToken? token = some operand) (took : parsing.take operand = some next) :
    parsing.step token = some next := by
  obtain ⟨expecting, frame, outer⟩ := parsing
  cases expecting <;> simp [take] at took <;> cases token <;>
    simp_all [step, take, Operand.ofToken?]

/-- The tokens of an operand are one step. -/
theorem Denotes.run {tokens : List Token} {operand : Operand} (denotes : Denotes tokens operand)
    {parsing next : Parsing} (took : parsing.take operand = some next) (rest : List Token) :
    parsing.run (tokens ++ rest) = next.run rest := by
  obtain ⟨token, single, read⟩ := denotes
  have steps : parsing.run tokens = some next := by
    rw [Parsing.run, single]
    simp [Parsing.step_of_take read took]
  rw [Parsing.run_append, steps, Option.bind_some]

theorem Frame.add_add (frame : Frame) (first second : List (Clause Operand)) :
    (frame.add first).add second = frame.add (first ++ second) := by
  simp [Frame.add]

namespace Clause

variable {α : Type} {operand : α → List Token} {value : α → Operand}

/-- Whether a clause is read as the conjuncts that it is read back as, in front of anything. -/
def ReadsBack (operand : α → List Token) (value : α → Operand) (clause : Clause α) : Prop :=
  ∀ frame outer rest, Parsing.run ⟨.atom, frame, outer⟩ (clause.tokens operand ++ rest) =
    Parsing.run ⟨.nothing, frame.add (clause.map value).conjuncts, outer⟩ rest

/-- Parts with `AND` between them are read as further conjuncts. -/
private theorem reads_conjuncts {part : Clause α} {parts : List (Clause α)}
    (each : ∀ other ∈ part :: parts, other.ReadsBack operand value) (frame : Frame)
    (outer : List Frame) (rest : List Token) :
    Parsing.run ⟨.atom, frame, outer⟩
        (separated [.keyword .conjunction] ((part :: parts).map (tokens operand)) ++ rest) =
      Parsing.run ⟨.nothing, frame.add (conjunctsOfParts ((part :: parts).map (map value))),
        outer⟩ rest := by
  induction parts generalizing part frame with
  | nil =>
      rw [List.map_singleton, separated, each part (by simp) frame outer rest]
      simp [conjunctsOfParts]
  | cons second parts ih =>
      have first := each part List.mem_cons_self
      have later := ih (fun other hother => each other (List.mem_cons_of_mem part hother))
        (frame.add (part.map value).conjuncts)
      rw [Frame.add_add] at later
      rw [List.map_cons, List.map_cons, separated_cons_cons, List.append_assoc, List.append_assoc,
        first, List.singleton_append, Parsing.run_keyword]
      exact later

/-- Parts with `OR` between them are read as further disjuncts. -/
private theorem reads_disjuncts {part : Clause α} {parts : List (Clause α)}
    (each : ∀ other ∈ part :: parts, other.ReadsBack operand value)
    (disjuncts : List (Clause Operand)) (outer : List Frame) (rest : List Token) :
    ∃ frame : Frame, Parsing.run ⟨.atom, ⟨disjuncts, []⟩, outer⟩
        (separated [.keyword .disjunction] ((part :: parts).map (tokens operand)) ++ rest) =
      Parsing.run ⟨.nothing, frame, outer⟩ rest ∧
      frame.endDisjunct.disjuncts =
        disjuncts ++ disjunctsOfParts ((part :: parts).map (map value)) := by
  induction parts generalizing part disjuncts with
  | nil =>
      refine ⟨_, each part (by simp) ⟨disjuncts, []⟩ outer rest, ?_⟩
      simp [Frame.endDisjunct, Frame.add, disjunctsOfParts]
  | cons second parts ih =>
      have first := each part List.mem_cons_self
      obtain ⟨frame, later, read⟩ :=
        ih (fun other hother => each other (List.mem_cons_of_mem part hother))
          (disjuncts ++ [.all (part.map value).conjuncts])
      refine ⟨frame, ?_, ?_⟩
      · rw [List.map_cons, List.map_cons, separated_cons_cons, List.append_assoc, List.append_assoc,
          first, List.singleton_append, Parsing.run_keyword]
        exact later
      · rw [read]
        simp [disjunctsOfParts]

/-- The items of a list are read one by one. -/
private theorem reads_items {first : α} {items : List α}
    (each : ∀ a ∈ first :: items, Denotes (operand a) (value a)) (column : String)
    (before : List Operand) (frame : Frame) (outer : List Frame) (rest : List Token) :
    Parsing.run ⟨.item column before, frame, outer⟩
        (separated [.symbol .comma] ((first :: items).map operand) ++ .symbol .closing :: rest) =
      Parsing.run ⟨.nothing, frame.add [.among column (before ++ (first :: items).map value)],
        outer⟩ rest := by
  have item : ∀ after, Parsing.run ⟨.item column before, frame, outer⟩ (operand first ++ after) =
      Parsing.run ⟨.comma column (before ++ [value first]), frame, outer⟩ after :=
    (each first List.mem_cons_self).run rfl
  induction items generalizing first before with
  | nil => exact (item _).trans (Parsing.run_symbol _ _ rest)
  | cons second items ih =>
      have others : ∀ a ∈ second :: items, Denotes (operand a) (value a) :=
        fun other hother => each other (List.mem_cons_of_mem first hother)
      have later := ih others (before ++ [value first]) ((others second List.mem_cons_self).run rfl)
      rw [List.append_assoc] at later
      rw [List.map_cons, List.map_cons, separated_cons_cons, List.append_assoc, List.append_assoc,
        item, List.singleton_append, Parsing.run_symbol]
      exact later

/-- A clause of operands whose tokens denote them is read as the conjuncts that it is read back
as. -/
theorem readsBack (clause : Clause α) (lists : clause.ListsNonempty)
    (each : ∀ a ∈ clause.operands, Denotes (operand a) (value a)) :
    clause.ReadsBack operand value := by
  induction clause using induction with
  | always =>
      intro frame outer rest
      exact Parsing.run_keyword _ _ rest
  | never =>
      intro frame outer rest
      exact Parsing.run_keyword _ _ rest
  | compare column relation a =>
      intro frame outer rest
      show Parsing.run ⟨.operand column relation, frame, outer⟩ (operand a ++ rest) = _
      exact (each a (by simp [operands])).run rfl rest
  | among column values =>
      intro frame outer rest
      cases values with
      | nil => exact absurd rfl lists
      | cons first items =>
          have read := reads_items each column [] frame outer rest
          rw [tokens, List.append_assoc]
          exact read
  | between column low high =>
      intro frame outer rest
      have hlow : Denotes (operand low) (value low) := each low (by simp [operands])
      have hhigh : Denotes (operand high) (value high) := each high (by simp [operands])
      have bounds : Parsing.run ⟨.high column (value low), frame, outer⟩ (operand high ++ rest) =
          Parsing.run ⟨.nothing, frame.add [.between column (value low) (value high)],
            outer⟩ rest := hhigh.run rfl rest
      simp only [tokens, List.cons_append, List.append_assoc]
      show Parsing.run ⟨.low column, frame, outer⟩
        (operand low ++ .keyword .conjunction :: (operand high ++ rest)) = _
      rw [hlow.run rfl]
      exact bounds
  | like column pattern =>
      intro frame outer rest
      show Parsing.run ⟨.pattern column, frame, outer⟩ (operand pattern ++ rest) = _
      exact (each pattern (by simp [operands])).run rfl rest
  | isNull column =>
      intro frame outer rest
      exact Parsing.run_identifier _ _ _
  | isNotNull column =>
      intro frame outer rest
      exact Parsing.run_identifier _ _ _
  | all parts ih =>
      intro frame outer rest
      cases parts with
      | nil => exact Parsing.run_keyword _ _ rest
      | cons part parts =>
          -- The parts are read in a frame of their own, and the parenthesis behind them closes it.
          have reads := reads_conjuncts (fun other hother => ih other hother
            ((listsNonempty_all_iff _).mp lists other hother) fun a ha =>
              each a (mem_operandsOfParts hother ha))
            {} (frame :: outer) (.symbol .closing :: rest)
          rw [tokens, tokensOfParts_eq_map, List.append_assoc]
          show Parsing.run ⟨.atom, {}, frame :: outer⟩
            (separated [.keyword .conjunction] ((part :: parts).map (tokens operand)) ++
              .symbol .closing :: rest) = _
          rw [reads, map_all]
          exact Parsing.run_symbol _ _ rest
  | any parts ih =>
      intro frame outer rest
      cases parts with
      | nil => exact Parsing.run_keyword _ _ rest
      | cons part parts =>
          obtain ⟨inner, reads, read⟩ := reads_disjuncts (fun other hother => ih other hother
            ((listsNonempty_any_iff _).mp lists other hother) fun a ha =>
              each a (mem_operandsOfParts hother ha))
            [] (frame :: outer) (.symbol .closing :: rest)
          rw [tokens, tokensOfParts_eq_map, List.append_assoc]
          show Parsing.run ⟨.atom, {}, frame :: outer⟩
            (separated [.keyword .disjunction] ((part :: parts).map (tokens operand)) ++
              .symbol .closing :: rest) = _
          have closed : inner.clause =
              .any (disjunctsOfParts ((part :: parts).map (map value))) := by
            rw [Frame.clause, read, List.nil_append]
          rw [reads, map_any, Parsing.run_symbol]
          show Parsing.run ⟨.nothing, frame.add [inner.clause], outer⟩ rest = _
          rw [closed]
          rfl
  | both left right hleft hright =>
      intro frame outer rest
      have first := hleft lists.1 fun a ha => each a (List.mem_append_left _ ha)
      have second := hright lists.2 fun a ha => each a (List.mem_append_right _ ha)
      -- There are no parentheses: the second half goes on with the conjuncts of the first.
      rw [tokens, List.append_assoc, first, List.cons_append, Parsing.run_keyword]
      show Parsing.run ⟨.atom, frame.add (left.map value).conjuncts, outer⟩
        (right.tokens operand ++ rest) = _
      rw [second, Frame.add_add]
      rfl

end Clause

/-- The tokens of a clause are read as what the clause is read back as. -/
theorem readTokens_tokens {α : Type} {operand : α → List Token} {value : α → Operand}
    (clause : Clause α) (lists : clause.ListsNonempty)
    (denoted : ∀ a ∈ clause.operands, Denotes (operand a) (value a)) :
    readTokens (clause.tokens operand) = some (clause.map value).readBack := by
  have parsed := clause.readsBack lists denoted {} [] []
  rw [List.append_nil, Parsing.run_nil] at parsed
  rw [readTokens, Parsing.start, parsed]
  rfl

/-- What spells tokens is read as exactly these. -/
theorem Spells.tokens? {text : String} {read : List Token} (spells : Spells text.toList read) :
    Sql.tokens? text = some read := by
  have alone := spells [] bounded_nil
  simpa [Sql.tokens?, lex, scan_nil] using alone

/-- A written clause is read back, with every operand read as what its tokens denote. -/
theorem readCondition_text {α : Type} {write : α → String} {operand : α → List Token}
    {value : α → Operand} (clause : Clause α) (lists : clause.ListsNonempty)
    (spelled : ∀ a ∈ clause.operands, Spells (write a).toList (operand a))
    (denoted : ∀ a ∈ clause.operands, Denotes (operand a) (value a)) :
    readCondition (clause.text write) = some (clause.map value).readBack := by
  rw [readCondition, (clause.spells_text spelled).tokens?, Option.bind_some,
    readTokens_tokens clause lists denoted]

end RowFilter.Sql
