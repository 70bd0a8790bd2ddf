import RowFilter.Proofs.Filter.Meaning
import RowFilter.Proofs.Sql.Grammar
import RowFilter.Proofs.Sql.Numbering

/-!
# The normal form of predicates

A predicate is in normal form if nothing in it is idle: what is true of everything is the whole
predicate or stands nowhere in it, and wherever parts are connected there are two of them or more.
Combining predicates in normal form gives such a predicate again, so the predicate of a filter is in
normal form, however its groups are nested and whichever of their buckets are empty or hold a single
node.

In the text of a predicate a constant is written for what is true of everything, for a connective
without parts and for a list without values. In normal form only the lists are left, unless the text
is a single constant; and it is one exactly if the filter constrains nothing.
-/

namespace RowFilter

open RowFilter.Filter RowFilter.Sql

/-! ### Predicates in a predicate -/

namespace Predicate

mutual

/-- A predicate and the predicates that stand in it, at any depth, each before its parts. -/
def nodes : Predicate → List Predicate
  | .all parts => .all parts :: nodesOfParts parts
  | .any parts => .any parts :: nodesOfParts parts
  | test => [test]

/-- Predicates and the predicates that stand in them, at any depth, each before its parts. -/
def nodesOfParts : List Predicate → List Predicate
  | [] => []
  | part :: rest => nodes part ++ nodesOfParts rest

end

/-- The parts that a predicate connects, if it connects any. -/
def parts? : Predicate → Option (List Predicate)
  | .all parts => some parts
  | .any parts => some parts
  | _ => none

private theorem nodesOfParts_eq_flatMap (parts : List Predicate) :
    nodesOfParts parts = parts.flatMap nodes := by
  induction parts with
  | nil => rfl
  | cons part rest ih => rw [nodesOfParts, ih, List.flatMap_cons]

theorem nodes_of_parts? {predicate : Predicate} {parts : List Predicate}
    (connects : predicate.parts? = some parts) :
    predicate.nodes = predicate :: parts.flatMap nodes := by
  cases predicate with
  | all others =>
      obtain rfl := Option.some.inj connects
      rw [nodes, nodesOfParts_eq_flatMap]
  | any others =>
      obtain rfl := Option.some.inj connects
      rw [nodes, nodesOfParts_eq_flatMap]
  | _ => cases connects

theorem nodes_of_parts?_eq_none {predicate : Predicate} (single : predicate.parts? = none) :
    predicate.nodes = [predicate] := by
  cases predicate with
  | all parts => cases single
  | any parts => cases single
  | _ => rfl

theorem parts?_of_field? {test : Predicate} {field : String} (tests : test.field? = some field) :
    test.parts? = none := by
  cases test with
  | all parts => cases tests
  | any parts => cases tests
  | _ => rfl

/-! ### The normal form -/

/-- Whether nothing in a predicate is idle. -/
structure IsNormal (predicate : Predicate) : Prop where
  /-- What is true of everything is the whole predicate, or stands nowhere in it. -/
  always_whole : .always ∈ predicate.nodes → predicate = .always
  /-- Wherever parts are connected, there are two or more. -/
  several : ∀ node ∈ predicate.nodes, ∀ parts ∈ node.parts?, 2 ≤ parts.length

/-- What has no parts is in normal form. -/
theorem isNormal_of_parts?_eq_none {predicate : Predicate} (single : predicate.parts? = none) :
    predicate.IsNormal := by
  have alone := nodes_of_parts?_eq_none single
  refine ⟨fun inside => ?_, fun node inside parts connects => ?_⟩
  · rw [alone] at inside
    exact (List.mem_singleton.mp inside).symm
  · rw [alone] at inside
    rw [List.mem_singleton.mp inside, single] at connects
    cases connects

/-- Two or more parts in normal form, none of them true of everything, are connected to a predicate
in normal form. -/
theorem isNormal_of_parts? {predicate : Predicate} {parts : List Predicate}
    (connects : predicate.parts? = some parts) (several : 2 ≤ parts.length)
    (each : ∀ part ∈ parts, part.IsNormal) (constrain : ∀ part ∈ parts, part ≠ .always) :
    predicate.IsNormal := by
  have within : ∀ node ∈ predicate.nodes,
      node = predicate ∨ ∃ part ∈ parts, node ∈ part.nodes := by
    intro node inside
    rwa [nodes_of_parts? connects, List.mem_cons, List.mem_flatMap] at inside
  refine ⟨fun inside => ?_, fun node inside others connected => ?_⟩
  · rcases within _ inside with whole | ⟨part, hpart, inPart⟩
    · exact whole.symm
    · exact absurd ((each part hpart).always_whole inPart) (constrain part hpart)
  · rcases within node inside with rfl | ⟨part, hpart, inPart⟩
    · rw [connects] at connected
      obtain rfl := Option.some.inj connected
      exact several
    · exact (each part hpart).several node inPart others connected

theorem isNormal_allOf {parts : List Predicate} (each : ∀ part ∈ parts, part.IsNormal) :
    (allOf parts).IsNormal := by
  rcases allOf_cases parts with ⟨_, same⟩ | ⟨part, kept, same⟩ | ⟨several, same⟩
  · rw [same]
    exact isNormal_of_parts?_eq_none rfl
  · have inside : part ∈ proper parts := kept ▸ List.mem_singleton_self part
    rw [same]
    exact each part (mem_proper_iff.mp inside).1
  · rw [same]
    exact isNormal_of_parts? rfl several (fun part hpart => each part (mem_proper_iff.mp hpart).1)
      fun part hpart => (mem_proper_iff.mp hpart).2

theorem isNormal_anyOf {parts : List Predicate} (each : ∀ part ∈ parts, part.IsNormal) :
    (anyOf parts).IsNormal := by
  rcases anyOf_cases parts with ⟨_, same⟩ | ⟨part, rfl, _, same⟩ | ⟨several, constrain, same⟩
  · rw [same]
    exact isNormal_of_parts?_eq_none rfl
  · rw [same]
    exact each part (List.mem_singleton_self part)
  · rw [same]
    exact isNormal_of_parts? rfl several each fun part hpart always => constrain (always ▸ hpart)

/-- The predicate of a condition is a test, or connects the two tests of a range. -/
theorem isNormal_ofCondition {condition : Condition} {predicate : Predicate}
    (compiled : ofCondition condition = .ok predicate) : predicate.IsNormal := by
  rcases ofCondition_cases compiled with tests | ⟨low, high, rfl⟩
  · exact isNormal_of_parts?_eq_none (parts?_of_field? tests)
  · refine isNormal_of_parts? rfl (by simp) ?_ (by simp)
    rw [List.forall_mem_cons, List.forall_mem_singleton]
    exact ⟨isNormal_of_parts?_eq_none rfl, isNormal_of_parts?_eq_none rfl⟩

/-- Both buckets of a group are combined first, and then the two results, each of which may be true
of everything or a part of its own. -/
theorem isNormal_ofGroup {all any : List Predicate} (hall : ∀ part ∈ all, part.IsNormal)
    (hany : ∀ part ∈ any, part.IsNormal) : (ofGroup all any).IsNormal := by
  apply isNormal_allOf
  rw [List.forall_mem_cons, List.forall_mem_singleton]
  exact ⟨isNormal_allOf hall, isNormal_anyOf hany⟩

/-- The predicate of a filter is in normal form. -/
theorem isNormal_ofFilter {filter : Group} {predicate : Predicate}
    (compiled : ofFilter filter = .ok predicate) : predicate.IsNormal :=
  Node.fold_invariant (fun _ _ _ => isNormal_ofCondition) (fun _ _ => isNormal_ofGroup) compiled

end Predicate

/-! ### Filters that constrain nothing -/

/-- Whether a node holds where none of its conditions does, and so whatever they say. -/
def Filter.Node.constrainsNothing (node : Node) : Bool :=
  node.fold (fun _ => false) fun all any => groupSelects (bucketNodes all) (bucketNodes any)

namespace Predicate

theorem isAlways_ofCondition {condition : Condition} {predicate : Predicate}
    (compiled : ofCondition condition = .ok predicate) : predicate.isAlways = false := by
  rcases ofCondition_cases compiled with tests | ⟨low, high, rfl⟩
  · cases predicate with
    | always => cases tests
    | _ => rfl
  · rfl

theorem isAlways_ofGroup (all any : List Predicate) :
    (ofGroup all any).isAlways = groupSelects (all.map isAlways) (any.map isAlways) := by
  rw [Bool.eq_iff_iff, isAlways_iff, ofGroup_eq_always_iff, groupSelects]
  simp [List.isEmpty_iff, isAlways_iff]

/-- The predicate of a filter is true of everything exactly if the filter constrains nothing. -/
theorem ofFilter_eq_always_iff {filter : Group} {predicate : Predicate}
    (compiled : ofFilter filter = .ok predicate) :
    predicate = .always ↔ filter.toNode.constrainsNothing = true := by
  have read : predicate.isAlways = filter.toNode.constrainsNothing :=
    Node.fold_reading (fun _ _ => isAlways_ofCondition) isAlways_ofGroup compiled
  rw [← isAlways_iff, read]

/-- An empty group takes the whole bucket of any with it, whatever stands beside it. -/
example : ofFilter { any := some [.group none none, .condition ⟨"email", .isNull, none⟩] } =
    .ok .always :=
  rfl

end Predicate

/-! ### Constants -/

namespace Sql

/-- The truth value that a token stands for, if it is a constant. -/
def Token.constant? : Token → Option Bool
  | .keyword .yes => some true
  | .keyword .no => some false
  | _ => none

theorem Token.constant?_eq_false_iff (token : Token) :
    token.constant? = some false ↔ token = .keyword .no := by
  unfold constant?
  split <;> simp_all

/-- The constants among some tokens, from left to right. -/
def constants (tokens : List Token) : List Bool := tokens.filterMap Token.constant?

theorem count_false_constants (tokens : List Token) :
    (constants tokens).count false = tokens.count (.keyword .no) := by
  rw [constants, List.count_filterMap, List.count]
  apply List.countP_congr
  intro token _
  rw [beq_iff_eq, beq_iff_eq, Token.constant?_eq_false_iff]

end Sql

namespace Predicate

/-- The constant that is written for a predicate itself, if one is: for what is true of everything,
for a connective without parts and for a list without values. -/
def constant? : Predicate → Option Bool
  | .always => some true
  | .all [] => some true
  | .any [] => some false
  | .member _ [] => some false
  | _ => none

/-- Whether a predicate tests whether a field is equal to one of no values. -/
def asksEmptyList : Predicate → Bool
  | .member _ [] => true
  | _ => false

private theorem constants_parts {parts : List Predicate}
    (each : ∀ part ∈ parts, ∀ offset,
      constants (part.clause.numberedTokens offset) = part.nodes.filterMap constant?)
    (connective : Keyword) (plain : Token.constant? (.keyword connective) = none) (offset : Nat) :
    constants (.symbol .opening :: separated [.keyword connective]
        ((Clause.numberedParts offset (clauses parts)).map
          (Clause.tokens fun number => [.placeholder number])) ++ [.symbol .closing]) =
      (parts.flatMap nodes).filterMap constant? := by
  rw [constants, filterMap_parenthesised fun _ => rfl,
    filterMap_separated (List.filterMap_cons_none plain), List.filterMap_flatMap]
  -- The placeholders of a part are counted on from those of the parts before it.
  induction parts generalizing offset with
  | nil => rfl
  | cons part rest ih =>
      rw [List.forall_mem_cons] at each
      rw [clauses, Clause.numberedParts, List.map_cons, List.flatMap_cons, List.flatMap_cons,
        ih each.2]
      exact congrArg (· ++ _) (each.1 offset)

/-- The constants in the text of a predicate are those written for the predicates in it, in the same
order. -/
theorem constants_numberedTokens (predicate : Predicate) (offset : Nat) :
    constants (predicate.clause.numberedTokens offset) = predicate.nodes.filterMap constant? := by
  induction predicate using induction generalizing offset with
  | always => rfl
  | compare field relation value => cases relation <;> cases value <;> rfl
  | member field values =>
      cases values with
      | nil => rfl
      | cons first rest =>
          let numbers := Clause.numbersAfter offset (first :: rest)
          show constants (.identifier field :: .keyword .member :: (.symbol .opening ::
            separated [.symbol .comma] (numbers.map fun number => [.placeholder number]) ++
              [.symbol .closing])) = []
          rw [constants, List.filterMap_cons_none rfl, List.filterMap_cons_none rfl,
            filterMap_parenthesised fun _ => rfl, filterMap_separated rfl, List.flatMap_map,
            List.flatMap_eq_nil_iff]
          exact fun _ _ => rfl
  | search field occurrence text => rfl
  | isNull field => rfl
  | isNotNull field => rfl
  | all parts ih =>
      cases parts with
      | nil => rfl
      | cons part rest =>
          rw [nodes_of_parts? rfl, List.filterMap_cons_none rfl,
            ← constants_parts ih .conjunction rfl offset, ← Clause.tokensOfParts_eq_map]
          rfl
  | any parts ih =>
      cases parts with
      | nil => rfl
      | cons part rest =>
          rw [nodes_of_parts? rfl, List.filterMap_cons_none rfl,
            ← constants_parts ih .disjunction rfl offset, ← Clause.tokensOfParts_eq_map]
          rfl

/-- In a predicate in normal form that is not the constant itself, a constant is written for an
empty list only. -/
theorem IsNormal.constant?_eq {predicate : Predicate} (normal : predicate.IsNormal)
    (constrains : predicate ≠ .always) {node : Predicate} (inside : node ∈ predicate.nodes) :
    node.constant? = if node.asksEmptyList then some false else none := by
  have connected := normal.several node inside
  match node with
  | .always => exact absurd (normal.always_whole inside) constrains
  | .all [] => exact absurd (connected [] rfl) (by decide)
  | .any [] => exact absurd (connected [] rfl) (by decide)
  | .member _ [] => rfl
  | .member _ (_ :: _) => rfl
  | .all (_ :: _) => rfl
  | .any (_ :: _) => rfl
  | .compare _ _ _ => rfl
  | .search _ _ _ => rfl
  | .isNull _ => rfl
  | .isNotNull _ => rfl

/-- In the text of a predicate in normal form, the constant of truth is the whole text or stands
nowhere in it, and the other stands once for every empty list. -/
theorem IsNormal.constants_spelled {predicate : Predicate} (normal : predicate.IsNormal)
    (offset : Nat) :
    (.keyword .yes ∈ predicate.clause.numberedTokens offset →
      predicate = .always ∧ predicate.clause.numberedTokens offset = [.keyword .yes]) ∧
      (predicate.clause.numberedTokens offset).count (.keyword .no) =
        predicate.nodes.countP asksEmptyList := by
  by_cases always : predicate = .always
  · subst always
    exact ⟨fun _ => ⟨rfl, rfl⟩, rfl⟩
  have written := predicate.constants_numberedTokens offset
  constructor
  · intro inside
    have spelled : true ∈ constants (predicate.clause.numberedTokens offset) :=
      List.mem_filterMap.mpr ⟨_, inside, rfl⟩
    rw [written] at spelled
    obtain ⟨node, hnode, constant⟩ := List.mem_filterMap.mp spelled
    rw [normal.constant?_eq always hnode] at constant
    split at constant <;> cases constant
  · calc
      (predicate.clause.numberedTokens offset).count (.keyword .no)
          = (constants (predicate.clause.numberedTokens offset)).count false :=
            (count_false_constants _).symm
      _ = predicate.nodes.countP fun node => node.constant? == some false := by
            rw [written, List.count_filterMap]
      _ = predicate.nodes.countP asksEmptyList := by
            apply List.countP_congr
            intro node hnode
            rw [normal.constant?_eq always hnode]
            cases node.asksEmptyList <;> decide

/-- The predicate of a filter is in normal form, and it is true of everything exactly if the filter
constrains nothing. So nothing in its text is written for what is true of everything or for a
connective without parts: the constant of truth is the whole text or stands nowhere in it, and the
other stands once for every test whether a field is equal to one of no values. -/
theorem compiled_in_normal_form {filter : Group} {predicate : Predicate}
    (compiled : ofFilter filter = .ok predicate) :
    predicate.IsNormal ∧
      (predicate = .always ↔ filter.toNode.constrainsNothing = true) ∧
      ∀ offset, ∃ read, tokens? (predicate.toSql offset).1 = some read ∧
        (.keyword .yes ∈ read → predicate = .always ∧ read = [.keyword .yes]) ∧
        read.count (.keyword .no) = predicate.nodes.countP asksEmptyList := by
  have normal := isNormal_ofFilter compiled
  refine ⟨normal, ofFilter_eq_always_iff compiled, fun offset => ?_⟩
  exact ⟨_, (predicate.clause.spells_parameterised offset).tokens?,
    normal.constants_spelled offset⟩

/-- An empty group, a group of one node and an empty bucket, a choice of one range or another test,
and a bucket of any with a single node. -/
def sampleCollapsed : Group where
  all := some [.group none none,
    .group (some [.condition ⟨"role", .member, some (.list [])⟩]) (some []),
    .group none (some [.condition ⟨"age", .between, some (.list [.integer 28, .integer 35])⟩,
      .condition ⟨"name", .contains, some (.text "an")⟩])]
  any := some [.condition ⟨"email", .isNull, none⟩]

/-- The parts that are left of the sample stand together by twos, and the one constant in its text
is written for the empty list. -/
theorem sample_collapsed_normal : ∃ predicate, ofFilter sampleCollapsed = .ok predicate ∧
    (predicate.toSql 0).1 =
      "((FALSE AND ((\"age\" >= $1 AND \"age\" <= $2) OR \"name\" ILIKE $3)) AND " ++
        "\"email\" IS NULL)" ∧
    predicate.IsNormal ∧ predicate ≠ .always ∧
    ∃ read, tokens? (predicate.toSql 0).1 = some read ∧ .keyword .yes ∉ read ∧
      read.count (.keyword .no) = 1 := by
  have compiled : ofFilter sampleCollapsed = .ok (.all [.all [.member "role" [],
      .any [.all [.compare "age" .greaterOrEqual (.integer 28),
        .compare "age" .lessOrEqual (.integer 35)], .search "name" .anywhere "an"]],
      .isNull "email"]) := rfl
  obtain ⟨normal, always_iff, texts⟩ := compiled_in_normal_form compiled
  obtain ⟨read, spelled, truth, falsity⟩ := texts 0
  refine ⟨_, compiled, by decide +kernel, normal, ?_, read, spelled, ?_, falsity⟩
  · exact fun always => absurd (always_iff.mp always) (by decide)
  · exact fun inside => absurd (truth inside).1 (by simp)

end Predicate

end RowFilter
