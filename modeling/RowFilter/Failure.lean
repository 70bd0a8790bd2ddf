import RowFilter.Text.Joined

/-!
# Failures of filters and settings

Every failure that leaves the library has a cause and a context. The cause decides the code, whether
the caller can mend it, and the message; the context only adds what was known where it happened.
-/

namespace RowFilter

open Text

/-- Why something failed. -/
inductive Cause where
  /-- The filter does not fit the schema; one message for each bad condition. -/
  | invalidFilter (messages : List String)
  /-- A value is not of its field's type. -/
  | invalidValue (message : String)
  /-- The filter could not be read. -/
  | malformedFilter (message : String)
  /-- A condition names a field that is not in the schema. -/
  | unknownField (field : String)
  /-- The filter exceeds a limit. -/
  | tooComplex (message : String)
  /-- The store failed. -/
  | executionFailed (reason : String)
  /-- A setting or a schema is wrong. -/
  | invalidConfiguration (message : String)
  /-- A setting is missing. -/
  | missingConfiguration (name : String)
  /-- A condition's value does not fit its operator. -/
  | malformedCondition (message : String)
  deriving DecidableEq, Repr

namespace Cause

/-- The number of a cause: filters from 1001, execution from 5001, configuration from 7001, all else
from 9001. -/
def number : Cause → Nat
  | .invalidFilter _ => 1001
  | .invalidValue _ => 1002
  | .malformedFilter _ => 1003
  | .unknownField _ => 1004
  | .tooComplex _ => 1005
  | .executionFailed _ => 5001
  | .invalidConfiguration _ => 7001
  | .missingConfiguration _ => 7002
  | .malformedCondition _ => 9001

/-- The code of a cause. -/
def code (cause : Cause) : String := "S" ++ toString cause.number

/-- Whether the caller can mend the cause by changing the filter. -/
def isClientError : Cause → Bool
  | .invalidFilter _ => true
  | .invalidValue _ => true
  | .malformedFilter _ => true
  | .unknownField _ => true
  | .tooComplex _ => true
  | .executionFailed _ => false
  | .invalidConfiguration _ => false
  | .missingConfiguration _ => false
  | .malformedCondition _ => false

/-- Whether the filter was rejected by its schema. -/
def isValidationError : Cause → Bool
  | .invalidFilter _ => true
  | _ => false

/-- Whether the store failed. -/
def isExecutionError : Cause → Bool
  | .executionFailed _ => true
  | _ => false

/-- The status of a response: 400 for what the caller can mend, 500 for the rest. -/
def httpStatus (cause : Cause) : Nat := if cause.isClientError then 400 else 500

/-- The wording of a cause. -/
def message : Cause → String
  | .invalidFilter messages => "Filter validation failed: " ++ joined ", " messages
  | .invalidValue message => message
  | .malformedFilter message => message
  | .unknownField field => "Field '" ++ field ++ "' not found in schema"
  | .tooComplex message => message
  | .executionFailed reason => "Database query failed: " ++ reason
  | .invalidConfiguration message => message
  | .missingConfiguration name => "Missing required configuration: " ++ name
  | .malformedCondition message => "Internal error: " ++ message

end Cause

/-- What is known about a failure besides its cause. -/
structure FailureContext where
  /-- The operation that failed. -/
  operation : Option String := none
  /-- The entity being filtered. -/
  entity : Option String := none
  /-- The field. -/
  field : Option String := none
  /-- The operator. -/
  operator : Option String := none
  /-- The statement that was running. -/
  sql : Option String := none
  /-- What may help. -/
  suggestions : List String := []
  /-- Messages folded into the failure. -/
  related : List String := []
  deriving DecidableEq, Repr

/-- A failure: its cause, its context, and the message of the error behind it. -/
structure Failure where
  /-- Why it failed. -/
  cause : Cause
  /-- What else is known. -/
  context : FailureContext := {}
  /-- The message of the error behind it. -/
  source : Option String := none
  deriving DecidableEq, Repr

namespace Failure

/-- The failure with its operation named. -/
def withOperation (failure : Failure) (operation : String) : Failure :=
  { failure with context := { failure.context with operation := some operation } }

/-- The failure with its entity named. -/
def withEntity (failure : Failure) (entity : String) : Failure :=
  { failure with context := { failure.context with entity := some entity } }

/-- The failure with its field named. -/
def withField (failure : Failure) (field : String) : Failure :=
  { failure with context := { failure.context with field := some field } }

/-- The failure with its operator named. -/
def withOperator (failure : Failure) (operator : String) : Failure :=
  { failure with context := { failure.context with operator := some operator } }

/-- The failure with the statement that was running. -/
def withSql (failure : Failure) (sql : String) : Failure :=
  { failure with context := { failure.context with sql := some sql } }

/-- The failure with one more suggestion. -/
def withSuggestion (failure : Failure) (suggestion : String) : Failure :=
  let suggestions := failure.context.suggestions ++ [suggestion]
  { failure with context := { failure.context with suggestions } }

/-- The failure with more messages folded into it. -/
def withRelated (failure : Failure) (related : List String) : Failure :=
  { failure with context := { failure.context with related := failure.context.related ++ related } }

/-- The failure with the message of the error behind it. -/
def withSource (failure : Failure) (source : String) : Failure :=
  { failure with source := some source }

/-- The failure of a filter that does not fit its schema. -/
def invalidFilter (messages : List String) : Failure :=
  (Failure.mk (.invalidFilter messages) {} none).withRelated messages

/-- The failure of a value that is not of its field's type. -/
def invalidValue (field message : String) : Failure :=
  (Failure.mk (.invalidValue message) {} none).withField field

/-- The failure of a condition on a field that is not in the schema. -/
def unknownField (field : String) : Failure :=
  ((Failure.mk (.unknownField field) {} none).withField field).withSuggestion
    "Validate the filter against the same schema before compiling it"

/-- The failure of a filter that could not be read. -/
def malformedFilter (message : String) : Failure := ⟨.malformedFilter message, {}, none⟩

/-- The failure of a filter that exceeds a limit. -/
def tooComplex (message : String) : Failure := ⟨.tooComplex message, {}, none⟩

/-- The failure of a condition whose value does not fit its operator. -/
def malformedCondition (field operator message : String) : Failure :=
  ((Failure.mk (.malformedCondition message) {} none).withField field).withOperator operator

/-- The failure of a store. -/
def executionFailed (reason : String) : Failure := ⟨.executionFailed reason, {}, none⟩

/-- The failure of a setting or a schema. -/
def invalidConfiguration (message : String) : Failure := ⟨.invalidConfiguration message, {}, none⟩

/-- The failure of a setting that is missing. -/
def missingConfiguration (name : String) : Failure :=
  (Failure.mk (.missingConfiguration name) {} none).withSuggestion
    ("Set the " ++ name ++ " environment variable")

/-- The message of a failure. -/
def message (failure : Failure) : String := failure.cause.message

/-- The code and the message. -/
def display (failure : Failure) : String := "[" ++ failure.cause.code ++ "] " ++ failure.message

/-- How many characters of a statement are shown. -/
def shownSqlLength : Nat := 200

/-- A statement as it is shown, cut short if it is long. -/
def shownSql (sql : String) : String :=
  if sql.toList.length ≤ shownSqlLength then sql
  else String.ofList (sql.toList.take shownSqlLength) ++ "..."

/-- One line of the context, if it is known. -/
def contextLine (label : String) : Option String → String
  | none => ""
  | some text => "  → " ++ label ++ ": " ++ text ++ "\n"

/-- Lines under a heading, numbered from the given number on. -/
def numberedLines (number : Nat) : List String → String
  | [] => ""
  | line :: rest =>
    "  " ++ toString number ++ ". " ++ line ++ "\n" ++ numberedLines (number + 1) rest

/-- The failure with all that is known, on several lines. A single folded message is not
repeated. -/
def full (failure : Failure) : String :=
  let context := failure.context
  "Error [" ++ failure.cause.code ++ "]: " ++ failure.message ++ "\n"
    ++ contextLine "While" context.operation
    ++ contextLine "Entity" context.entity
    ++ contextLine "Field" context.field
    ++ contextLine "Operator" context.operator
    ++ contextLine "SQL" (context.sql.map shownSql)
    ++ (if context.related.length ≤ 1 then ""
        else
          "\nProblems:\n" ++ String.join (context.related.map fun line => "  - " ++ line ++ "\n"))
    ++ (if context.suggestions.isEmpty then ""
        else "\nSuggestions:\n" ++ numberedLines 1 context.suggestions)

end Failure

end RowFilter
