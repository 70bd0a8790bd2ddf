import RowFilter.Http.Response
import RowFilter.Proofs.Json.ReadBack

/-!
# Responses as they are read

What the routes answer is said here apart from how they build it: by the status, by the characters
of the body, and by what the body is parsed as. A response that refuses a request has a message and,
as the case may be, a code; one that shows rows has a message and the rows.
-/

namespace RowFilter.Http

namespace Response

open Json (DoublesReadBack Readable Spells SpellsMember greatestDepth membersOf)

/-- Whether a response refuses a request with a status, a code, if there is one, and a message. -/
structure Refuses (response : Response) (status : Nat) (code : Option String) (message : String) :
    Prop where
  /-- The status is the given one. -/
  status_eq : response.status = status
  /-- The request's method was not at fault. -/
  allow_eq : response.allow = none
  /-- The body is a JSON text. -/
  contentType_eq : response.contentType = some "application/json"
  /-- The body has the message and then the code, and nothing else. -/
  body_eq : response.body =
    "\x7b\"isError\":true,\"body\":\x7b\"message\":" ++ (Json.string message).text ++
      (code.elim "" fun code => ",\"code\":" ++ (Json.string code).text) ++ "\x7d\x7d"
  /-- The body is parsed as an object with the message and the code. -/
  parse_eq : Json.parse response.body = .ok (.object
    [("body", .object ((code.elim [] fun code => [("code", .string code)]) ++
        [("message", .string message)])),
      ("isError", .boolean true)])

/-- Whether a response shows rows with a message. -/
structure Shows (response : Response) (message : String) (rows : List Record) : Prop where
  /-- The request succeeded. -/
  status_eq : response.status = 200
  /-- The request's method was not at fault. -/
  allow_eq : response.allow = none
  /-- The body is a JSON text. -/
  contentType_eq : response.contentType = some "application/json"
  /-- The body has the message and then the rows, in their order, and nothing else. -/
  body_eq : response.body =
    "\x7b\"isError\":false,\"body\":\x7b\"message\":" ++ (Json.string message).text ++
      ",\"data\":" ++ Json.textOfRecords rows ++ "\x7d\x7d"
  /-- The body is parsed as an object with the message and the rows, if rows such as these can be
  read: not nested too deep, and each double is what its own text is read as. -/
  parse_eq (readable : Readable (greatestDepth - 2) (.array (rows.map .object)))
    (back : DoublesReadBack (.array (rows.map .object))) :
      Json.parse response.body = .ok (.object
        [("body", .object [("data", .array (rows.map .object)), ("message", .string message)]),
          ("isError", .boolean false)])

/-! ### Envelopes -/

/-- An envelope is parsed as an object of its two members. -/
theorem parse_envelope (isError : Bool) {named : List (String × List Char)}
    {members : List (String × Json)}
    (each : List.Forall₂ (SpellsMember (greatestDepth - 2)) named members) :
    Json.parse (envelope isError named) =
      .ok (.object [("body", .object (membersOf members)), ("isError", .boolean isError)]) := by
  have inner : Spells (greatestDepth - 1) (Json.objectChars named) (.object (membersOf members)) :=
    Json.spells_objectChars each
  have outer : Spells greatestDepth _ (.object (membersOf
      [("isError", .boolean isError), ("body", .object (membersOf members))])) :=
    Json.spells_objectChars
      (.cons ((Json.spells_boolean isError).named _) (.cons (inner.named _) .nil))
  rw [Record.membersOf_pair_of_lt (by decide)] at outer
  exact outer.parse_eq_ok

theorem spellsMember_message (message : String) :
    SpellsMember (greatestDepth - 2) ("message", Json.stringChars message)
      ("message", .string message) :=
  (Json.spells_stringChars message).named "message"

/-- An envelope with a message and one more member, whose name is before it, is parsed as an object
with both. -/
theorem parse_envelope_pair (isError : Bool) (message : String) {name : String} {row : List Char}
    {value : Json} (before : name < "message") (spells : Spells (greatestDepth - 2) row value) :
    Json.parse (envelope isError [("message", Json.stringChars message), (name, row)]) =
      .ok (.object [("body", .object [(name, value), ("message", .string message)]),
        ("isError", .boolean isError)]) := by
  have parsed := parse_envelope isError
    (.cons (spellsMember_message message) (.cons (spells.named name) .nil))
  rwa [Record.membersOf_pair_of_lt before] at parsed

/-- An envelope is written with the message first and the other members after it. -/
theorem envelope_eq (isError : Bool) (message : String) (more : List (String × List Char)) :
    envelope isError (("message", Json.stringChars message) :: more) =
      "\x7b\"isError\":" ++ (Json.boolean isError).text ++ ",\"body\":\x7b\"message\":" ++
        (Json.string message).text ++ String.ofList ((Json.memberRows more).flatMap (',' :: ·)) ++
          "\x7d\x7d" := by
  have names : Json.stringChars "isError" = "\"isError\"".toList ∧
    Json.stringChars "body" = "\"body\"".toList ∧
      Json.stringChars "message" = "\"message\"".toList := by decide +kernel
  rw [← String.toList_inj, Json.text_string]
  simp [envelope, Json.objectChars, Json.commaSeparated_cons, Json.memberChars, Json.memberRows,
    names, Json.text]

/-- A member after others is written after a comma. -/
theorem laterMember_eq (name : String) (row : List Char) :
    String.ofList ((Json.memberRows [(name, row)]).flatMap (',' :: ·)) =
      "," ++ (Json.string name).text ++ ":" ++ String.ofList row := by
  rw [← String.toList_inj, Json.text_string]
  simp [Json.memberRows, Json.memberChars]

/-! ### What the routes answer -/

theorem refuses_ofProblem (problem : Problem) :
    (ofProblem problem).Refuses problem.status problem.code problem.message := by
  obtain ⟨status, code, message⟩ := problem
  cases code with
  | none =>
      exact ⟨rfl, rfl, rfl, envelope_eq true message [],
        parse_envelope true (.cons (spellsMember_message message) .nil)⟩
  | some code =>
      refine ⟨rfl, rfl, rfl, ?_,
        parse_envelope_pair true message (by decide) (Json.spells_stringChars code)⟩
      show envelope true [("message", _), ("code", Json.stringChars code)] = _
      have name : (Json.string "code").text = "\"code\"" := by decide +kernel
      have flag : (Json.boolean true).text = "true" := by decide +kernel
      rw [envelope_eq, laterMember_eq, name, flag, ← Json.text_string, ← String.toList_inj]
      simp

theorem shows_ofRows (message : String) (rows : List Record) :
    (ofRows message rows).Shows message rows := by
  refine ⟨rfl, rfl, rfl, ?_, fun readable back =>
    parse_envelope_pair false message (by decide) (Json.spells_chars readable back)⟩
  show envelope false [("message", _), ("data", (Json.array (rows.map .object)).chars)] = _
  have name : (Json.string "data").text = "\"data\"" := by decide +kernel
  have flag : (Json.boolean false).text = "false" := by decide +kernel
  have data : Json.textOfRecords rows = String.ofList (Json.array (rows.map .object)).chars := rfl
  rw [envelope_eq, laterMember_eq, name, flag, ← data, ← String.toList_inj]
  simp

end Response

end RowFilter.Http
