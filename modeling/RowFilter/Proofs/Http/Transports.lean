import Mathlib.Data.List.TakeWhile
import RowFilter.Proofs.Filter.FirstFailure
import RowFilter.Proofs.Http.Exchanges
import RowFilter.Proofs.Url.FormEncoding

/-!
# Filters in bodies and in targets

The same text can be sent as the body of a POST or, written as form data, in the target of a GET.
Both requests are answered alike, with the same calls, unless the text is not read as a filter
request; then both are refused without a call, with messages of their own.
-/

namespace RowFilter.Http

open RowFilter.Filter
open Url (formEncoded)

/-! ### Targets -/

/-- A target that starts with a slash has no origin. -/
theorem withoutOrigin_of_slash (rest : List Char) : withoutOrigin ('/' :: rest) = '/' :: rest := by
  have scheme : Url.splitScheme? ('/' :: rest) = none := by
    rw [Url.splitScheme?, List.span_eq_takeWhile_dropWhile,
      List.takeWhile_cons_of_neg (by decide)]
  rw [withoutOrigin, scheme]

/-- A target is split at its first question mark, if it has no origin and no fragment. -/
theorem splitTarget_append (path query : String) {rest : List Char}
    (slash : path.toList = '/' :: rest) (noMark : ∀ c ∈ path.toList, c ≠ '#' ∧ c ≠ '?')
    (noHash : '#' ∉ query.toList) : splitTarget (path ++ "?" ++ query) = (path, query) := by
  have target : (path ++ "?" ++ query).toList = path.toList ++ '?' :: query.toList := by
    simp
  have start : withoutOrigin (path.toList ++ '?' :: query.toList) =
      path.toList ++ '?' :: query.toList := by
    rw [slash]
    exact withoutOrigin_of_slash _
  have noFragment : (path.toList ++ '?' :: query.toList).takeWhile (· ≠ '#') =
      path.toList ++ '?' :: query.toList := by
    rw [List.takeWhile_eq_self_iff, List.forall_mem_append, List.forall_mem_cons]
    refine ⟨fun c hc => by simp [(noMark c hc).1], by decide, fun c hc => ?_⟩
    exact decide_eq_true fun same => noHash (same ▸ hc)
  rw [splitTarget, target, start, noFragment,
    Text.span_append_cons (fun c hc => decide_eq_true (noMark c hc).2) (by decide)]
  simp

/-! ### What is received -/

/-- The request that posts a text. -/
def postOf (text : String) : Request := .ofTarget "POST" "/filter" (Text.encode text)

/-- The request that sends a text in its target. -/
def getOf (text : String) (body : List UInt8) : Request :=
  .ofTarget "GET" ("/filter?filter=" ++ formEncoded text) body

theorem postOf_eq (text : String) : postOf text = ⟨"POST", "/filter", "", Text.encode text⟩ := by
  have split : splitTarget "/filter" = ("/filter", "") := by decide +kernel
  rw [postOf, Request.ofTarget, split]

theorem getOf_eq (text : String) (body : List UInt8) :
    getOf text body = ⟨"GET", "/filter", "filter=" ++ formEncoded text, body⟩ := by
  have target : "/filter?filter=" ++ formEncoded text =
      "/filter" ++ "?" ++ ("filter=" ++ formEncoded text) := by
    rw [← String.append_assoc]
    rfl
  have noHash : '#' ∉ ("filter=" ++ formEncoded text).toList := by
    rw [String.toList_append, List.mem_append]
    exact not_or.mpr ⟨by decide +kernel, Url.hash_not_mem_formEncoded text⟩
  have slash : "/filter".toList = ['/', 'f', 'i', 'l', 't', 'e', 'r'] := rfl
  have noMark : ∀ c ∈ "/filter".toList, c ≠ '#' ∧ c ≠ '?' := by simp [slash]
  rw [getOf, Request.ofTarget, target, splitTarget_append "/filter" _ slash noMark noHash]

theorem filterParameter_formEncoded (text : String) :
    filterParameter ("filter=" ++ formEncoded text) = .ok (some text) := by
  have name : Url.FormData.decodePart (Text.encode "filter") = "filter" := by decide +kernel
  have pairs : Url.FormData.pairs ("filter=" ++ formEncoded text) = [("filter", text)] := by
    have given := Url.FormData.pairs_formEncoded "filter" text (by decide +kernel)
      (by decide +kernel)
    rwa [name] at given
  rw [filterParameter, pairs]
  rfl

section Received

variable {api : Api} {text : String}

theorem received_postOf (short : (Text.encode text).length ≤ api.limits.bodyOctets) :
    api.received (postOf text) = some (FilterRequest.ofBody (Text.encode text)) := by
  have within : api.bodyWithin (Text.encode text) = .ok (Text.encode text) :=
    if_neg (Nat.not_lt_of_le short)
  rw [postOf_eq, Api.received, if_neg (by simp), if_pos rfl, Api.posted, within, ok_bind]

theorem received_getOf (body : List UInt8) :
    api.received (getOf text body) = some (FilterRequest.ofParameter (some text)) := by
  rw [getOf_eq, Api.received, if_pos (.inl rfl), Api.queried, filterParameter_formEncoded, ok_bind]

end Received

/-! ### What is refused -/

/-- The problem of a text that is not read as a filter request. -/
def unreadable (message : String) : Problem := ⟨400, some "S1003", message⟩

/-- What is said of a body that is not read. -/
def bodyMessage (error : Json.ReadError) : String := "Invalid filter structure: " ++ error.message

/-- What is said of a parameter that is not read. -/
def parameterMessage : String := "Invalid encoded filter format. Expected URI encoded JSON."

theorem bodyMessage_ne_parameterMessage (error : Json.ReadError) :
    bodyMessage error ≠ parameterMessage := by
  intro same
  have long : 8 < "Invalid filter structure: ".toList.length := by decide +kernel
  have appended : (bodyMessage error).toList =
      "Invalid filter structure: ".toList ++ error.message.toList := String.toList_append
  have ninth : (bodyMessage error).toList[8]? = "Invalid filter structure: ".toList[8]? :=
    (congrArg (·[8]?) appended).trans (List.getElem?_append_left long)
  rw [same] at ninth
  exact absurd ninth (by decide +kernel)

theorem ofFailure_malformedFilter (message : String) :
    Problem.ofFailure (.malformedFilter message) = unreadable message := by
  have code : (Cause.malformedFilter message).code = "S1003" := by
    show "S" ++ toString 1003 = "S1003"
    decide
  exact congrArg (fun code => Problem.mk 400 (some code) message) code

section Refused

variable {text : String} {error : Json.ReadError}
  (failed : FilterRequest.parse (Text.symbols text) = .error error)
include failed

theorem ofBody_of_error (proper : (Text.encode text).all Text.isAsciiBlank = false) :
    FilterRequest.ofBody (Text.encode text) = .error (unreadable (bodyMessage error)) := by
  rw [FilterRequest.ofBody, proper, if_neg Bool.false_ne_true, Text.decode_encode, failed]
  exact congrArg Except.error (ofFailure_malformedFilter _)

theorem ofParameter_of_error :
    FilterRequest.ofParameter (some text) = .error (unreadable parameterMessage) := by
  rw [FilterRequest.ofParameter, failed]
  exact congrArg Except.error (ofFailure_malformedFilter _)

end Refused

/-! ### Exchanges -/

section Answered

variable {api : Api} {store : Store} {text : String}

theorem route_filter (entity : String) : Route.ofPath? entity "/filter" = some .filter := by
  rw [Route.ofPath?, if_neg (by decide), if_neg (by decide), if_pos (by simp)]

theorem handle_postOf (short : (Text.encode text).length ≤ api.limits.bodyOctets) :
    api.handle store (postOf text) =
      api.filter store (FilterRequest.ofBody (Text.encode text)) := by
  have route : Route.ofPath? api.service.target.entity (postOf text).path = some .filter := by
    rw [postOf_eq, route_filter]
  rw [handle_of_received route (received_postOf short), postOf_eq, if_neg (by simp)]

theorem handle_getOf (body : List UInt8) :
    api.handle store (getOf text body) =
      api.filter store (FilterRequest.ofParameter (some text)) := by
  have route : Route.ofPath? api.service.target.entity (getOf text body).path = some .filter := by
    rw [getOf_eq, route_filter]
  rw [handle_of_received route (received_getOf body), getOf_eq, if_neg (by simp)]

end Answered

/-- A text that is not blank and within the limit of bodies is answered alike, in every respect,
whether it is posted or sent in the target of a query. Only if it is not read as a filter request,
the messages differ; then both responses have status 400 and the code S1003 in the body, and neither
request makes a call. -/
theorem post_eq_get (api : Api) (store : Store) (text : String) (body : List UInt8)
    (proper : (Text.encode text).all Text.isAsciiBlank = false)
    (short : (Text.encode text).length ≤ api.limits.bodyOctets) :
    (∀ read, FilterRequest.parse (Text.symbols text) = .ok read →
      api.handle store (postOf text) = api.handle store (getOf text body)) ∧
    ∀ error, FilterRequest.parse (Text.symbols text) = .error error →
      (api.handle store (postOf text)).calls = [] ∧
        (api.handle store (getOf text body)).calls = [] ∧
        (api.handle store (postOf text)).response.Refuses 400 (some "S1003") (bodyMessage error) ∧
        (api.handle store (getOf text body)).response.Refuses 400 (some "S1003")
          parameterMessage ∧
        bodyMessage error ≠ parameterMessage := by
  rw [handle_postOf short, handle_getOf]
  constructor
  · intro read parsed
    have posted : FilterRequest.ofBody (Text.encode text) = .ok read := by
      rw [ofBody_eq_ok_iff, Text.decode_encode]
      exact .inr ⟨proper, parsed⟩
    rw [posted, (ofParameter_eq_ok_iff text read).mpr parsed]
  · intro error failed
    rw [ofBody_of_error failed proper, ofParameter_of_error failed]
    exact ⟨rfl, rfl, Response.refuses_ofProblem _, Response.refuses_ofProblem _,
      bodyMessage_ne_parameterMessage error⟩

/-- A filter on a name in which characters stand that mean something in a URL. -/
def sampleName : String :=
  "\x7b\"and\":[\x7b\"field\":\"name\",\"operator\":\"eq\",\"value\":\"é+e & 100%=1#\"\x7d]\x7d"

/-- A text that is cut off. -/
def sampleCut : String := "\x7b\"and\":["

/-- What a text leads to if it is posted, with a store that has no rows. -/
def samplePosted (text : String) : Exchange := sampleApi.handle (fun _ => .ok []) (postOf text)

/-- What a text leads to if it is sent in a target, with a store that has no rows. -/
def sampleQueried (text : String) : Exchange :=
  sampleApi.handle (fun _ => .ok []) (getOf text [])

/-- The filter makes the same call both ways. The text that is cut off is refused both ways, without
a call and with a message of its own each way. -/
theorem sample_sent_both_ways :
    samplePosted sampleName = sampleQueried sampleName ∧
      (sampleQueried sampleName).calls.length = 1 ∧
      ((samplePosted sampleCut).calls = [] ∧ (samplePosted sampleCut).response.status = 400 ∧
        (samplePosted sampleCut).response.body =
          "\x7b\"isError\":true,\"body\":\x7b\"message\":\"Invalid filter structure: " ++
            "EOF while parsing a list at line 1 column 8\",\"code\":\"S1003\"\x7d\x7d") ∧
      (sampleQueried sampleCut).calls = [] ∧ (sampleQueried sampleCut).response.status = 400 ∧
        (sampleQueried sampleCut).response.body =
          "\x7b\"isError\":true,\"body\":\x7b\"message\":\"Invalid encoded filter format. " ++
            "Expected URI encoded JSON.\",\"code\":\"S1003\"\x7d\x7d" := by
  have accepted : ((FilterRequest.parse (Text.symbols sampleName)).toOption.any
      (·.filter.conditionCount == 1)) = true := by decide +kernel
  have called : (sampleQueried sampleName).calls.length = 1 := by
    have answered : (sampleApi.filter (fun _ => .ok [])
        (FilterRequest.ofParameter (some sampleName))).calls.length = 1 := by decide +kernel
    rw [sampleQueried, handle_getOf]
    exact answered
  have refused : ((failure? (FilterRequest.parse (Text.symbols sampleCut))).map (·.message)) =
      some "EOF while parsing a list at line 1 column 8" := by decide +kernel
  have alike := fun text => post_eq_get sampleApi (fun _ => .ok []) text []
  refine ⟨?_, called, ?_⟩
  · obtain ⟨read, parsed, _⟩ := exists_ok_of_any accepted
    exact (alike sampleName (by decide +kernel) (by decide +kernel)).1 read parsed
  · obtain ⟨error, found, told⟩ := Option.map_eq_some_iff.mp refused
    have failed := (failure?_eq_some_iff _ _).mp found
    have message : bodyMessage error =
        "Invalid filter structure: " ++ "EOF while parsing a list at line 1 column 8" :=
      congrArg _ told
    obtain ⟨posted, queried, postRefused, queryRefused, _⟩ :=
      (alike sampleCut (by decide +kernel) (by decide +kernel)).2 error failed
    refine ⟨⟨posted, postRefused.status_eq, postRefused.body_eq.trans ?_⟩,
      queried, queryRefused.status_eq, queryRefused.body_eq.trans ?_⟩
    · rw [message]
      decide +kernel
    · decide +kernel

end RowFilter.Http
