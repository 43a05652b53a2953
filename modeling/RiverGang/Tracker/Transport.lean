import RiverGang.Tracker.Pagination

/-!
# The transport

`tracker/linear_transport.py`: a GraphQL document is posted, and the envelope of the response is decoded. What `httpx`
makes of the request and of the body is a parameter.

* `execute_ok_iff`: which responses give their data.
* `execute_raised_iff`: which ones make it raise an exception that is none of the tracker's; `LinearGraphQLErrors` looks
  into the first of the errors when it is constructed.
* `paginate_typed`: a loop over pages raises errors of the tracker only, against all other responses.
-/

namespace RiverGang

open Py

/-- The classes of `tracker/errors.py` that a request raises. -/
inductive LinearError
  | apiRequest (msg : Str)
  | apiStatus (status : Int) (body : Str)
  | graphQLErrors (errors : List Json) (data : Option Payload) (msg : Str)
  | unknownPayload (msg : Str)

/-- `str(exc)` -/
def LinearError.msg : LinearError → Str
  | .apiRequest msg => msg
  | .apiStatus status body => py "Linear API returned HTTP " ++ decimalInt status ++ py ": " ++ body.take 200
  | .graphQLErrors _ _ msg => msg
  | .unknownPayload msg => msg

/-- What a request raises: an error of the tracker, or something else. -/
inductive TransportFailure
  | linear (e : LinearError)
  | raised (e : Exn)

def TransportFailure.toExn : TransportFailure → Exn
  | .linear e => ⟨.linearError, e.msg⟩
  | .raised e => e

structure Response where
  statusCode : Int
  text : Str
  /-- `response.json()`; its own exceptions, `JSONDecodeError` and `UnicodeDecodeError`, are `ValueError`s -/
  json : Except Exn Json

/-- What `client.post` comes to. -/
inductive Posted
  | response (r : Response)
  /-- `httpx.HTTPError` -/
  | httpError (msg : Str)
  | raised (e : Exn)

section Transport

variable [Builtins]

/-- `LinearGraphQLErrors(errors, data=…)`: the text is made of the first error, by its `get`. -/
def linearGraphQLErrors (errors : List Json) (data : Option Payload) : TransportFailure :=
  let text := fun first => py "Linear GraphQL returned " ++ decimal errors.length ++ py " error(s); first: " ++ first
  match errors with
  | [] => .linear (.graphQLErrors errors data (text (py "<empty>")))
  | .obj first :: _ =>
    .linear (.graphQLErrors errors data (text (((Json.get? first (py "message")).map Json.toStr).getD
      (py "<no message>"))))
  | first :: _ => .raised ⟨.other, py "'" ++ first.typeName ++ py "' object has no attribute 'get'"⟩

/-- From the envelope to its data. -/
def decodeEnvelope : Json → Except TransportFailure Payload
  | .obj envelope =>
    let errors := (Json.get? envelope (py "errors")).getD .null
    if errors.truthy then
      match errors with
      | .arr errors => .error (linearGraphQLErrors errors (objectAt envelope (py "data")))
      | errors => .error (.linear (.unknownPayload (py "GraphQL 'errors' must be a list, got " ++ errors.typeName)))
    else
      match Json.get? envelope (py "data") with
      | none => .error (.linear (.unknownPayload (py "GraphQL envelope missing both 'data' and 'errors' keys")))
      | some (.obj data) => .ok data
      | some data => .error (.linear (.unknownPayload (py "GraphQL 'data' must be an object, got " ++ data.typeName)))
  | envelope =>
    .error (.linear (.unknownPayload (py "GraphQL envelope must be an object, got " ++ envelope.typeName)))

def decodeResponse (response : Response) : Except TransportFailure Payload :=
  if response.statusCode ≠ 200 then .error (.linear (.apiStatus response.statusCode response.text))
  else
    match response.json with
    | .error exc =>
      if exc.cls = .valueError then
        .error (.linear (.unknownPayload (py "response body is not valid JSON: " ++ exc.msg)))
      else .error (.raised exc)
    | .ok envelope => decodeEnvelope envelope

structure LinearTransport where
  closed : Bool
  post : Payload → Posted

def LinearTransport.execute (t : LinearTransport) (query : Str) (vars : Payload) : Except TransportFailure Payload :=
  if t.closed then .error (.raised ⟨.other, py "LinearTransport is closed"⟩)
  else
    match t.post [(py "query", .str query), (py "variables", .obj vars)] with
    | .httpError msg => .error (.linear (.apiRequest (py "transport failure: " ++ msg)))
    | .raised exc => .error (.raised exc)
    | .response response => decodeResponse response

/-! ## Envelopes -/

/-- `envelope.get("errors")` is something. -/
def HasErrors (envelope : Payload) : Prop := ((Json.get? envelope (py "errors")).getD .null).truthy = true

/-- A body whose first error is no object. -/
def BareError (body : Json) : Prop :=
  ∃ envelope first rest, body = .obj envelope ∧ Json.get? envelope (py "errors") = some (.arr (first :: rest)) ∧
    first.obj? = none

theorem linearGraphQLErrors_of_obj {first : Payload} {rest : List Json} {data : Option Payload} :
    ∃ msg, linearGraphQLErrors (.obj first :: rest) data = .linear (.graphQLErrors (.obj first :: rest) data msg) :=
  ⟨_, rfl⟩

theorem linearGraphQLErrors_of_bare {first : Json} {rest : List Json} {data : Option Payload} (h : first.obj? = none) :
    ∃ exc, linearGraphQLErrors (first :: rest) data = .raised exc := by
  cases first with
  | obj => cases h
  | null | bool | int | float | str | arr => exact ⟨_, rfl⟩

/-- The data of an envelope. -/
theorem decodeEnvelope_ok_iff {body : Json} {data : Payload} : decodeEnvelope body = .ok data ↔
    ∃ envelope, body = .obj envelope ∧ ¬ HasErrors envelope ∧ Json.get? envelope (py "data") = some (.obj data) := by
  cases body with
  | null | bool | int | float | str | arr => simp [decodeEnvelope]
  | obj envelope =>
    simp only [decodeEnvelope, Json.obj.injEq, exists_eq_left', HasErrors]
    split
    · rename_i h
      split <;> simp [h]
    · rename_i h
      split <;> simp_all

/-- What is raised for a list of errors that is not empty. -/
theorem decodeEnvelope_errors {envelope : Payload} {errors : List Json}
    (h : Json.get? envelope (py "errors") = some (.arr errors)) (hne : errors ≠ []) :
    decodeEnvelope (.obj envelope) = .error (linearGraphQLErrors errors (objectAt envelope (py "data"))) := by
  cases errors with
  | nil => exact absurd rfl hne
  | cons first rest => simp [decodeEnvelope, h, Json.truthy]

/-- The bodies for which something else is raised. -/
theorem decodeEnvelope_raised_iff {body : Json} :
    (∃ exc, decodeEnvelope body = .error (.raised exc)) ↔ BareError body := by
  constructor
  · rintro ⟨exc, h⟩
    cases body with
    | null | bool | int | float | str | arr => simp [decodeEnvelope] at h
    | obj envelope =>
      cases he : Json.get? envelope (py "errors") with
      | none =>
        simp only [decodeEnvelope, he, Option.getD_none, Json.truthy, Bool.false_eq_true, if_false] at h
        split at h <;> cases h
      | some errors =>
        cases errors with
        | arr errors =>
          cases errors with
          | nil =>
            simp only [decodeEnvelope, he, Option.getD_some, Json.truthy, List.isEmpty_nil, Bool.not_true,
              Bool.false_eq_true, if_false] at h
            split at h <;> cases h
          | cons first rest =>
            refine ⟨envelope, first, rest, rfl, he, ?_⟩
            rw [decodeEnvelope_errors he (by simp)] at h
            cases first with
            | obj first => cases h
            | null | bool | int | float | str | arr => rfl
        | null | bool | int | float | str | obj =>
          simp only [decodeEnvelope, he, Option.getD_some] at h
          split at h
          · cases h
          · split at h <;> cases h
  · rintro ⟨envelope, first, rest, rfl, he, hbare⟩
    obtain ⟨exc, hexc⟩ : ∃ exc, linearGraphQLErrors (first :: rest) (objectAt envelope (py "data")) = .raised exc :=
      linearGraphQLErrors_of_bare hbare
    exact ⟨exc, by rw [decodeEnvelope_errors he (by simp), hexc]⟩

/-! ## Responses -/

/-- A transport whose server gives one response. -/
def answering (statusCode : Int) (text : Str) (body : Json) : LinearTransport where
  closed := false
  post _ := .response ⟨statusCode, text, .ok body⟩

variable {statusCode : Int} {text : Str} {body : Json} {query : Str} {vars : Payload}

theorem execute_answering : (answering statusCode text body).execute query vars =
    if statusCode ≠ 200 then .error (.linear (.apiStatus statusCode text)) else decodeEnvelope body := rfl

/-- **The data** comes of status 200, an envelope without errors, and data that is an object. -/
theorem execute_ok_iff {data : Payload} : (answering statusCode text body).execute query vars = .ok data ↔
    statusCode = 200 ∧ ∃ envelope, body = .obj envelope ∧ ¬ HasErrors envelope ∧
      Json.get? envelope (py "data") = some (.obj data) := by
  rw [execute_answering]
  split
  · rename_i h
    simp [h]
  · rename_i h
    rw [decodeEnvelope_ok_iff]
    simp [not_not.1 h]

/-- **Other exceptions** come of status 200 and a first error that is no object. -/
theorem decodeResponse_raised_iff : (∃ exc, decodeResponse ⟨statusCode, text, .ok body⟩ = .error (.raised exc)) ↔
    statusCode = 200 ∧ BareError body := by
  simp only [decodeResponse]
  split
  · rename_i h
    simp [h]
  · rename_i h
    rw [decodeEnvelope_raised_iff]
    simp [not_not.1 h]

theorem execute_raised_iff : (∃ exc, (answering statusCode text body).execute query vars = .error (.raised exc)) ↔
    statusCode = 200 ∧ BareError body := decodeResponse_raised_iff

theorem execute_errors {envelope : Payload} {errors : List Json} (h : Json.get? envelope (py "errors") = some (.arr errors))
    (hne : errors ≠ []) : (answering 200 text (.obj envelope)).execute query vars =
      .error (linearGraphQLErrors errors (objectAt envelope (py "data"))) := decodeEnvelope_errors h hne

/-- A loop over pages, with such responses to its requests, raises errors of the tracker only. -/
theorem paginate_typed [Datetime] [Unicode] {responses : List (Int × Str × Json)}
    (h : ∀ r ∈ responses, ¬ (r.1 = 200 ∧ BareError r.2.2)) {base : Payload} {pageSize : Int} {requests : List PageRequest}
    {e : Exn} (hp : (paginateIssues query base pageSize).play [] none (responses.map fun r =>
      (decodeResponse ⟨r.1, r.2.1, .ok r.2.2⟩).mapError TransportFailure.toExn) = (requests, some (.error e))) :
    e.isLinearError = true := by
  have hreads := (paginates_issues query base pageSize).reads (responses.map fun r =>
    (decodeResponse ⟨r.1, r.2.1, .ok r.2.2⟩).mapError TransportFailure.toExn)
  rw [hp] at hreads
  cases hreads with
  | raises turns answer rest e _ hs _ _ he =>
    refine he.elim id fun ha => ?_
    have hmem : answer ∈ responses.map fun r =>
        (decodeResponse ⟨r.1, r.2.1, .ok r.2.2⟩).mapError TransportFailure.toExn := by
      rw [hs]
      simp
    obtain ⟨r, hr, rfl⟩ := List.mem_map.1 hmem
    cases hx : decodeResponse ⟨r.1, r.2.1, .ok r.2.2⟩ with
    | ok data =>
      rw [hx] at ha
      cases ha
    | error failure =>
      rw [hx] at ha
      cases failure with
      | linear e' =>
        cases ha
        rfl
      | raised exc => exact absurd (decodeResponse_raised_iff.1 ⟨exc, hx⟩) (h r hr)

end Transport

end RiverGang
