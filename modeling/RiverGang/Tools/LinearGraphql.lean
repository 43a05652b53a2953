import RiverGang.Codex.Process
import RiverGang.Tracker.Transport

/-!
# The GraphQL tool of the agent

`tools/linear_graphql.py`: the input of a call is checked, the document is sent, and what comes of it is shown as a
`ToolResult`. The parser of GraphQL is a parameter.

* `tool_shows_body`: what a call returns, for every input, where the transport raises errors of the tracker only.
* `transport_typed_iff`: for which responses the transport and the tool are as they should be.
-/

namespace RiverGang

open Py

/-- `parsed.definitions`, by their classes. -/
inductive Definition
  | operationDefinition
  | other

/-- `graphql.parse`; the error is the text of its `GraphQLError`. -/
class Graphql where
  parse : Str → Except Str (List Definition)

/-- `_normalise_envelope` -/
def normaliseEnvelope : Json → Except Str (Json × Json)
  | .str raw => .ok (.str raw, .obj [])
  | .obj raw => .ok ((Json.get? raw (py "query")).getD .null, (Json.get? raw (py "variables")).getD (.obj []))
  | raw => .error (py "linear_graphql: input must be a string or object, got " ++ raw.typeName)

section Tool

variable [Graphql]

def countOperations (document : Str) : Except Str Nat :=
  if strip document = [] then .error (py "linear_graphql: cannot parse empty document")
  else
    match Graphql.parse document with
    | .error exc => .error (py "linear_graphql: invalid GraphQL syntax: " ++ exc)
    | .ok definitions => .ok (definitions.countP fun d => d matches .operationDefinition)

/-- The variables of a call; `None` stands for none. -/
def checkVariables : Json → Except Str Payload
  | .null => .ok []
  | .obj vars => .ok vars
  | v => .error (py "linear_graphql: 'variables' must be an object/dict, got " ++ v.typeName)

def validateInput (raw : Json) : Except Str (Str × Payload) := do
  let (query, vars) ← normaliseEnvelope raw
  match query with
  | .str query =>
    if strip query = [] then .error (py "linear_graphql: 'query' must be a non-empty GraphQL document")
    else
      let vars ← checkVariables vars
      let opCount ← countOperations query
      if opCount ≠ 1 then
        .error (py "linear_graphql: document must contain exactly one operation, found " ++ decimal opCount)
      else pure (query, vars)
  | _ => .error (py "linear_graphql: 'query' must be a non-empty GraphQL document")

/-- What a call shows of its request: all errors of the tracker are caught. -/
def showOutcome : Except TransportFailure Payload → Except TransportFailure ToolResult
  | .ok data => .ok ⟨true, some data, none, none⟩
  | .error (.linear (.graphQLErrors errors data msg)) => .ok ⟨false, data, some errors, some msg⟩
  | .error (.linear exc) => .ok ⟨false, none, none, some exc.msg⟩
  | .error (.raised exc) => .error (.raised exc)

/-- `LinearGraphqlTool.execute` -/
def toolExecute (execute : Str → Payload → Except TransportFailure Payload) (rawInput : Json) :
    Except TransportFailure ToolResult :=
  match validateInput rawInput with
  | .error exc => .ok ⟨false, none, none, some exc⟩
  | .ok (query, vars) => showOutcome (execute query vars)

end Tool

/-! ## Responses -/

section Responses

variable [Builtins]

/-- What `execute` should come to, for a status and a JSON body: the data, or an error of the tracker; and for a list of
errors that is not empty `LinearGraphQLErrors` with that list, and with the data if there is an object. -/
structure Typed (statusCode : Int) (body : Json) (outcome : Except TransportFailure Payload) : Prop where
  data : ∀ data, outcome = .ok data ↔ statusCode = 200 ∧ ∃ envelope, body = .obj envelope ∧ ¬ HasErrors envelope ∧
    Json.get? envelope (py "data") = some (.obj data)
  error : ∀ failure, outcome = .error failure → ∃ e, failure = .linear e
  errors : ∀ envelope errors, statusCode = 200 → body = .obj envelope →
    Json.get? envelope (py "errors") = some (.arr errors) → errors ≠ [] →
    ∃ msg, outcome = .error (.linear (.graphQLErrors errors (objectAt envelope (py "data")) msg))

/-- What a result preserves of a body. -/
structure Shows (statusCode : Int) (body : Json) (result : ToolResult) : Prop where
  data : ∀ envelope data, statusCode = 200 → body = .obj envelope → ¬ HasErrors envelope →
    Json.get? envelope (py "data") = some (.obj data) → result = ⟨true, some data, none, none⟩
  errors : ∀ envelope errors, statusCode = 200 → body = .obj envelope →
    Json.get? envelope (py "errors") = some (.arr errors) → errors ≠ [] →
    ∃ msg, result = ⟨false, objectAt envelope (py "data"), some errors, some msg⟩

variable {statusCode : Int} {text : Str} {body : Json} {query : Str} {vars : Payload}

theorem typed_of_not_bare (h : ¬ (statusCode = 200 ∧ BareError body)) :
    Typed statusCode body ((answering statusCode text body).execute query vars) where
  data _ := execute_ok_iff
  error failure hf := by
    cases failure with
    | linear e => exact ⟨e, rfl⟩
    | raised exc => exact absurd (execute_raised_iff.1 ⟨exc, hf⟩) h
  errors envelope errors hs hb he hne := by
    subst hs hb
    rw [execute_errors he hne]
    cases errors with
    | nil => exact absurd rfl hne
    | cons first rest =>
      cases first with
      | obj first =>
        obtain ⟨msg, hm⟩ := linearGraphQLErrors_of_obj
        exact ⟨msg, by rw [hm]⟩
      | null | bool | int | float | str | arr => exact absurd ⟨rfl, envelope, _, rest, rfl, he, rfl⟩ h

theorem hasErrors_of_ne_nil {envelope : Payload} {errors : List Json} (hne : errors ≠ [])
    (he : Json.get? envelope (py "errors") = some (.arr errors)) : HasErrors envelope := by
  cases errors with
  | nil => exact absurd rfl hne
  | cons first rest => simp [HasErrors, he, Json.truthy]

/-- What is raised for a body is shown, and the body with it. -/
theorem Typed.shown {outcome : Except TransportFailure Payload} (h : Typed statusCode body outcome) :
    ∃ result, showOutcome outcome = .ok result ∧ Shows statusCode body result := by
  cases outcome with
  | ok data =>
    obtain ⟨-, envelope, rfl, hno, hd⟩ := (h.data data).1 rfl
    refine ⟨_, rfl, fun _ data' hs hb _ hd' => ?_, fun _ errors hs hb he hne => ?_⟩
    · cases hb
      rw [hd] at hd'
      cases hd'
      rfl
    · cases hb
      exact absurd (hasErrors_of_ne_nil hne he) hno
  | error failure =>
    obtain ⟨e, rfl⟩ := h.error failure rfl
    have hdata : ∀ data, ¬ (statusCode = 200 ∧ ∃ envelope, body = .obj envelope ∧ ¬ HasErrors envelope ∧
        Json.get? envelope (py "data") = some (.obj data)) := fun data hd => by cases (h.data data).2 hd
    cases e with
    | graphQLErrors errors data msg =>
      refine ⟨_, rfl, fun envelope data' hs hb hno hd => absurd ⟨hs, envelope, hb, hno, hd⟩ (hdata data'),
        fun envelope errors' hs hb he hne => ?_⟩
      obtain ⟨msg', hm⟩ := h.errors envelope errors' hs hb he hne
      cases hm
      exact ⟨msg, rfl⟩
    | apiRequest | apiStatus | unknownPayload =>
      refine ⟨_, rfl, fun envelope data' hs hb hno hd => absurd ⟨hs, envelope, hb, hno, hd⟩ (hdata data'),
        fun envelope errors' hs hb he hne => ?_⟩
      obtain ⟨msg', hm⟩ := h.errors envelope errors' hs hb he hne
      cases hm

variable [Graphql]

/-- The tool returns something for every input, and for one that it sends something that shows the body. -/
theorem tool_shows_body {execute : Str → Payload → Except TransportFailure Payload}
    (h : ∀ query vars, Typed statusCode body (execute query vars)) (raw : Json) :
    ∃ result, toolExecute execute raw = .ok result ∧
      ∀ sent, validateInput raw = .ok sent → Shows statusCode body result := by
  unfold toolExecute
  cases hv : validateInput raw with
  | error exc => exact ⟨_, rfl, by simp⟩
  | ok sent =>
    obtain ⟨result, hr, hs⟩ := (h sent.1 sent.2).shown
    exact ⟨result, hr, fun _ _ => hs⟩

/-- **Typed errors**, for every status, text and JSON body, every request and every input of the tool. -/
theorem transport_typed_iff (statusCode : Int) (text : Str) (body : Json) :
    ((∀ query vars, Typed statusCode body ((answering statusCode text body).execute query vars)) ∧
      ∀ raw, ∃ result, toolExecute (answering statusCode text body).execute raw = .ok result ∧
        ∀ sent, validateInput raw = .ok sent → Shows statusCode body result) ↔
    ¬ (statusCode = 200 ∧ BareError body) := by
  constructor
  · rintro ⟨ht, -⟩ h
    obtain ⟨exc, hx⟩ : ∃ exc, (answering statusCode text body).execute [] [] = .error (.raised exc) :=
      execute_raised_iff.2 h
    obtain ⟨e, he⟩ := (ht [] []).error _ hx
    cases he
  · intro h
    have ht : ∀ query vars, Typed statusCode body ((answering statusCode text body).execute query vars) :=
      fun query vars => typed_of_not_bare h
    exact ⟨ht, tool_shows_body ht⟩

end Responses

/-! ## An error that is a string -/

section Sample

attribute [local instance] sampleBuiltins

@[reducible] def sampleGraphql : Graphql where
  parse _ := .ok [.operationDefinition]

attribute [local instance] sampleGraphql

def stringError : Json := .obj [(py "errors", .arr [.str (py "boom")])]

/-- `{"errors": ["boom"]}` with status 200: the transport raises an `AttributeError`, and so does the tool. -/
theorem stringError_untyped :
    (answering 200 [] stringError).execute (py "query { viewer { id } }") [] =
      .error (.raised ⟨.other, py "'str' object has no attribute 'get'"⟩) ∧
    toolExecute (answering 200 [] stringError).execute (.str (py "query { viewer { id } }")) =
      .error (.raised ⟨.other, py "'str' object has no attribute 'get'"⟩) :=
  ⟨rfl, rfl⟩

end Sample

end RiverGang
