import RiverGang.Errors
import RiverGang.Lib.Dict

/-!
# State transitions of the tracker's client

`tracker/client.py`: `transition_state` and how it gets from the name of a state to the id that the mutation wants. The
ids are cached by team; the lookup goes through the teams in the order in which they were cached, whichever the team of
the issue.

A call suspends on the lock of the cache and on the transport. The lock is given to one of those that wait for it.
-/

namespace RiverGang

open Py Coop Task

/-! ## The client -/

/-- A mutation that was sent, with the name that it was sent for. -/
structure SentUpdate where
  issueId : Str
  stateName : Str
  stateId : Str
  deriving DecidableEq

structure LinearClient where
  /-- `_state_id_cache`: the ids of a team's states by their lowered names -/
  stateIdCache : Dict Str (Dict Str Str)
  /-- `_state_cache_lock`, and how many wait for it -/
  locked : Bool
  waiters : Nat
  /-- not in the source: the mutations so far -/
  sent : List SentUpdate

/-- The documents of `tracker/queries.py` that a transition sends. -/
inductive LinearQuery
  | statesForIssue
  | issueUpdateState

inductive LinearReq
  | acquire
  | execute (query : LinearQuery) (vars : Payload)

@[reducible] def LinearSig : Sig where
  Req := LinearReq
  Ans
    | .acquire => Except Exn Unit
    | .execute .. => Except Exn Payload

abbrev Linear := Task LinearSig Exn LinearClient

namespace Linear

def granted : Linear (Except Exn Unit) := Task.request (S := LinearSig) .acquire

/-- `lock.acquire()`, which does not suspend if the lock is free and nobody waits for it. -/
def acquire : Linear Unit := do
  let s ← get
  if s.locked || s.waiters ≠ 0 then
    modify fun s => { s with waiters := s.waiters + 1 }
    let answer ← granted
    modify fun s => { s with waiters := s.waiters - 1 }
    ofExcept answer
    modify fun s => { s with locked := true }
  else
    modify fun s => { s with locked := true }

def release : Linear Unit := modify fun s => { s with locked := false }

/-- `transport.execute` -/
def answer (query : LinearQuery) (vars : Payload) : Linear (Except Exn Payload) :=
  Task.request (S := LinearSig) (.execute query vars)

def execute (query : LinearQuery) (vars : Payload) : Linear Payload := do
  ofExcept (← answer query vars)

end Linear

/-! ## Responses -/

def unknownPayload (msg : Str) : Exn := ⟨.linearError, msg⟩

/-- `value if isinstance(value, str) and value != "" else None`, of an entry. -/
def nonEmptyStr (entries : Payload) (key : Str) : Option Str :=
  ((Json.get? entries key).bind Json.str?).filter (· ≠ [])

def objectAt (entries : Payload) (key : Str) : Option Payload := (Json.get? entries key).bind Json.obj?

section Responses

variable [Unicode]

/-- One node of `states.nodes`; what is no object, or has no id or no name, is passed over. -/
def addState (nameToId : Dict Str Str) (node : Json) : Dict Str Str :=
  match node.obj? with
  | none => nameToId
  | some node =>
    match nonEmptyStr node (py "id"), nonEmptyStr node (py "name") with
    | some nodeId, some nodeName => nameToId.insert (lower nodeName) nodeId
    | _, _ => nameToId

/-- `_parse_states_for_issue` -/
def parseStatesForIssue (data : Payload) : Except Exn (Str × Dict Str Str) :=
  match objectAt data (py "issue") with
  | none => .error (unknownPayload (py "StatesForIssue response missing 'issue' object"))
  | some issue =>
    match objectAt issue (py "team") with
    | none => .error (unknownPayload (py "StatesForIssue response missing 'issue.team' object"))
    | some team =>
      match nonEmptyStr team (py "id") with
      | none => .error (unknownPayload (py "StatesForIssue response missing 'issue.team.id'"))
      | some teamId =>
        match objectAt team (py "states") with
        | none => .error (unknownPayload (py "StatesForIssue response missing 'issue.team.states' object"))
        | some states =>
          match Json.get? states (py "nodes") with
          | some (.arr nodes) => .ok (teamId, nodes.foldl addState ∅)
          | _ => .error (unknownPayload (py "StatesForIssue response 'states.nodes' must be a list"))

end Responses

/-! ## Transitions -/

/-- The first cached team that has a state of a lowered name, with its states. -/
def firstTeamWith (cache : Dict Str (Dict Str Str)) (target : Str) : Option (Str × Dict Str Str) :=
  cache.entries.find? fun p => (p.2.get? target).isSome

/-- The loop over `_state_id_cache.values()`. -/
def cachedId (cache : Dict Str (Dict Str Str)) (target : Str) : Option Str :=
  cache.values.findSome? fun teamStates => teamStates.get? target

variable [Builtins]

/-- `LinearStateNotFound(state_name, team_id=team_id)` -/
def stateNotFound (stateName teamId : Str) : Exn :=
  ⟨.linearStateNotFound,
    py "workflow state " ++ Builtins.repr (.str stateName) ++ py " not found on team " ++ teamId⟩

variable [Unicode]

omit [Builtins] in
/-- What is done with the lock: the id that is cached by now, or the states of the issue's team. -/
def lookupLocked (issueId target : Str) : Linear (Str ⊕ Str × Dict Str Str) := do
  let s ← get
  match cachedId s.stateIdCache target with
  | some cached => pure (.inl cached)
  | none =>
    let data ← Linear.execute .statesForIssue [(py "id", .str issueId)]
    let team ← ofExcept (parseStatesForIssue data)
    modify fun s => { s with stateIdCache := s.stateIdCache.insert team.1 team.2 }
    pure (.inr team)

/-- `_resolve_state_id` -/
def resolveStateId (issueId stateName : Str) : Linear Str := do
  let target := lower stateName
  let s ← get
  match cachedId s.stateIdCache target with
  | some cached => pure cached
  | none =>
    Linear.acquire
    match ← finallyDo (lookupLocked issueId target) Linear.release with
    | .inl cached => pure cached
    | .inr (teamId, nameToId) =>
      match nameToId.get? target with
      | some resolved => pure resolved
      | none => raise (stateNotFound stateName teamId)

def transitionState (issueId stateName : Str) : Linear Unit := do
  let stateId ← resolveStateId issueId stateName
  modify fun s => { s with sent := s.sent ++ [⟨issueId, stateName, stateId⟩] }
  let data ← Linear.execute .issueUpdateState [(py "id", .str issueId), (py "stateId", .str stateId)]
  match objectAt data (py "issueUpdate") with
  | none => raise (unknownPayload (py "issueUpdate response missing 'issueUpdate' object"))
  | some result =>
    if ((Json.get? result (py "success")).getD .null).truthy then pure ()
    else raise (unknownPayload
      (py "issueUpdate returned success=false for issue " ++ Builtins.repr (.str issueId)))

end RiverGang
