import RiverGang.Codex.Usage
import RiverGang.Errors

/-!
# Messages of the Codex app-server

`codex/protocol.py`: the requests that the client builds, the responses that it parses, and the exceptions of
`codex/errors.py` that the parsing and the framing raise.
-/

namespace RiverGang

open Py

/-! ## Failures -/

/-- `codex/errors.py` -/
inductive CodexErrorClass
  | codexNotFound
  | invalidWorkspaceCwd
  | portExit
  | responseError
  | responseTimeout
  | turnTimeout
  | turnFailed
  | turnCancelled
  deriving DecidableEq

/-- What the code under `codex/` raises, and how it is cut short. -/
inductive Failure
  | codex (cls : CodexErrorClass) (msg : Str)
  /-- `BrokenPipeError` or `ConnectionResetError` -/
  | pipe (msg : Str)
  | raised (exc : Exn)
  /-- the cancellation with which the innermost `wait_for` ends what it waits for -/
  | expired
  /-- a loop is out of fuel, which the source knows nothing of -/
  | outOfFuel
  deriving DecidableEq

def CodexErrorClass.exnClass : CodexErrorClass → ExnClass
  | .portExit => .portExit
  | .turnTimeout => .turnTimeout
  | .turnFailed => .turnFailed
  | .turnCancelled => .turnCancelled
  | _ => .codexError

namespace Failure

def responseError (msg : Str) : Failure := .codex .responseError msg

def ofBuiltin (e : BuiltinError) : Failure := .raised (.ofBuiltin e)

/-- What the caller of the client sees. -/
def toExn : Failure → Exn
  | .codex cls msg => ⟨cls.exnClass, msg⟩
  | .pipe msg => ⟨.other, msg⟩
  | .raised exc => exc
  | .expired => .cancelled
  | .outOfFuel => .cancelled

/-- `str(exc)` -/
def msg (f : Failure) : Str := f.toExn.msg

/-- `except Exception` -/
def isException (f : Failure) : Bool := f.toExn.isException

/-- `except (BrokenPipeError, ConnectionResetError)` -/
def isPipe : Failure → Bool
  | .pipe _ => true
  | _ => false

def isExpired (f : Failure) : Bool := f == .expired

/-- `except ResponseError` -/
def isResponseError : Failure → Bool
  | .codex .responseError _ => true
  | _ => false

end Failure

/-! ## Requests -/

def CLIENT_NAME : Str := py "river-gang"

def METHOD_INITIALIZE : Str := py "initialize"

def METHOD_THREAD_START : Str := py "thread/start"

def METHOD_TURN_START : Str := py "turn/start"

/-- A request: its id, its method and its params. -/
def buildRequest (id : Int) (method : Str) (params : Payload) : Payload :=
  [(py "id", .int id), (py "method", .str method), (py "params", .obj params)]

def buildInitializeRequest (id : Int) (clientVersion : Str) : Payload :=
  buildRequest id METHOD_INITIALIZE
    [(py "clientInfo", .obj [(py "name", .str CLIENT_NAME), (py "version", .str clientVersion)])]

def buildThreadStartRequest (id : Int) (cwd approvalPolicy sandboxPolicy : Str) : Payload :=
  buildRequest id METHOD_THREAD_START
    [(py "cwd", .str cwd), (py "approvalPolicy", .str approvalPolicy), (py "sandbox", .str sandboxPolicy)]

def buildTurnStartRequest (id : Int) (threadId prompt : Str) : Payload :=
  buildRequest id METHOD_TURN_START
    [(py "threadId", .str threadId), (py "input", .arr [.obj [(py "type", .str (py "text")), (py "text", .str prompt)]])]

def buildContinuationTurnRequest (id : Int) (threadId guidance : Str) : Payload :=
  buildTurnStartRequest id threadId guidance

/-! ## Responses -/

structure JsonRpcError where
  code : Int
  message : Str
  data : Option Json

structure JsonRpcResponse where
  id : Json
  result : Option Payload
  error : Option JsonRpcError

section

variable [Builtins]

/-- `JsonRpcError(code=int(err.get("code", 0)), …)` -/
def parseError (err : Payload) : Except Failure JsonRpcError := do
  let code ← (((Json.get? err (py "code")).getD (.int 0)).toInt).mapError .ofBuiltin
  pure ⟨code, ((Json.get? err (py "message")).getD (.str [])).toStr, Json.get? err (py "data")⟩

/-- `raw.get("error")`, where it is not `None`. -/
def error? (raw : Payload) : Option Json :=
  match Json.get? raw (py "error") with
  | some .null => none
  | e => e

def parseResponse (raw : Payload) (expectedId : Int) : Except Failure JsonRpcResponse :=
  match Json.get? raw (py "id") with
  | none => .error (.responseError (py "response missing 'id' field (notification?)"))
  | some responseId =>
    if !responseId.eqInt expectedId then
      .error (.responseError (py "response id mismatch: got " ++ Builtins.repr responseId ++ py ", expected " ++
        decimalInt expectedId))
    else
      match Json.get? raw (py "result"), error? raw with
      | some _, some _ => .error (.responseError (py "response carries both 'result' and 'error'"))
      | none, none => .error (.responseError (py "response carries neither 'result' nor 'error'"))
      | none, some (.obj err) => do
        let err ← parseError err
        pure ⟨responseId, none, some err⟩
      | none, some err => .error (.responseError (py "'error' must be an object, got " ++ err.typeName))
      | some (.obj result), none => .ok ⟨responseId, some result, none⟩
      | some result, none => .error (.responseError (py "'result' must be an object, got " ++ result.typeName))

end

/-- `result[kind]["id"]`, a non-empty string of an object. -/
def objectId? (kind : Str) (result : Payload) : Option Str := do
  let object ← (Json.get? result kind).bind Json.obj?
  ((Json.get? object (py "id")).bind Json.str?).filter (· ≠ [])

/-- The common part of `extract_thread_id` and `extract_turn_id`. -/
def extractId (method kind : Str) (result : Payload) : Except Failure Str :=
  match (Json.get? result kind).bind Json.obj? with
  | none => .error (.responseError (method ++ py " result missing object '" ++ kind ++ py "'"))
  | some object =>
    match (Json.get? object (py "id")).bind Json.str? with
    | some (c :: cs) => .ok (c :: cs)
    | _ => .error (.responseError (method ++ py " result missing string '" ++ kind ++ py ".id'"))

/-- An id that is extracted is the one that is there. -/
theorem extractId_ok {method kind : Str} {result : Payload} {id : Str} (h : extractId method kind result = .ok id) :
    objectId? kind result = some id := by
  unfold extractId at h
  unfold objectId?
  cases ho : (Json.get? result kind).bind Json.obj? with
  | none => simp [ho] at h
  | some object =>
    simp only [ho] at h
    split at h
    · rename_i c cs hi
      cases h
      simp [hi]
    · cases h

def extractThreadId (result : Payload) : Except Failure Str := extractId METHOD_THREAD_START (py "thread") result

def extractTurnId (result : Payload) : Except Failure Str := extractId METHOD_TURN_START (py "turn") result

/-! ## What a session and a turn come to -/

structure Session where
  threadId : Str
  firstTurnId : Str
  codexAppServerPid : Int
  startedAt : Instant
  deriving DecidableEq

def Session.sessionId (s : Session) : Str := composeSessionId s.threadId s.firstTurnId

structure TurnResult where
  turnId : Str
  completionEvent : Str
  payload : Payload

end RiverGang
