import RiverGang.Codex.Process

/-!
# The client of the Codex app-server

`codex/client.py`, with the approvals of `codex/policy.py`: the dispatch of server requests, the wait for a response, the
handshake of `start_session` and the loop of `stream_turn`. The `while True` loops take fuel, and `Failure.outOfFuel`
means that it ran out.
-/

namespace RiverGang

open Py Coop Task

variable [Builtins]

/-! ## Approvals -/

def APPROVAL_POLICY_NEVER : Str := py "never"

def METHOD_APPLY_PATCH_APPROVAL : Str := py "applyPatchApproval"

def METHOD_EXEC_COMMAND_APPROVAL : Str := py "execCommandApproval"

def METHOD_ITEM_COMMAND_EXECUTION_REQUEST_APPROVAL : Str := py "item/commandExecution/requestApproval"

def METHOD_ITEM_FILE_CHANGE_REQUEST_APPROVAL : Str := py "item/fileChange/requestApproval"

def METHOD_ITEM_PERMISSIONS_REQUEST_APPROVAL : Str := py "item/permissions/requestApproval"

def APPROVAL_METHODS : List Str :=
  [METHOD_APPLY_PATCH_APPROVAL, METHOD_EXEC_COMMAND_APPROVAL, METHOD_ITEM_COMMAND_EXECUTION_REQUEST_APPROVAL,
    METHOD_ITEM_FILE_CHANGE_REQUEST_APPROVAL, METHOD_ITEM_PERMISSIONS_REQUEST_APPROVAL]

def approves (approvalPolicy : Str) : Bool := approvalPolicy == APPROVAL_POLICY_NEVER

/-- `ApprovalHandler.build_result` -/
def buildResult (approvalPolicy method : Str) : Except Failure Payload :=
  if method = METHOD_APPLY_PATCH_APPROVAL ∨ method = METHOD_EXEC_COMMAND_APPROVAL then
    .ok [(py "decision", .str (py (if approves approvalPolicy then "approved" else "denied")))]
  else if method = METHOD_ITEM_COMMAND_EXECUTION_REQUEST_APPROVAL ∨
      method = METHOD_ITEM_FILE_CHANGE_REQUEST_APPROVAL then
    .ok [(py "decision", .str (py (if approves approvalPolicy then "accept" else "decline")))]
  else if method = METHOD_ITEM_PERMISSIONS_REQUEST_APPROVAL then .ok [(py "permissions", .obj [])]
  else .error (.ofBuiltin (.valueError (py "unknown approval method: " ++ Builtins.repr (.str method))))

/-! ## Handlers of server requests -/

def METHOD_ITEM_TOOL_CALL : Str := py "item/tool/call"

def METHOD_ITEM_TOOL_REQUEST_USER_INPUT : Str := py "item/tool/requestUserInput"

def METHOD_MCP_SERVER_ELICITATION_REQUEST : Str := py "mcpServer/elicitation/request"

def LINEAR_GRAPHQL_TOOL_NAME : Str := py "linear_graphql"

/-- `_serialise_tool_result_text` -/
def serialiseToolResultText (r : ToolResult) : Str :=
  if r.success then Builtins.dumps (.obj [(py "data", r.data.elim .null .obj)])
  else
    Builtins.dumps <| .obj <|
      (r.errorMessage.map fun m => (py "error", Json.str m)).toList ++
        (r.errors.map fun l => (py "errors", Json.arr l)).toList ++
        (r.data.map fun d => (py "data", Json.obj d)).toList

def toolResponse (success : Bool) (text : Str) : Payload :=
  [(py "success", .bool success),
    (py "contentItems", .arr [.obj [(py "type", .str (py "inputText")), (py "text", .str text)]])]

/-- The arguments of a tool call: a string that is JSON is decoded. -/
def decodeArguments (arguments : Json) : Except Failure Json :=
  match arguments with
  | .str text =>
    match Builtins.loads text with
    | .value v => .ok v
    | .malformed => .ok (.str text)
    | .failed msg => .error (.raised ⟨.other, msg⟩)
  | v => .ok v

/-- `self._read_timeout_ms or self._turn_timeout_ms` -/
def Client.toolTimeoutMs (s : Client) : Option Int := (s.readTimeoutMs.filter (· ≠ 0)).or s.turnTimeoutMs

/-- The call of the tool under its deadline; `none` means that the deadline came first. -/
def executeTool (arguments : Json) (timeoutMs : Option Int) : Codex (Option ToolResult) :=
  if timeoutMs.all fun ms => decide (FloatFits ms) then do
    ofExcept (← Task.request (S := CodexSig) (.execute arguments timeoutMs))
  else raise (.raised ⟨.overflowError, py "int too large to convert to float"⟩)

def handleItemToolCall (p : ClientParams) (params : Payload) : Codex Payload := do
  let toolName := (Json.get? params (py "tool")).getD .null
  let arguments ← ofExcept (decodeArguments ((Json.get? params (py "arguments")).getD .null))
  if toolName.str? ≠ some LINEAR_GRAPHQL_TOOL_NAME ∨ !p.hasLinearGraphqlTool then
    pure (toolResponse false (py "unsupported_tool: " ++ Builtins.repr toolName))
  else
    let s ← get
    tryExcept Failure.isException
      (executeTool arguments s.toolTimeoutMs >>= fun
        | some r => pure (toolResponse r.success (serialiseToolResultText r))
        | none => pure (toolResponse false (py "tool_timeout")))
      fun exc => pure (toolResponse false (py "tool_error: " ++ exc.msg))

/-- The log line needs `len(params.get("questions") or [])`. -/
def handleItemToolRequestUserInput (params : Payload) : Except Failure Payload :=
  match ((Json.get? params (py "questions")).filter Json.truthy).getD (.arr []) with
  | .str _ => .ok [(py "answers", .obj [])]
  | .arr _ => .ok [(py "answers", .obj [])]
  | .obj _ => .ok [(py "answers", .obj [])]
  | v => .error (.ofBuiltin (.typeError (py "object of type '" ++ v.typeName ++ py "' has no len()")))

def handleMcpServerElicitationRequest : Payload := [(py "action", .str (py "decline"))]

/-- `self._server_request_handlers.get(method)` -/
def serverRequestHandler (p : ClientParams) (method : Str) : Option (Payload → Codex Payload) :=
  if method ∈ p.registered then
    some fun params => do ofExcept (← Task.request (S := CodexSig) (.handle method params))
  else if method = METHOD_ITEM_TOOL_CALL then some (handleItemToolCall p)
  else if method ∈ APPROVAL_METHODS then some fun _ => ofExcept (buildResult p.approvalPolicy method)
  else if method = METHOD_ITEM_TOOL_REQUEST_USER_INPUT then some fun params =>
    ofExcept (handleItemToolRequestUserInput params)
  else if method = METHOD_MCP_SERVER_ELICITATION_REQUEST then some fun _ => pure handleMcpServerElicitationRequest
  else none

/-! ## Dispatch -/

def JSONRPC_INVALID_PARAMS : Int := -32602

def JSONRPC_METHOD_NOT_FOUND : Int := -32601

def JSONRPC_INTERNAL_ERROR : Int := -32603

def resultReply (requestId : Json) (result : Payload) : Payload := [(py "id", requestId), (py "result", .obj result)]

def errorReply (requestId : Json) (code : Int) (message : Str) : Payload :=
  [(py "id", requestId), (py "error", .obj [(py "code", .int code), (py "message", .str message)])]

/-- `with contextlib.suppress(BrokenPipeError, ConnectionResetError): …` around a write. -/
def writeReply (frame : Payload) : Codex Unit := tryExcept Failure.isPipe (writeFrame frame) fun _ => pure ()

/-- The id of a request that can be replied to. -/
def requestId? (raw : Payload) : Option Json :=
  (Json.get? raw (py "id")).filter fun id => id.int?.isSome || id.str?.isSome

/-- The params of a request: nothing counts as no params, and anything but an object is an error. -/
def requestParams (raw : Payload) : Except Json Payload :=
  match Json.get? raw (py "params") with
  | none => .ok []
  | some .null => .ok []
  | some (.obj params) => .ok params
  | some v => .error v

/-- Run the handler of a request, and reply with what it comes to. -/
def answerRequest (requestId : Json) (handling : Codex Payload) : Codex Unit := do
  let result ← tryExcept Failure.isException (handling >>= fun result => pure (some result)) fun exc =>
    writeReply (errorReply requestId JSONRPC_INTERNAL_ERROR (py "handler error: " ++ exc.msg)) >>= fun _ => pure none
  match result with
  | none => pure ()
  | some result => writeReply (resultReply requestId result)

def dispatchServerRequest (p : ClientParams) (raw : Payload) (method : Str) : Codex Unit :=
  match requestId? raw with
  | none => pure ()
  | some requestId =>
    match requestParams raw with
    | .error v =>
      writeReply (errorReply requestId JSONRPC_INVALID_PARAMS
        (py "invalid params: expected object, got " ++ v.typeName))
    | .ok params =>
      match serverRequestHandler p method with
      | none => writeReply (errorReply requestId JSONRPC_METHOD_NOT_FOUND (py "method not found: " ++ method))
      | some handler => answerRequest requestId (handler params)

/-! ## Waiting for a response -/

/-- The three shapes of a frame. -/
inductive FrameShape
  | request (method : Str)
  | notification (method : Str)
  | other
  deriving DecidableEq

/-- The method of a frame, where it is a non-empty string. -/
def method? (raw : Payload) : Option Str := ((Json.get? raw (py "method")).bind Json.str?).filter (· ≠ [])

def frameShape (raw : Payload) : FrameShape :=
  match method? raw with
  | none => .other
  | some method => if (Json.get? raw (py "id")).isSome then .request method else .notification method

/-- The payload of a notification: its params, wrapped where they are no object. -/
def notificationPayload (raw : Payload) : Payload :=
  match (Json.get? raw (py "params")).filter Json.truthy with
  | none => []
  | some (.obj params) => params
  | some params => [(py "_raw_params", params)]

/-- `on_event` of a notification. -/
def emit (p : ClientParams) (event : Str) (payload : Payload) (usage : Option Payload) : Codex Unit :=
  modify fun s => s.record (.event ⟨event, s.now, p.codexAppServerPid, payload, usage⟩)

/-- A round of `_await_response`. -/
def awaitRound (p : ClientParams) (expectedId : Int) (onEvent : Bool) : Codex (Option JsonRpcResponse) := do
  let raw ← readFrame p
  match frameShape raw with
  | .request method =>
    dispatchServerRequest p raw method
    pure none
  | .notification method =>
    if onEvent then
      emit p method (notificationPayload raw) none
      pure none
    else pure none
  | .other =>
    let response ← ofExcept (parseResponse raw expectedId)
    pure (some response)

def awaitResponse (p : ClientParams) (fuel : Nat) (expectedId : Int) (onEvent : Bool) : Codex JsonRpcResponse :=
  loop .outOfFuel (awaitRound p expectedId onEvent) fuel

/-! ## The handshake -/

def allocateId : Codex Int := do
  let s ← get
  modify fun s => { s with nextId := s.nextId + 1 }
  pure s.nextId

/-- `code=… message=…` of a JSON-RPC error. -/
def JsonRpcError.show (e : JsonRpcError) : Str :=
  py "JSON-RPC error code=" ++ decimalInt e.code ++ py " message=" ++ Builtins.repr (.str e.message)

def roundTrip (p : ClientParams) (fuel : Nat) (request : Payload) (id : Int) (readTimeoutMs : Int) (step : Str) :
    Codex JsonRpcResponse := do
  writeFrame request
  let response ← tryExcept Failure.isResponseError
    (waitFor readTimeoutMs
      (.codex .responseTimeout
        (py "codex " ++ step ++ py " did not respond within " ++ decimalInt readTimeoutMs ++ py "ms"))
      (awaitResponse p fuel id false))
    fun exc => raise (.responseError (py "codex " ++ step ++ py ": " ++ exc.msg))
  match response.error with
  | some e => raise (.responseError (py "codex " ++ step ++ py ": " ++ e.show))
  | none => pure response

/-- The result of a response, for a step that needs one. -/
def resultOf (step : Str) (response : JsonRpcResponse) : Except Failure Payload :=
  match response.result with
  | none => .error (.responseError (py "codex " ++ step ++ py " response carried no result body"))
  | some result => .ok result

def INITIALIZED : Payload := [(py "method", .str (py "initialized"))]

structure SessionArgs where
  workspace : Str
  prompt : Str
  approvalPolicy : Str
  sandboxPolicy : Str
  readTimeoutMs : Int
  deriving DecidableEq

/-- The second and third step of the handshake. -/
def startThread (p : ClientParams) (fuel : Nat) (a : SessionArgs) : Codex Str := do
  let id ← allocateId
  let response ← roundTrip p fuel (buildThreadStartRequest id a.workspace a.approvalPolicy a.sandboxPolicy) id
    a.readTimeoutMs (py "thread.start")
  let result ← ofExcept (resultOf (py "thread.start") response)
  ofExcept (extractThreadId result)

def startTurn (p : ClientParams) (fuel : Nat) (a : SessionArgs) (threadId : Str) : Codex Str := do
  let id ← allocateId
  let response ← roundTrip p fuel (buildTurnStartRequest id threadId a.prompt) id a.readTimeoutMs (py "turn.start")
  let result ← ofExcept (resultOf (py "turn.start") response)
  ofExcept (extractTurnId result)

def startSession (p : ClientParams) (fuel : Nat) (a : SessionArgs) : Codex Session := do
  modify fun s => { s with readTimeoutMs := some a.readTimeoutMs }
  let id ← allocateId
  let _ ← roundTrip p fuel (buildInitializeRequest id p.clientVersion) id a.readTimeoutMs (py "initialize")
  writeFrame INITIALIZED
  let threadId ← startThread p fuel a
  let firstTurnId ← startTurn p fuel a threadId
  let s ← get
  pure ⟨threadId, firstTurnId, p.codexAppServerPid, s.now⟩

/-! ## Streaming -/

def METHOD_TURN_COMPLETED : Str := py "turn/completed"

def EVENT_ERROR : Str := py "error"

def TurnResult.succeeded (turnId : Str) (payload : Payload) : TurnResult := ⟨turnId, METHOD_TURN_COMPLETED, payload⟩

/-- `(error_obj.get("message") if isinstance(error_obj, dict) else None) or default`, as text -/
def errorMessage (errorObj : Option Json) (default : Str) : Str :=
  (((errorObj.bind Json.obj?).bind fun e => Json.get? e (py "message")).filter Json.truthy).elim default Json.toStr

/-- The values of `params.turn.status` that the client knows. -/
inductive TurnStatus
  | completed
  | failed
  | interrupted
  | inProgress
  deriving DecidableEq

/-- The status of a turn object. -/
def turnStatus? (turn : Payload) : Option TurnStatus :=
  match (Json.get? turn (py "status")).bind Json.str? with
  | none => none
  | some status =>
    if status = py "completed" then some .completed
    else if status = py "failed" then some .failed
    else if status = py "interrupted" then some .interrupted
    else if status = py "inProgress" then some .inProgress
    else none

/-- What a turn object of a known status makes of the turn; the text stands for a missing error message. -/
def turnVerdict (turnId : Str) (payload turn : Payload) (default : Str) : TurnStatus → Except Failure (Option TurnResult)
  | .completed => .ok (some (.succeeded turnId payload))
  | .failed =>
    .error (.codex .turnFailed
      (py "turn " ++ turnId ++ py " failed: " ++ errorMessage (Json.get? turn (py "error")) default))
  | .interrupted => .error (.codex .turnCancelled (py "turn " ++ turnId ++ py " interrupted"))
  | .inProgress => .ok none

/-- What the status in the ack makes of the turn: an unknown one lets it go on. -/
def ackVerdict (turnId : Str) (result : Payload) : Except Failure (Option TurnResult) :=
  match (Json.get? result (py "turn")).bind Json.obj? with
  | none => .ok none
  | some turn =>
    match turnStatus? turn with
    | none => .ok none
    | some status => turnVerdict turnId result turn (py "turn failed at ack") status

/-- What a `turn/completed` notification makes of the turn. -/
def completionVerdict (turnId : Str) (payload : Payload) : Except Failure (Option TurnResult) :=
  match (Json.get? payload (py "turn")).bind Json.obj? with
  | none => .error (.codex .turnFailed (py "turn " ++ turnId ++ py " turn/completed missing 'turn' object"))
  | some turn =>
    match turnStatus? turn with
    | none =>
      .error (.codex .turnFailed (py "turn " ++ turnId ++ py " turn/completed has unknown status " ++
        Builtins.repr ((Json.get? turn (py "status")).getD .null)))
    | some status => turnVerdict turnId payload turn (py "turn failed") status

/-- What an `error` notification makes of the turn. -/
def errorVerdict (turnId : Str) (payload : Payload) : Except Failure (Option TurnResult) :=
  match Json.get? payload (py "willRetry") with
  | some (.bool true) => .ok none
  | _ =>
    .error (.codex .turnFailed (py "turn " ++ turnId ++ py " session error: " ++
      errorMessage (Json.get? payload (py "error")) (py "session error")))

/-- What a notification makes of the turn. -/
def notificationVerdict (turnId event : Str) (payload : Payload) : Except Failure (Option TurnResult) :=
  if event = METHOD_TURN_COMPLETED then completionVerdict turnId payload
  else if event = EVENT_ERROR then errorVerdict turnId payload
  else .ok none

/-- A round of the streaming loop of `_run_turn`. -/
def streamRound (p : ClientParams) (turnId : Str) : Codex (Option TurnResult) := do
  let raw ← readFrame p
  match frameShape raw with
  | .request method =>
    dispatchServerRequest p raw method
    pure none
  | .notification method =>
    let payload := notificationPayload raw
    emit p method payload ((extractCumulativeTokens method payload).map TokenSnapshot.asdict)
    ofExcept (notificationVerdict turnId method payload)
  -- a stray response
  | .other => pure none

/-- The result of the ack. -/
def ackResult (requestId : Int) (ack : JsonRpcResponse) : Except Failure Payload :=
  match ack.error with
  | some e => .error (.codex .turnFailed (py "turn.start ack returned " ++ e.show))
  | none =>
    match ack.result with
    | none =>
      .error (.codex .turnFailed
        (py "turn.start ack carried neither result nor error for request id=" ++ decimalInt requestId))
    | some result => .ok result

/-- What follows the ack. -/
def followTurn (p : ClientParams) (fuel : Nat) (turnId : Str) : Option TurnResult → Codex TurnResult
  | some r => pure r
  | none => loop .outOfFuel (streamRound p turnId) fuel

def runTurn (p : ClientParams) (fuel : Nat) (session : Session) (prompt : Str) (isFirstTurn : Bool) :
    Codex TurnResult := do
  let requestId ← allocateId
  writeFrame <|
    if isFirstTurn then buildTurnStartRequest requestId session.threadId prompt
    else buildContinuationTurnRequest requestId session.threadId prompt
  let ack ← awaitResponse p fuel requestId true
  let result ← ofExcept (ackResult requestId ack)
  let turnId ← ofExcept (extractTurnId result)
  let verdict ← ofExcept (ackVerdict turnId result)
  followTurn p fuel turnId verdict

def CodexClient.streamTurn (p : ClientParams) (fuel : Nat) (session : Session) (prompt : Str) (turnTimeoutMs : Int)
    (isFirstTurn : Bool) : Codex TurnResult := do
  modify fun s => { s with turnTimeoutMs := some turnTimeoutMs }
  waitFor turnTimeoutMs
    (.codex .turnTimeout (py "turn for session " ++ session.sessionId ++ py " did not complete within " ++
      decimalInt turnTimeoutMs ++ py "ms"))
    (runTurn p fuel session prompt isFirstTurn)

end RiverGang
