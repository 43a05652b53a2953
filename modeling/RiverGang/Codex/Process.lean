import RiverGang.Codex.Protocol

/-!
# The subprocess as the client sees it

`codex/process.py`, below the client: frames are read from the subprocess's stdout and written to its stdin. `Client` is
the state of the client, with a log of what went over the wire and of the events that it handed on, oldest first. A task
of the client (`Codex`) suspends where it waits for a line, for stdin to drain, for a tool, or for a registered handler.
-/

namespace RiverGang

open Py Coop Task

/-! ## Waiting -/

/-- What reading the next line of stdout that is not blank comes to. -/
inductive LineRead
  | value (v : Json)
  /-- `JSONDecodeError` -/
  | malformed (msg : Str) (length : Nat)
  /-- another exception of `json.loads`, which nobody tells apart -/
  | undecodable (msg : Str)
  | overlong (detail : Str)
  | eof (returncode : Int)

/-- `tools/linear_graphql.py` -/
structure ToolResult where
  success : Bool
  data : Option Payload
  errors : Option (List Json)
  errorMessage : Option Str

/-- What a client waits for. -/
inductive CodexReq
  | receive
  | drain
  | execute (arguments : Json) (timeoutMs : Option Int)
  | handle (method : Str) (params : Payload)
  /-- the end of what a `wait_for` without time has cancelled -/
  | settle

@[reducible] def CodexSig : Sig where
  Req := CodexReq
  Ans
    | .receive => Except Failure LineRead
    | .drain => Except Failure Unit
    -- `none`: its own deadline was the first
    | .execute .. => Except Failure (Option ToolResult)
    | .handle .. => Except Failure Payload
    | .settle => Except Failure Unit

/-! ## State -/

/-- What went over the wire, and what was handed to `on_event`. -/
inductive WireEntry
  | read (line : LineRead)
  | wrote (frame : Payload)
  | event (e : RuntimeEvent)

structure Client where
  nextId : Int
  readTimeoutMs : Option Int
  turnTimeoutMs : Option Int
  now : Instant
  /-- `stdin` is there and not closing -/
  stdinOpen : Bool
  log : List WireEntry

abbrev Codex := Task CodexSig Failure Client

namespace Client

/-- The state after `__init__`. -/
def new (now : Instant) : Client := ⟨1, none, none, now, true, []⟩

def record (s : Client) (e : WireEntry) : Client := { s with log := s.log ++ [e] }

@[simp] theorem record_log (s : Client) (e : WireEntry) : (s.record e).log = s.log ++ [e] := rfl

@[simp] theorem record_nextId (s : Client) (e : WireEntry) : (s.record e).nextId = s.nextId := rfl

@[simp] theorem record_stdinOpen (s : Client) (e : WireEntry) : (s.record e).stdinOpen = s.stdinOpen := rfl

@[simp] theorem record_turnTimeoutMs (s : Client) (e : WireEntry) : (s.record e).turnTimeoutMs = s.turnTimeoutMs := rfl

/-- What others may do while the client waits: time passes, and stdin may be closed. -/
structure Rely (s s' : Client) : Prop where
  nextId : s'.nextId = s.nextId
  readTimeoutMs : s'.readTimeoutMs = s.readTimeoutMs
  turnTimeoutMs : s'.turnTimeoutMs = s.turnTimeoutMs
  now : s.now ≤ s'.now
  stdinOpen : s'.stdinOpen = true → s.stdinOpen = true
  log : s'.log = s.log

theorem Rely.refl (s : Client) : Rely s s := ⟨rfl, rfl, rfl, Int.le_refl _, id, rfl⟩

end Client

/-- How a client is made. -/
structure ClientParams where
  codexAppServerPid : Int
  /-- the policy of its `ApprovalHandler` -/
  approvalPolicy : Str
  hasLinearGraphqlTool : Bool
  /-- the methods registered besides those of `__init__`, or over them -/
  registered : List Str
  /-- `_resolve_client_version()` -/
  clientVersion : Str
  maxFrameBytes : Int

/-! ## Frames -/

/-- What `read_frame` makes of a line. -/
def frameOf (p : ClientParams) : LineRead → Except Failure Payload
  | .value (.obj frame) => .ok frame
  | .value v => .error (.responseError (py "frame must be a JSON object, got " ++ v.typeName))
  | .malformed msg length =>
    .error (.responseError (py "frame is not valid JSON: " ++ msg ++ py " (line len=" ++ decimal length ++ py ")"))
  | .undecodable msg => .error (.raised ⟨.other, msg⟩)
  | .overlong detail =>
    .error (.responseError (py "frame exceeds max line size (" ++ decimalInt p.maxFrameBytes ++ py " bytes): " ++ detail))
  | .eof returncode =>
    if returncode = 127 then .error (.codex .codexNotFound (py "codex.command not found (bash exit 127)"))
    else .error (.codex .portExit (py "subprocess exited mid-frame with code " ++ decimalInt returncode))

def readFrame (p : ClientParams) : Codex Payload := do
  let line ← ofExcept (← Task.request (S := CodexSig) .receive)
  modify (·.record (.read line))
  ofExcept (frameOf p line)

/-- `BrokenPipeError` and `ConnectionResetError` of `drain` are a `PortExit`. -/
def drained : Except Failure Unit → Codex Unit
  | .error (.pipe msg) => raise (.codex .portExit (py "subprocess stdin pipe broken: " ++ msg))
  | .error f => raise f
  | .ok () => pure ()

def writeFrame (frame : Payload) : Codex Unit := do
  let s ← get
  if s.stdinOpen then
    modify (·.record (.wrote frame))
    drained (← Task.request (S := CodexSig) .drain)
  else raise (.codex .portExit (py "subprocess stdin is unavailable"))

/-- `asyncio.wait_for(body, timeout=timeout_ms / 1000.0)`, with `onTimeout` for its `TimeoutError`. -/
def waitFor {α : Type} (timeoutMs : Int) (onTimeout : Failure) (body : Codex α) : Codex α :=
  if ¬FloatFits timeoutMs then raise (.raised ⟨.overflowError, py "int too large to convert to float"⟩)
  -- without time left the body is cancelled before its first step
  else if timeoutMs ≤ 0 then do
    ofExcept (← Task.request (S := CodexSig) .settle)
    raise onTimeout
  else tryExcept Failure.isExpired body fun _ => raise onTimeout

end RiverGang
