import RiverGang.Orchestrator.System
import RiverGang.Codex.Protocol

/-!
# One worker attempt

`orchestrator/worker.py`, with `stop_session` of `codex/client.py`. An attempt is a task of its own: it suspends on the
calls to the workspace manager, the client factory, the hooks, the client and the tracker, and any of them may return,
raise or be cancelled.

`Attempt` is what the attempt itself changes: the clock moves, the client may be stopped, and `log` holds what the
attempt did, oldest first — the messages it posted and the calls that came to an end, with their outcomes.
-/

namespace RiverGang

open Py Coop Task

/-! ## Calls -/

/-- What a turn comes to: the events that it handed to `on_event`, and how it ended. -/
structure TurnOutcome where
  events : List RuntimeEvent
  result : Except Exn TurnResult

/-- Which hook is run. -/
inductive Hook
  | beforeRun
  | afterRun
  deriving DecidableEq

/-- Which transition of the ticket is made. -/
inductive Transition
  | start
  | success
  deriving DecidableEq

/-- The calls of an attempt that suspend; those of one kind that are made in two places say which. -/
inductive AttemptReq
  | ensureForIssue (identifier : Str)
  | codexClientFactory (workspacePath : Str) (config : EffectiveConfig)
  | runHook (hook : Hook) (script cwd : Str) (timeoutMs : Int)
  | startSession (workspace prompt : Str) (issue : Issue) (approvalPolicy sandboxPolicy : Str) (readTimeoutMs : Int)
      (trackerKind : Option Str)
  | transitionState (transition : Transition) (issueId stateName : Str)
  | streamTurn (session : Session) (prompt : Str) (turnTimeoutMs : Int) (isFirstTurn : Bool)
  | stopSession (session : Session)
  | waitForExit (timeoutMs : Int)
  | aclose
  | addComment (issueId body : Str)

@[reducible] def AttemptSig : Sig where
  Req := AttemptReq
  Ans
    | .ensureForIssue _ => Except Exn EnsureResult
    -- whether it brings a client
    | .codexClientFactory .. => Except Exn (Option Unit)
    | .runHook .. => Except Exn HookResult
    | .startSession .. => Except Exn Session
    | .transitionState .. => Except Exn Unit
    | .streamTurn .. => TurnOutcome
    | .stopSession _ => Except Exn Unit
    | .waitForExit _ => Except Exn Bool
    | .aclose => Except Exn Unit
    | .addComment .. => Except Exn Unit

/-- The exception that a call came to. -/
def raised : (r : AttemptReq) → AttemptSig.Ans r → Option Exn
  | .ensureForIssue _, .error e => some e
  | .codexClientFactory .., .error e => some e
  | .runHook .., .error e => some e
  | .startSession .., .error e => some e
  | .transitionState .., .error e => some e
  | .streamTurn .., ⟨_, .error e⟩ => some e
  | .stopSession _, .error e => some e
  | .waitForExit _, .error e => some e
  | .aclose, .error e => some e
  | .addComment .., .error e => some e
  | _, _ => none

/-- What an attempt did. -/
inductive Entry
  | posted (message : Message)
  | called (r : AttemptReq) (x : AttemptSig.Ans r)

/-- The message that an entry posted. -/
def Entry.post? : Entry → Option Message
  | .posted m => some m
  | _ => none

structure Attempt where
  now : Instant
  /-- `CodexClient._stopped` -/
  stopped : Bool
  log : List Entry

abbrev Worker := Task AttemptSig Exn Attempt

namespace Attempt

def record (s : Attempt) (e : Entry) : Attempt := { s with log := s.log ++ [e] }

def postAll (s : Attempt) (messages : List Message) : Attempt := { s with log := s.log ++ messages.map .posted }

/-- The messages that an attempt posted. -/
def posts (s : Attempt) : List Message := s.log.filterMap Entry.post?

end Attempt

def call (r : AttemptReq) : Worker (AttemptSig.Ans r) := do
  let x ← Task.request (S := AttemptSig) r
  modify (·.record (.called r x))
  pure x

/-- `mailbox.send`, which does not suspend. -/
def send (message : Message) : Worker Unit := modify (·.record (.posted message))

/-! ## What an attempt is given -/

structure AttemptParams where
  issue : Issue
  attempt : Nat
  /-- the number of its task -/
  task : Nat
  promptTemplate : Str
  config : EffectiveConfig
  hasCodexClient : Bool
  hasCodexClientFactory : Bool
  /-- `render_prompt` -/
  renderPrompt : Str → Issue → Nat → Except Exn Str
  /-- `stop_session` of the client -/
  stopSession : Session → Worker Unit

/-- `stop_session` of some client. -/
def anyStopSession (session : Session) : Worker Unit := do
  match ← call (.stopSession session) with
  | .error exc => raise exc
  | .ok () => pure ()

/-- A call whose exceptions are dropped, or only logged. -/
def suppress (r : AttemptReq) : Worker Unit := do
  let x ← call r
  match raised r x with
  | some exc => onException exc (pure ())
  | none => pure ()

/-- `CodexClient.stop_session`, with its default timeout. -/
def CodexClient.stopSession (_ : Session) : Worker Unit := do
  let s ← get
  if s.stopped then
    pure ()
  else
    modify fun s => { s with stopped := true }
    suppress (.waitForExit 5000)
    suppress .aclose

/-! ## The helpers -/

/-- A script that is there and not empty. -/
def script? (script : Option Str) : Option Str := script.filter (· ≠ [])

def summarizeHookFailure (name : Str) (result : HookResult) : Str :=
  if result.timedOut then py "hook '" ++ name ++ py "' timed out after " ++ decimalInt result.durationMs ++ py "ms"
  else if result.isSkipped then py "hook '" ++ name ++ py "' skipped"
  else py "hook '" ++ name ++ py "' exited with code " ++ result.exitCode.elim (py "None") decimalInt

def formatFailureBody (reason : Str) (lastError : Option Str) : Str :=
  match lastError with
  | some (c :: cs) => py "river-gang attempt failed: reason=" ++ reason ++ py "\n\n" ++ c :: cs
  | _ => py "river-gang attempt failed: reason=" ++ reason

/-- What a hook came to plays no part: a failure is only logged. -/
def runAfterRunBestEffort (p : AttemptParams) (workspacePath : Str) : Worker Unit :=
  match script? p.config.hooks.afterRun with
  | none => pure ()
  | some script => suppress (.runHook .afterRun script workspacePath p.config.hooks.timeoutMs)

def safeAddComment (p : AttemptParams) (body : Str) : Worker Unit := suppress (.addComment p.issue.id body)

def safeTransition (p : AttemptParams) (transition : Transition) (stateName : Option Str) : Worker Unit :=
  match stateName with
  | none => pure ()
  | some stateName => suppress (.transitionState transition p.issue.id stateName)

/-- The exit that an attempt reports. -/
def attemptExit (p : AttemptParams) (reason : Str) (ok : Bool) (startedAt now : Instant) (lastError : Option Str) :
    WorkerExit :=
  ⟨p.issue.id, reason, ok, now - startedAt, lastError, p.task⟩

def finalizeAttempt (p : AttemptParams) (reason : Str) (ok : Bool) (startedAt : Instant) (lastError : Option Str) :
    Worker Unit := do
  if !ok then safeAddComment p (formatFailureBody reason lastError)
  safeTransition p .success p.config.tracker.successState
  let s ← get
  send (.workerExit (attemptExit p reason ok startedAt s.now lastError))

/-- `stream_turn` with `_on_event`, which posts each event at once. -/
def streamTurn (p : AttemptParams) (session : Session) (renderedPrompt : Str) : Worker TurnOutcome := do
  let outcome ← Task.request (S := AttemptSig)
    (.streamTurn session renderedPrompt p.config.codex.turnTimeoutMs true)
  modify (·.postAll (outcome.events.map fun event => .codexUpdate ⟨p.issue.id, event⟩))
  modify (·.record (.called (.streamTurn session renderedPrompt p.config.codex.turnTimeoutMs true) outcome))
  pure outcome

def runSingleTurn (p : AttemptParams) (session : Session) (renderedPrompt : Str) : Worker (Str × Bool × Option Str) := do
  let outcome ← streamTurn p session renderedPrompt
  match outcome.result with
  | .ok _ => pure (py "normal", true, none)
  | .error exc =>
    match exc.cls with
    | .turnFailed => pure (py "turn_failed", false, some exc.msg)
    | .turnCancelled => pure (py "turn_cancelled", false, some exc.msg)
    | .turnTimeout => pure (py "turn_timeout", false, some exc.msg)
    | .portExit => pure (py "port_exit", false, some exc.msg)
    | _ => raise exc

/-! ## The attempt -/

/-- The steps 4.5 to 6, with the session open. -/
def runSession (p : AttemptParams) (startedAt : Instant) (workspacePath renderedPrompt : Str) (session : Session) :
    Worker Unit := do
  safeTransition p .start p.config.tracker.startState
  let (reason, ok, lastError) ← finallyDo (runSingleTurn p session renderedPrompt) do
    tryExcept Exn.isException (p.stopSession session) fun _ => pure ()
    runAfterRunBestEffort p workspacePath
  finalizeAttempt p reason ok startedAt lastError

/-- Step 4, and what follows it. -/
def openSession (p : AttemptParams) (startedAt : Instant) (workspacePath renderedPrompt : Str) : Worker Unit := do
  match ← call (.startSession workspacePath renderedPrompt p.issue
      ((p.config.codex.approvalPolicy.filter (· ≠ [])).getD (py "never"))
      ((p.config.codex.turnSandboxPolicy.filter (· ≠ [])).getD (py "workspace-write")) p.config.codex.readTimeoutMs
      p.config.tracker.kind) with
  | .error exc =>
    if exc.isCodexError then
      runAfterRunBestEffort p workspacePath
      finalizeAttempt p (py "session_failed") false startedAt (some exc.msg)
    else raise exc
  | .ok session => runSession p startedAt workspacePath renderedPrompt session

/-- Step 3, and what follows it. -/
def prepareRun (p : AttemptParams) (startedAt : Instant) (workspacePath renderedPrompt : Str) : Worker Unit :=
  match script? p.config.hooks.beforeRun with
  | none => openSession p startedAt workspacePath renderedPrompt
  | some script => do
    match ← call (.runHook .beforeRun script workspacePath p.config.hooks.timeoutMs) with
    | .error exc => raise exc
    | .ok result =>
      if result.ok then openSession p startedAt workspacePath renderedPrompt
      else
        finalizeAttempt p (py "before_run_failed") false startedAt
          (some (summarizeHookFailure (py "before_run") result))

/-- Step 2.5, and what follows it: a client of the factory goes before the given one. -/
def obtainClient (p : AttemptParams) (startedAt : Instant) (workspacePath renderedPrompt : Str) : Worker Unit := do
  let noClient :=
    finalizeAttempt p (py "session_failed") false startedAt
      (some (py "no codex client available (no client and no factory)"))
  if p.hasCodexClientFactory then
    match ← call (.codexClientFactory workspacePath p.config) with
    | .error exc =>
      onException exc <|
        finalizeAttempt p (py "session_failed") false startedAt (some (py "codex_client_factory raised: " ++ exc.msg))
    | .ok none => noClient
    | .ok (some ()) =>
      modify fun s => { s with stopped := false }
      prepareRun p startedAt workspacePath renderedPrompt
  else if p.hasCodexClient then prepareRun p startedAt workspacePath renderedPrompt
  else noClient

/-- The body of the outer `try`. -/
def attemptSteps (p : AttemptParams) (startedAt : Instant) : Worker Unit := do
  match p.renderPrompt p.promptTemplate p.issue p.attempt with
  | .error exc =>
    if exc.cls = .promptError then finalizeAttempt p (py "prompt_failed") false startedAt (some exc.msg)
    else raise exc
  | .ok renderedPrompt =>
    match ← call (.ensureForIssue p.issue.identifier) with
    -- `except WorkspaceManagerError` and `except Exception` do the same
    | .error exc => onException exc (finalizeAttempt p (py "workspace_failed") false startedAt (some exc.msg))
    | .ok ensureResult => obtainClient p startedAt ensureResult.path renderedPrompt

def runAgentAttempt (p : AttemptParams) : Worker Unit := do
  if !p.hasCodexClient && !p.hasCodexClientFactory then
    raise ⟨.valueError, py "run_agent_attempt: one of codex_client or codex_client_factory must be provided"⟩
  else
    let s ← get
    tryExcept Exn.isException (attemptSteps p s.now) fun exc =>
      finalizeAttempt p (py "unexpected") false s.now (some exc.msg)

/-! ## An attempt to run -/

section Sample

def sampleParams : AttemptParams where
  issue := sampleIssue "a"
  attempt := 1
  task := 0
  promptTemplate := py "do it"
  config := { sampleConfig with hooks := { sampleConfig.hooks with afterRun := some (py "make clean") } }
  hasCodexClient := false
  hasCodexClientFactory := true
  renderPrompt template _ _ := .ok template
  stopSession := CodexClient.stopSession

def sampleAttempt : Attempt := ⟨63000000000000000, false, []⟩

/-- Answers to the calls of an attempt, where all goes well. -/
structure AttemptAnswers where
  beforeRun : Except Exn HookResult := .ok ⟨some 0, 10, false, false⟩
  session : Except Exn Session := .ok ⟨py "thread", py "turn", 42, 63000000000000000⟩
  turn : Except Exn TurnResult := .ok ⟨py "turn", py "turn/completed", []⟩
  exited : Except Exn Bool := .ok true

def AttemptAnswers.reply (a : AttemptAnswers) : (r : AttemptReq) → AttemptSig.Ans r
  | .ensureForIssue _ => .ok ⟨py "/tmp/ws/a", true⟩
  | .codexClientFactory .. => .ok (some ())
  | .runHook .beforeRun .. => a.beforeRun
  | .runHook .afterRun .. => .error ⟨.other, py "no such file"⟩
  | .startSession .. => a.session
  | .transitionState .. => .ok ()
  | .streamTurn .. => ⟨[⟨py "turn/started", 63000000000000000, 42, [], none⟩], a.turn⟩
  | .stopSession _ => .ok ()
  | .waitForExit _ => a.exited
  | .aclose => .ok ()
  | .addComment .. => .ok ()

end Sample

end RiverGang
