import RiverGang.Errors
import RiverGang.Lib.Task
import RiverGang.Orchestrator.Mailbox
import RiverGang.Orchestrator.State
import RiverGang.Workspace.Types

/-!
# The orchestrator and its surroundings

`World` is what the orchestrator's handlers read and write: the fields of `Orchestrator` and its retry queue, and of the
event loop the pending timers, the worker tasks and the cleanups. `Orch` is the monad of the handlers; it suspends on the
calls to the tracker, the workspace manager and the gate.

A task is its number in `tasks`, which only grows; `cancelled` are the tasks on which `cancel()` was called while they
had not settled, `settled` those that are done. A cleanup is its number in `cleanups`.
-/

namespace RiverGang

open Py Coop

inductive RetryKind
  | continuation
  | failure
  deriving DecidableEq

/-- `retry.py`; `schedule` always sets the timer. -/
structure RetryEntry where
  issueId : Str
  attempt : Nat
  kind : RetryKind
  scheduledAt : Instant
  fireAt : Instant
  timerHandle : Nat
  lastError : Option Str
  deriving DecidableEq

/-- What a timer of the event loop calls. -/
inductive Callback
  | postPollTick
  | postRetryTimer (issueId : Str)
  /-- `lambda _id: None` -/
  | ignore
  deriving DecidableEq

structure Timer where
  handle : Nat
  due : Instant
  callback : Callback
  deriving DecidableEq

/-- A spawned `run_agent_attempt`, with what it was given. -/
structure WorkerTask where
  issue : Issue
  attempt : Nat
  config : EffectiveConfig

/-- A spawned `_cleanup`. `about` is not in the source: the task of the run that it cleans up after. -/
structure CleanupTask where
  identifier : Str
  about : Nat
  deriving DecidableEq

structure World where
  state : OrchestratorState
  mailbox : List Message
  retryQueue : Dict Str RetryEntry
  config : EffectiveConfig
  nextTickHandle : Option Nat
  now : Instant
  timers : List Timer
  nextHandle : Nat
  tasks : List WorkerTask
  cancelled : Finset Nat
  settled : Finset Nat
  cleanups : List CleanupTask
  /-- the cleanups, by number, that are in `cleanup_for_issue`, and those that are done -/
  cleaning : Finset Nat
  cleaned : Finset Nat
  /-- what calling `workflow_loader` comes to -/
  workflowLoader : Except Exn (Option EffectiveConfig)
  /-- whether starting a worker fails, and how -/
  spawnError : Issue → Nat → Option Exn
  hasCodexClient : Bool
  hasCodexClientFactory : Bool

namespace World

def post (w : World) (m : Message) : World := { w with mailbox := w.mailbox ++ [m] }

/-- `TimerHandle.cancel()` -/
def cancelTimer (w : World) (handle : Nat) : World :=
  { w with timers := w.timers.filter fun t => t.handle ≠ handle }

/-- `loop.call_later`, for a delay in milliseconds. -/
def callLater (w : World) (delayMs : Int) (callback : Callback) : World :=
  { w with
    timers := w.timers ++ [⟨w.nextHandle, w.now + delayMs * 1000, callback⟩]
    nextHandle := w.nextHandle + 1 }

/-- `task.cancel()` of a task that may be done. -/
def terminateWorkerHandle (w : World) (task : Nat) : World :=
  { w with cancelled := if task ∈ w.settled then w.cancelled else insert task w.cancelled }

def spawnCleanupTask (w : World) (identifier : Str) (about : Nat) : World :=
  { w with cleanups := w.cleanups ++ [⟨identifier, about⟩] }

/-- `asyncio.create_task` on a worker attempt. -/
def createTask (w : World) (issue : Issue) (attempt : Nat) : World :=
  { w with tasks := w.tasks ++ [⟨issue, attempt, w.config⟩] }

def onState (w : World) (f : OrchestratorState → OrchestratorState) : World := { w with state := f w.state }

/-- A worker that is spawned and not done. -/
def Live (w : World) (task : Nat) : Prop := task < w.tasks.length ∧ task ∉ w.settled

instance (w : World) (task : Nat) : Decidable (w.Live task) := inferInstanceAs (Decidable (_ ∧ _))

end World

/-! ## The handlers' calls -/

structure ClarificationDecision where
  sufficient : Bool
  questions : List Str
  rationale : Option Str

/-- The calls of the handlers that suspend. `fetchComments` sends the issue's id only. -/
inductive OrchReq
  | fetchIssueStatesByIds (issueIds : List Str)
  | fetchCandidateIssues (activeStates : List Str)
  | fetchComments (issue : Issue)
  | ensureForIssue (identifier : Str)
  | analyze (issue : Issue) (comments : List Comment) (workspacePath : Str) (config : EffectiveConfig)
  | addComment (issueId body : Str)

@[reducible] def OrchSig : Sig where
  Req := OrchReq
  Ans
    | .fetchIssueStatesByIds _ => Except Exn (List Issue)
    | .fetchCandidateIssues _ => Except Exn (List Issue)
    | .fetchComments _ => Except Exn (List Comment)
    | .ensureForIssue _ => Except Exn EnsureResult
    | .analyze .. => Except Exn ClarificationDecision
    | .addComment .. => Except Exn Unit

abbrev Orch := Task OrchSig Exn World

namespace Orch

def fetchIssueStatesByIds (issueIds : List Str) : Orch (Except Exn (List Issue)) :=
  Task.request (S := OrchSig) (.fetchIssueStatesByIds issueIds)

def fetchCandidateIssues (activeStates : List Str) : Orch (Except Exn (List Issue)) :=
  Task.request (S := OrchSig) (.fetchCandidateIssues activeStates)

def fetchComments (issue : Issue) : Orch (Except Exn (List Comment)) :=
  Task.request (S := OrchSig) (.fetchComments issue)

def ensureForIssue (identifier : Str) : Orch (Except Exn EnsureResult) :=
  Task.request (S := OrchSig) (.ensureForIssue identifier)

def analyze (issue : Issue) (comments : List Comment) (workspacePath : Str) (config : EffectiveConfig) :
    Orch (Except Exn ClarificationDecision) :=
  Task.request (S := OrchSig) (.analyze issue comments workspacePath config)

def addComment (issueId body : Str) : Orch (Except Exn Unit) :=
  Task.request (S := OrchSig) (.addComment issueId body)

end Orch

end RiverGang
