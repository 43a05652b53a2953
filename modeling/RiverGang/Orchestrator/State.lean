import Mathlib.Data.Finset.Basic
import RiverGang.Codex.Usage
import RiverGang.Lib.Dict
import RiverGang.Tracker.Issue

/-!
# The orchestrator's state

`orchestrator/state.py`: the running map, the claims, the counters, and the waiting entries of the clarification gate.
Runtimes are in microseconds. A worker handle is the number of its task.
-/

namespace RiverGang

open Py Coop

structure ClarificationWaitEntry where
  issueId : Str
  identifier : Str
  lastSeenCommentIds : Finset Str
  lastQuestionFingerprint : Option Str
  nextPollAt : Instant
  lastInputFingerprint : Option Str

structure RunningEntry where
  workerHandle : Nat
  identifier : Str
  issue : Issue
  sessionId : Option Str
  lastReportedInputTokens : Int
  lastReportedOutputTokens : Int
  lastReportedTotalTokens : Int
  startedAt : Instant
  lastCodexTimestamp : Option Instant
  lastCodexEvent : Option Str
  lastCodexMessage : Option Str
  /-- at most the last fifty -/
  recentEvents : List RuntimeEvent
  lastError : Option Str
  restartCount : Nat
  retryAttempt : Nat

structure OrchestratorState where
  pollIntervalMs : Int
  maxConcurrentAgents : Int
  running : Dict Str RunningEntry
  claimed : Finset Str
  completed : Finset Str
  codexTotals : TokenSnapshot
  codexRateLimits : Option RateLimitSnapshot
  runtimeTotal : Int
  identifierIndex : Dict Str Str
  clarificationWaiting : Dict Str ClarificationWaitEntry

namespace OrchestratorState

def markClaimed (s : OrchestratorState) (issueId : Str) : OrchestratorState :=
  { s with claimed := insert issueId s.claimed }

def unclaim (s : OrchestratorState) (issueId : Str) : OrchestratorState :=
  { s with claimed := s.claimed.erase issueId }

def isClaimed (s : OrchestratorState) (issueId : Str) : Bool := issueId ∈ s.claimed

def addRunning (s : OrchestratorState) (entry : RunningEntry) : OrchestratorState :=
  { s with
    running := s.running.insert entry.issue.id entry
    identifierIndex := s.identifierIndex.insert entry.issue.id entry.identifier }

/-- The part of `remove_running` that changes the map. -/
def removeRunning (s : OrchestratorState) (issueId : Str) : OrchestratorState :=
  { s with running := s.running.erase issueId }

def recordCompleted (s : OrchestratorState) (issueId : Str) : OrchestratorState :=
  { s with completed := insert issueId s.completed }

def addRuntimeSeconds (s : OrchestratorState) (runtime : Int) : OrchestratorState :=
  { s with runtimeTotal := s.runtimeTotal + runtime }

/-- `self.running[issue_id] = entry` for an entry that is there. -/
def setRunning (s : OrchestratorState) (issueId : Str) (entry : RunningEntry) : OrchestratorState :=
  { s with running := s.running.insert issueId entry }

def setWaiting (s : OrchestratorState) (issueId : Str) (entry : ClarificationWaitEntry) : OrchestratorState :=
  { s with clarificationWaiting := s.clarificationWaiting.insert issueId entry }

def popWaiting (s : OrchestratorState) (issueId : Str) : OrchestratorState :=
  { s with clarificationWaiting := s.clarificationWaiting.erase issueId }

/-- The running entries of a state, by lowered names. -/
def countInState [Unicode] (s : OrchestratorState) (stateName : Str) : Nat :=
  s.running.values.countP fun entry => lower entry.issue.state = lower stateName

end OrchestratorState

end RiverGang
