import RiverGang.Orchestrator.System

/-!
# The handlers as phases

An abstract account of the dispatcher: what a handler still has to do is a `Phase`, and `Work` lists the steps between
phases, each with the changes that it makes to the world and what is known when it makes them — a `Crash` is a step to
the end of the dispatcher. `Simulation.lean` shows that the handlers go by these steps, so that an invariant of the
service need only be checked against this list.
-/

namespace RiverGang

open Py Coop

inductive Phase
  /-- received; for a tick, all that comes before the dispatch loop -/
  | handling (m : Message)
  /-- the dispatch loop, with the issues that are left -/
  | loop (issues : List Issue)
  /-- a retry whose entry is popped -/
  | retry (m : RetryTimerFired) (entry : RetryEntry)
  | done (m : Message)
  | crashed (e : Exn)

/-- The phases in which a handler may be suspended. -/
def Phase.Awaiting : Phase → Prop
  | .handling .pollTick | .loop _ | .retry _ _ => True
  | _ => False

/-- The exception that an answer is. -/
def failure : (r : OrchReq) → OrchSig.Ans r → Option Exn
  | .fetchIssueStatesByIds _, .error e => some e
  | .fetchCandidateIssues _, .error e => some e
  | .fetchComments _, .error e => some e
  | .ensureForIssue _, .error e => some e
  | .analyze .., .error e => some e
  | .addComment .., .error e => some e
  | _, _ => none

/-- The candidates that an answer brings. -/
def candidatesOf : (r : OrchReq) → OrchSig.Ans r → Option (List Issue)
  | .fetchCandidateIssues _, .ok candidates => some candidates
  | _, _ => none

/-- The issue that was asked about, and its comments. -/
def commentsOf : (r : OrchReq) → OrchSig.Ans r → Option (Issue × List Comment)
  | .fetchComments issue, .ok comments => some (issue, comments)
  | _, _ => none

/-- The refreshed issues that an answer brings. -/
def refreshedOf : (r : OrchReq) → OrchSig.Ans r → Option (List Issue)
  | .fetchIssueStatesByIds _, .ok refreshed => some refreshed
  | _, _ => none

/-- The issue that was analyzed, and the decision. -/
def analysisOf : (r : OrchReq) → OrchSig.Ans r → Option (Issue × ClarificationDecision)
  | .analyze issue _ _ _, .ok decision => some (issue, decision)
  | _, _ => none

variable [Unicode] (D : OrchDiscipline)

/-- `w` is a world in which the tracker gave the refreshed issues, but for the cancellations made since. -/
def RefreshedTo (refreshed : List Issue) (w : World) : Prop :=
  ∃ w₀ ids, D.answer .pollTick w₀ (.fetchIssueStatesByIds ids) (.ok refreshed) ∧
    w = { w₀ with cancelled := w.cancelled, cleanups := w.cleanups }

/-- The cleanups after the runs of some issues. -/
def cleanupsOf (w : World) (ids : List Str) : List CleanupTask :=
  ids.filterMap fun i => (w.state.running.get? i).map fun entry => ⟨entry.identifier, entry.workerHandle⟩

omit [Unicode] in
theorem cleanupsOf_concat_none {w : World} {ids : List Str} {i : Str} (h : w.state.running.get? i = none) :
    cleanupsOf w (ids ++ [i]) = cleanupsOf w ids := by
  simp [cleanupsOf, h]

omit [Unicode] in
theorem cleanupsOf_concat_some {w : World} {ids : List Str} {i : Str} {entry : RunningEntry}
    (h : w.state.running.get? i = some entry) :
    cleanupsOf w (ids ++ [i]) = cleanupsOf w ids ++ [⟨entry.identifier, entry.workerHandle⟩] := by
  simp [cleanupsOf, h]

/-- The same, as long as the tick terminates with cleanup, and has done so with the issues `past`. -/
def CleanedUp (refreshed : List Issue) (past : List Str) (w : World) : Prop :=
  ∃ w₀ ids, D.answer .pollTick w₀ (.fetchIssueStatesByIds ids) (.ok refreshed) ∧
    w = { w₀ with cancelled := w.cancelled, cleanups := w₀.cleanups ++ cleanupsOf w₀ past }

omit [Unicode] in
variable {D} in
theorem CleanedUp.refreshedTo {refreshed : List Issue} {past : List Str} {w : World} (h : CleanedUp D refreshed past w) :
    RefreshedTo D refreshed w := by
  obtain ⟨w₀, ids, ha, hw⟩ := h
  refine ⟨w₀, ids, ha, ?_⟩
  rw [hw]

/-- What the refreshed issues say of a running one. -/
def verdictOf (refreshed : List Issue) (w : World) (i : Str) : Verdict :=
  classify refreshed w.config.tracker.terminalStates w.config.tracker.activeStates i

/-- The eligible issues of a tick, in order. -/
def eligibleOf (w : World) (candidates : List Issue) : Except Exn (List Issue) :=
  sortForDispatch (filterCandidates candidates w.state w.config.tracker.activeStates w.config.tracker.terminalStates)

/-- The gate was told that an issue is ready. -/
def Cleared (issue : Issue) (w : World) : Prop :=
  ∃ comments path config decision, D.answer .pollTick w (.analyze issue comments path config) (.ok decision) ∧
    decision.sufficient = true

/-- A retry was answered with an issue of its id. -/
def Matched (m : RetryTimerFired) (issue : Issue) (w : World) : Prop :=
  ∃ states candidates, D.answer (.retryTimerFired m) w (.fetchCandidateIssues states) (.ok candidates) ∧
    (candidates.find? fun c => c.id = m.issueId) = some issue

omit [Unicode] in
variable {D} in
theorem Matched.id_eq {m : RetryTimerFired} {issue : Issue} {w : World} (h : Matched D m issue w) :
    issue.id = m.issueId := by
  obtain ⟨_, _, -, hf⟩ := h
  simpa using List.find?_some hf

/-- How the dispatcher can end by an exception. -/
inductive Crash : World → Phase → Exn → World → Prop
  | answer {m : Message} {w : World} {φ : Phase} {r : OrchReq} {x : OrchSig.Ans r} {e : Exn} :
      φ.Awaiting → D.answer m w r x → failure r x = some e → e.isException = false → Crash w φ e w
  | loader {w : World} {e : Exn} : w.workflowLoader = .error e → e.isException = false →
      Crash w (.handling .pollTick) e w
  | interval {w w' : World} {φ : Phase} {e : Exn} : φ.Awaiting → scheduleNextTick w = .raise e w' → Crash w φ e w'
  | sort {w : World} {states : List Str} {candidates : List Issue} {e : Exn} :
      D.answer .pollTick w (.fetchCandidateIssues states) (.ok candidates) → eligibleOf w candidates = .error e →
      Crash w (.handling .pollTick) e w
  | inputs {w : World} {issue : Issue} {issues : List Issue} {comments : List Comment} {e : Exn} :
      D.answer .pollTick w (.fetchComments issue) (.ok comments) →
      fingerprintClarificationInputs issue comments = .error e → Crash w (.loop (issue :: issues)) e w
  | questions {w : World} {issue : Issue} {issues : List Issue} {comments : List Comment} {path : Str}
      {config : EffectiveConfig} {decision : ClarificationDecision} {e : Exn} :
      D.answer .pollTick w (.analyze issue comments path config) (.ok decision) → decision.sufficient = false →
      fingerprintQuestions decision.questions = .error e → Crash w (.loop (issue :: issues)) e w
  | dispatch {w w' : World} {issue : Issue} {issues : List Issue} {e : Exn} : Cleared D issue w →
      dispatchIssue issue 1 w.config.agent.maxRetryBackoffMs (w.onState (·.popWaiting issue.id)) = .raise e w' →
      Crash w (.loop (issue :: issues)) e w'
  | exit {w w' : World} {m : WorkerExit} {e : Exn} :
      onWorkerExit m w.config.agent.maxRetryBackoffMs postRetryTimer w = .raise e w' →
      Crash w (.handling (.workerExit m)) e w'
  | reschedule {w w' : World} {m : RetryTimerFired} {entry : RetryEntry} {lastError : Option Str} {e : Exn} :
      RetryQueue.schedule m.issueId entry.attempt entry.kind w.config.agent.maxRetryBackoffMs postRetryTimer lastError w =
        .raise e w' →
      Crash w (.retry m entry) e w'
  | redispatch {w w' : World} {m : RetryTimerFired} {entry : RetryEntry} {issue : Issue} {e : Exn} :
      Matched D m issue w → 0 < slotsFor issue.state w.state w.config.agent.maxConcurrentAgentsByState →
      dispatchIssue issue entry.attempt w.config.agent.maxRetryBackoffMs w = .raise e w' →
      Crash w (.retry m entry) e w'

/-- What a handler does next. -/
inductive Work : World → Phase → World → Phase → Prop
  | stall {w : World} {i : Str} {entry : RunningEntry} : w.state.running.get? i = some entry →
      shouldTerminateForStall w.now entry.lastCodexTimestamp entry.startedAt w.config.codex.stallTimeoutMs = true →
      Work w (.handling .pollTick) (w.reapStalled i entry) (.handling .pollTick)
  | terminateWithCleanup {w : World} {i : Str} {entry : RunningEntry} {refreshed : List Issue} {past : List Str} :
      w.state.running.get? i = some entry → CleanedUp D refreshed past w → i ∉ past →
      verdictOf refreshed w i = .terminateWithCleanup →
      Work w (.handling .pollTick) (w.terminateWithCleanup entry) (.handling .pollTick)
  | terminateWithoutCleanup {w : World} {i : Str} {entry : RunningEntry} {refreshed : List Issue} :
      w.state.running.get? i = some entry → RefreshedTo D refreshed w →
      verdictOf refreshed w i = .terminateWithoutCleanup →
      Work w (.handling .pollTick) (w.terminateWithoutCleanup entry) (.handling .pollTick)
  | refresh {w : World} {i : Str} {entry : RunningEntry} {issue : Issue} : w.state.running.get? i = some entry →
      issue.id = i → Work w (.handling .pollTick) (w.refreshEntry i entry issue) (.handling .pollTick)
  | adopt {w : World} {config : EffectiveConfig} : w.workflowLoader = .ok (some config) →
      Work w (.handling .pollTick) { w with config := config } (.handling .pollTick)
  | skipTick {w w' : World} : scheduleNextTick w = .ret () w' →
      Work w (.handling .pollTick) w' (.done .pollTick)
  | eligible {w : World} {states : List Str} {candidates issues : List Issue} :
      D.answer .pollTick w (.fetchCandidateIssues states) (.ok candidates) → eligibleOf w candidates = .ok issues →
      Work w (.handling .pollTick) w (.loop issues)
  | skip {w : World} {issue : Issue} {issues : List Issue} : Work w (.loop (issue :: issues)) w (.loop issues)
  | rewait {w : World} {issue : Issue} {issues : List Issue} {entry : ClarificationWaitEntry} :
      Work w (.loop (issue :: issues)) (w.onState (·.setWaiting issue.id entry)) (.loop issues)
  | dispatch {w w' : World} {issue : Issue} {issues : List Issue} {r : Option RunningEntry} : Cleared D issue w →
      dispatchIssue issue 1 w.config.agent.maxRetryBackoffMs (w.onState (·.popWaiting issue.id)) = .ret r w' →
      Work w (.loop (issue :: issues)) w' (.loop issues)
  | endLoop {w w' : World} : scheduleNextTick w = .ret () w' → Work w (.loop []) w' (.done .pollTick)
  | exit {w w' : World} {m : WorkerExit} :
      onWorkerExit m w.config.agent.maxRetryBackoffMs postRetryTimer w = .ret () w' →
      Work w (.handling (.workerExit m)) w' (.done (.workerExit m))
  | update {w : World} {m : CodexUpdate} :
      Work w (.handling (.codexUpdate m)) (w.onState (onCodexUpdate · m)) (.done (.codexUpdate m))
  | reload {w : World} {config : EffectiveConfig} :
      Work w (.handling (.configReloaded config))
        { w with
          config := config
          state := { w.state with
            pollIntervalMs := config.polling.intervalMs
            maxConcurrentAgents := config.agent.maxConcurrentAgents } }
        (.done (.configReloaded config))
  | shutdown {w : World} : Work w (.handling .shutdown) w.tickCancelled (.done .shutdown)
  | noEntry {w : World} {m : RetryTimerFired} : w.retryQueue.get? m.issueId = none →
      Work w (.handling (.retryTimerFired m)) w (.done (.retryTimerFired m))
  | completed {w : World} {m : RetryTimerFired} {entry : RetryEntry} : w.retryQueue.get? m.issueId = some entry →
      m.issueId ∈ w.state.completed →
      Work w (.handling (.retryTimerFired m)) ((w.popRetry m.issueId).onState (·.unclaim m.issueId))
        (.done (.retryTimerFired m))
  | popRetry {w : World} {m : RetryTimerFired} {entry : RetryEntry} : w.retryQueue.get? m.issueId = some entry →
      m.issueId ∉ w.state.completed →
      Work w (.handling (.retryTimerFired m)) (w.popRetry m.issueId) (.retry m entry)
  | reschedule {w w' : World} {m : RetryTimerFired} {entry : RetryEntry} {lastError : Option Str} :
      RetryQueue.schedule m.issueId entry.attempt entry.kind w.config.agent.maxRetryBackoffMs postRetryTimer lastError w =
        .ret () w' →
      Work w (.retry m entry) w' (.done (.retryTimerFired m))
  | release {w : World} {m : RetryTimerFired} {entry : RetryEntry} :
      Work w (.retry m entry) (w.onState (·.unclaim m.issueId)) (.done (.retryTimerFired m))
  | redispatch {w w' : World} {m : RetryTimerFired} {entry : RetryEntry} {issue : Issue} {r : Option RunningEntry} :
      Matched D m issue w → 0 < slotsFor issue.state w.state w.config.agent.maxConcurrentAgentsByState →
      dispatchIssue issue entry.attempt w.config.agent.maxRetryBackoffMs w = .ret r w' →
      Work w (.retry m entry) w' (.done (.retryTimerFired m))
  | crash {w w' : World} {φ : Phase} {e : Exn} : Crash D w φ e w' → Work w φ w' (.crashed e)

/-- The account of the orchestrator by phases. -/
@[reducible] def handlerPhases : Phases OrchSig Exn World Message Phase where
  enter := .handling
  exit := .done
  crashed := .crashed
  awaits := Phase.Awaiting
  work := Work D

end RiverGang
