import RiverGang.Orchestrator.Clarification
import RiverGang.Orchestrator.Lifecycle
import RiverGang.Orchestrator.Reconcile

/-!
# The poll tick and the dispatcher

`orchestrator/loop.py`: `onTick` with its parts, and `handle`, what the dispatcher does with one message.

The dispatch loop of a tick is `dispatchLoop`, over any gate; it also returns what became of each issue, which the
orchestrator does not use.
-/

namespace RiverGang

open Py Coop Task

variable [Unicode]

/-! ## Timers -/

def scheduleNextTick : Orch Unit := do
  let w ← get
  -- the float is computed before the old timer is cancelled
  if FloatFits w.config.polling.intervalMs then
    match w.nextTickHandle with
    | none => pure ()
    | some handle => modify (·.cancelTimer handle)
    let handle ← callLater w.config.polling.intervalMs .postPollTick
    modify fun w => { w with nextTickHandle := some handle }
  else
    raise ⟨.overflowError, py "int too large to convert to float"⟩

def cancelNextTick : Orch Unit := do
  let w ← get
  match w.nextTickHandle with
  | none => pure ()
  | some handle => modify fun w => { w.cancelTimer handle with nextTickHandle := none }

namespace World

/-- The world after scheduling the next tick. -/
def tickScheduled (w : World) : World :=
  let w' := match w.nextTickHandle with
    | none => w
    | some handle => w.cancelTimer handle
  { w'.callLater w.config.polling.intervalMs .postPollTick with nextTickHandle := some w'.nextHandle }

/-- The world after cancelling it. -/
def tickCancelled (w : World) : World :=
  match w.nextTickHandle with
  | none => w
  | some handle => { w.cancelTimer handle with nextTickHandle := none }

omit [Unicode] in
/-- Only the timers change. -/
theorem tickScheduled_eq (w : World) : w.tickScheduled =
    { w with
      timers := w.tickScheduled.timers
      nextHandle := w.nextHandle + 1
      nextTickHandle := some w.nextHandle } := by
  unfold tickScheduled
  cases w.nextTickHandle <;> rfl

omit [Unicode] in
theorem tickCancelled_eq (w : World) : w.tickCancelled =
    { w with timers := w.tickCancelled.timers, nextTickHandle := none } := by
  unfold tickCancelled
  cases h : w.nextTickHandle with
  | none =>
    have hw : w = { w with nextTickHandle := none } := by rw [← h]
    exact hw
  | some handle => rfl

end World

omit [Unicode] in
theorem scheduleNextTick_ok {w : World} (h : FloatFits w.config.polling.intervalMs) :
    scheduleNextTick w = .ret () w.tickScheduled := by
  cases hn : w.nextTickHandle <;>
    simp [scheduleNextTick, h, hn, callLater, World.tickScheduled]

omit [Unicode] in
theorem scheduleNextTick_raise {w : World} (h : ¬ FloatFits w.config.polling.intervalMs) :
    scheduleNextTick w = .raise ⟨.overflowError, py "int too large to convert to float"⟩ w := by
  simp [scheduleNextTick, h]

omit [Unicode] in
theorem scheduleNextTick_sync (w : World) : (scheduleNextTick w).Sync := by
  by_cases h : FloatFits w.config.polling.intervalMs
  · rw [scheduleNextTick_ok h]
    trivial
  · rw [scheduleNextTick_raise h]
    trivial

omit [Unicode] in
/-- What scheduling the next tick left, if it returned. -/
theorem scheduleNextTick_ret {w w' : World} (h : scheduleNextTick w = .ret () w') : w' = w.tickScheduled := by
  by_cases hf : FloatFits w.config.polling.intervalMs
  · rw [scheduleNextTick_ok hf] at h
    cases h
    rfl
  · rw [scheduleNextTick_raise hf] at h
    cases h

omit [Unicode] in
/-- What it left, if it raised: nothing new. -/
theorem scheduleNextTick_error {w w' : World} {e : Exn} (h : scheduleNextTick w = .raise e w') :
    w' = w ∧ ¬ FloatFits w.config.polling.intervalMs := by
  by_cases hf : FloatFits w.config.polling.intervalMs
  · rw [scheduleNextTick_ok hf] at h
    cases h
  · rw [scheduleNextTick_raise hf] at h
    cases h
    exact ⟨rfl, hf⟩

omit [Unicode] in
theorem cancelNextTick_eq (w : World) : cancelNextTick w = .ret () w.tickCancelled := by
  cases hn : w.nextTickHandle <;> simp [cancelNextTick, hn, World.tickCancelled]

def postRetryTimer : Str → Callback := .postRetryTimer

/-! ## Reconciliation -/

/-- The exit that is posted for a stalled worker. -/
def stallExit (issueId : Str) (entry : RunningEntry) (now : Instant) (stallTimeoutMs : Int) : WorkerExit where
  issueId := issueId
  reason := py "stall_terminated"
  ok := false
  runtimeSeconds := now - entry.startedAt
  lastError := some (py "stall timeout " ++ decimalInt stallTimeoutMs ++ py "ms exceeded")
  about := entry.workerHandle

namespace World

/-- Cancel the worker of an entry, and tell the mailbox. -/
def reapStalled (w : World) (issueId : Str) (entry : RunningEntry) : World :=
  (w.terminateWorkerHandle entry.workerHandle).post
    (.workerExit (stallExit issueId entry w.now w.config.codex.stallTimeoutMs))

/-- Cancel the worker of an entry, and clean its workspace up. -/
def terminateWithCleanup (w : World) (entry : RunningEntry) : World :=
  (w.terminateWorkerHandle entry.workerHandle).spawnCleanupTask entry.identifier entry.workerHandle

/-- Only cancel it. -/
def terminateWithoutCleanup (w : World) (entry : RunningEntry) : World :=
  w.terminateWorkerHandle entry.workerHandle

/-- Replace the issue of an entry. -/
def refreshEntry (w : World) (issueId : Str) (entry : RunningEntry) (refreshed : Issue) : World :=
  w.onState (·.setRunning issueId { entry with issue := refreshed })

end World

/-- Do something with the running entry of an issue, if it has one. -/
def withEntry (issueId : Str) (f : World → RunningEntry → World) : Orch Unit := do
  let w ← get
  match w.state.running.get? issueId with
  | none => pure ()
  | some entry => modify fun w => f w entry

def reconcile : Orch Unit := do
  let w ← get
  let stalledIds := detectStalls w.state w.now w.config.codex.stallTimeoutMs
  forEach stalledIds fun issueId => withEntry issueId fun w entry => w.reapStalled issueId entry
  let w ← get
  if w.state.running.length = 0 then
    pure ()
  else
    match ← Orch.fetchIssueStatesByIds (w.state.running.values.map (·.issue.id)) with
    | .error exc => onException exc (pure ())
    | .ok refreshed =>
      let w ← get
      let actions := reconcileRunningWithTracker w.state refreshed w.config.tracker.terminalStates
        w.config.tracker.activeStates
      forEach actions.terminateWithCleanup fun issueId => withEntry issueId fun w entry => w.terminateWithCleanup entry
      forEach actions.terminateWithoutCleanup fun issueId =>
        withEntry issueId fun w entry => w.terminateWithoutCleanup entry
      forEach actions.updateSnapshot fun p => withEntry p.1 fun w entry => w.refreshEntry p.1 entry p.2

/-! ## The clarification gate -/

/-- `no_new_input`, for a waiting issue. -/
def noNewInput (waiting : ClarificationWaitEntry) (inputFingerprint : Str) (seenCommentIds : Finset Str) : Bool :=
  match waiting.lastInputFingerprint with
  | some fingerprint => inputFingerprint == fingerprint
  | none => seenCommentIds ⊆ waiting.lastSeenCommentIds

def clarificationGateAllowsDispatch (issue : Issue) : Orch Bool := do
  let w ← get
  let now := w.now
  let waiting := w.state.clarificationWaiting.get? issue.id
  if waiting.any fun entry => now < entry.nextPollAt then
    pure false
  else
    match ← Orch.fetchComments issue with
    | .error exc => onException exc (pure false)
    | .ok comments =>
      let seenCommentIds := nonClarificationCommentIds comments
      let inputFingerprint ← ofExcept (fingerprintClarificationInputs issue comments)
      match waiting.filter fun entry => noNewInput entry inputFingerprint seenCommentIds with
      | some entry =>
        modify (·.onState (·.setWaiting issue.id { entry with nextPollAt := nextClarificationPollAt now }))
        pure false
      | none =>
        match ← Orch.ensureForIssue issue.identifier with
        | .error exc => onException exc (pure false)
        | .ok ensureResult =>
          let w ← get
          match ← Orch.analyze issue comments ensureResult.path w.config with
          | .error exc => onException exc (pure false)
          | .ok decision =>
            if decision.sufficient then
              modify (·.onState (·.popWaiting issue.id))
              pure true
            else
              let questionFingerprint ← ofExcept (fingerprintQuestions decision.questions)
              let newEntry : ClarificationWaitEntry :=
                ⟨issue.id, issue.identifier, seenCommentIds, some questionFingerprint, nextClarificationPollAt now,
                  some inputFingerprint⟩
              if waiting.bind (·.lastQuestionFingerprint) = some questionFingerprint then
                modify (·.onState (·.setWaiting issue.id newEntry))
                pure false
              else
                match ← Orch.addComment issue.id (formatClarificationComment decision) with
                | .error exc => onException exc (pure false)
                | .ok () =>
                  modify (·.onState (·.setWaiting issue.id newEntry))
                  pure false

/-! ## The tick -/

/-- What became of an issue in the dispatch loop. -/
inductive Outcome
  | noSlot
  | refused
  | spawnFailed
  | dispatched
  deriving DecidableEq

/-- The body of the dispatch loop. -/
def considerIssue (perStateMap : List (Str × Int)) (gate : Issue → Orch Bool) (issue : Issue) : Orch Outcome := do
  let w ← get
  if concurrencyCheck issue w.state perStateMap then
    let gateAllowsDispatch ← gate issue
    if gateAllowsDispatch then
      let w ← get
      let entry ← dispatchIssue issue 1 w.config.agent.maxRetryBackoffMs
      pure (if entry.isSome then .dispatched else .spawnFailed)
    else pure .refused
  else pure .noSlot

def dispatchLoop (perStateMap : List (Str × Int)) (gate : Issue → Orch Bool) :
    List Issue → Orch (List (Issue × Outcome))
  | [] => pure []
  | issue :: rest => do
    let outcome ← considerIssue perStateMap gate issue
    let outcomes ← dispatchLoop perStateMap gate rest
    pure ((issue, outcome) :: outcomes)

def onTick : Orch Unit := do
  reconcile
  let w ← get
  match w.workflowLoader with
  | .error exc => onException exc scheduleNextTick
  | .ok none => scheduleNextTick
  | .ok (some newConfig) =>
    modify fun w => { w with config := newConfig }
    match ← Orch.fetchCandidateIssues newConfig.tracker.activeStates with
    | .error exc => onException exc scheduleNextTick
    | .ok candidates =>
      let w ← get
      let eligible ← ofExcept (sortForDispatch (filterCandidates candidates w.state w.config.tracker.activeStates
        w.config.tracker.terminalStates))
      let _ ← dispatchLoop w.config.agent.maxConcurrentAgentsByState clarificationGateAllowsDispatch eligible
      scheduleNextTick

/-! ## The dispatcher -/

/-- `_fetch_filtered_candidates`, which filters nothing. -/
def fetchFilteredCandidates : Orch (Except Exn (List Issue)) := do
  let w ← get
  Orch.fetchCandidateIssues w.config.tracker.activeStates

def retryDispatchFn (issue : Issue) (attempt : Nat) : Orch Unit := do
  let w ← get
  let _ ← dispatchIssue issue attempt w.config.agent.maxRetryBackoffMs
  pure ()

/-- The body of the loop of `Orchestrator.run` for one message. -/
def handle : Message → Orch Unit
  | .pollTick => onTick
  | .workerExit msg => do
    let w ← get
    onWorkerExit msg w.config.agent.maxRetryBackoffMs postRetryTimer
  | .codexUpdate msg => modify (·.onState (onCodexUpdate · msg))
  | .retryTimerFired msg => do
    let w ← get
    onRetryTimer msg.issueId fetchFilteredCandidates retryDispatchFn w.config.agent.maxConcurrentAgentsByState
      w.config.agent.maxRetryBackoffMs postRetryTimer
  | .configReloaded config => modify fun w =>
      { w with
        config := config
        state := { w.state with
          pollIntervalMs := config.polling.intervalMs
          maxConcurrentAgents := config.agent.maxConcurrentAgents } }
  | .shutdown => cancelNextTick

end RiverGang
