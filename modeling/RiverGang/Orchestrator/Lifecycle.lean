import RiverGang.Orchestrator.Dispatch

/-!
# Exits, retry timers and Codex updates

`orchestrator/lifecycle.py`, the handlers of `WorkerExit`, `RetryTimerFired` and `CodexUpdate`.

What an exit comes to is `onWorkerExit_ret`: nothing for an issue that is not running; else the entry is removed, a
retry is scheduled and the claim released — or scheduling raises. An update changes one running
entry and the totals.
-/

namespace RiverGang

open Py Coop Task

/-! ## Worker exits -/

def nextAttemptFrom (entry : RunningEntry) : Nat := entry.retryAttempt + 1

def onWorkerExit (message : WorkerExit) (maxRetryBackoffMs : Int) (onRetryFire : Str → Callback) : Orch Unit := do
  let w ← get
  match w.state.running.get? message.issueId with
  | none => pure ()
  | some entry =>
    modify (·.onState (·.removeRunning message.issueId))
    modify (·.onState (·.addRuntimeSeconds message.runtimeSeconds))
    if message.ok then
      modify (·.onState (·.recordCompleted message.issueId))
      RetryQueue.schedule message.issueId (nextAttemptFrom entry) .continuation maxRetryBackoffMs onRetryFire none
    else
      RetryQueue.schedule message.issueId (nextAttemptFrom entry) .failure maxRetryBackoffMs onRetryFire
        message.lastError
    modify (·.onState (·.unclaim message.issueId))

namespace World

/-- The world in which the retry of an exit is scheduled. -/
def exited (w : World) (m : WorkerExit) : World :=
  let w' := (w.onState (·.removeRunning m.issueId)).onState (·.addRuntimeSeconds m.runtimeSeconds)
  if m.ok then w'.onState (·.recordCompleted m.issueId) else w'

/-- Only the state changes: the entry is gone, the claims are the same. -/
theorem exited_eq (w : World) (m : WorkerExit) : w.exited m = { w with state := (w.exited m).state } := by
  unfold exited
  cases m.ok <;> rfl

@[simp] theorem exited_running (w : World) (m : WorkerExit) :
    (w.exited m).state.running = w.state.running.erase m.issueId := by
  unfold exited
  cases m.ok <;> rfl

theorem get?_of_exited {w : World} {m : WorkerExit} {i : Str} {entry : RunningEntry}
    (h : (w.exited m).state.running.get? i = some entry) : w.state.running.get? i = some entry := by
  rw [exited_running] at h
  exact Dict.get?_of_erase h

@[simp] theorem exited_claimed (w : World) (m : WorkerExit) : (w.exited m).state.claimed = w.state.claimed := by
  unfold exited
  cases m.ok <;> rfl

end World

/-- The kind of the retry of an exit. -/
def WorkerExit.retryKind (m : WorkerExit) : RetryKind := if m.ok then .continuation else .failure

/-- The error noted with the retry of an exit. -/
def WorkerExit.retryError (m : WorkerExit) : Option Str := if m.ok then none else m.lastError

theorem onWorkerExit_of_none {m : WorkerExit} {w : World} (cap : Int) (onFire : Str → Callback)
    (h : w.state.running.get? m.issueId = none) : onWorkerExit m cap onFire w = .ret () w := by
  simp only [onWorkerExit, bind_apply, get_apply, Res.bind_ret, h, pure_apply]

/-- The exit of a running issue comes to what scheduling its retry comes to. -/
theorem onWorkerExit_of_some {m : WorkerExit} {w : World} {entry : RunningEntry} (cap : Int) (onFire : Str → Callback)
    (h : w.state.running.get? m.issueId = some entry) : onWorkerExit m cap onFire w =
      (RetryQueue.schedule m.issueId (nextAttemptFrom entry) m.retryKind cap onFire m.retryError (w.exited m)).bind
        fun _ => modify (·.onState (·.unclaim m.issueId)) := by
  cases hok : m.ok <;>
    simp [onWorkerExit, h, hok, World.exited, WorkerExit.retryKind, WorkerExit.retryError]

theorem onWorkerExit_sync (m : WorkerExit) (cap : Int) (onFire : Str → Callback) (w : World) :
    (onWorkerExit m cap onFire w).Sync := by
  cases hr : w.state.running.get? m.issueId with
  | none =>
    rw [onWorkerExit_of_none cap onFire hr]
    trivial
  | some entry =>
    rw [onWorkerExit_of_some cap onFire hr]
    exact (RetryQueue.schedule_sync _).bind fun _ _ => trivial

/-- What an exit left, if the handler returned. -/
theorem onWorkerExit_ret {m : WorkerExit} {w w' : World} {cap : Int} {onFire : Str → Callback}
    (h : onWorkerExit m cap onFire w = .ret () w') :
    (w.state.running.get? m.issueId = none ∧ w' = w) ∨
    ∃ entry delay, w.state.running.get? m.issueId = some entry ∧
      w' = ((w.exited m).scheduled m.issueId (nextAttemptFrom entry) m.retryKind delay onFire m.retryError).onState
        (·.unclaim m.issueId) := by
  cases hr : w.state.running.get? m.issueId with
  | none =>
    rw [onWorkerExit_of_none cap onFire hr] at h
    cases h
    exact .inl ⟨rfl, rfl⟩
  | some entry =>
    rw [onWorkerExit_of_some cap onFire hr] at h
    rcases RetryQueue.schedule_cases m.issueId (nextAttemptFrom entry) m.retryKind cap onFire m.retryError
      (w.exited m) with ⟨d, -, -, hs⟩ | ⟨-, e, w'', hs, -⟩
    · rw [hs] at h
      cases h
      exact .inr ⟨entry, d, rfl, rfl⟩
    · rw [hs] at h
      cases h

/-- What an exit left, if the handler raised: the entry is gone, the claim is not. -/
theorem onWorkerExit_raise {m : WorkerExit} {w w' : World} {cap : Int} {onFire : Str → Callback} {e : Exn}
    (h : onWorkerExit m cap onFire w = .raise e w') :
    ∃ entry, w.state.running.get? m.issueId = some entry ∧ (w.exited m).Unscheduled m.issueId w' ∧
      ∀ delay, RetryQueue.delayMs m.retryKind (nextAttemptFrom entry) cap = .ok delay →
        ¬ RetryQueue.DelayFits w.now delay := by
  cases hr : w.state.running.get? m.issueId with
  | none =>
    rw [onWorkerExit_of_none cap onFire hr] at h
    cases h
  | some entry =>
    rw [onWorkerExit_of_some cap onFire hr] at h
    have hn : (w.exited m).now = w.now := by rw [World.exited_eq]
    rcases RetryQueue.schedule_cases m.issueId (nextAttemptFrom entry) m.retryKind cap onFire m.retryError
      (w.exited m) with ⟨d, -, -, hs⟩ | ⟨hd, e', w'', hs, hu⟩
    · rw [hs] at h
      cases h
    · rw [hs] at h
      cases h
      exact ⟨entry, rfl, hu, hn ▸ hd⟩

/-! ## Retry timers -/

section RetryTimer

variable [Unicode]

def onRetryTimer (issueId : Str) (fetchCandidatesFn : Orch (Except Exn (List Issue)))
    (dispatchFn : Issue → Nat → Orch Unit) (perStateMap : List (Str × Int)) (maxRetryBackoffMs : Int)
    (onRetryFire : Str → Callback) : Orch Unit := do
  let w ← get
  match w.retryQueue.get? issueId with
  | none => pure ()
  | some entry =>
    modify (·.popRetry issueId)
    if issueId ∈ w.state.completed then
      modify (·.onState (·.unclaim issueId))
    else
      match ← fetchCandidatesFn with
      | .error exc =>
        onException exc <|
          RetryQueue.schedule issueId entry.attempt entry.kind maxRetryBackoffMs onRetryFire
            (some (py "fetch failed: " ++ exc.msg))
      | .ok candidates =>
        match candidates.find? fun c => c.id = issueId with
        | none => modify (·.onState (·.unclaim issueId))
        | some issue =>
          let w ← get
          if slotsFor issue.state w.state perStateMap ≤ 0 then
            RetryQueue.schedule issueId entry.attempt entry.kind maxRetryBackoffMs onRetryFire
              (some (py "no available orchestrator slots"))
          else
            dispatchFn issue entry.attempt

end RetryTimer

/-! ## Codex updates -/

/-- A field that is a string and not empty. -/
def nonemptyStr? (payload : Payload) (key : Str) : Option Str :=
  ((Json.get? payload key).bind Json.str?).filter (· ≠ [])

def extractSessionIds (payload : Payload) : Option (Str × Str) := do
  let thread ← (nonemptyStr? payload (py "thread_id")).or (nonemptyStr? payload (py "threadId"))
  let turn ← (nonemptyStr? payload (py "turn_id")).or (nonemptyStr? payload (py "turnId"))
  pure (thread, turn)

def extractMessageText (payload : Payload) : Option Str :=
  ((Json.get? payload (py "message")).bind Json.str?).or ((Json.get? payload (py "text")).bind Json.str?)

/-- The three counts of a usage map, if all are there as integers. -/
def usageCounts (usage : Payload) : Option TokenSnapshot := do
  let input ← (Json.get? usage (py "input_tokens")).bind Json.int?
  let output ← (Json.get? usage (py "output_tokens")).bind Json.int?
  let total ← (Json.get? usage (py "total_tokens")).bind Json.int?
  pure ⟨input, output, total⟩

/-- What an update does to the running entry. -/
def RunningEntry.updated (entry : RunningEntry) (event : RuntimeEvent) : RunningEntry :=
  let counts := event.usage.bind usageCounts
  { entry with
    lastCodexEvent := some event.event
    lastCodexTimestamp := some event.timestamp
    lastCodexMessage := (extractMessageText event.payload).or entry.lastCodexMessage
    sessionId := ((extractSessionIds event.payload).map fun ids => composeSessionId ids.1 ids.2).or entry.sessionId
    -- `deque(maxlen=50)`: an append to a full deque drops the oldest
    recentEvents := (entry.recentEvents ++ [event]).drop (entry.recentEvents.length + 1 - 50)
    lastReportedInputTokens := (counts.map (·.inputTokens)).getD entry.lastReportedInputTokens
    lastReportedOutputTokens := (counts.map (·.outputTokens)).getD entry.lastReportedOutputTokens
    lastReportedTotalTokens := (counts.map (·.totalTokens)).getD entry.lastReportedTotalTokens }

/-- What an update adds to the totals: the growth of each count. -/
def addDeltas (totals : TokenSnapshot) (entry : RunningEntry) (counts : TokenSnapshot) : TokenSnapshot where
  inputTokens := totals.inputTokens + max 0 (counts.inputTokens - entry.lastReportedInputTokens)
  outputTokens := totals.outputTokens + max 0 (counts.outputTokens - entry.lastReportedOutputTokens)
  totalTokens := totals.totalTokens + max 0 (counts.totalTokens - entry.lastReportedTotalTokens)

def onCodexUpdate (state : OrchestratorState) (message : CodexUpdate) : OrchestratorState :=
  match state.running.get? message.issueId with
  | none => state
  | some entry =>
    { state.setRunning message.issueId (entry.updated message.event) with
      codexTotals := ((message.event.usage.bind usageCounts).map (addDeltas state.codexTotals entry)).getD
        state.codexTotals
      codexRateLimits := (extractRateLimits message.event.payload).or state.codexRateLimits }

/-- An update changes nothing, or one running entry and the totals. -/
theorem onCodexUpdate_cases (w : World) (m : CodexUpdate) :
    w.onState (onCodexUpdate · m) = w ∨
    ∃ entry totals limits, w.state.running.get? m.issueId = some entry ∧
      w.onState (onCodexUpdate · m) = w.onState fun s =>
        { s.setRunning m.issueId (entry.updated m.event) with codexTotals := totals, codexRateLimits := limits } := by
  cases hr : w.state.running.get? m.issueId with
  | none => exact .inl (by simp only [World.onState, onCodexUpdate, hr])
  | some entry => exact .inr ⟨entry, _, _, rfl, by simp only [World.onState, onCodexUpdate, hr]; rfl⟩

end RiverGang
