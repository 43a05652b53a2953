import RiverGang.Lib.Sort
import RiverGang.Orchestrator.Retry

/-!
# Eligibility, order, slots and the spawn

`orchestrator/dispatch.py`. A worker factory fails where the world says so; else it starts a task on the attempt.

* `filterCandidates`, `sortForDispatch`: the order is the tuple comparison of Python, equal components skipped; it
  raises where it gets to compare a naive with an aware `created_at` (`dispatchLt_ok`).
* `availableSlotsForDispatch`, `concurrencyCheck`.
* `dispatchIssue`, and all it can come to (`dispatchIssue_cases`, `dispatchIssue_ret`).
-/

namespace RiverGang

open Py Coop Task

variable [Unicode]

/-! ## Eligibility and order -/

def hasNonTerminalBlocker (issue : Issue) (terminalNorm : List Str) : Bool :=
  issue.blockedBy.any fun blocker =>
    match blocker.state with
    | none => true
    | some s => lower s ∉ terminalNorm

/-- The test that `filter_candidates` applies to each issue. -/
def isCandidate (state : OrchestratorState) (activeNorm terminalNorm : List Str) (issue : Issue) : Bool :=
  lower issue.state ∉ terminalNorm && lower issue.state ∈ activeNorm && issue.id ∉ state.running &&
    !state.isClaimed issue.id && !hasNonTerminalBlocker issue terminalNorm

def filterCandidates (issues : List Issue) (state : OrchestratorState) (activeStates terminalStates : List Str) :
    List Issue :=
  issues.filter (isCandidate state (activeStates.map lower) (terminalStates.map lower))

/-- `_FAR_FUTURE`, the date of an issue without one. -/
def farFuture : DateTime := .maxUtc

structure DispatchKey where
  priorityBucket : Nat
  priorityVal : Int
  created : DateTime
  identifier : Str

def dispatchSortKey (issue : Issue) : DispatchKey where
  priorityBucket := if issue.priority.isSome then 0 else 1
  priorityVal := issue.priority.getD 0
  created := issue.createdAt.getD farFuture
  identifier := issue.identifier

/-- `a < b` on keys as tuples: the first components that differ decide. -/
def DispatchKey.lt (a b : DispatchKey) : Except Exn Bool :=
  if a.priorityBucket ≠ b.priorityBucket then .ok (a.priorityBucket < b.priorityBucket)
  else if a.priorityVal ≠ b.priorityVal then .ok (a.priorityVal < b.priorityVal)
  else if !a.created.eq b.created then liftPy (a.created.lt b.created)
  else .ok (a.identifier < b.identifier)

def sortForDispatch (issues : List Issue) : Except Exn (List Issue) :=
  sorted (fun x y => (dispatchSortKey x).lt (dispatchSortKey y)) issues

omit [Unicode] in
/-- Keys whose dates are both naive or both aware compare. -/
theorem DispatchKey.lt_ok {a b : DispatchKey} (h : a.created.aware = b.created.aware) : ∃ r, a.lt b = .ok r := by
  unfold DispatchKey.lt
  split
  · exact ⟨_, rfl⟩
  · split
    · exact ⟨_, rfl⟩
    · split
      · obtain ⟨r, hr⟩ := DateTime.lt_ok h
        exact ⟨r, by rw [hr]; rfl⟩
      · exact ⟨_, rfl⟩

omit [Unicode] in
/-- So do keys of different priority. -/
theorem DispatchKey.lt_ok_of_ne {a b : DispatchKey}
    (h : a.priorityBucket ≠ b.priorityBucket ∨ a.priorityVal ≠ b.priorityVal) : ∃ r, a.lt b = .ok r := by
  unfold DispatchKey.lt
  split
  · exact ⟨_, rfl⟩
  · rename_i hb
    rw [if_pos (h.resolve_left hb)]
    exact ⟨_, rfl⟩

/-! ## Slots -/

/-- The cap of a state: its entry in the map, or the global cap. -/
def stateCap (stateName : Str) (maxGlobal : Int) (perStateMap : List (Str × Int)) : Int :=
  ((perStateMap.reverse.find? fun p => lower p.1 = lower stateName).map Prod.snd).getD maxGlobal

def availableSlotsForDispatch (stateName : Str) (maxGlobal : Int) (currentRunningTotal : Nat)
    (perStateMap : List (Str × Int)) (currentPerState : Nat) : Int :=
  let globalSlots := max (maxGlobal - currentRunningTotal) 0
  let stateSlots := max (stateCap stateName maxGlobal perStateMap - currentPerState) 0
  min globalSlots stateSlots

/-- The slots that a state has left for issues in a tracker state. -/
def slotsFor (stateName : Str) (state : OrchestratorState) (perStateMap : List (Str × Int)) : Int :=
  availableSlotsForDispatch stateName state.maxConcurrentAgents state.running.length perStateMap
    (state.countInState stateName)

def concurrencyCheck (issue : Issue) (state : OrchestratorState) (perStateMap : List (Str × Int)) : Bool :=
  0 < slotsFor issue.state state perStateMap

theorem concurrencyCheck_iff {issue : Issue} {state : OrchestratorState} {perStateMap : List (Str × Int)} :
    concurrencyCheck issue state perStateMap = true ↔ 0 < slotsFor issue.state state perStateMap := by
  simp [concurrencyCheck]

omit [Unicode]

/-! ## The spawn -/

/-- `worker_factory(issue, attempt)`, a task. -/
def workerFactory (issue : Issue) (attempt : Nat) : Orch Nat := do
  let w ← get
  match w.spawnError issue attempt with
  | some exc => raise exc
  | none =>
    modify (·.createTask issue attempt)
    pure w.tasks.length

/-- The entry of a fresh worker. -/
def freshEntry (task : Nat) (issue : Issue) (attempt : Nat) (startedAt : Instant) : RunningEntry where
  workerHandle := task
  identifier := issue.identifier
  issue := issue
  sessionId := none
  lastReportedInputTokens := 0
  lastReportedOutputTokens := 0
  lastReportedTotalTokens := 0
  startedAt := startedAt
  lastCodexTimestamp := none
  lastCodexEvent := none
  lastCodexMessage := none
  recentEvents := []
  lastError := none
  restartCount := 0
  retryAttempt := attempt

def dispatchIssue (issue : Issue) (attempt : Nat) (maxRetryBackoffMs : Int) : Orch (Option RunningEntry) := do
  modify (·.cancelRetry issue.id)
  modify (·.onState (·.markClaimed issue.id))
  let task ← tryExcept Exn.isException (do pure (some (← workerFactory issue attempt))) fun exc => do
    modify (·.onState (·.unclaim issue.id))
    RetryQueue.schedule issue.id (attempt + 1) .failure maxRetryBackoffMs (fun _ => .ignore) (some exc.msg)
    pure none
  match task with
  | none => pure none
  | some task =>
    let w ← get
    let entry := freshEntry task issue attempt w.now
    modify (·.onState (·.addRunning entry))
    pure (some entry)

namespace World

/-- The world after a spawn. -/
def dispatched (w : World) (issue : Issue) (attempt : Nat) : World :=
  (((w.cancelRetry issue.id).onState (·.markClaimed issue.id)).createTask issue attempt).onState
    (·.addRunning (freshEntry w.tasks.length issue attempt w.now))

/-- The world in which a failed spawn is rescheduled. -/
def spawnFailed (w : World) (issueId : Str) : World :=
  ((w.cancelRetry issueId).onState (·.markClaimed issueId)).onState (·.unclaim issueId)

end World

theorem workerFactory_none {issue : Issue} {attempt : Nat} {w : World} (h : w.spawnError issue attempt = none) :
    workerFactory issue attempt w = .ret w.tasks.length (w.createTask issue attempt) := by
  simp [workerFactory, h]

theorem workerFactory_some {issue : Issue} {attempt : Nat} {w : World} {exc : Exn}
    (h : w.spawnError issue attempt = some exc) : workerFactory issue attempt w = .raise exc w := by
  simp [workerFactory, h]

theorem dispatchIssue_of_none {issue : Issue} {attempt : Nat} {w : World} (cap : Int)
    (h : w.spawnError issue attempt = none) : dispatchIssue issue attempt cap w =
      .ret (some (freshEntry w.tasks.length issue attempt w.now)) (w.dispatched issue attempt) := by
  have h' : ((w.cancelRetry issue.id).onState (·.markClaimed issue.id)).spawnError issue attempt = none := h
  simp only [dispatchIssue, bind_apply, modify_apply, Res.bind_ret, tryExcept_apply, workerFactory_none h', pure_apply,
    Res.tryExcept_ret, get_apply]
  rfl

/-- A failed spawn comes to what scheduling its retry comes to. -/
theorem dispatchIssue_of_some {issue : Issue} {attempt : Nat} {w : World} {exc : Exn} (cap : Int)
    (h : w.spawnError issue attempt = some exc) (hx : exc.isException = true) : dispatchIssue issue attempt cap w =
      (RetryQueue.schedule issue.id (attempt + 1) .failure cap (fun _ => .ignore) (some exc.msg)
        (w.spawnFailed issue.id)).bind fun _ => pure none := by
  have h' : ((w.cancelRetry issue.id).onState (·.markClaimed issue.id)).spawnError issue attempt = some exc := h
  have hs : w.spawnFailed issue.id =
    ((w.cancelRetry issue.id).onState (·.markClaimed issue.id)).onState (·.unclaim issue.id) := rfl
  simp only [dispatchIssue, bind_apply, modify_apply, Res.bind_ret, tryExcept_apply, workerFactory_some h',
    Res.bind_raise, Res.tryExcept_raise, hx, if_true, ← hs]
  rcases RetryQueue.schedule_cases issue.id (attempt + 1) .failure cap (fun _ => .ignore) (some exc.msg)
    (w.spawnFailed issue.id) with
    ⟨d, -, -, h2⟩ | ⟨-, e, w', h2, -⟩
  · simp only [h2, Res.bind_ret, pure_apply]
  · simp only [h2, Res.bind_raise]

theorem dispatchIssue_of_not_exception {issue : Issue} {attempt : Nat} {w : World} {exc : Exn} (cap : Int)
    (h : w.spawnError issue attempt = some exc) (hx : exc.isException = false) : dispatchIssue issue attempt cap w =
      .raise exc ((w.cancelRetry issue.id).onState (·.markClaimed issue.id)) := by
  have h' : ((w.cancelRetry issue.id).onState (·.markClaimed issue.id)).spawnError issue attempt = some exc := h
  simp only [dispatchIssue, bind_apply, modify_apply, Res.bind_ret, tryExcept_apply, workerFactory_some h',
    Res.bind_raise, Res.tryExcept_raise, hx, Bool.false_eq_true, if_false]

/-- A dispatch starts a task; or fails to, and then either is scheduled again or raises. -/
theorem dispatchIssue_cases (issue : Issue) (attempt : Nat) (cap : Int) (w : World) :
    (w.spawnError issue attempt = none ∧ dispatchIssue issue attempt cap w =
      .ret (some (freshEntry w.tasks.length issue attempt w.now)) (w.dispatched issue attempt)) ∨
    (∃ exc delay, w.spawnError issue attempt = some exc ∧
      RetryQueue.delayMs .failure (attempt + 1) cap = .ok delay ∧
      dispatchIssue issue attempt cap w = .ret none
        ((w.spawnFailed issue.id).scheduled issue.id (attempt + 1) .failure delay (fun _ => .ignore) (some exc.msg))) ∨
    (∃ exc, w.spawnError issue attempt = some exc ∧
      (exc.isException = true → ∀ delay, RetryQueue.delayMs .failure (attempt + 1) cap = .ok delay →
        ¬ RetryQueue.DelayFits w.now delay) ∧
      ∃ e w', dispatchIssue issue attempt cap w = .raise e w' ∧
        ((w.cancelRetry issue.id).onState (·.markClaimed issue.id) = w' ∨
          (w.spawnFailed issue.id).Unscheduled issue.id w')) := by
  cases hs : w.spawnError issue attempt with
  | none => exact .inl ⟨rfl, dispatchIssue_of_none cap hs⟩
  | some exc =>
    right
    cases hx : exc.isException with
    | false => exact .inr ⟨exc, rfl, by simp [hx], _, _, dispatchIssue_of_not_exception cap hs hx, .inl rfl⟩
    | true =>
      have hd := dispatchIssue_of_some cap hs hx
      rcases RetryQueue.schedule_cases issue.id (attempt + 1) .failure cap (fun _ => .ignore) (some exc.msg)
        (w.spawnFailed issue.id) with
        ⟨d, h1, -, h2⟩ | ⟨h1, e, w', h2, hu⟩
      · exact .inl ⟨exc, d, rfl, h1, by rw [hd, h2]; rfl⟩
      · exact .inr ⟨exc, rfl, fun _ => h1, e, w', by rw [hd, h2]; rfl, .inr hu⟩

theorem dispatchIssue_sync (issue : Issue) (attempt : Nat) (cap : Int) (w : World) :
    (dispatchIssue issue attempt cap w).Sync := by
  rcases dispatchIssue_cases issue attempt cap w with ⟨-, h⟩ | ⟨_, _, -, -, h⟩ | ⟨_, -, -, _, _, h, -⟩ <;>
    rw [h] <;> trivial

/-- What a dispatch left, if it returned. -/
theorem dispatchIssue_ret {issue : Issue} {attempt : Nat} {cap : Int} {w w' : World} {r : Option RunningEntry}
    (h : dispatchIssue issue attempt cap w = .ret r w') :
    (w.spawnError issue attempt = none ∧ w' = w.dispatched issue attempt) ∨
    ∃ exc delay, w.spawnError issue attempt = some exc ∧
      w' = (w.spawnFailed issue.id).scheduled issue.id (attempt + 1) .failure delay (fun _ => .ignore)
        (some exc.msg) := by
  rcases dispatchIssue_cases issue attempt cap w with ⟨hs, hd⟩ | ⟨exc, delay, hs, -, hd⟩ |
    ⟨exc, -, -, e, w'', hd, -⟩
  · rw [hd] at h
    cases h
    exact .inl ⟨hs, rfl⟩
  · rw [hd] at h
    cases h
    exact .inr ⟨exc, delay, hs, rfl⟩
  · rw [hd] at h
    cases h

/-- What a dispatch left, if it raised: the claim aside, nothing new. -/
theorem dispatchIssue_raise {issue : Issue} {attempt : Nat} {cap : Int} {w w' : World} {e : Exn}
    (h : dispatchIssue issue attempt cap w = .raise e w') :
    ∃ claimed, (claimed = insert issue.id w.state.claimed ∨
        claimed = (insert issue.id w.state.claimed).erase issue.id) ∧
      (w.onState fun s => { s with claimed := claimed }).Unscheduled issue.id w' := by
  rcases dispatchIssue_cases issue attempt cap w with ⟨-, hd⟩ | ⟨exc, delay, -, -, hd⟩ |
    ⟨exc, -, -, e', w'', hd, hu⟩
  · rw [hd] at h
    cases h
  · rw [hd] at h
    cases h
  · rw [hd] at h
    cases h
    rcases hu with rfl | ⟨q, ts, n, rfl, hq⟩
    · obtain ⟨q, ts, n, hw, hq⟩ := w.unscheduled_cancelRetry issue.id
      exact ⟨_, .inl rfl, q, ts, n, by rw [hw]; rfl, hq⟩
    · refine ⟨_, .inr rfl, q, ts, n, rfl, fun j => ?_⟩
      have he : (w.spawnFailed issue.id).retryQueue.get? j =
        if issue.id = j then none else w.retryQueue.get? j := Dict.get?_erase ..
      rcases hq j with h | h
      · rw [h, he]
        split
        · rename_i hj
          exact .inr ⟨hj, rfl⟩
        · exact .inl rfl
      · exact .inr h

end RiverGang
