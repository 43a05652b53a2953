import Mathlib.Data.Finset.Card
import RiverGang.Lib.Window
import RiverGang.Orchestrator.Entries

/-!
# Snapshots

`observability/snapshot.py` and the detail of an issue in `http/routes_issue.py`: views of the state of the orchestrator.
Both count the turns of a running issue from `recent_events`, which is a buffer of the last fifty updates.

* `trace_recorded`: after any run, the buffer of a running entry is the window of all updates that were handled for it.
* `turn_count_iff`: so the count is that of all its turn starts exactly if none is among the updates that were dropped,
  and as long as that is so it does not fall.
-/

namespace RiverGang

open Py Coop Window

/-! ## The snapshot -/

def TURN_START_EVENTS : List Str := [py "turn_started", py "turn.start"]

def isTurnStart (evt : RuntimeEvent) : Bool := TURN_START_EVENTS.contains evt.event

/-- `_count_turn_starts` -/
def countTurnStarts (entry : RunningEntry) : Nat := entry.recentEvents.countP isTurnStart

structure RunningRow where
  issueId : Str
  identifier : Str
  title : Str
  state : Str
  priority : Option Int
  sessionId : Option Str
  startedAt : Instant
  lastCodexEvent : Option Str
  lastCodexTimestamp : Option Instant
  turnCount : Nat
  lastError : Option Str
  restartCount : Nat
  lastReportedInputTokens : Int
  lastReportedOutputTokens : Int
  lastReportedTotalTokens : Int

structure RetryRow where
  issueId : Str
  identifier : Option Str
  attempt : Nat
  kind : RetryKind
  fireAt : Instant
  lastError : Option Str

structure SnapshotCounts where
  running : Nat
  retrying : Nat
  completed : Nat

/-- `seconds_running` is in microseconds. -/
structure Snapshot where
  generatedAt : Instant
  counts : SnapshotCounts
  running : List RunningRow
  retrying : List RetryRow
  codexTotals : TokenSnapshot
  secondsRunning : Int
  rateLimits : Option RateLimitSnapshot

/-- `_build_running_row` -/
def buildRunningRow (entry : RunningEntry) : RunningRow where
  issueId := entry.issue.id
  identifier := entry.identifier
  title := entry.issue.title
  state := entry.issue.state
  priority := entry.issue.priority
  sessionId := entry.sessionId
  startedAt := entry.startedAt
  lastCodexEvent := entry.lastCodexEvent
  lastCodexTimestamp := entry.lastCodexTimestamp
  turnCount := countTurnStarts entry
  lastError := entry.lastError
  restartCount := entry.restartCount
  lastReportedInputTokens := entry.lastReportedInputTokens
  lastReportedOutputTokens := entry.lastReportedOutputTokens
  lastReportedTotalTokens := entry.lastReportedTotalTokens

/-- `_build_retry_rows` -/
def buildRetryRows (state : OrchestratorState) (retryQueue : Dict Str RetryEntry) : List RetryRow :=
  retryQueue.values.map fun entry =>
    ⟨entry.issueId, state.identifierIndex.get? entry.issueId, entry.attempt, entry.kind, entry.fireAt, entry.lastError⟩

/-- `_compute_seconds_running` -/
def computeSecondsRunning (state : OrchestratorState) (now : Instant) : Int :=
  state.running.values.foldl
    (fun active entry => if 0 < now - entry.startedAt then active + (now - entry.startedAt) else active) 0 +
      state.runtimeTotal

def buildSnapshot (state : OrchestratorState) (retryQueue : Dict Str RetryEntry) (now : Instant) : Snapshot :=
  let runningRows := state.running.values.map buildRunningRow
  let retryRows := buildRetryRows state retryQueue
  { generatedAt := now
    counts := ⟨runningRows.length, retryRows.length, state.completed.card⟩
    running := runningRows
    retrying := retryRows
    codexTotals := state.codexTotals
    secondsRunning := computeSecondsRunning state now
    rateLimits := state.codexRateLimits }

/-! ## The detail of an issue -/

structure IssueRunningBlock where
  sessionId : Option Str
  state : Str
  startedAt : Instant
  turnCount : Nat
  lastCodexEvent : Option Str
  lastCodexTimestamp : Option Instant
  lastCodexMessage : Option Str
  tokens : TokenSnapshot

structure IssueRetryBlock where
  attempt : Nat
  kind : RetryKind
  fireAt : Instant
  lastError : Option Str

inductive IssueStatus
  | running
  | retrying
  | completed
  deriving DecidableEq

/-- `IssueDetailResponse`; `tracked` and `logs` are always empty. -/
structure IssueDetail where
  issueId : Str
  identifier : Str
  title : Str
  state : Str
  status : IssueStatus
  restartCount : Nat
  currentRetryAttempt : Option Nat
  recentEvents : List RuntimeEvent
  lastError : Option Str
  running : Option IssueRunningBlock
  retry : Option IssueRetryBlock

/-- `lookup_issue_by_identifier` -/
def lookupIssueByIdentifier (state : OrchestratorState) (retryQueue : Dict Str RetryEntry) (identifier : Str) :
    Option RunningEntry × Option RetryEntry × Option Str :=
  match state.running.values.find? fun entry => entry.identifier = identifier with
  | some entry => (some entry, retryQueue.get? entry.issue.id, some entry.issue.id)
  | none =>
    match (state.identifierIndex.entries.find? fun p => p.2 = identifier).map Prod.fst with
    | none => (none, none, none)
    | some historicalId => (none, retryQueue.get? historicalId, some historicalId)

/-- The `running` block of an issue that has a worker. -/
def issueRunningBlock (running : RunningEntry) : IssueRunningBlock where
  sessionId := running.sessionId
  state := running.issue.state
  startedAt := running.startedAt
  turnCount := countTurnStarts running
  lastCodexEvent := running.lastCodexEvent
  lastCodexTimestamp := running.lastCodexTimestamp
  lastCodexMessage := running.lastCodexMessage
  tokens := ⟨running.lastReportedInputTokens, running.lastReportedOutputTokens, running.lastReportedTotalTokens⟩

/-- `get_issue_detail`; `none` is the response with the status 404. -/
def getIssueDetail (state : OrchestratorState) (retryQueue : Dict Str RetryEntry) (identifier : Str) :
    Option IssueDetail :=
  match lookupIssueByIdentifier state retryQueue identifier with
  | (some running, _, _) => some
      { issueId := running.issue.id
        identifier := running.identifier
        title := running.issue.title
        state := running.issue.state
        status := .running
        restartCount := running.restartCount
        currentRetryAttempt := none
        recentEvents := running.recentEvents
        lastError := running.lastError
        running := some (issueRunningBlock running)
        retry := none }
  | (none, _, none) => none
  | (none, some retry, some issueId) => some
      { issueId := issueId
        identifier := identifier
        title := []
        state := []
        status := .retrying
        restartCount := 0
        currentRetryAttempt := some retry.attempt
        recentEvents := []
        lastError := retry.lastError
        running := none
        retry := some ⟨retry.attempt, retry.kind, retry.fireAt, retry.lastError⟩ }
  | (none, none, some issueId) =>
    if issueId ∈ state.completed then some
      { issueId := issueId
        identifier := identifier
        title := []
        state := []
        status := .completed
        restartCount := 0
        currentRetryAttempt := none
        recentEvents := []
        lastError := none
        running := none
        retry := none }
    else none

theorem mem_values {κ ν : Type} [DecidableEq κ] {d : Dict κ ν} {v : ν} : v ∈ d.values ↔ ∃ k, d.get? k = some v := by
  simp only [Dict.values, List.mem_map, Prod.exists, exists_eq_right, Dict.mem_entries]

/-- Each running entry has its row. -/
theorem mem_snapshot_running {state : OrchestratorState} {entry : RunningEntry} {i : Str}
    (h : state.running.get? i = some entry) (retryQueue : Dict Str RetryEntry) (now : Instant) :
    buildRunningRow entry ∈ (buildSnapshot state retryQueue now).running :=
  List.mem_map.2 ⟨entry, mem_values.2 ⟨i, h⟩, rfl⟩

/-- A `running` block is that of a running entry of this identifier. -/
theorem detail_running {state : OrchestratorState} {retryQueue : Dict Str RetryEntry} {identifier : Str}
    {detail : IssueDetail} {block : IssueRunningBlock} (h : getIssueDetail state retryQueue identifier = some detail)
    (hb : detail.running = some block) : ∃ i entry, state.running.get? i = some entry ∧ entry.identifier = identifier ∧
      block = issueRunningBlock entry := by
  unfold getIssueDetail lookupIssueByIdentifier at h
  cases hf : state.running.values.find? fun entry => entry.identifier = identifier with
  | some entry =>
    simp only [hf, Option.some.injEq] at h
    subst h
    obtain ⟨i, hi⟩ := mem_values.1 (List.mem_of_find?_eq_some hf)
    have hid : entry.identifier = identifier := by simpa using List.find?_some hf
    exact ⟨i, entry, hi, hid, (Option.some.inj hb).symm⟩
  | none =>
    simp only [hf] at h
    cases hid : (state.identifierIndex.entries.find? fun p => p.2 = identifier).map Prod.fst with
    | none => simp [hid] at h
    | some issueId =>
      simp only [hid] at h
      cases hr : retryQueue.get? issueId with
      | some retry =>
        simp only [hr, Option.some.injEq] at h
        subst h
        cases hb
      | none =>
        simp only [hr, Option.ite_none_right_eq_some, Option.some.injEq] at h
        obtain ⟨-, rfl⟩ := h
        cases hb

/-! ## The updates of a run -/

/-- The update that a message is handled as, and the worker of the entry that it is for. -/
def handledUpdate? (w : World) : Message → Option (Nat × RuntimeEvent)
  | .codexUpdate m => (w.state.running.get? m.issueId).map fun entry => (entry.workerHandle, m.event)
  | _ => none

/-- The updates that were handled for the entry of a worker, since it was created. -/
def handledFor (receipts : List (World × Message)) (task : Nat) : List RuntimeEvent :=
  receipts.filterMap fun r => (handledUpdate? r.1 r.2).bind fun u => if u.1 = task then some u.2 else none

variable {rs : List (World × Message)} {w w' : World} {task : Nat}

theorem handledFor_concat (rs : List (World × Message)) (w : World) (m : Message) (task : Nat) :
    handledFor (rs ++ [(w, m)]) task = handledFor rs task ++
      ((handledUpdate? w m).bind fun u => if u.1 = task then some u.2 else none).toList := by
  rw [handledFor, List.filterMap_append, List.filterMap_cons]
  cases (handledUpdate? w m).bind fun u => if u.1 = task then some u.2 else none <;> rfl

theorem handledFor_mono {rs' : List (World × Message)} (h : rs <+: rs') (task : Nat) :
    handledFor rs task <+: handledFor rs' task := h.filterMap _

/-- The buffers hold the last fifty updates of their workers. -/
structure Recorded (rs : List (World × Message)) (w : World) : Prop where
  recent : ∀ i entry, w.state.running.get? i = some entry →
    entry.recentEvents = window 50 (handledFor rs entry.workerHandle)
  started : ∀ task, w.tasks.length ≤ task → handledFor rs task = []

theorem Recorded.carried (h : Recorded rs w) (hc : Carried w w') : Recorded rs w' where
  recent i entry' he := by
    obtain ⟨entry, he', issue, rfl⟩ := hc.entries i entry' he
    exact h.recent i entry he'
  started := by
    rw [hc.tasks]
    exact h.started

/-- A new worker has an empty buffer. -/
theorem Recorded.dispatched (h : Recorded rs w) (issue : Issue) (attempt : Nat) :
    Recorded rs (w.dispatched issue attempt) where
  recent i entry he := by
    rcases Dict.eq_or_of_get?_insert he with ⟨-, rfl⟩ | he
    · rw [show (freshEntry w.tasks.length issue attempt w.now).workerHandle = w.tasks.length from rfl,
        h.started _ (Nat.le_refl _), window_nil]
      rfl
    · exact h.recent i entry he
  started task ht := by
    have hlength : (w.dispatched issue attempt).tasks.length = w.tasks.length + 1 := List.length_append
    exact h.started task (by omega)

theorem Recorded.continued (h : Recorded rs w) (hc : Continued w w') : Recorded rs w' := by
  cases hc with
  | carried hk => exact h.carried hk
  | started issue attempt hk he =>
    rw [he]
    exact (h.carried hk).dispatched issue attempt

/-- A message that is no update of a running issue. -/
theorem Recorded.unhandled (h : Recorded rs w) {v : World} {m : Message} (hm : handledUpdate? v m = none) :
    Recorded (rs ++ [(v, m)]) w := by
  have hsame : ∀ task, handledFor (rs ++ [(v, m)]) task = handledFor rs task := by
    intro task
    rw [handledFor_concat, hm]
    simp
  constructor
  · simpa only [hsame] using h.recent
  · simpa only [hsame] using h.started

/-- **An update**: the buffer of its entry moves on by one. -/
theorem Recorded.update (h : Recorded rs w) (hsound : w.register.Sound) {v : World} {m : CodexUpdate}
    (hs : v.state = w.state) : Recorded (rs ++ [(v, .codexUpdate m)]) (w.onState (onCodexUpdate · m)) := by
  cases hr : w.state.running.get? m.issueId with
  | none =>
    have hw : w.onState (onCodexUpdate · m) = w := by simp only [World.onState, onCodexUpdate_of_none hr]
    rw [hw]
    exact h.unhandled (by simp only [handledUpdate?, hs, hr, Option.map_none])
  | some entry =>
    have hhandled : handledUpdate? v (.codexUpdate m) = some (entry.workerHandle, m.event) := by
      simp only [handledUpdate?, hs, hr, Option.map_some]
    have hlt : entry.workerHandle < w.tasks.length := by
      simpa [World.register] using hsound.lt (World.current_of_running hr)
    constructor
    · intro i entry' he
      change (onCodexUpdate w.state m).running.get? i = _ at he
      rw [get?_onCodexUpdate hr] at he
      rw [handledFor_concat, hhandled, Option.bind_some]
      split at he
      · cases he
        have hself : (entry.updated m.event).workerHandle = entry.workerHandle := rfl
        rw [hself, if_pos rfl, Option.toList_some, window_concat (by decide), ← h.recent _ _ hr]
        rfl
      · rename_i hne
        have hother : entry.workerHandle ≠ entry'.workerHandle := by
          intro heq
          exact hne (hsound.inj (World.current_of_running hr) (heq ▸ World.current_of_running he))
        rw [if_neg hother, Option.toList_none, List.append_nil]
        exact h.recent i entry' he
    · intro task ht
      have hlength : (w.onState (onCodexUpdate · m)).tasks.length = w.tasks.length := rfl
      rw [handledFor_concat, hhandled, Option.bind_some, if_neg (by omega), Option.toList_none, List.append_nil]
      exact h.started task (by omega)

/-! ## Runs -/

theorem recorded_accounts : Accounts Recorded where
  continued h hc := h.continued hc
  update h hsound hs := h.update hsound hs
  other := by
    intro rs w v m h _ hm
    cases m with
    | codexUpdate m => exact absurd rfl (hm m)
    | pollTick | workerExit | retryTimerFired | configReloaded | shutdown => exact h.unhandled rfl

theorem World.IsInitial.recorded (h : w.IsInitial) : Recorded [] w := by
  obtain ⟨config, now, client, factory, loader, spawnError, reloads, rfl⟩ := h
  constructor
  · intro i entry he
    cases he
  · exact fun _ _ => rfl

section Service

variable [Unicode] {D : OrchDiscipline}

/-- **The buffers**, after any run. -/
theorem trace_recorded {past : List (OrchConf × Label OrchSig Event)} {c : OrchConf}
    (h : orchestrator.Trace D World.IsInitial past c) : Recorded (orchestrator.receipts past) c.state :=
  recorded_accounts.trace (fun _ hw => hw.recorded) h

/-- The turn count is that of the last fifty updates. -/
theorem countTurnStarts_eq {past : List (OrchConf × Label OrchSig Event)} {c : OrchConf}
    (h : orchestrator.Trace D World.IsInitial past c) {i : Str} {entry : RunningEntry}
    (he : c.state.state.running.get? i = some entry) : countTurnStarts entry =
      (window 50 (handledFor (orchestrator.receipts past) entry.workerHandle)).countP isTurnStart := by
  rw [countTurnStarts, (trace_recorded h).recent i entry he]

/-- As long as no turn start is dropped, the count has not fallen since the entry was created. -/
theorem countTurnStarts_mono {past : List (OrchConf × Label OrchSig Event)} {c : OrchConf}
    (h : orchestrator.Trace D World.IsInitial past c) {i : Str} {entry : RunningEntry}
    (he : c.state.state.running.get? i = some entry)
    (hd : ∀ evt ∈ dropped 50 (handledFor (orchestrator.receipts past) entry.workerHandle), isTurnStart evt = false) :
    ∀ p ∈ past, ∀ j earlier, p.1.state.state.running.get? j = some earlier →
      earlier.workerHandle = entry.workerHandle → countTurnStarts earlier ≤ countTurnStarts entry := by
  intro p hp j earlier hj hw
  obtain ⟨pre, ht, hpre⟩ := h.before p hp
  rw [countTurnStarts_eq ht hj, countTurnStarts_eq h he, hw]
  exact countP_window_mono (handledFor_mono (hpre.filterMap _) _) hd

/-- **Turn counts**, after any run: in the row of a running entry and in the detail of its issue the count is that of all
turn starts that were handled for the entry since it was created exactly if none is older than the last fifty updates;
and then it has never been more. -/
theorem turn_count_iff {past : List (OrchConf × Label OrchSig Event)} {c : OrchConf}
    (h : orchestrator.Trace .free World.IsInitial past c) {i : Str} {entry : RunningEntry}
    (he : c.state.state.running.get? i = some entry) :
    let handled := handledFor (orchestrator.receipts past) entry.workerHandle
    let kept := ∀ evt ∈ dropped 50 handled, isTurnStart evt = false
    (∀ now, buildRunningRow entry ∈ (buildSnapshot c.state.state c.state.retryQueue now).running) ∧
    ((buildRunningRow entry).turnCount = handled.countP isTurnStart ↔ kept) ∧
    ((issueRunningBlock entry).turnCount = handled.countP isTurnStart ↔ kept) ∧
    (kept → ∀ p ∈ past, ∀ j earlier, p.1.state.state.running.get? j = some earlier →
      earlier.workerHandle = entry.workerHandle →
      (buildRunningRow earlier).turnCount ≤ (buildRunningRow entry).turnCount ∧
      (issueRunningBlock earlier).turnCount ≤ (issueRunningBlock entry).turnCount) := by
  intro handled kept
  have hcount : countTurnStarts entry = handled.countP isTurnStart ↔ kept := by
    rw [countTurnStarts_eq h he]
    exact countP_window_iff
  refine ⟨fun now => mem_snapshot_running he _ now, hcount, hcount, fun hk p hp j earlier hj hw => ?_⟩
  have hle := countTurnStarts_mono h he hk p hp j earlier hj hw
  exact ⟨hle, hle⟩

end Service

section Sample

attribute [local instance] asciiTables

def sampleEvent (event : Str) : RuntimeEvent := ⟨event, 63000000000000000, 42, [], none⟩

/-- A tick starts an issue, whose worker starts a turn and then sends `n` messages. -/
def sampleMessages (n : Nat) : List (Label OrchSig Event) :=
  sampleTick ++ [.event (.emit 0 (sampleEvent (py "turn_started"))), .recv] ++
    (List.replicate n [.event (.emit 0 (sampleEvent (py "agent_message"))), .recv]).flatten

theorem turn_count_iff_sample : ∃ past c entry, orchestrator.Trace .free World.IsInitial past c ∧
    c.state.state.running.get? (py "a") = some entry ∧
    (handledFor (orchestrator.receipts past) entry.workerHandle).map (·.event) =
      [py "turn_started", py "agent_message"] ∧
    (buildRunningRow entry).turnCount =
      (handledFor (orchestrator.receipts past) entry.workerHandle).countP isTurnStart := by
  have hrun : ((orchestrator.run sampleStart (sampleMessages 1)).bind fun c =>
      (c.state.state.running.get? (py "a")).map (·.workerHandle)) = some 0 := by decide +kernel
  have hhandled : (handledFor (orchestrator.receipts (orchestrator.stages sampleStart (sampleMessages 1))) 0).map
      (·.event) = [py "turn_started", py "agent_message"] := by decide +kernel
  obtain ⟨c, hc, he⟩ := Option.bind_eq_some_iff.1 hrun
  obtain ⟨entry, he, hw⟩ := Option.map_eq_some_iff.1 he
  have ht : orchestrator.Trace .free World.IsInitial (orchestrator.stages sampleStart (sampleMessages 1)) c :=
    .run (.start sampleWorld_isInitial) (fun l _ => Discipline.always_free l) hc
  refine ⟨_, c, entry, ht, he, by rw [hw]; exact hhandled, (turn_count_iff ht he).2.1.2 ?_⟩
  rw [hw]
  have hlength := congrArg List.length hhandled
  rw [List.length_map] at hlength
  intro evt hevt
  simp [dropped, hlength] at hevt

/-- The worker of an entry, and its turn count. -/
def shownCount (c : OrchConf) : Option (Nat × Nat) :=
  (c.state.state.running.get? (py "a")).map fun entry => (entry.workerHandle, (buildRunningRow entry).turnCount)

/-- Fifty messages later the count is back at zero. -/
theorem turn_count_falls : ∃ past c entry, orchestrator.Trace .free World.IsInitial past c ∧
    c.state.state.running.get? (py "a") = some entry ∧
    (handledFor (orchestrator.receipts past) entry.workerHandle).countP isTurnStart = 1 ∧
    (buildRunningRow entry).turnCount = 0 ∧
    ∃ p ∈ past, ∃ earlier, p.1.state.state.running.get? (py "a") = some earlier ∧
      earlier.workerHandle = entry.workerHandle ∧ (buildRunningRow earlier).turnCount = 1 := by
  have hrun : (orchestrator.run sampleStart (sampleMessages 50)).bind shownCount = some (0, 0) := by decide +kernel
  have hhandled : (handledFor (orchestrator.receipts (orchestrator.stages sampleStart (sampleMessages 50))) 0).countP
      isTurnStart = 1 := by decide +kernel
  have hearlier : (orchestrator.stages sampleStart (sampleMessages 50))[7]?.bind (fun p => shownCount p.1) =
      some (0, 1) := by decide +kernel
  obtain ⟨c, hc, he⟩ := Option.bind_eq_some_iff.1 hrun
  obtain ⟨entry, he, hw⟩ := Option.map_eq_some_iff.1 he
  obtain ⟨p, hp, hj⟩ := Option.bind_eq_some_iff.1 hearlier
  obtain ⟨earlier, hj, hw'⟩ := Option.map_eq_some_iff.1 hj
  simp only [Prod.mk.injEq] at hw hw'
  have ht : orchestrator.Trace .free World.IsInitial (orchestrator.stages sampleStart (sampleMessages 50)) c :=
    .run (.start sampleWorld_isInitial) (fun l _ => Discipline.always_free l) hc
  exact ⟨_, c, entry, ht, he, by rw [hw.1]; exact hhandled, hw.2, p, List.mem_of_getElem? hp, earlier, hj,
    hw'.1.trans hw.1.symm, hw'.2⟩

end Sample

end RiverGang
