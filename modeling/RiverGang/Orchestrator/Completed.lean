import RiverGang.Orchestrator.Backoff

/-!
# Retries of issues that once completed

`on_worker_exit` notes an issue on which an attempt ended well in `completed`, where it stays; and `on_retry_timer` drops
the entry of such an issue, whatever the entry is for.

* `completed_iff`: an issue is in `completed` where an exit with `ok` was handled while it was running.
* `failed_attempt_retried`: a failed attempt leaves an entry with a timer, and when the message of the timer finds the
  entry, the issue is started at the attempt of the entry exactly where no such exit was handled in the run before.
* `failed_attempt_dropped`: a run in which an issue completes, is started again and fails, and its retry is dropped.
-/

namespace RiverGang

open Py Coop Task

section Service

variable [Unicode]

/-! ## What is completed -/

/-- An exit with `ok` was received while its issue was running. -/
def Finished (rs : List (World × Message)) (i : Str) : Prop :=
  ∃ w x, (w, .workerExit x) ∈ rs ∧ x.ok = true ∧ x.issueId = i ∧ i ∈ w.state.running

/-- The exit that a phase is about to handle completes the issue. -/
def Phase.Finishing (i : Str) : Phase → World → Prop
  | .handling (.workerExit x), w => x.ok = true ∧ x.issueId = i ∧ i ∈ w.state.running
  | _, _ => False

/-- The completed issues are the finished ones, but for the exit that is being handled. -/
def Tallied (rs : List (World × Message)) : Phase → World → Prop
  | .crashed _, _ => True
  | φ, w => ∀ i, Finished rs i ↔ i ∈ w.state.completed ∨ φ.Finishing i w

variable {rs : List (World × Message)} {w w' : World} {φ φ' : Phase}

omit [Unicode] in
theorem Tallied.iff (h : Tallied rs φ w) (hφ : ∀ e, φ ≠ .crashed e) (i : Str) :
    Finished rs i ↔ i ∈ w.state.completed ∨ φ.Finishing i w := by
  cases φ with
  | crashed e => exact absurd rfl (hφ e)
  | handling | loop | retry | done => exact h i

omit [Unicode] in
theorem Tallied.of_iff (h : ∀ i, Finished rs i ↔ i ∈ w.state.completed ∨ φ.Finishing i w) : Tallied rs φ w := by
  cases φ with
  | crashed => trivial
  | handling | loop | retry | done => exact h

omit [Unicode] in
theorem completed_dispatchIssue {issue : Issue} {attempt : Nat} {cap : Int} {r : Option RunningEntry}
    (h : dispatchIssue issue attempt cap w = .ret r w') : w'.state.completed = w.state.completed := by
  rcases dispatchIssue_ret h with ⟨-, rfl⟩ | ⟨exc, delay, -, rfl⟩ <;> rfl

omit [Unicode] in
theorem completed_exited (w : World) (x : WorkerExit) (i : Str) :
    i ∈ (w.exited x).state.completed ↔ i ∈ w.state.completed ∨ x.ok = true ∧ x.issueId = i := by
  unfold World.exited
  cases x.ok with
  | false => simp [World.onState, OrchestratorState.removeRunning, OrchestratorState.addRuntimeSeconds]
  | true =>
    change i ∈ insert x.issueId w.state.completed ↔ _
    rw [Finset.mem_insert]
    constructor
    · rintro (rfl | h)
      · exact .inr ⟨rfl, rfl⟩
      · exact .inl h
    · rintro (h | ⟨-, rfl⟩)
      · exact .inr h
      · exact .inl rfl

omit [Unicode] in
/-- A step that completes nothing. -/
theorem Tallied.same (h : Tallied rs φ w) (hφ : ∀ e, φ ≠ .crashed e) (hn : ∀ i v, ¬ φ.Finishing i v)
    (hn' : ∀ i v, ¬ φ'.Finishing i v) (hc : w'.state.completed = w.state.completed) : Tallied rs φ' w' := by
  refine .of_iff fun i => ?_
  rw [h.iff hφ i, hc]
  simp [hn i w, hn' i w']

/-- **The step lemma.** -/
theorem Work.tallied {D : OrchDiscipline} (h : Tallied rs φ w) (hw : Work D w φ w' φ') : Tallied rs φ' w' := by
  cases hw with
  | stall | terminateWithCleanup | terminateWithoutCleanup | refresh | adopt | eligible | skip | rewait | reload | noEntry
    | completed | popRetry | release =>
    exact h.same (fun _ => by simp) (fun _ _ => id) (fun _ _ => id) rfl
  | skipTick ht | endLoop ht =>
    refine h.same (fun _ => by simp) (fun _ _ => id) (fun _ _ => id) ?_
    rw [scheduleNextTick_ret ht, World.tickScheduled_eq]
  | dispatch _ hd =>
    exact h.same (fun _ => by simp) (fun _ _ => id) (fun _ _ => id) ((completed_dispatchIssue hd).trans rfl)
  | redispatch _ _ hd => exact h.same (fun _ => by simp) (fun _ _ => id) (fun _ _ => id) (completed_dispatchIssue hd)
  | @exit _ x hx =>
    refine .of_iff fun i => ?_
    rw [h.iff (fun _ => by simp) i]
    change _ ∨ (x.ok = true ∧ x.issueId = i ∧ i ∈ w.state.running) ↔ _ ∨ False
    rcases onWorkerExit_ret hx with ⟨hn, rfl⟩ | ⟨entry, delay, hr, rfl⟩
    · have hnot := Dict.get?_eq_none.1 hn
      constructor
      · rintro (hc | ⟨-, rfl, hr⟩)
        · exact .inl hc
        · exact absurd hr hnot
      · rintro (hc | hf)
        · exact .inl hc
        · exact hf.elim
    · have hmem := Dict.mem_of_get? hr
      change _ ↔ i ∈ (w.exited x).state.completed ∨ False
      rw [completed_exited, or_false]
      constructor
      · rintro (hc | ⟨hok, hi, -⟩)
        · exact .inl hc
        · exact .inr ⟨hok, hi⟩
      · rintro (hc | ⟨hok, rfl⟩)
        · exact .inl hc
        · exact .inr ⟨hok, rfl, hmem⟩
  | @update m =>
    refine h.same (fun _ => by simp) (fun _ _ => id) (fun _ _ => id) ?_
    rcases onCodexUpdate_cases w m with hu | ⟨entry, totals, limits, -, hu⟩ <;> rw [hu]
    rfl
  | shutdown =>
    refine h.same (fun _ => by simp) (fun _ _ => id) (fun _ _ => id) ?_
    rw [World.tickCancelled_eq]
  | reschedule hs =>
    obtain ⟨d, -, rfl⟩ := RetryQueue.schedule_ret hs
    exact h.same (fun _ => by simp) (fun _ _ => id) (fun _ _ => id) rfl
  | crash => trivial

omit [Unicode] in
theorem Tallied.event {e : Event} (h : Tallied rs φ w) (he : World.event e w = some w') : Tallied rs φ w' := by
  have hs := (event_frame he).state
  cases φ with
  | crashed => trivial
  | handling m =>
    refine .of_iff fun i => ?_
    rw [h.iff (fun _ => by simp) i]
    cases m <;> simp only [Phase.Finishing, hs]
  | loop | retry | done =>
    refine .of_iff fun i => ?_
    rw [h.iff (fun _ => by simp) i, hs]
    exact Iff.rfl

omit [Unicode] in
/-- A receipt is noted, and left to be handled. -/
theorem Tallied.recv {m m' : Message} (h : Tallied rs (.done m') w) (hr : w.recv = some (m, w')) :
    Tallied (rs ++ [(w, m)]) (.handling m) w' := by
  obtain ⟨hw, -⟩ := recv_eq hr
  have hst : w'.state = w.state := by rw [hw]
  refine .of_iff fun i => ?_
  have hsplit : Finished (rs ++ [(w, m)]) i ↔ Finished rs i ∨ Phase.Finishing i (.handling m) w' := by
    constructor
    · rintro ⟨v, x, hm, hok, hi, hrun⟩
      rcases List.mem_append.1 hm with hm | hm
      · exact .inl ⟨v, x, hm, hok, hi, hrun⟩
      · cases List.mem_singleton.1 hm
        exact .inr ⟨hok, hi, hst ▸ hrun⟩
    · rintro (⟨v, x, hm, hx⟩ | hf)
      · exact ⟨v, x, List.mem_append_left _ hm, hx⟩
      · cases m with
        | workerExit x => exact ⟨w, x, List.mem_append_right _ List.mem_cons_self, hf.1, hf.2.1, hst ▸ hf.2.2⟩
        | pollTick | codexUpdate | retryTimerFired | configReloaded | shutdown => exact hf.elim
  rw [hsplit, h.iff (fun _ => by simp) i, hst]
  change (_ ∨ False) ∨ _ ↔ _
  rw [or_false]

/-- **What is completed**, in every run between messages: the issues on which an exit with `ok` was handled while they
were running. -/
theorem completed_iff {D : OrchDiscipline} {past : List (OrchConf × Label OrchSig Event)} {c : OrchConf}
    (h : orchestrator.Trace D World.IsInitial past c) (hc : c.mode = .idle) (i : Str) :
    i ∈ c.state.state.completed ↔ Finished (orchestrator.receipts past) i := by
  have hs := Phases.trace_says (J := fun rs w => Tallied rs (.done .pollTick) w) (K := Tallied) (handlers_simulate D)
    (fun rs => ⟨fun hk hw => hw.tallied hk, fun hk _ _ he => hk.event he⟩) (fun w hw => ?_)
    (fun rs w e w' hk _ he => hk.event he) (fun rs w m w' hk hr _ => hk.recv hr) (fun rs w m _ hk => hk) h
  · obtain ⟨w, mode⟩ := c
    obtain rfl : mode = .idle := hc
    exact ((hs i).trans (or_false _).to_iff).symm
  · obtain ⟨config, now, client, factory, loader, spawnError, reloads, rfl⟩ := hw
    refine .of_iff fun i => ?_
    constructor
    · rintro ⟨v, x, hm, -⟩
      cases hm
    · rintro (hm | hf)
      · exact absurd hm (Finset.notMem_empty i)
      · exact hf.elim

/-! ## The retry -/

/-- The handling of a retry asks for the candidates, and an issue of its id with a slot free is dispatched at attempt
`n`, whatever has happened meanwhile. -/
def RetryMade (m : RetryTimerFired) (n : Nat) (w : World) : Prop :=
  ∃ states v k, handle (.retryTimerFired m) w = .await (.fetchCandidateIssues states) v k ∧
    ∀ v' candidates issue, v.EventFrame v' → (candidates.find? fun c => c.id = m.issueId) = some issue →
      0 < slotsFor issue.state v'.state v'.config.agent.maxConcurrentAgentsByState →
      k (.ok candidates) v' = (dispatchIssue issue n v'.config.agent.maxRetryBackoffMs v').bind fun _ => .ret ()

theorem handle_retry_completed {m : RetryTimerFired} {entry : RetryEntry} (he : w.retryQueue.get? m.issueId = some entry)
    (hc : m.issueId ∈ w.state.completed) :
    handle (.retryTimerFired m) w = .ret () ((w.popRetry m.issueId).onState (·.unclaim m.issueId)) := by
  simp only [handle, onRetryTimer, bind_apply, get_apply, Res.bind_ret, he, modify_apply, hc, if_true]

theorem retryMade_of_not_completed {m : RetryTimerFired} {entry : RetryEntry}
    (he : w.retryQueue.get? m.issueId = some entry) (hc : m.issueId ∉ w.state.completed) :
    RetryMade m entry.attempt w := by
  simp only [RetryMade, handle, onRetryTimer, fetchFilteredCandidates, Orch.fetchCandidateIssues, bind_apply, get_apply,
    Res.bind_ret, he, modify_apply, hc, if_false, request_apply, Res.bind_await]
  refine ⟨_, _, _, rfl, fun v' candidates issue hf hi hs => ?_⟩
  have hconf : v'.config = w.config := hf.config
  rw [hconf] at hs
  simp only [hi, bind_apply, get_apply, Res.bind_ret, not_le.2 hs, if_false, retryDispatchFn]
  rfl

/-- A retry whose entry is there is made where its issue did not complete. -/
theorem retryMade_iff {m : RetryTimerFired} {entry : RetryEntry} (he : w.retryQueue.get? m.issueId = some entry) :
    RetryMade m entry.attempt w ↔ m.issueId ∉ w.state.completed := by
  refine ⟨fun h hc => ?_, retryMade_of_not_completed he⟩
  obtain ⟨states, v, k, hk, -⟩ := h
  rw [handle_retry_completed he hc] at hk
  cases hk

/-- What the exit of a running issue leaves: an entry for the next attempt, and its timer. -/
theorem Handles.exit_entry {D : OrchDiscipline} {c : OrchConf} {x : WorkerExit}
    (h : Handles D c (.workerExit x) w) {entry : RunningEntry}
    (he : c.state.state.running.get? x.issueId = some entry) :
    ∃ e delay, RetryQueue.delayMs x.retryKind (entry.retryAttempt + 1) c.state.config.agent.maxRetryBackoffMs = .ok delay ∧
      w.retryQueue.get? x.issueId = some e ∧ e.kind = x.retryKind ∧ e.attempt = entry.retryAttempt + 1 ∧
      e.fireAt = e.scheduledAt + delay * 1000 ∧ ⟨e.timerHandle, e.fireAt, .postRetryTimer x.issueId⟩ ∈ w.timers := by
  obtain ⟨ms, -, hx⟩ := h.exit
  rw [onWorkerExit_of_some (w := { c.state with mailbox := ms }) _ _ he] at hx
  rcases RetryQueue.schedule_cases x.issueId (nextAttemptFrom entry) x.retryKind c.state.config.agent.maxRetryBackoffMs
    postRetryTimer x.retryError (World.exited { c.state with mailbox := ms } x) with
    ⟨d, hd, -, hs⟩ | ⟨-, e, w'', hs, -⟩
  · rw [hs] at hx
    cases hx
    refine ⟨_, d, hd, World.get?_scheduled_self rfl _ _ _ _ _ _, rfl, rfl, rfl, ?_⟩
    exact List.mem_append_right _ List.mem_cons_self
  · rw [hs] at hx
    cases hx

/-- **A failed attempt is retried**, unless the issue completed before. The handling of a failed exit of a running issue
leaves an entry for the next attempt and a timer for it. And in every run, when a retry is taken up whose entry is there,
the issue is dispatched at the attempt of the entry as soon as it is among the candidates and a slot is free, if and only
if no exit with `ok` of the issue was handled in the run while it was running. -/
theorem failed_attempt_retried {past : List (OrchConf × Label OrchSig Event)} {c : OrchConf}
    (h : orchestrator.Trace .free World.IsInitial past c) (hc : c.mode = .idle) :
    (∀ x w running, Handles .free c (.workerExit x) w → x.ok = false →
      c.state.state.running.get? x.issueId = some running →
      ∃ entry, w.retryQueue.get? x.issueId = some entry ∧ entry.kind = .failure ∧
        entry.attempt = running.retryAttempt + 1 ∧
        ⟨entry.timerHandle, entry.fireAt, .postRetryTimer x.issueId⟩ ∈ w.timers) ∧
    ∀ m w entry, c.state.recv = some (.retryTimerFired m, w) → c.state.retryQueue.get? m.issueId = some entry →
      (RetryMade m entry.attempt w ↔ ¬ Finished (orchestrator.receipts past) m.issueId) := by
  refine ⟨fun x w running hh hok hr => ?_, fun m w entry hr he => ?_⟩
  · obtain ⟨entry, -, -, he, hk, ha, -, ht⟩ := hh.exit_entry hr
    refine ⟨entry, he, ?_, ha, ht⟩
    rw [hk, WorkerExit.retryKind, hok]
    rfl
  · obtain ⟨hw, -⟩ := recv_eq hr
    have hq : w.retryQueue.get? m.issueId = some entry := by rw [hw]; exact he
    rw [retryMade_iff hq, ← completed_iff h hc, hw]

end Service

section Sample

attribute [local instance] asciiTables

theorem failed_attempt_retried_sample : ∃ past c m w entry, orchestrator.Trace .free World.IsInitial past c ∧
    c.state.recv = some (.retryTimerFired m, w) ∧ c.state.retryQueue.get? m.issueId = some entry ∧
    entry.kind = .failure ∧ RetryMade m entry.attempt w := by
  have hrun : ((orchestrator.run sampleStart (sampleTick ++ sampleFailure ++ sampleRetry)).bind fun c =>
      (nextRetry c.state).map fun p : RetryTimerFired × World => decide (c.mode.isIdle = true ∧
        p.1.issueId ∉ c.state.state.completed ∧
        ∃ entry, c.state.retryQueue.get? p.1.issueId = some entry ∧ entry.kind = .failure)) = some true := by
    decide +kernel
  obtain ⟨c, hc, hrun⟩ := Option.bind_eq_some_iff.1 hrun
  obtain ⟨⟨m, w⟩, hn, hd⟩ := Option.map_eq_some_iff.1 hrun
  obtain ⟨hi, hm, entry, he, hk⟩ := of_decide_eq_true hd
  have hi := Mode.isIdle_iff.1 hi
  have h := Server.Trace.run (.start sampleWorld_isInitial) (fun l _ => Discipline.always_free l) hc
  have hr := nextRetry_eq_some hn
  refine ⟨_, c, m, w, entry, h, hr, he, hk, ((failed_attempt_retried h hi).2 m w entry hr he).2 fun hf => hm ?_⟩
  exact (completed_iff h hi m.issueId).2 hf

/-- The issue completes, is still a candidate at the next tick, and fails; forty seconds later its retry is due. -/
def sampleReopened : List (Label OrchSig Event) :=
  [.event (.finish 0 ⟨py "normal", true, 1000000, none⟩), .recv] ++ sampleSecondTick ++
    [.event (.finish 1 ⟨py "turn failed", false, 1000000, some (py "turn failed")⟩), .recv, .event (.advance 40000000),
      .event (.fire 3)]

/-- **A retry dropped.** The entry is that of a failed attempt, and the message that of its timer; but the issue had
completed before, and nothing is dispatched. -/
theorem failed_attempt_dropped : ∃ past c m w entry, orchestrator.Trace .free World.IsInitial past c ∧ c.mode = .idle ∧
    c.state.recv = some (.retryTimerFired m, w) ∧ c.state.retryQueue.get? m.issueId = some entry ∧
    entry.kind = .failure ∧ entry.timerHandle = m.timer ∧ ¬ RetryMade m entry.attempt w := by
  have hrun : ((orchestrator.run sampleStart (sampleTick ++ sampleReopened)).bind fun c =>
      (nextRetry c.state).map fun p : RetryTimerFired × World => decide (c.mode.isIdle = true ∧
        p.1.issueId ∈ p.2.state.completed ∧ ∃ entry, c.state.retryQueue.get? p.1.issueId = some entry ∧
        p.2.retryQueue.get? p.1.issueId = some entry ∧
          entry.kind = .failure ∧ entry.timerHandle = p.1.timer)) = some true := by
    decide +kernel
  obtain ⟨c, hc, hrun⟩ := Option.bind_eq_some_iff.1 hrun
  obtain ⟨⟨m, w⟩, hn, hd⟩ := Option.map_eq_some_iff.1 hrun
  obtain ⟨hi, hm, entry, he, he', hk, ht⟩ := of_decide_eq_true hd
  refine ⟨_, c, m, w, entry, Server.Trace.run (.start sampleWorld_isInitial) (fun l _ => Discipline.always_free l) hc,
    Mode.isIdle_iff.1 hi, nextRetry_eq_some hn, he, hk, ht, fun hmade => ?_⟩
  exact (retryMade_iff he').1 hmade hm

end Sample

end RiverGang
