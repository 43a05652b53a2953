import RiverGang.Orchestrator.Signals

/-!
# Backoff

An exit schedules a retry and releases the claim, so the next tick may start the issue again at once, at attempt 1.

* `not_held_of_entry`: no issue with an entry is running or claimed.
* `untouched_until_fired`: where no tick is offered an issue with an entry, an entry stays and no task is started on its
  issue until its own timer's message is handled.
* `backoff_kept`: and that message starts the issue at the attempt of the entry, puts the entry back, or drops it.
* `backoff_bypassed`: a run in which a tick starts an issue again before its retry.
-/

namespace RiverGang

open Py Coop

section Service

variable [Unicode]

/-! ## Claims -/

/-- What is claimed is running. -/
def NoIdleClaim (w : World) : Prop := ∀ i ∈ w.state.claimed, i ∈ w.state.running

def NoIdleClaimIn : Phase → World → Prop
  | .crashed _, _ => True
  | _, w => NoIdleClaim w

omit [Unicode] in
theorem NoIdleClaim.congr {w w' : World} (h : NoIdleClaim w) (hr : w'.state.running = w.state.running)
    (hc : w'.state.claimed = w.state.claimed) : NoIdleClaim w' := by
  unfold NoIdleClaim
  rw [hr, hc]
  exact h

omit [Unicode] in
theorem NoIdleClaim.unclaim {w : World} (h : NoIdleClaim w) (i : Str) : NoIdleClaim (w.onState (·.unclaim i)) :=
  fun j hj => h j (Finset.mem_of_mem_erase hj)

omit [Unicode] in
theorem NoIdleClaim.setRunning {w : World} (h : NoIdleClaim w) (i : Str) (entry : RunningEntry) :
    NoIdleClaim (w.onState (·.setRunning i entry)) := fun j hj => Dict.mem_insert.2 (.inr (h j hj))

omit [Unicode] in
theorem NoIdleClaim.dispatchIssue {w w' : World} {issue : Issue} {attempt : Nat} {cap : Int} {r : Option RunningEntry}
    (h : NoIdleClaim w) (hd : RiverGang.dispatchIssue issue attempt cap w = .ret r w') : NoIdleClaim w' := by
  rcases dispatchIssue_ret hd with ⟨-, rfl⟩ | ⟨exc, delay, -, rfl⟩
  · intro j hj
    rcases Finset.mem_insert.1 hj with rfl | hj
    · exact Dict.mem_insert.2 (.inl rfl)
    · exact Dict.mem_insert.2 (.inr (h j hj))
  · intro j hj
    obtain ⟨hne, hj⟩ := Finset.mem_erase.1 hj
    exact h j ((Finset.mem_insert.1 hj).resolve_left hne)

omit [Unicode] in
theorem NoIdleClaimIn.of_ne {φ : Phase} {w : World} (h : NoIdleClaimIn φ w) (hφ : ∀ e, φ ≠ .crashed e) :
    NoIdleClaim w := by
  cases φ with
  | crashed e => exact absurd rfl (hφ e)
  | handling | loop | retry | done => exact h

theorem Work.noIdleClaim {D : OrchDiscipline} {w w' : World} {φ φ' : Phase} (h : NoIdleClaimIn φ w)
    (hw : Work D w φ w' φ') : NoIdleClaimIn φ' w' := by
  cases hw with
  | stall | terminateWithCleanup | terminateWithoutCleanup | adopt | eligible | skip | rewait | reload | noEntry
    | popRetry => exact NoIdleClaim.congr h rfl rfl
  | refresh =>
    have h' : NoIdleClaim w := h
    exact h'.setRunning _ _
  | skipTick ht | endLoop ht =>
    rw [scheduleNextTick_ret ht, World.tickScheduled_eq]
    exact NoIdleClaim.congr h rfl rfl
  | @dispatch _ issue _ _ _ hd =>
    have h' : NoIdleClaim (w.onState (·.popWaiting issue.id)) := NoIdleClaim.congr h rfl rfl
    exact h'.dispatchIssue hd
  | @exit _ m hx =>
    rcases onWorkerExit_ret hx with ⟨-, rfl⟩ | ⟨entry, delay, -, rfl⟩
    · exact h
    · intro j hj
      obtain ⟨hne, hj⟩ := Finset.mem_erase.1 hj
      change j ∈ (w.exited m).state.claimed at hj
      rw [World.exited_claimed] at hj
      change j ∈ (w.exited m).state.running
      rw [World.exited_running, Dict.mem_erase]
      exact ⟨hne.symm, h j hj⟩
  | @update m =>
    rcases onCodexUpdate_cases w m with hu | ⟨entry, totals, limits, -, hu⟩
    · rw [hu]
      exact h
    · rw [hu]
      exact (NoIdleClaim.setRunning h m.issueId (entry.updated m.event)).congr rfl rfl
  | shutdown =>
    rw [World.tickCancelled_eq]
    exact NoIdleClaim.congr h rfl rfl
  | completed | release => exact NoIdleClaim.unclaim (NoIdleClaim.congr h rfl rfl) _
  | reschedule hs =>
    obtain ⟨d, -, rfl⟩ := RetryQueue.schedule_ret hs
    exact NoIdleClaim.congr h rfl rfl
  | redispatch _ _ hd => exact NoIdleClaim.dispatchIssue h hd
  | crash => trivial

theorem handlers_keep_noIdleClaim (D : OrchDiscipline) : (handlerPhases D).Keeps orchestrator D NoIdleClaimIn where
  work h hw := hw.noIdleClaim h
  event {_ _ φ _} h _ _ he := by
    have hs := (event_frame he).state
    cases φ with
    | crashed => trivial
    | handling | loop | retry | done => exact NoIdleClaim.congr h (by rw [hs]) (by rw [hs])

theorem reachable_noIdleClaim {D : OrchDiscipline} {c : OrchConf} (h : Reachable D c)
    (hc : ∀ e, c.mode ≠ .crashed e) : NoIdleClaim c.state := by
  have hs := Phases.reach_says (handlers_simulate D) (handlers_keep_noIdleClaim D) (J := NoIdleClaim)
    (fun w hw => ?_) (fun w e w' hw _ he => ?_) (fun w m w' hw hr _ => ?_) (fun _ _ _ hw => hw) h
  · obtain ⟨w, m⟩ := c
    cases m with
    | idle => exact hs
    | stopped => obtain ⟨m, -, hs⟩ := hs; exact hs
    | busy m r k =>
      obtain ⟨s₀, φ, hφ, -, hs⟩ := hs
      exact hs.of_ne fun e he => by rw [he] at hφ; exact hφ
    | crashed e => exact absurd rfl (hc e)
  · obtain ⟨config, now, client, factory, loader, spawnError, reloads, rfl⟩ := hw
    exact fun i hi => absurd hi (Finset.notMem_empty i)
  · have hs := (event_frame he).state
    exact hw.congr (by rw [hs]) (by rw [hs])
  · obtain ⟨hw', -⟩ := recv_eq hr
    rw [hw']
    exact NoIdleClaim.congr hw rfl rfl

/-- **No issue with an entry is held back**: it is neither running nor claimed. -/
theorem not_held_of_entry {D : OrchDiscipline} (hD : DistinctCandidates D) {c : OrchConf} (h : Reachable D c)
    (hc : ∀ e, c.mode ≠ .crashed e) {i : Str} (hi : i ∈ c.state.retryQueue) :
    i ∉ c.state.state.running ∧ i ∉ c.state.state.claimed := by
  have hx := reachable_state_exclusive hD h
  have hn : i ∉ c.state.state.running := fun hr => (Dict.get?_eq_none.1 (hx.noRetry hr)) hi
  exact ⟨hn, fun hcl => hn (reachable_noIdleClaim h hc i hcl)⟩

/-! ## Until the timer fires -/

/-- The phases that do not handle the retry of an issue. -/
def Elsewhere (i : Str) : Phase → Prop
  | .handling (.retryTimerFired m) => m.issueId ≠ i
  | .retry m _ => m.issueId ≠ i
  | _ => True

/-- The entry is still there, and no task was started on the issue. -/
def Untouched (i : Str) (entry : RetryEntry) (tasks : List WorkerTask) (w : World) : Prop :=
  w.retryQueue.get? i = some entry ∧ ∃ new, w.tasks = tasks ++ new ∧ ∀ t ∈ new, t.issue.id ≠ i

section Untouched

variable {i : Str} {entry : RetryEntry} {tasks : List WorkerTask} {w w' : World}

omit [Unicode] in
theorem Untouched.congr (h : Untouched i entry tasks w) (hq : w'.retryQueue.get? i = w.retryQueue.get? i)
    (ht : w'.tasks = w.tasks) : Untouched i entry tasks w' := by
  obtain ⟨he, hn⟩ := h
  exact ⟨hq.trans he, by rw [ht]; exact hn⟩

omit [Unicode] in
theorem Untouched.ne_of_none {j : Str} (h : Untouched i entry tasks w) (hj : w.retryQueue.get? j = none) : j ≠ i := by
  rintro rfl
  cases hj.symm.trans h.1

omit [Unicode] in
/-- Another issue is dispatched. -/
theorem Untouched.dispatchIssue {issue : Issue} {attempt : Nat} {cap : Int} {r : Option RunningEntry}
    (h : Untouched i entry tasks w) (hne : issue.id ≠ i)
    (hd : RiverGang.dispatchIssue issue attempt cap w = .ret r w') : Untouched i entry tasks w' := by
  obtain ⟨he, new, ht, hn⟩ := h
  rcases dispatchIssue_ret hd with ⟨-, rfl⟩ | ⟨exc, delay, -, rfl⟩
  · refine ⟨(Dict.get?_erase_of_ne _ hne).trans he, new ++ [⟨issue, attempt, w.config⟩], ?_, fun t hm => ?_⟩
    · rw [show (w.dispatched issue attempt).tasks = w.tasks ++ [⟨issue, attempt, w.config⟩] from rfl, ht,
        List.append_assoc]
    · rcases List.mem_append.1 hm with hm | hm
      · exact hn t hm
      · obtain rfl := List.mem_singleton.1 hm
        exact hne
  · refine ⟨?_, new, ht, hn⟩
    rw [World.get?_scheduled, if_neg hne]
    exact (Dict.get?_erase_of_ne _ hne).trans he

omit [Unicode] in
theorem Untouched.unscheduled {j : Str} (h : Untouched i entry tasks w) (hne : j ≠ i) (hu : w.Unscheduled j w') :
    Untouched i entry tasks w' := by
  obtain ⟨q, ts, n, rfl, hq⟩ := hu
  exact h.congr ((hq i).resolve_right fun h => hne h.1) rfl

omit [Unicode] in
theorem Untouched.of_dispatchIssue_raise {issue : Issue} {attempt : Nat} {cap : Int} {e : Exn}
    (h : Untouched i entry tasks w) (hne : issue.id ≠ i)
    (hd : RiverGang.dispatchIssue issue attempt cap w = .raise e w') : Untouched i entry tasks w' := by
  obtain ⟨c, -, hu⟩ := dispatchIssue_raise hd
  have h' : Untouched i entry tasks (w.onState fun s => { s with claimed := c }) := h.congr rfl rfl
  exact h'.unscheduled hne hu

theorem Crash.untouched {D : OrchDiscipline} {φ : Phase} {e : Exn} (hx : ExclusiveIn φ w) (hh : Heard φ w)
    (hφ : Elsewhere i φ) (h : Untouched i entry tasks w) (hw : Crash D w φ e w') : Untouched i entry tasks w' := by
  cases hw with
  | answer | loader | sort | inputs | questions => exact h
  | interval _ ht =>
    rw [(scheduleNextTick_error ht).1]
    exact h
  | @dispatch _ _ issue _ _ _ hd =>
    have hne := h.ne_of_none (hh.2 issue List.mem_cons_self)
    have h' : Untouched i entry tasks (w.onState (·.popWaiting issue.id)) := h.congr rfl rfl
    exact h'.of_dispatchIssue_raise hne hd
  | @exit _ _ m _ hex =>
    obtain ⟨running, hr, hu, -⟩ := onWorkerExit_raise hex
    have hne := h.ne_of_none (Exclusive.noRetry hx (Dict.mem_of_get? hr))
    have h' : Untouched i entry tasks (w.exited m) := h.congr (by rw [World.exited_eq]) (by rw [World.exited_eq])
    exact h'.unscheduled hne hu
  | reschedule hs => exact h.unscheduled hφ (RetryQueue.schedule_raise hs).1
  | redispatch hm _ hd => exact h.of_dispatchIssue_raise (hm.id_eq ▸ hφ) hd

/-- **The step lemma.** -/
theorem Work.untouched {D : OrchDiscipline} {φ φ' : Phase} (hx : ExclusiveIn φ w) (hh : Heard φ w)
    (hφ : Elsewhere i φ) (h : Untouched i entry tasks w) (hw : Work D w φ w' φ') :
    Elsewhere i φ' ∧ Untouched i entry tasks w' := by
  cases hw with
  | stall | terminateWithCleanup | terminateWithoutCleanup | refresh | adopt | eligible | skip | rewait | update
    | reload | noEntry | release => exact ⟨trivial, h.congr rfl rfl⟩
  | skipTick ht | endLoop ht =>
    rw [scheduleNextTick_ret ht, World.tickScheduled_eq]
    exact ⟨trivial, h.congr rfl rfl⟩
  | @dispatch _ issue _ _ _ hd =>
    have hne := h.ne_of_none (hh.2 issue List.mem_cons_self)
    have h' : Untouched i entry tasks (w.onState (·.popWaiting issue.id)) := h.congr rfl rfl
    exact ⟨trivial, h'.dispatchIssue hne hd⟩
  | @exit _ m hex =>
    rcases onWorkerExit_ret hex with ⟨-, rfl⟩ | ⟨running, delay, hr, rfl⟩
    · exact ⟨trivial, h⟩
    · have hne := h.ne_of_none (Exclusive.noRetry hx (Dict.mem_of_get? hr))
      refine ⟨trivial, h.congr ?_ (by rw [World.exited_eq]; rfl)⟩
      change ((w.exited m).scheduled ..).retryQueue.get? i = _
      rw [World.get?_scheduled, if_neg hne, World.exited_eq]
  | shutdown =>
    rw [World.tickCancelled_eq]
    exact ⟨trivial, h.congr rfl rfl⟩
  | completed => exact ⟨trivial, h.congr (Dict.get?_erase_of_ne _ hφ) rfl⟩
  | popRetry => exact ⟨hφ, h.congr (Dict.get?_erase_of_ne _ hφ) rfl⟩
  | @reschedule _ m _ _ hs =>
    obtain ⟨d, -, rfl⟩ := RetryQueue.schedule_ret hs
    have hne : m.issueId ≠ i := hφ
    exact ⟨trivial, h.congr (by rw [World.get?_scheduled, if_neg hne]) rfl⟩
  | redispatch hm _ hd => exact ⟨trivial, h.dispatchIssue (hm.id_eq ▸ hφ) hd⟩
  | crash hc => exact ⟨trivial, hc.untouched hx hh hφ h⟩

end Untouched

/-- The message of a retry of an issue. -/
def Message.retries (i : Str) : Message → Prop
  | .retryTimerFired m => m.issueId = i
  | _ => False

/-- **The run lemma.** From an idle configuration with an entry, as long as no retry of its issue is taken up, the entry
stays and no task is started on the issue. -/
theorem untouched_until_fired {D : OrchDiscipline} (hD : Spaced D) {c c' : OrchConf} (h : Reachable D c)
    (hc : c.mode = .idle) {i : Str} {entry : RetryEntry} (he : c.state.retryQueue.get? i = some entry)
    (h' : orchestrator.Reach (D.skipping (Message.retries i)) (fun w => w = c.state) c') :
    Untouched i entry c.state.tasks c'.state := by
  have hD' : Spaced (D.skipping (Message.retries i)) := ⟨hD.distinct, hD.unretried⟩
  have hkeeps : (handlerPhases (D.skipping (Message.retries i))).Keeps orchestrator (D.skipping (Message.retries i))
      fun φ w => (ExclusiveIn φ w ∧ Heard φ w) ∧ Elsewhere i φ ∧ Untouched i entry c.state.tasks w :=
    ⟨fun hK hw => ⟨(handlers_keep_heard hD').work hK.1 hw, hw.untouched hK.1.1 hK.1.2 hK.2.1 hK.2.2⟩,
      fun hK ha hd hev => ⟨(handlers_keep_heard hD').event hK.1 ha hd hev, hK.2.1,
        hK.2.2.congr (by rw [(event_frame hev).retryQueue]) (event_frame hev).tasks⟩⟩
  have hstart := reachable_heard hD h
  obtain ⟨w, mode⟩ := c
  obtain rfl : mode = .idle := hc
  have hs := Phases.reach_says (handlers_simulate _) hkeeps
    (J := fun v => (Exclusive v ∧ ∀ j, v.Signalled j) ∧ Untouched i entry w.tasks v)
    (fun v hv => by
      obtain rfl : v = w := hv
      exact ⟨hstart, he, [], (List.append_nil _).symm, fun _ ht => by cases ht⟩)
    (fun v e v' hv _ hev => ?_) (fun v m v' hv hr hrec => ?_) (fun v m _ hv => ⟨hv.1, hv.2.2⟩) h'
  · exact hs.state (fun _ h => h.2) fun _ _ h => h.2.2
  · have hf := event_frame hev
    exact ⟨⟨ExclusiveIn.of_frame (φ := .handling .pollTick) hv.1.1 hf, fun j => (hv.1.2 j).event hev⟩,
      hv.2.congr (by rw [hf.retryQueue]) hf.tasks⟩
  · obtain ⟨hw', -⟩ := recv_eq hr
    have hx : Exclusive v' := by
      rw [hw']
      exact hv.1.1.congr rfl rfl rfl rfl
    refine ⟨⟨hx, .recv hv.1.2 hr⟩, ?_, ?_⟩
    · cases m with
      | retryTimerFired m => exact hrec.2
      | pollTick | workerExit | codexUpdate | configReloaded | shutdown => trivial
    · rw [hw']
      exact hv.2.congr rfl rfl

/-! ## The claim on retries -/

/-- The service, as long as the candidate lists of the ticks name no issue twice and none with an entry. -/
def spacedCandidates : OrchDiscipline where
  event _ _ := True
  receive _ _ := True
  answer m w r x := m = .pollTick → ∀ candidates, candidatesOf r x = some candidates →
    (candidates.map (·.id)).Nodup ∧ ∀ issue ∈ candidates, issue.id ∉ w.retryQueue

omit [Unicode] in
theorem spacedCandidates_spaced : Spaced spacedCandidates :=
  ⟨fun _ _ candidates h => (h rfl candidates rfl).1,
    fun _ _ candidates h issue hi => Dict.get?_eq_none.2 ((h rfl candidates rfl).2 issue hi)⟩

/-- What taking up the retry of an entry comes to: the entry is dropped; or put back for the same attempt; or the spawn
of that attempt failed and the next is scheduled; or a task is started on the issue at the attempt of the entry. -/
inductive Retried (i : Str) (entry : RetryEntry) (w w' : World) : Prop
  | dropped : w'.tasks = w.tasks → w'.retryQueue.get? i = none → Retried i entry w w'
  | putBack {entry' : RetryEntry} : w'.tasks = w.tasks → w'.retryQueue.get? i = some entry' →
      entry'.attempt = entry.attempt → Retried i entry w w'
  | failed {entry' : RetryEntry} {exc : Exn} : w'.tasks = w.tasks → w'.retryQueue.get? i = some entry' →
      entry'.attempt = entry.attempt + 1 → entry'.lastError = some exc.msg → Retried i entry w w'
  | dispatched {issue : Issue} {config : EffectiveConfig} : issue.id = i →
      w'.tasks = w.tasks ++ [⟨issue, entry.attempt, config⟩] → Retried i entry w w'

/-- A retry that is taken up is that of the entry. -/
theorem retried_of_handles {D : OrchDiscipline} (hD : Spaced D) {c : OrchConf} (h : Reachable D c) {entry : RetryEntry}
    {m : RetryTimerFired} {w : World} (he : c.state.retryQueue.get? m.issueId = some entry)
    (hh : Handles D c (.retryTimerFired m) w) : m.timer = entry.timerHandle ∧ Retried m.issueId entry c.state w := by
  have hsig : c.state.Signalled m.issueId := by
    have hs := reachable_heard hD h
    obtain ⟨s, mode⟩ := c
    obtain ⟨-, hm, -⟩ := hh
    obtain rfl : mode = .idle := hm
    exact hs.2 _
  obtain ⟨ms, hms, hg⟩ := hh.gets
  refine ⟨?_, ?_⟩
  · have hmem : m.timer ∈ c.state.signals m.issueId := by
      refine List.mem_append_right _ (List.mem_filterMap.2 ⟨.retryTimerFired m, ?_, if_pos rfl⟩)
      rw [hms]
      exact List.mem_cons_self
    obtain ⟨entry', he', ht, -⟩ := hsig.of_mem hmem
    cases he.symm.trans he'
    exact ht.symm
  · cases retry_handled hg with
    | dropped ht hn => exact .dropped ht hn
    | putBack he' ht hq ha =>
      cases he.symm.trans he'
      exact .putBack ht hq ha
    | failed he' ht hq ha hl =>
      cases he.symm.trans he'
      exact .failed ht hq ha hl
    | dispatched he' hi ht =>
      cases he.symm.trans he'
      exact .dispatched hi ht

/-- **Retry backoff.** The filter rejects what has an entry exactly where nothing has one. But where no tick is offered
an issue with an entry, an entry stays, and no task is started on its issue, until the message of its own timer is taken
up, and what that starts is at the attempt of the entry. -/
theorem backoff_kept :
    (∀ {c : OrchConf}, Reachable distinctCandidates c → (∀ e, c.mode ≠ .crashed e) →
      ((∀ i ∈ c.state.retryQueue, i ∈ c.state.state.running ∨ i ∈ c.state.state.claimed) ↔
        ∀ i, i ∉ c.state.retryQueue)) ∧
    ∀ {c c' : OrchConf} {i : Str} {entry : RetryEntry}, Reachable spacedCandidates c → c.mode = .idle →
      c.state.retryQueue.get? i = some entry →
      orchestrator.Reach (spacedCandidates.skipping (Message.retries i)) (fun w => w = c.state) c' →
      Untouched i entry c.state.tasks c'.state ∧
      ∀ m w, Handles spacedCandidates c' (.retryTimerFired m) w → m.issueId = i →
        m.timer = entry.timerHandle ∧ Retried i entry c'.state w := by
  refine ⟨fun {c} h hc => ⟨fun hf i hi => ?_, fun hn i hi => absurd hi (hn i)⟩, fun {c c' i entry} h hc he h' => ?_⟩
  · obtain ⟨hr, hcl⟩ := not_held_of_entry distinctCandidates_distinct h hc hi
    exact (hf i hi).elim hr hcl
  · have hu := untouched_until_fired spacedCandidates_spaced h hc he h'
    refine ⟨hu, fun m w hh hm => ?_⟩
    subst hm
    obtain ⟨s, mode⟩ := c
    obtain rfl : mode = .idle := hc
    have hle : (spacedCandidates.skipping (Message.retries m.issueId)).Le spacedCandidates :=
      ⟨fun h => h, fun h => h.1, fun h => h⟩
    exact retried_of_handles spacedCandidates_spaced (.trans hle h h') hu.1 hh

end Service

section Sample

attribute [local instance] asciiTables

/-- The attempt fails. -/
def sampleFailure : List (Label OrchSig Event) :=
  [.event (.finish 0 ⟨py "turn failed", false, 1000000, some (py "turn failed")⟩), .recv]

/-- And twenty seconds later its retry is due. -/
def sampleRetry : List (Label OrchSig Event) := [.event (.advance 20000000), .event (.fire 1)]

/-- The issue is still a candidate. -/
def retryAnswers : Answers := { candidates := .ok [sampleIssue "a"] }

/-- The retry that is next in the mailbox. -/
def nextRetry (w : World) : Option (RetryTimerFired × World) :=
  match w.recv with
  | some (.retryTimerFired m, w') => some (m, w')
  | _ => none

theorem nextRetry_eq_some {w w' : World} {m : RetryTimerFired} (h : nextRetry w = some (m, w')) :
    w.recv = some (.retryTimerFired m, w') := by
  unfold nextRetry at h
  split at h
  · rename_i hr
    cases h
    exact hr
  · cases h

/-- Where nothing has an entry, distinct candidates are spaced. -/
theorem spacedCandidates_answer {w : World} (hw : w.retryQueue.keys = []) {m : Message} {r : OrchReq}
    {x : OrchSig.Ans r} (hx : distinctCandidates.answer m w r x) : spacedCandidates.answer m w r x := by
  intro hm candidates hc
  refine ⟨hx hm candidates hc, fun issue _ hi => ?_⟩
  rw [show issue.id ∈ w.retryQueue ↔ issue.id ∈ w.retryQueue.keys from Iff.rfl, hw] at hi
  cases hi

/-- The issue is started again, at its second attempt. -/
theorem backoff_kept_sample : ∃ c m w entry, Reachable spacedCandidates c ∧ c.mode = .idle ∧
    c.state.retryQueue.get? (py "a") = some entry ∧ entry.attempt = 2 ∧
    Handles spacedCandidates c (.retryTimerFired m) w ∧ w.tasks.map (·.attempt) = [1, 2] ∧
    m.timer = entry.timerHandle ∧ Retried (py "a") entry c.state w := by
  have hrun : ((orchestrator.runIn (fun c => decide (c.state.retryQueue.keys = [])) sampleStart
      (sampleTick ++ sampleFailure)).bind fun c => (orchestrator.run c sampleRetry).bind fun c =>
        (nextRetry c.state).map fun p => decide (c.mode.isIdle = true ∧ p.1.issueId = py "a" ∧
          ((handle (.retryTimerFired p.1) p.2).exec (Answers.reply retryAnswers)).1.isOk = true ∧
          ((handle (.retryTimerFired p.1) p.2).exec (Answers.reply retryAnswers)).2.tasks.map (·.attempt) = [1, 2] ∧
          ∃ entry, c.state.retryQueue.get? (py "a") = some entry ∧ entry.attempt = 2)) = some true := by
    decide +kernel
  obtain ⟨c₁, hc₁, hrun⟩ := Option.bind_eq_some_iff.1 hrun
  obtain ⟨c, hc, hrun⟩ := Option.bind_eq_some_iff.1 hrun
  obtain ⟨⟨m, w'⟩, hn, hd⟩ := Option.map_eq_some_iff.1 hrun
  obtain ⟨hidle, hi, hok, ht, entry, he, ha⟩ := of_decide_eq_true hd
  have hidle := Mode.isIdle_iff.1 hidle
  have hrecv := nextRetry_eq_some hn
  have h₁ : Reachable spacedCandidates c₁ := by
    refine .runIn (.start sampleWorld_isInitial) (fun l hl c hP => ?_) hc₁
    have hP := of_decide_eq_true hP
    simp only [sampleTick, sampleFailure, List.cons_append, List.nil_append, List.mem_cons, List.not_mem_nil,
      or_false] at hl
    rcases hl with rfl | rfl | rfl | rfl | rfl | rfl | rfl
    case inr.inr.inr.inr.inr.inl => trivial
    case inl | inr.inr.inr.inr.inr.inr => exact fun _ _ => trivial
    all_goals
      refine Server.allows_resume fun _ r _ _ => spacedCandidates_answer hP fun _ candidates hr => ?_
      cases r <;> cases hr
      simp
  have h : Reachable spacedCandidates c := by
    refine h₁.run (fun l hl => ?_) hc
    simp only [sampleRetry, List.mem_cons, List.not_mem_nil, or_false] at hl
    rcases hl with rfl | rfl <;> exact fun _ => trivial
  have hh : Handles spacedCandidates c (.retryTimerFired m)
      ((handle (.retryTimerFired m) w').exec (Answers.reply retryAnswers)).2 :=
    .of_isOk hidle hrecv trivial (fun _ _ hm => by cases hm) hok
  obtain ⟨s, mode⟩ := c
  obtain rfl : mode = .idle := hidle
  exact ⟨_, m, _, entry, h, rfl, he, ha, hh, ht, (backoff_kept.2 h rfl he (.start rfl)).2 m _ hh hi⟩

/-- The second tick, ahead of the retry. -/
def sampleSecondTick : List (Label OrchSig Event) := .event .refresh :: sampleTick

/-- **A retry overtaken.** The attempt failed and its retry is due in twenty seconds; a tick that is asked for starts the
issue at once, again at attempt 1. -/
theorem backoff_bypassed : ∃ c c', Reachable .free c ∧ c.mode = .idle ∧
    (∃ entry, c.state.retryQueue.get? (py "a") = some entry ∧ entry.attempt = 2) ∧
    orchestrator.Reach (Discipline.free.skipping (Message.retries (py "a"))) (fun w => w = c.state) c' ∧
    c'.state.tasks.map (fun t => (t.issue.id, t.attempt)) = [(py "a", 1), (py "a", 1)] := by
  have hrun : ((orchestrator.run sampleStart (sampleTick ++ sampleFailure)).bind fun c =>
      (orchestrator.runIn (fun c => decide (c.state.mailbox.filterMap (Message.signal (py "a")) = []))
        ⟨c.state, .idle⟩ sampleSecondTick).map fun c' => decide (c.mode.isIdle = true ∧
          (∃ entry, c.state.retryQueue.get? (py "a") = some entry ∧ entry.attempt = 2) ∧
          c'.state.tasks.map (fun t => (t.issue.id, t.attempt)) = [(py "a", 1), (py "a", 1)])) = some true := by
    decide +kernel
  obtain ⟨c, hc, hrun⟩ := Option.bind_eq_some_iff.1 hrun
  obtain ⟨c', hc', hd⟩ := Option.map_eq_some_iff.1 hrun
  obtain ⟨hi, he, ht⟩ := of_decide_eq_true hd
  have h : Reachable .free c := .run (.start sampleWorld_isInitial) (fun l _ => Discipline.always_free l) hc
  refine ⟨c, c', h, Mode.isIdle_iff.1 hi, he, .runIn (.start rfl) (fun l hl c₁ hP => ?_) hc', ht⟩
  have hP := of_decide_eq_true hP
  obtain ⟨w, mode⟩ := c₁
  simp only [sampleSecondTick, sampleTick, List.mem_cons, List.not_mem_nil, or_false] at hl
  rcases hl with rfl | rfl | rfl | rfl | rfl | rfl
  · trivial
  · rintro ⟨m, w'⟩ hn
    refine ⟨trivial, fun hm => ?_⟩
    obtain ⟨-, hmail⟩ := recv_eq hn
    change w.mailbox.filterMap _ = [] at hP
    rw [hmail] at hP
    have hnone := List.filterMap_eq_nil_iff.1 hP m List.mem_cons_self
    cases m with
    | retryTimerFired m =>
      have hi : m.issueId = py "a" := hm
      simp [Message.signal, hi] at hnone
    | pollTick | workerExit | codexUpdate | configReloaded | shutdown => exact hm
  all_goals cases mode <;> trivial

end Sample

end RiverGang
