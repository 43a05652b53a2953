import RiverGang.Orchestrator.Simulation

/-!
# Exclusive orchestration states

Where the tracker's candidate lists name no issue twice, an issue is running or waits for its retry, never both.

`Exclusive` is the invariant: a running entry is stored under the id of its issue, which is claimed and indexed and has
no retry. Every operation of the handlers keeps it; a spawn that fails and a retry that is put back need that the issue
is not running, which the phases of the dispatch loop and of a retry remember (`ExclusiveIn`).

* `running_exclusive`: so it is in every reachable state.
* `retry_handled`: what the handling of a retry comes to.
-/

namespace RiverGang

open Py Coop

section Service

variable [Unicode]

/-! ## The invariant -/

structure Exclusive (w : World) : Prop where
  key : ∀ {i entry}, w.state.running.get? i = some entry → entry.issue.id = i
  claimed : ∀ {i}, i ∈ w.state.running → i ∈ w.state.claimed
  indexed : ∀ {i}, i ∈ w.state.running → i ∈ w.state.identifierIndex
  noRetry : ∀ {i}, i ∈ w.state.running → w.retryQueue.get? i = none

namespace Exclusive

variable {w w' : World}

omit [Unicode]

theorem congr (h : Exclusive w) (hs : w'.state.running = w.state.running) (hc : w'.state.claimed = w.state.claimed)
    (hi : w'.state.identifierIndex = w.state.identifierIndex) (hr : w'.retryQueue = w.retryQueue) : Exclusive w' where
  key := by rw [hs]; exact h.key
  claimed := by rw [hs, hc]; exact h.claimed
  indexed := by rw [hs, hi]; exact h.indexed
  noRetry := by rw [hs, hr]; exact h.noRetry

/-- An entry of the same issue in the place of a running one. -/
theorem setRunning {i : Str} {entry entry' : RunningEntry} (h : Exclusive w)
    (he : w.state.running.get? i = some entry) (hi : entry'.issue.id = i) :
    Exclusive (w.onState (·.setRunning i entry')) := by
  have hmem : ∀ {j}, j ∈ (w.onState (·.setRunning i entry')).state.running → j ∈ w.state.running := by
    intro j hj
    rcases Dict.mem_insert.1 hj with rfl | hj
    · exact Dict.mem_of_get? he
    · exact hj
  refine ⟨fun {j e} hj => ?_, fun hj => h.claimed (hmem hj), fun hj => h.indexed (hmem hj),
    fun hj => h.noRetry (hmem hj)⟩
  rw [show (w.onState (·.setRunning i entry')).state.running.get? j = _ from Dict.get?_insert ..] at hj
  split at hj
  · rename_i hij
    cases hj
    rw [hi, hij]
  · exact h.key hj

theorem dispatched (h : Exclusive w) (issue : Issue) (attempt : Nat) : Exclusive (w.dispatched issue attempt) := by
  have hmem : ∀ {j}, j ∈ (w.dispatched issue attempt).state.running → issue.id = j ∨ j ∈ w.state.running :=
    fun hj => Dict.mem_insert.1 hj
  refine ⟨fun {j e} hj => ?_, fun {j} hj => ?_, fun {j} hj => ?_, fun {j} hj => ?_⟩
  · rw [show (w.dispatched issue attempt).state.running.get? j = _ from Dict.get?_insert ..] at hj
    split at hj
    · rename_i hij
      cases hj
      exact hij
    · exact h.key hj
  · change j ∈ insert issue.id w.state.claimed
    rcases hmem hj with rfl | hj
    · exact Finset.mem_insert_self ..
    · exact Finset.mem_insert_of_mem (h.claimed hj)
  · refine Dict.mem_insert.2 ?_
    rcases hmem hj with rfl | hj
    · exact .inl rfl
    · exact .inr (h.indexed hj)
  · change (w.retryQueue.erase issue.id).get? j = none
    rw [Dict.get?_erase]
    split
    · rfl
    · rename_i hij
      exact h.noRetry ((hmem hj).resolve_left hij)

/-- A retry for an issue that is not running. -/
theorem scheduled (h : Exclusive w) {i : Str} (hi : i ∉ w.state.running) (n : Nat) (k : RetryKind) (d : Int)
    (f : Str → Callback) (e : Option Str) : Exclusive (w.scheduled i n k d f e) := by
  refine ⟨h.key, h.claimed, h.indexed, fun {j} hj => ?_⟩
  rw [World.get?_scheduled, if_neg fun hij : i = j => hi (hij ▸ hj)]
  exact h.noRetry hj

/-- A claim released for an issue that is not running. -/
theorem unclaim (h : Exclusive w) {i : Str} (hi : i ∉ w.state.running) : Exclusive (w.onState (·.unclaim i)) :=
  ⟨h.key, fun hj => Finset.mem_erase.2 ⟨fun hij => hi (hij ▸ hj), h.claimed hj⟩, h.indexed, h.noRetry⟩

/-- A retry less. -/
theorem unscheduled {i : Str} (h : Exclusive w) (hu : w.Unscheduled i w') : Exclusive w' := by
  obtain ⟨q, ts, n, rfl, hq⟩ := hu
  exact ⟨h.key, h.claimed, h.indexed, fun {j} hj => (hq j).elim (fun hq => hq.trans (h.noRetry hj)) fun hq => hq.2⟩

theorem popRetry (h : Exclusive w) (i : Str) : Exclusive (w.popRetry i) := by
  obtain ⟨q, ts, n, hw, hq⟩ := w.unscheduled_cancelRetry i
  exact h.unscheduled ⟨_, w.timers, w.nextHandle, rfl, by rw [World.cancelRetry] at hw; cases hw; exact hq⟩

/-- The claim that a dispatch makes first, kept or not. -/
theorem claimedOrNot (h : Exclusive w) {i : Str} (hi : i ∉ w.state.running) {c : Finset Str}
    (hc : c = insert i w.state.claimed ∨ c = (insert i w.state.claimed).erase i) :
    Exclusive (w.onState fun s => { s with claimed := c }) := by
  refine ⟨h.key, fun {j} hj => ?_, h.indexed, h.noRetry⟩
  change j ∈ c
  rcases hc with rfl | rfl
  · exact Finset.mem_insert_of_mem (h.claimed hj)
  · exact Finset.mem_erase.2 ⟨fun hij => hi (hij ▸ hj), Finset.mem_insert_of_mem (h.claimed hj)⟩

theorem spawnFailed (h : Exclusive w) {i : Str} (hi : i ∉ w.state.running) : Exclusive (w.spawnFailed i) := by
  obtain ⟨q, ts, n, hw, hq⟩ := w.unscheduled_cancelRetry i
  have h' : Exclusive (w.cancelRetry i) := h.unscheduled (w.unscheduled_cancelRetry i)
  have hi' : i ∉ (w.cancelRetry i).state.running := hi
  exact h'.claimedOrNot hi' (.inr rfl)

/-- An issue dispatched, or rescheduled when its spawn fails. -/
theorem dispatchIssue {issue : Issue} {attempt : Nat} {cap : Int} {r : Option RunningEntry} (h : Exclusive w)
    (hi : issue.id ∉ w.state.running) (hd : dispatchIssue issue attempt cap w = .ret r w') : Exclusive w' := by
  rcases dispatchIssue_ret hd with ⟨-, rfl⟩ | ⟨exc, delay, -, rfl⟩
  · exact h.dispatched issue attempt
  · exact (h.spawnFailed hi).scheduled hi ..

theorem of_dispatchIssue_raise {issue : Issue} {attempt : Nat} {cap : Int} {e : Exn} (h : Exclusive w)
    (hi : issue.id ∉ w.state.running) (hd : RiverGang.dispatchIssue issue attempt cap w = .raise e w') :
    Exclusive w' := by
  obtain ⟨c, hc, hu⟩ := dispatchIssue_raise hd
  exact (h.claimedOrNot hi hc).unscheduled hu

theorem exited (h : Exclusive w) (m : WorkerExit) : Exclusive (w.exited m) := by
  have hmem : ∀ {j}, j ∈ w.state.running.erase m.issueId → j ∈ w.state.running := fun hj => (Dict.mem_erase.1 hj).2
  have h' : Exclusive ((w.onState (·.removeRunning m.issueId)).onState (·.addRuntimeSeconds m.runtimeSeconds)) := by
    refine ⟨fun {j e} hj => ?_, fun hj => h.claimed (hmem hj), fun hj => h.indexed (hmem hj),
      fun hj => h.noRetry (hmem hj)⟩
    exact h.key (Dict.get?_of_erase hj)
  unfold World.exited
  cases m.ok
  · exact h'
  · exact h'.congr rfl rfl rfl rfl

end Exclusive

omit [Unicode] in
theorem not_mem_exited (w : World) (m : WorkerExit) : m.issueId ∉ (w.exited m).state.running := by
  rw [World.exited_running, Dict.mem_erase]
  exact fun h => h.1 rfl

/-! ## The phases keep it -/

/-- Distinct issues, none of them running. -/
def FreshIssues (w : World) (issues : List Issue) : Prop :=
  (issues.map (·.id)).Nodup ∧ ∀ issue ∈ issues, issue.id ∉ w.state.running

/-- What else the phases know. -/
def ExclusiveIn : Phase → World → Prop
  | .loop issues, w => Exclusive w ∧ FreshIssues w issues
  | .retry m _, w => Exclusive w ∧ m.issueId ∉ w.state.running
  | _, w => Exclusive w

omit [Unicode] in
theorem ExclusiveIn.exclusive {φ : Phase} {w : World} (h : ExclusiveIn φ w) : Exclusive w := by
  cases φ <;> first | exact h.1 | exact h

/-- The tick's candidate lists name no issue twice. -/
def DistinctCandidates (D : OrchDiscipline) : Prop :=
  ∀ w states candidates, D.answer .pollTick w (.fetchCandidateIssues states) (.ok candidates) →
    (candidates.map (·.id)).Nodup

/-- Eligible issues are not running. -/
theorem not_running_of_eligible {w : World} {candidates issues : List Issue}
    (he : eligibleOf w candidates = .ok issues) : ∀ issue ∈ issues, issue.id ∉ w.state.running := by
  intro issue hi
  have hc := (List.mem_filter.1 ((sorted_perm he).mem_iff.1 hi)).2
  simp only [isCandidate, Bool.and_eq_true, decide_eq_true_eq] at hc
  exact hc.1.1.2

/-- Eligible issues are candidates that are not running. -/
theorem fresh_eligible {w : World} {candidates issues : List Issue} (hn : (candidates.map (·.id)).Nodup)
    (he : eligibleOf w candidates = .ok issues) : FreshIssues w issues :=
  ⟨((sorted_perm he).map _).nodup_iff.2 (hn.sublist (List.filter_sublist.map _)), not_running_of_eligible he⟩

omit [Unicode] in
/-- The issues after the first one stay fresh when it is dispatched. -/
theorem FreshIssues.tail {w w' : World} {issue : Issue} {issues : List Issue} (h : FreshIssues w (issue :: issues))
    (hw : ∀ j ∈ w'.state.running, issue.id = j ∨ j ∈ w.state.running) : FreshIssues w' issues := by
  obtain ⟨hn, hm⟩ := List.nodup_cons.1 h.1
  refine ⟨hm, fun x hx hr => ?_⟩
  rcases hw _ hr with hj | hj
  · exact hn (List.mem_map.2 ⟨x, hx, hj.symm⟩)
  · exact h.2 x (List.mem_cons_of_mem _ hx) hj

omit [Unicode] in
theorem running_of_dispatchIssue {issue : Issue} {attempt : Nat} {cap : Int} {r : Option RunningEntry} {w w' : World}
    (hd : dispatchIssue issue attempt cap w = .ret r w') :
    ∀ j ∈ w'.state.running, issue.id = j ∨ j ∈ w.state.running := by
  rcases dispatchIssue_ret hd with ⟨-, rfl⟩ | ⟨exc, delay, -, rfl⟩
  · exact fun j hj => Dict.mem_insert.1 hj
  · exact fun j hj => .inr hj

theorem Crash.exclusive {D : OrchDiscipline} {w w' : World} {φ : Phase} {e : Exn} (h : ExclusiveIn φ w)
    (hc : Crash D w φ e w') : Exclusive w' := by
  cases hc with
  | answer | loader | sort | inputs | questions => exact h.exclusive
  | interval _ ht =>
    rw [(scheduleNextTick_error ht).1]
    exact h.exclusive
  | @dispatch _ _ issue _ _ _ hd =>
    have h' : Exclusive (w.onState (·.popWaiting issue.id)) := h.1.congr rfl rfl rfl rfl
    exact h'.of_dispatchIssue_raise (h.2.2 _ List.mem_cons_self) hd
  | exit hx =>
    obtain ⟨entry, -, hu, -⟩ := onWorkerExit_raise hx
    exact (Exclusive.exited h _).unscheduled hu
  | reschedule hs => exact h.1.unscheduled (RetryQueue.schedule_raise hs).1
  | redispatch hm _ hd =>
    exact h.1.of_dispatchIssue_raise (hm.id_eq ▸ h.2) hd

/-- **The step lemma.** Every step of a handler keeps the invariant. -/
theorem Work.exclusive {D : OrchDiscipline} (hD : DistinctCandidates D) {w w' : World} {φ φ' : Phase}
    (h : ExclusiveIn φ w) (hw : Work D w φ w' φ') : ExclusiveIn φ' w' := by
  cases hw with
  | stall | terminateWithCleanup | terminateWithoutCleanup | adopt => exact Exclusive.congr h rfl rfl rfl rfl
  | refresh he hi => exact Exclusive.setRunning h he hi
  | skipTick ht | endLoop ht =>
    rw [scheduleNextTick_ret ht, World.tickScheduled_eq]
    exact h.exclusive.congr rfl rfl rfl rfl
  | eligible ha he => exact ⟨h, fresh_eligible (hD _ _ _ ha) he⟩
  | skip => exact ⟨h.1, h.2.tail fun j hj => .inr hj⟩
  | rewait => exact ⟨h.1.congr rfl rfl rfl rfl, h.2.tail fun j hj => .inr hj⟩
  | @dispatch _ issue _ _ _ hd =>
    have h' : Exclusive (w.onState (·.popWaiting issue.id)) := h.1.congr rfl rfl rfl rfl
    have hr := running_of_dispatchIssue hd
    exact ⟨h'.dispatchIssue (h.2.2 _ List.mem_cons_self) hd, h.2.tail hr⟩
  | exit hx =>
    rcases onWorkerExit_ret hx with ⟨-, rfl⟩ | ⟨entry, delay, -, rfl⟩
    · exact h
    · exact ((Exclusive.exited h _).scheduled (not_mem_exited w _) ..).unclaim (not_mem_exited w _)
  | @update m =>
    rcases onCodexUpdate_cases w m with hu | ⟨entry, totals, limits, hr, hu⟩
    · rw [hu]
      exact h
    · have hid : entry.issue.id = m.issueId := Exclusive.key h hr
      have h' := Exclusive.setRunning h hr (show (entry.updated m.event).issue.id = m.issueId from hid)
      rw [hu]
      exact h'.congr rfl rfl rfl rfl
  | reload => exact Exclusive.congr h rfl rfl rfl rfl
  | shutdown =>
    rw [World.tickCancelled_eq]
    exact Exclusive.congr h rfl rfl rfl rfl
  | noEntry => exact h
  | completed hr _ =>
    have hn : ∀ {i entry}, w.retryQueue.get? i = some entry → i ∉ w.state.running := fun hr hi => by
      rw [Exclusive.noRetry h hi] at hr; cases hr
    exact (Exclusive.popRetry h _).unclaim (hn hr)
  | popRetry hr _ =>
    exact ⟨Exclusive.popRetry h _, fun hi => by rw [Exclusive.noRetry h hi] at hr; cases hr⟩
  | reschedule hs =>
    obtain ⟨d, -, rfl⟩ := RetryQueue.schedule_ret hs
    exact h.1.scheduled h.2 ..
  | release => exact h.1.unclaim h.2
  | redispatch hm _ hd =>
    exact h.1.dispatchIssue (hm.id_eq ▸ h.2) hd
  | crash hc => exact hc.exclusive h

/-! ## Every reachable state -/

omit [Unicode] in
theorem World.IsInitial.exclusive {w : World} (h : w.IsInitial) : Exclusive w := by
  obtain ⟨config, now, client, factory, loader, spawnError, reloads, rfl⟩ := h
  exact ⟨(fun h => by cases h), fun h => absurd h (Dict.not_mem_empty _), fun h => absurd h (Dict.not_mem_empty _),
    fun h => absurd h (Dict.not_mem_empty _)⟩

omit [Unicode] in
theorem ExclusiveIn.of_frame {φ : Phase} {w w' : World} (h : ExclusiveIn φ w) (hf : w.EventFrame w') :
    ExclusiveIn φ w' := by
  have he : Exclusive w' := h.exclusive.congr (by rw [hf.state]) (by rw [hf.state]) (by rw [hf.state]) hf.retryQueue
  cases φ with
  | loop issues => exact ⟨he, by unfold FreshIssues; rw [hf.state]; exact h.2⟩
  | retry m entry => exact ⟨he, by rw [hf.state]; exact h.2⟩
  | handling | done | crashed => exact he

theorem handlers_keep_exclusive {D : OrchDiscipline} (hD : DistinctCandidates D) :
    (handlerPhases D).Keeps orchestrator D ExclusiveIn where
  work h hw := hw.exclusive hD h
  event h _ _ he := h.of_frame (event_frame he)

/-- What is known of every reachable configuration. -/
theorem reachable_exclusive {D : OrchDiscipline} (hD : DistinctCandidates D) {c : OrchConf} (h : Reachable D c) :
    (handlerPhases D).Says orchestrator D Exclusive ExclusiveIn c := by
  refine Phases.reach_says (handlers_simulate D) (handlers_keep_exclusive hD) (fun _ h => h.exclusive)
    (fun s e s' hs _ he => ExclusiveIn.of_frame (φ := .handling .pollTick) hs (event_frame he))
    (fun s m s' hs hn _ => ?_) (fun s m _ hs => hs) h
  obtain ⟨hr, -⟩ := recv_eq hn
  rw [hr]
  exact hs.congr rfl rfl rfl rfl

theorem reachable_state_exclusive {D : OrchDiscipline} (hD : DistinctCandidates D) {c : OrchConf} (h : Reachable D c) :
    Exclusive c.state :=
  (reachable_exclusive hD h).state (fun _ hs => hs) fun _ _ hs => hs.exclusive

/-! ## What the handling of a retry does -/

/-- The handling of a retry up to a phase: nothing; the entry popped; or done — the entry dropped, put back for the same
attempt, or for the next after a spawn that failed, or a task on the issue at the attempt of the entry. -/
inductive RetryHandled (s₀ : World) (m : RetryTimerFired) : Phase → World → Prop
  | received {w : World} : w.tasks = s₀.tasks → w.state = s₀.state → w.retryQueue = s₀.retryQueue →
      RetryHandled s₀ m (.handling (.retryTimerFired m)) w
  | popped {w : World} {entry : RetryEntry} : s₀.retryQueue.get? m.issueId = some entry → w.tasks = s₀.tasks →
      w.retryQueue = s₀.retryQueue.erase m.issueId → RetryHandled s₀ m (.retry m entry) w
  | dropped {w : World} : w.tasks = s₀.tasks → w.retryQueue.get? m.issueId = none →
      RetryHandled s₀ m (.done (.retryTimerFired m)) w
  | putBack {w : World} {entry entry' : RetryEntry} : s₀.retryQueue.get? m.issueId = some entry →
      w.tasks = s₀.tasks → w.retryQueue.get? m.issueId = some entry' → entry'.attempt = entry.attempt →
      RetryHandled s₀ m (.done (.retryTimerFired m)) w
  | failed {w : World} {entry entry' : RetryEntry} {exc : Exn} : s₀.retryQueue.get? m.issueId = some entry →
      w.tasks = s₀.tasks → w.retryQueue.get? m.issueId = some entry' → entry'.attempt = entry.attempt + 1 →
      entry'.lastError = some exc.msg → RetryHandled s₀ m (.done (.retryTimerFired m)) w
  | dispatched {w : World} {entry : RetryEntry} {issue : Issue} {config : EffectiveConfig} :
      s₀.retryQueue.get? m.issueId = some entry → issue.id = m.issueId →
      w.tasks = s₀.tasks ++ [⟨issue, entry.attempt, config⟩] → RetryHandled s₀ m (.done (.retryTimerFired m)) w
  | crashed {w : World} {e : Exn} : RetryHandled s₀ m (.crashed e) w

theorem retry_handled {D : OrchDiscipline} {s₀ w : World} {m : RetryTimerFired} {φ : Phase}
    (h : Gets D s₀ (.retryTimerFired m) φ w) : RetryHandled s₀ m φ w := by
  induction h with
  | refl => exact .received rfl rfl rfl
  | event _ _ _ he ih =>
    have hf := event_frame he
    cases ih with
    | received ht hs hr => exact .received (hf.tasks.trans ht) (hf.state.trans hs) (hf.retryQueue.trans hr)
    | popped he ht hr => exact .popped he (hf.tasks.trans ht) (hf.retryQueue.trans hr)
    | dropped ht hn => exact .dropped (hf.tasks.trans ht) (by rw [hf.retryQueue]; exact hn)
    | putBack he ht he' ha => exact .putBack he (hf.tasks.trans ht) (by rw [hf.retryQueue]; exact he') ha
    | failed he ht he' ha hl => exact .failed he (hf.tasks.trans ht) (by rw [hf.retryQueue]; exact he') ha hl
    | dispatched he hi ht => exact .dispatched he hi (hf.tasks.trans ht)
    | crashed => exact .crashed
  | @work v _ _ _ _ hw ih =>
    cases ih with
    | received ht hs hr =>
      cases hw with
      | noEntry hn => exact .dropped ht hn
      | completed => exact .dropped ht (Dict.get?_erase_self ..)
      | popRetry he => exact .popped (hr ▸ he) ht (by rw [← hr]; rfl)
      | crash => exact .crashed
    | @popped _ entry he ht hr =>
      cases hw with
      | reschedule hd =>
        obtain ⟨d, -, rfl⟩ := RetryQueue.schedule_ret hd
        exact .putBack he ht (World.get?_scheduled_self rfl ..) rfl
      | release =>
        refine .dropped ht ?_
        change v.retryQueue.get? _ = none
        rw [hr, Dict.get?_erase_self]
      | redispatch hm _ hd =>
        have hid := hm.id_eq
        rcases dispatchIssue_ret hd with ⟨-, rfl⟩ | ⟨exc, delay, -, rfl⟩
        · exact .dispatched he hid (by rw [← ht]; rfl)
        · exact .failed he ht (World.get?_scheduled_self hid ..) rfl rfl
      | crash => exact .crashed
    | dropped | putBack | failed | dispatched | crashed =>
      cases hw with
      | crash => exact .crashed

/-! ## The states of an issue -/

/-- The service, as long as the candidate lists of the ticks name no issue twice. -/
def distinctCandidates : OrchDiscipline where
  event _ _ := True
  receive _ _ := True
  answer m _ r x := m = .pollTick → ∀ candidates, candidatesOf r x = some candidates → (candidates.map (·.id)).Nodup

omit [Unicode] in
theorem distinctCandidates_distinct : DistinctCandidates distinctCandidates :=
  fun _ _ candidates h => h rfl candidates rfl

/-- **Exclusive orchestration states.** In every reachable state no issue is both running and queued for a retry, and
what is running is claimed, stored under its own id and indexed; so the handling of a retry starts no task for an issue
that is running. -/
theorem running_exclusive {c : OrchConf} (h : Reachable distinctCandidates c) :
    (∀ i, ¬ (i ∈ c.state.state.running ∧ i ∈ c.state.retryQueue)) ∧
    (∀ i ∈ c.state.state.running, i ∈ c.state.state.claimed) ∧
    (∀ i entry, c.state.state.running.get? i = some entry → entry.issue.id = i) ∧
    (∀ i ∈ c.state.state.running, i ∈ c.state.state.identifierIndex) ∧
    ∀ m w, Handles distinctCandidates c (.retryTimerFired m) w → m.issueId ∈ c.state.state.running →
      w.tasks = c.state.tasks := by
  have hx := reachable_state_exclusive distinctCandidates_distinct h
  refine ⟨fun i hi => ?_, fun i => hx.claimed, fun i entry => hx.key, fun i => hx.indexed, fun m w hh hi => ?_⟩
  · obtain ⟨entry, he⟩ := Dict.mem_iff_get?.1 hi.2
    rw [hx.noRetry hi.1] at he
    cases he
  · obtain ⟨ms, -, hg⟩ := hh.gets
    cases retry_handled hg with
    | dropped ht => exact ht
    | putBack _ ht => exact ht
    | failed _ ht => exact ht
    | dispatched he =>
      have hn : c.state.retryQueue.get? m.issueId = none := hx.noRetry hi
      cases hn.symm.trans he

end Service

section Sample

attribute [local instance] asciiTables

theorem running_exclusive_sample : ∃ c, orchestrator.run sampleStart sampleTick = some c ∧
    py "a" ∈ c.state.state.running ∧ py "a" ∈ c.state.state.claimed := by
  have hrun : ((orchestrator.run sampleStart sampleTick).map fun c => decide (py "a" ∈ c.state.state.running)) =
      some true := by decide +kernel
  obtain ⟨c, hc, hi⟩ := Option.map_eq_some_iff.1 hrun
  have hi := of_decide_eq_true hi
  have hl : ∀ l ∈ sampleTick, distinctCandidates.Always l := by
    intro l hl
    rcases mem_sampleTick hl with rfl | rfl | rfl
    · exact fun _ _ => trivial
    all_goals
      intro m s r _ candidates hr
      cases r <;> cases hr
      simp
  exact ⟨c, hc, hi, (running_exclusive (.run (.start sampleWorld_isInitial) hl hc)).2.1 _ hi⟩

end Sample

end RiverGang
