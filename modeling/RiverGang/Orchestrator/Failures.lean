import RiverGang.Orchestrator.Completed
import RiverGang.Orchestrator.Ticks
import RiverGang.Orchestrator.Workers

/-!
# Failures in a row

A tick starts an issue at attempt 1, and the exit of a failed attempt schedules the next one: the first failure is
followed by attempt 2, and `compute_backoff_ms` is never called for attempt 1.

* `Work.tasks`: which attempt a step starts.
* `Failing`: an issue started by a tick that failed `k` times in a row, each time started again by its retry.
* `failure_delays`: the delay after the `k`-th failure is `min (10000 * 2 ^ k) cap` milliseconds.
-/

namespace RiverGang

open Py Coop

section Service

variable [Unicode]

/-! ## The attempts that are started -/

/-- The tasks that a phase may start. -/
def Phase.Starts : Phase → WorkerTask → Prop
  | .loop _, t => t.attempt = 1
  | .retry _ entry, t => t.attempt = entry.attempt
  | _, _ => False

omit [Unicode] in
theorem tasks_dispatchIssue {issue : Issue} {attempt : Nat} {cap : Int} {r : Option RunningEntry} {v w w' : World}
    (h : dispatchIssue issue attempt cap v = .ret r w') (ht : v.tasks = w.tasks) (hc : v.config = w.config) :
    w'.tasks = w.tasks ∨ ∃ t, w'.tasks = w.tasks ++ [t] ∧ t.attempt = attempt ∧ t.config = w.config := by
  rw [← ht, ← hc]
  rcases dispatchIssue_ret h with ⟨-, rfl⟩ | ⟨exc, delay, -, rfl⟩
  · exact .inr ⟨⟨issue, attempt, v.config⟩, rfl, rfl, rfl⟩
  · exact .inl rfl

theorem Crash.tasks {D : OrchDiscipline} {w w' : World} {φ : Phase} {e : Exn} (h : Crash D w φ e w') :
    w'.tasks = w.tasks := by
  cases h with
  | answer | loader | sort | inputs | questions => rfl
  | interval _ ht => rw [(scheduleNextTick_error ht).1]
  | dispatch _ hd | redispatch _ _ hd =>
    obtain ⟨claimed, -, q, ts, n, rfl, -⟩ := dispatchIssue_raise hd
    rfl
  | exit hx =>
    obtain ⟨entry, -, ⟨q, ts, n, rfl, -⟩, -⟩ := onWorkerExit_raise hx
    rw [World.exited_eq]
  | reschedule hs =>
    obtain ⟨⟨q, ts, n, rfl, -⟩, -⟩ := RetryQueue.schedule_raise hs
    rfl

/-- **A step starts at most one task**, with the configuration in use, a tick at attempt 1 and a retry at the attempt of its
entry. -/
theorem Work.tasks {D : OrchDiscipline} {w w' : World} {φ φ' : Phase} (h : Work D w φ w' φ') :
    w'.tasks = w.tasks ∨ ∃ t, w'.tasks = w.tasks ++ [t] ∧ φ.Starts t ∧ t.config = w.config := by
  cases h with
  | stall | terminateWithCleanup | terminateWithoutCleanup | refresh | adopt | eligible | skip | rewait | update | reload
    | noEntry | completed | popRetry | release => exact .inl rfl
  | skipTick ht | endLoop ht => exact .inl (by rw [scheduleNextTick_ret ht, World.tickScheduled_eq])
  | dispatch _ hd | redispatch _ _ hd => exact tasks_dispatchIssue hd rfl rfl
  | exit hx =>
    rcases onWorkerExit_ret hx with ⟨-, rfl⟩ | ⟨entry, delay, -, rfl⟩
    · exact .inl rfl
    · left
      change (w.exited _).tasks = w.tasks
      rw [World.exited_eq]
  | shutdown => exact .inl (by rw [World.tickCancelled_eq])
  | reschedule hs =>
    obtain ⟨d, -, rfl⟩ := RetryQueue.schedule_ret hs
    exact .inl rfl
  | crash hc => exact .inl hc.tasks

/-- The tasks that a tick starts are at attempt 1. -/
theorem Handles.tick_tasks {D : OrchDiscipline} {c : OrchConf} {w : World} (h : Handles D c .pollTick w) :
    ∃ new, w.tasks = c.state.tasks ++ new ∧ ∀ t ∈ new, t.attempt = 1 := by
  obtain ⟨ms, -, hg⟩ := h.gets
  have key : ∀ {s φ}, Gets D { c.state with mailbox := ms } .pollTick φ s →
      ∃ new, s.tasks = c.state.tasks ++ new ∧ ∀ t ∈ new, t.attempt = 1 := by
    intro s φ hs
    induction hs with
    | refl => exact ⟨[], (List.append_nil _).symm, by simp⟩
    | event _ _ _ he ih => rw [(event_frame he).tasks]; exact ih
    | @work _ _ φ _ hs hw ih =>
      obtain ⟨new, ht, hn⟩ := ih
      rcases hw.tasks with heq | ⟨t, heq, hst, -⟩
      · exact ⟨new, heq.trans ht, hn⟩
      · refine ⟨new ++ [t], by rw [heq, ht, List.append_assoc], fun t' hm => ?_⟩
        rcases List.mem_append.1 hm with hm | hm
        · exact hn t' hm
        · obtain rfl := List.mem_singleton.1 hm
          have hof := phase_of hs
          cases φ with
          | loop => exact hst
          | retry => cases hof
          | handling | done | crashed => exact hst.elim
  exact key hg

/-- A run only adds to the tasks. -/
theorem tasks_prefix {D : OrchDiscipline} {w : World} {c : OrchConf} (h : orchestrator.Reach D (· = w) c) :
    w.tasks <+: c.state.tasks := by
  have hs := Phases.reach_says (handlers_simulate D) (J := fun v => w.tasks <+: v.tasks)
    (K := fun _ v => w.tasks <+: v.tasks) ⟨fun hk hw => ?_, fun hk _ _ he => ?_⟩ ?_ ?_ ?_ (fun _ _ _ hk => hk) h
  · exact hs.state (Q := fun v : World => w.tasks <+: v.tasks) (fun _ hk => hk) fun _ _ hk => hk
  · rcases hw.tasks with heq | ⟨t, heq, -⟩
    · rw [heq]
      exact hk
    · rw [heq]
      exact hk.trans (List.prefix_append _ _)
  · rw [(event_frame he).tasks]
    exact hk
  · rintro v rfl
    exact List.prefix_rfl
  · intro v e v' hk _ he
    rw [(event_frame he).tasks]
    exact hk
  · intro v m v' hk hn _
    obtain ⟨hv, -⟩ := recv_eq hn
    rw [hv]
    exact hk

/-! ## The attempt of a running issue -/

/-- The attempt of a running entry is that of its task. -/
def Numbered (w : World) : Prop :=
  ∀ i entry, w.state.running.get? i = some entry →
    ∃ t, w.tasks[entry.workerHandle]? = some t ∧ t.attempt = entry.retryAttempt

def NumberedIn : Phase → World → Prop
  | .crashed _, _ => True
  | _, w => Numbered w

omit [Unicode] in
theorem Numbered.congr {w w' : World} (h : Numbered w) (hr : w'.state.running = w.state.running)
    (ht : w'.tasks = w.tasks) : Numbered w' := by
  unfold Numbered
  rw [hr, ht]
  exact h

omit [Unicode] in
theorem Numbered.setRunning {w : World} (h : Numbered w) {i : Str} {entry entry' : RunningEntry}
    (he : w.state.running.get? i = some entry) (hh : entry'.workerHandle = entry.workerHandle)
    (ha : entry'.retryAttempt = entry.retryAttempt) : Numbered (w.onState (·.setRunning i entry')) := by
  intro j e hj
  rcases Dict.eq_or_of_get?_insert hj with ⟨rfl, rfl⟩ | hj
  · obtain ⟨t, ht, hta⟩ := h i entry he
    exact ⟨t, by rw [hh]; exact ht, hta.trans ha.symm⟩
  · exact h j e hj

omit [Unicode] in
theorem Numbered.dispatchIssue {issue : Issue} {attempt : Nat} {cap : Int} {r : Option RunningEntry} {w w' : World}
    (h : Numbered w) (hd : RiverGang.dispatchIssue issue attempt cap w = .ret r w') : Numbered w' := by
  rcases dispatchIssue_ret hd with ⟨-, rfl⟩ | ⟨exc, delay, -, rfl⟩
  · intro j e hj
    rcases Dict.eq_or_of_get?_insert hj with ⟨-, rfl⟩ | hj
    · exact ⟨⟨issue, attempt, w.config⟩, List.getElem?_concat_length, rfl⟩
    · obtain ⟨t, ht, hta⟩ := h j e hj
      exact ⟨t, (List.getElem?_append_left (List.getElem?_eq_some_iff.1 ht).1).trans ht, hta⟩
  · exact h

theorem Work.numbered {D : OrchDiscipline} {w w' : World} {φ φ' : Phase} (h : NumberedIn φ w)
    (hw : Work D w φ w' φ') : NumberedIn φ' w' := by
  cases hw with
  | stall | terminateWithCleanup | terminateWithoutCleanup | adopt | eligible | skip | rewait | reload | noEntry | completed
    | popRetry | release => exact Numbered.congr h rfl rfl
  | refresh he => exact Numbered.setRunning h he rfl rfl
  | skipTick ht | endLoop ht =>
    rw [scheduleNextTick_ret ht, World.tickScheduled_eq]
    exact Numbered.congr h rfl rfl
  | @dispatch _ issue _ _ _ hd =>
    have h' : Numbered (w.onState (·.popWaiting issue.id)) := Numbered.congr h rfl rfl
    exact h'.dispatchIssue hd
  | @exit _ m hx =>
    rcases onWorkerExit_ret hx with ⟨-, rfl⟩ | ⟨entry, delay, -, rfl⟩
    · exact h
    · intro j e hj
      change ∃ t, (w.exited m).tasks[_]? = _ ∧ _
      rw [World.exited_eq]
      exact h j e (World.get?_of_exited hj)
  | @update m =>
    rcases onCodexUpdate_cases w m with hu | ⟨entry, totals, limits, hr, hu⟩
    · rw [hu]
      exact h
    · have h' : Numbered (w.onState (·.setRunning m.issueId (entry.updated m.event))) := h.setRunning hr rfl rfl
      rw [hu]
      exact h'.congr rfl rfl
  | shutdown =>
    rw [World.tickCancelled_eq]
    exact Numbered.congr h rfl rfl
  | reschedule hs =>
    obtain ⟨d, -, rfl⟩ := RetryQueue.schedule_ret hs
    exact Numbered.congr h rfl rfl
  | redispatch _ _ hd => exact Numbered.dispatchIssue h hd
  | crash => trivial

/-- In every reachable configuration between messages. -/
theorem reachable_numbered {D : OrchDiscipline} {c : OrchConf} (h : Reachable D c) (hc : c.mode = .idle) :
    Numbered c.state := by
  have hs := Phases.reach_says (handlers_simulate D) (J := Numbered) (K := NumberedIn)
    ⟨fun hk hw => hw.numbered hk, fun {_ _ φ _} hk _ _ he => ?_⟩ (fun w hw => ?_) (fun w e w' hk _ he => ?_)
    (fun w m w' hk hn _ => ?_) (fun _ _ _ hk => hk) h
  · obtain ⟨w, mode⟩ := c
    obtain rfl : mode = .idle := hc
    exact hs
  · have hf := event_frame he
    cases φ with
    | crashed e => trivial
    | handling | loop | retry | done => exact Numbered.congr hk (by rw [hf.state]) hf.tasks
  · obtain ⟨config, now, client, factory, loader, spawnError, reloads, rfl⟩ := hw
    intro i entry he
    cases he
  · have hf := event_frame he
    exact hk.congr (by rw [hf.state]) hf.tasks
  · obtain ⟨hw, -⟩ := recv_eq hn
    rw [hw]
    exact Numbered.congr hk rfl rfl

/-! ## Failures in a row -/

/-- The service, where a retry finds no slot for its issue, or the fetch fails, or the issue is gone. -/
def postponing : OrchDiscipline where
  event _ _ := True
  receive _ _ := True
  answer m w r x := ∀ t, m = .retryTimerFired t → ∀ candidates issue, candidatesOf r x = some candidates →
    (candidates.find? fun c => c.id = t.issueId) = some issue →
    slotsFor issue.state w.state w.config.agent.maxConcurrentAgentsByState ≤ 0

/-- From an idle dispatcher in `w`, a run leads to `c`. -/
abbrev Later (w : World) (c : OrchConf) : Prop := orchestrator.Reach .free (· = w) c

/-- The handling of `m` starts worker `t` on issue `i`. -/
def StartsWorker (i : Str) (t : Nat) (c : OrchConf) (m : Message) (w : World) : Prop :=
  Handles .free c m w ∧ c.state.tasks.length ≤ t ∧ w.workerOf i = some t

/-- Worker `t`, at work on issue `i` in `w`, fails: its issue's exit is handled, in a configuration with the cap. -/
def Fails (i : Str) (t : Nat) (w : World) (cap : Int) (w' : World) : Prop :=
  ∃ c x, Later w c ∧ c.state.workerOf i = some t ∧ Handles .free c (.workerExit x) w' ∧ x.issueId = i ∧ x.ok = false ∧
    c.state.config.agent.maxRetryBackoffMs = cap

/-- Issue `i` has failed `k` times in a row, and its retry has just been scheduled with the cap: by the last failure, or
once more by a retry that could not start it. -/
inductive Failing (i : Str) : Nat → Int → World → Prop
  | first {c : OrchConf} {t : Nat} {cap : Int} {w w' : World} : Reachable .free c → StartsWorker i t c .pollTick w →
      Fails i t w cap w' → Failing i 1 cap w'
  | postponed {k : Nat} {cap : Int} {c : OrchConf} {m : RetryTimerFired} {w w' : World} : Failing i k cap w → Later w c →
      c.state.retryQueue.get? i = w.retryQueue.get? i → m.issueId = i → Handles postponing c (.retryTimerFired m) w' →
      i ∈ w'.retryQueue → Failing i k c.state.config.agent.maxRetryBackoffMs w'
  | again {k t : Nat} {cap cap' : Int} {c : OrchConf} {m : RetryTimerFired} {w w' w'' : World} : Failing i k cap w →
      Later w c → c.state.retryQueue.get? i = w.retryQueue.get? i → m.issueId = i →
      StartsWorker i t c (.retryTimerFired m) w' → Fails i t w' cap' w'' → Failing i (k + 1) cap' w''

theorem Failing.pos {i : Str} {k : Nat} {cap : Int} {w : World} (h : Failing i k cap w) : 0 < k := by
  induction h with
  | first => exact Nat.one_pos
  | postponed _ _ _ _ _ _ ih => exact ih
  | again => exact Nat.succ_pos _

/-- In microseconds. -/
def RetryEntry.delay (entry : RetryEntry) : Int := entry.fireAt - entry.scheduledAt

/-- The entry of an issue after `k` failures. -/
def DelayedAfter (k : Nat) (cap : Int) (entry : RetryEntry) : Prop :=
  entry.kind = .failure ∧ entry.attempt = k + 1 ∧ entry.delay = min (FAILURE_BASE_MS * 2 ^ k) cap * 1000

omit [Unicode] in
theorem delayedAfter_of_delayMs {k : Nat} {cap d : Int} {entry : RetryEntry}
    (hd : RetryQueue.delayMs entry.kind entry.attempt cap = .ok d) (hk : entry.kind = .failure)
    (ha : entry.attempt = k + 1) (hf : entry.fireAt = entry.scheduledAt + d * 1000) : DelayedAfter k cap entry := by
  refine ⟨hk, ha, ?_⟩
  rw [hk, ha] at hd
  have hlt : ¬ k + 1 < 1 := by omega
  rw [RetryQueue.delayMs, computeBackoffMs, if_neg hlt, Nat.add_sub_cancel] at hd
  cases hd
  rw [RetryEntry.delay, hf]
  omega

omit [Unicode] in
theorem le_free (D : OrchDiscipline) : D.Le .free := ⟨fun _ => trivial, fun _ => trivial, fun _ => trivial⟩

theorem Handles.reachable {D : OrchDiscipline} {c : OrchConf} {m : Message} {w : World} (h : Handles D c m w)
    (hc : Reachable .free c) (hm : m.stops = false) : Reachable .free ⟨w, .idle⟩ := by
  obtain ⟨w', hi, hn, hd, hr⟩ := h
  obtain ⟨s, mode⟩ := c
  obtain rfl : mode = .idle := hi
  have hne : ∀ r : OrchReq, Nonempty (OrchSig.Ans r) := by
    intro r
    cases r <;> exact ⟨.error ⟨.linearError, py ""⟩⟩
  have hreach := Server.Reach.handled hne (le_free D) hc hn hd hr
  rwa [Server.settle, show orchestrator.stops m = false from hm] at hreach

/-- A worker that a tick starts is at its first attempt. -/
theorem StartsWorker.first {i : Str} {t : Nat} {c : OrchConf} {w : World} (h : StartsWorker i t c .pollTick w)
    (hc : Reachable .free c) : Reachable .free ⟨w, .idle⟩ ∧ ∃ task, w.tasks[t]? = some task ∧ task.attempt = 1 := by
  obtain ⟨hh, hlen, hw⟩ := h
  have hr := hh.reachable hc rfl
  obtain ⟨entry, he, rfl⟩ := Option.map_eq_some_iff.1 hw
  obtain ⟨task, ht, -⟩ := reachable_numbered hr rfl i entry he
  obtain ⟨new, htasks, hn⟩ := hh.tick_tasks
  refine ⟨hr, task, ht, hn task ?_⟩
  rw [htasks, List.getElem?_append_right hlen] at ht
  exact List.mem_of_getElem? ht

/-- A worker that a retry starts is at the attempt of the entry. -/
theorem StartsWorker.again {i : Str} {t : Nat} {c : OrchConf} {m : RetryTimerFired} {w : World} {entry : RetryEntry}
    (h : StartsWorker i t c (.retryTimerFired m) w) (hc : Reachable .free c)
    (he : c.state.retryQueue.get? m.issueId = some entry) :
    Reachable .free ⟨w, .idle⟩ ∧ ∃ task, w.tasks[t]? = some task ∧ task.attempt = entry.attempt := by
  obtain ⟨hh, hlen, hw⟩ := h
  have hr := hh.reachable hc rfl
  obtain ⟨running, hrun, rfl⟩ := Option.map_eq_some_iff.1 hw
  obtain ⟨task, ht, -⟩ := reachable_numbered hr rfl i running hrun
  refine ⟨hr, task, ht, ?_⟩
  have hlt := (List.getElem?_eq_some_iff.1 ht).1
  obtain ⟨ms, -, hg⟩ := hh.gets
  have hsame : w.tasks = c.state.tasks → task.attempt = entry.attempt := fun heq => by
    rw [heq] at hlt
    omega
  cases retry_handled hg with
  | dropped heq | putBack _ heq | failed _ heq => exact hsame heq
  | dispatched he' _ heq =>
    cases he.symm.trans he'
    rw [heq, List.getElem?_append_right hlen] at ht
    obtain rfl := List.mem_singleton.1 (List.mem_of_getElem? ht)
    rfl

/-- The failure of a worker schedules the retry after as many failures as its attempt. -/
theorem Fails.entry {i : Str} {t : Nat} {w w' : World} {cap : Int} (h : Fails i t w cap w')
    (hw : Reachable .free ⟨w, .idle⟩) {task : WorkerTask} (ht : w.tasks[t]? = some task) :
    Reachable .free ⟨w', .idle⟩ ∧ ∃ entry, w'.retryQueue.get? i = some entry ∧ DelayedAfter task.attempt cap entry := by
  obtain ⟨c, x, hl, hwork, hh, rfl, hok, rfl⟩ := h
  have hc : Reachable .free c := hw.trans (le_free _) hl
  refine ⟨hh.reachable hc rfl, ?_⟩
  obtain ⟨running, hrun, rfl⟩ := Option.map_eq_some_iff.1 hwork
  have hi : c.mode = .idle := by
    obtain ⟨w', hi, -⟩ := hh
    exact hi
  obtain ⟨task', ht', ha⟩ := reachable_numbered hc hi x.issueId running hrun
  obtain ⟨rest, hrest⟩ := tasks_prefix hl
  rw [← hrest, List.getElem?_append_left (List.getElem?_eq_some_iff.1 ht).1, ht] at ht'
  cases ht'
  obtain ⟨entry, delay, hd, he, hk, hatt, hf, -⟩ := hh.exit_entry hrun
  have hfailure : x.retryKind = .failure := by rw [WorkerExit.retryKind, hok]; rfl
  refine ⟨entry, he, delayedAfter_of_delayMs (by rw [hk, hatt]; exact hd) (hk.trans hfailure) ?_ hf⟩
  rw [hatt, ha]

/-! ## A retry that is put back -/

/-- The handling of a retry that cannot start its issue, up to a phase: whatever is scheduled in the end is of the kind
and the attempt of the entry. -/
def PutBack (s₀ : World) (m : RetryTimerFired) : Phase → World → Prop
  | .handling _, w => w.retryQueue = s₀.retryQueue ∧ w.config = s₀.config
  | .retry _ entry, w => s₀.retryQueue.get? m.issueId = some entry ∧ w.config = s₀.config ∧
      w.retryQueue.get? m.issueId = none
  | .done _, w => ∀ entry', w.retryQueue.get? m.issueId = some entry' → ∃ entry d,
      s₀.retryQueue.get? m.issueId = some entry ∧ entry'.kind = entry.kind ∧ entry'.attempt = entry.attempt ∧
      RetryQueue.delayMs entry.kind entry.attempt s₀.config.agent.maxRetryBackoffMs = .ok d ∧
      entry'.fireAt = entry'.scheduledAt + d * 1000
  | _, _ => True

theorem put_back {s₀ w : World} {m : RetryTimerFired} {φ : Phase} (h : Gets postponing s₀ (.retryTimerFired m) φ w) :
    PutBack s₀ m φ w := by
  induction h with
  | refl => exact ⟨rfl, rfl⟩
  | @event _ _ φ _ hg ha _ he ih =>
    have hf := event_frame he
    cases φ with
    | handling => exact ⟨hf.retryQueue.trans ih.1, hf.config.trans ih.2⟩
    | retry => exact ⟨ih.1, hf.config.trans ih.2.1, by rw [hf.retryQueue]; exact ih.2.2⟩
    | loop => trivial
    | done | crashed => exact ha.elim
  | @work v _ _ _ hg hw ih =>
    have hof := phase_of hg
    cases hw with
    | stall | terminateWithCleanup | terminateWithoutCleanup | refresh | adopt | skipTick | eligible | skip | rewait
      | dispatch | endLoop | exit | update | reload | shutdown => cases hof
    | noEntry hn =>
      cases hof
      intro entry' he'
      cases hn.symm.trans he'
    | completed =>
      cases hof
      intro entry' he'
      change (v.retryQueue.erase m.issueId).get? m.issueId = some entry' at he'
      rw [Dict.get?_erase_self] at he'
      cases he'
    | popRetry he =>
      cases hof
      rw [ih.1] at he
      exact ⟨he, ih.2, Dict.get?_erase_self ..⟩
    | reschedule hs =>
      cases hof
      obtain ⟨d, hd, rfl⟩ := RetryQueue.schedule_ret hs
      intro entry' he'
      cases (World.get?_scheduled_self rfl ..).symm.trans he'
      exact ⟨_, d, ih.1, rfl, rfl, by rw [← ih.2.1]; exact hd, rfl⟩
    | release =>
      cases hof
      intro entry' he'
      cases ih.2.2.symm.trans he'
    | redispatch hm hsl hd =>
      obtain ⟨states, candidates, ha, hf⟩ := hm
      exact absurd hsl (not_lt.2 (ha _ rfl candidates _ rfl hf))
    | crash => trivial

/-- The entry of an issue that failed `k` times in a row. -/
theorem Failing.entry {i : Str} {k : Nat} {cap : Int} {w : World} (h : Failing i k cap w) :
    Reachable .free ⟨w, .idle⟩ ∧ ∃ entry, w.retryQueue.get? i = some entry ∧ DelayedAfter k cap entry := by
  induction h with
  | first hc hs hf =>
    obtain ⟨hr, task, ht, ha⟩ := hs.first hc
    have hentry := hf.entry hr ht
    rwa [ha] at hentry
  | @postponed k cap c m w w' _ hl he hm hh hmem ih =>
    obtain ⟨hr, entry, hw, hd⟩ := ih
    have hc : Reachable .free c := hr.trans (le_free _) hl
    refine ⟨hh.reachable hc rfl, ?_⟩
    obtain ⟨entry', he'⟩ := Dict.mem_iff_get?.1 hmem
    obtain ⟨ms, -, hg⟩ := hh.gets
    have hc' : c.state.retryQueue.get? m.issueId = some entry := by rw [hm, he, hw]
    obtain ⟨entry₀, d, h₀, hk, ha, hdelay, hf⟩ := put_back hg entry' (by rw [hm]; exact he')
    cases hc'.symm.trans h₀
    refine ⟨entry', he', delayedAfter_of_delayMs ?_ (hk.trans hd.1) (ha.trans hd.2.1) hf⟩
    rw [hk, ha]
    exact hdelay
  | again _ hl he hm hs hf ih =>
    obtain ⟨hr, entry, hw, hd⟩ := ih
    have hc := hr.trans (le_free _) hl
    obtain ⟨hr', task, ht, ha⟩ := hs.again hc (by rw [hm, he, hw])
    have hentry := hf.entry hr' ht
    rwa [ha, hd.2.1] at hentry

/-- **The delays of failures in a row.** After the `k`-th failure, and after every postponement that follows it, the
issue has a retry for attempt `k + 1`, `min (10000 * 2 ^ k) cap` milliseconds after it was scheduled. This is
`min (10000 * 2 ^ (k - 1)) cap` exactly where the cap is at most `10000 * 2 ^ (k - 1)`. The delays do not exceed the
cap, and under one cap they do not decrease. -/
theorem failure_delays {i : Str} {k : Nat} {cap : Int} {w : World} (h : Failing i k cap w) :
    ∃ entry, w.retryQueue.get? i = some entry ∧ entry.kind = .failure ∧ entry.attempt = k + 1 ∧
      entry.delay = min (10000 * 2 ^ k) cap * 1000 ∧
      (entry.delay = min (10000 * 2 ^ (k - 1)) cap * 1000 ↔ cap ≤ 10000 * 2 ^ (k - 1)) ∧
      entry.delay ≤ cap * 1000 ∧
      ∀ j w' earlier, Failing i j cap w' → j ≤ k → w'.retryQueue.get? i = some earlier →
        earlier.delay ≤ entry.delay := by
  obtain ⟨-, entry, he, hk, ha, hd⟩ := h.entry
  rw [FAILURE_BASE_MS] at hd
  refine ⟨entry, he, hk, ha, hd, ?_, ?_, fun j w' earlier h' hj he' => ?_⟩
  · obtain ⟨n, rfl⟩ : ∃ n, k = n + 1 := Nat.exists_eq_succ_of_ne_zero h.pos.ne'
    have hpos : (0 : Int) < 2 ^ n := Int.pow_pos (by omega)
    rw [hd, Nat.add_sub_cancel, pow_succ]
    omega
  · rw [hd]
    omega
  · obtain ⟨-, entry', he'', -, -, hd'⟩ := h'.entry
    cases he'.symm.trans he''
    rw [FAILURE_BASE_MS] at hd'
    have hle : (2 : Int) ^ j ≤ 2 ^ k := by exact_mod_cast Nat.pow_le_pow_right (n := 2) (by omega) hj
    rw [hd, hd']
    omega

end Service

section Sample

attribute [local instance] asciiTables

/-- What the first tick comes to. -/
def sampleTicked : Except Exn Unit × World :=
  (handle .pollTick { sampleWorld with mailbox := [] }).exec retryAnswers.reply

theorem startsWorker_sampleTicked : StartsWorker (py "a") 0 sampleStart .pollTick sampleTicked.2 := by
  have hok : sampleTicked.1.isOk = true := by decide +kernel
  exact ⟨.of_isOk rfl rfl trivial (fun _ _ => trivial) hok, Nat.zero_le _, by decide +kernel⟩

/-- Worker `t` of the issue fails, and its exit is handled. -/
def sampleFailed (t : Nat) (w : World) : Option World :=
  (orchestrator.run ⟨w, .idle⟩ [.event (.finish t ⟨py "turn failed", false, 0, none⟩)]).bind fun c =>
    (nextExit c.state).bind fun p =>
      if c.mode.isIdle = true ∧ c.state.workerOf (py "a") = some t ∧ p.1.issueId = py "a" ∧ p.1.ok = false ∧
          c.state.config.agent.maxRetryBackoffMs = 300000 ∧
          ((handle (.workerExit p.1) p.2).exec retryAnswers.reply).1.isOk = true then
        some ((handle (.workerExit p.1) p.2).exec retryAnswers.reply).2
      else none

theorem fails_sampleFailed {t : Nat} {w w' : World} (h : sampleFailed t w = some w') : Fails (py "a") t w 300000 w' := by
  obtain ⟨c, hc, h⟩ := Option.bind_eq_some_iff.1 h
  obtain ⟨⟨x, v⟩, hn, h⟩ := Option.bind_eq_some_iff.1 h
  obtain ⟨⟨hi, hw, hx, hfail, hcap, hok⟩, he⟩ := Option.ite_none_right_eq_some.1 h
  cases he
  exact ⟨c, x, .run (.start rfl) (fun l _ => Discipline.always_free l) hc, hw,
    .of_isOk (Mode.isIdle_iff.1 hi) (nextExit_eq_some hn) trivial (fun _ _ => trivial) hok, hx, hfail, hcap⟩

/-- The retry of the issue, when its timer has fired. -/
def sampleRetryDue (timer : Nat) (w : World) : Option (OrchConf × RetryTimerFired × World) :=
  (orchestrator.run ⟨w, .idle⟩ [.event (.advance 20000000), .event (.fire timer)]).bind fun c =>
    (nextRetry c.state).bind fun p =>
      if c.mode.isIdle = true ∧ p.1.issueId = py "a" ∧ c.state.retryQueue.get? (py "a") = w.retryQueue.get? (py "a") ∧
          c.state.config.agent.maxRetryBackoffMs = 300000 then
        some (c, p)
      else none

theorem later_sampleRetryDue {timer : Nat} {w v : World} {c : OrchConf} {m : RetryTimerFired}
    (h : sampleRetryDue timer w = some (c, m, v)) : Later w c ∧ c.mode = .idle ∧
      c.state.recv = some (.retryTimerFired m, v) ∧ m.issueId = py "a" ∧
      c.state.retryQueue.get? (py "a") = w.retryQueue.get? (py "a") ∧
      c.state.config.agent.maxRetryBackoffMs = 300000 := by
  obtain ⟨c', hc, h⟩ := Option.bind_eq_some_iff.1 h
  obtain ⟨⟨m', v'⟩, hn, h⟩ := Option.bind_eq_some_iff.1 h
  obtain ⟨⟨hi, hm, he, hcap⟩, heq⟩ := Option.ite_none_right_eq_some.1 h
  cases heq
  exact ⟨.run (.start rfl) (fun l _ => Discipline.always_free l) hc, Mode.isIdle_iff.1 hi, nextRetry_eq_some hn, hm, he,
    hcap⟩

/-- The candidates cannot be fetched. -/
def fetchFails : Answers := { candidates := .error ⟨.linearError, py "timeout"⟩ }

/-- The retry is handled. -/
def sampleRetried (a : Answers) (due : OrchConf × RetryTimerFired × World) : Except Exn Unit × World :=
  (handle (.retryTimerFired due.2.1) due.2.2).exec a.reply

/-- The first attempt of an issue fails. -/
theorem sample_failing : ∃ w, Failing (py "a") 1 300000 w := by
  have hrun : (sampleFailed 0 sampleTicked.2).isSome = true := by decide +kernel
  obtain ⟨w, hw⟩ := Option.isSome_iff_exists.1 hrun
  exact ⟨w, .first (.start sampleWorld_isInitial) startsWorker_sampleTicked (fails_sampleFailed hw)⟩

/-- The first retry cannot fetch the candidates, the second starts the issue, and it fails again. -/
theorem failure_delays_sample : ∃ w entry, Failing (py "a") 2 300000 w ∧ w.retryQueue.get? (py "a") = some entry ∧
    entry.attempt = 3 ∧ entry.delay = 40000 * 1000 := by
  have hrun : ((sampleFailed 0 sampleTicked.2).bind fun w₁ => (sampleRetryDue 1 w₁).bind fun due₁ =>
      (sampleRetryDue 2 (sampleRetried fetchFails due₁).2).bind fun due₂ =>
        (sampleFailed 1 (sampleRetried retryAnswers due₂).2).map fun _ => decide (
          (sampleRetried fetchFails due₁).1.isOk = true ∧
          py "a" ∈ (sampleRetried fetchFails due₁).2.retryQueue ∧
          (sampleRetried retryAnswers due₂).1.isOk = true ∧ due₂.1.state.tasks.length ≤ 1 ∧
          (sampleRetried retryAnswers due₂).2.workerOf (py "a") = some 1)) = some true := by
    decide +kernel
  obtain ⟨w₁, hw₁, hrun⟩ := Option.bind_eq_some_iff.1 hrun
  obtain ⟨⟨c₁, m₁, v₁⟩, hdue₁, hrun⟩ := Option.bind_eq_some_iff.1 hrun
  obtain ⟨⟨c₂, m₂, v₂⟩, hdue₂, hrun⟩ := Option.bind_eq_some_iff.1 hrun
  obtain ⟨w, hw, hd⟩ := Option.map_eq_some_iff.1 hrun
  obtain ⟨hok₁, hback, hok₂, htasks, hworker⟩ := of_decide_eq_true hd
  have hfirst : Failing (py "a") 1 300000 w₁ :=
    .first (.start sampleWorld_isInitial) startsWorker_sampleTicked (fails_sampleFailed hw₁)
  obtain ⟨hlater₁, hi₁, hn₁, hm₁, he₁, hcap₁⟩ := later_sampleRetryDue hdue₁
  have hanswer : ∀ s r, postponing.answer (.retryTimerFired m₁) s r (fetchFails.reply r) := by
    intro s r t _ candidates issue hx
    cases r <;> cases hx
  have hpostponed := hfirst.postponed hlater₁ he₁ hm₁ (.of_isOk hi₁ hn₁ trivial hanswer hok₁) hback
  rw [hcap₁] at hpostponed
  obtain ⟨hlater₂, hi₂, hn₂, hm₂, he₂, -⟩ := later_sampleRetryDue hdue₂
  have hagain := hpostponed.again hlater₂ he₂ hm₂
    ⟨.of_isOk hi₂ hn₂ trivial (fun _ _ => trivial) hok₂, htasks, hworker⟩ (fails_sampleFailed hw)
  obtain ⟨entry, he, -, ha, hdelay, -⟩ := failure_delays hagain
  exact ⟨w, entry, hagain, he, ha, hdelay⟩

/-- **Twenty seconds.** The first failure of an issue that a tick started is followed by twice the base delay. -/
theorem first_delay_doubled : ∃ w entry, Failing (py "a") 1 300000 w ∧ w.retryQueue.get? (py "a") = some entry ∧
    entry.delay = 20000 * 1000 ∧ entry.delay ≠ min (10000 * 2 ^ (1 - 1)) 300000 * 1000 := by
  obtain ⟨w, h⟩ := sample_failing
  obtain ⟨-, entry, he, -, -, hd⟩ := h.entry
  rw [show min (FAILURE_BASE_MS * 2 ^ 1) 300000 * 1000 = 20000 * 1000 from rfl] at hd
  exact ⟨w, entry, h, he, hd, by rw [hd]; decide⟩

end Sample

end RiverGang
