import RiverGang.Observability.Snapshot

/-!
# The two read endpoints

`GET /api/v1/state` shows the snapshot, `GET /api/v1/{identifier}` the detail of one issue; both read the live state of the
orchestrator between two stretches of its handlers.

* `Indexed`: what every reachable state knows of identifiers. A running entry goes by the identifier in the index, and the
  index holds, for each issue, the identifier under which it was last started (`reachable_indexed`).
* `lookup_of_index`, `lookup_of_unknown`: so the lookup of an identifier finds the entries of its issue.
* `endpoints_agree`: the detail shows what the rows of the snapshot show, and is missing only for an issue that is in none
  of the three maps.
-/

namespace RiverGang

open Py Coop

/-! ## Identifiers -/

/-- The identifier of the last task on an issue. -/
def lastStarted (tasks : List WorkerTask) (i : Str) : Option Str :=
  (tasks.reverse.find? fun t => t.issue.id = i).map (·.issue.identifier)

theorem lastStarted_concat (tasks : List WorkerTask) (t : WorkerTask) (i : Str) :
    lastStarted (tasks ++ [t]) i = if t.issue.id = i then some t.issue.identifier else lastStarted tasks i := by
  unfold lastStarted
  rw [List.reverse_append, List.reverse_singleton, List.singleton_append, List.find?_cons]
  by_cases h : t.issue.id = i
  · simp [h]
  · simp [h]

/-- No task was ever started on an issue. -/
theorem lastStarted_eq_none {tasks : List WorkerTask} {i : Str} :
    lastStarted tasks i = none ↔ ∀ t ∈ tasks, t.issue.id ≠ i := by
  simp [lastStarted]

/-- What the maps of a world know of identifiers. -/
structure Indexed (w : World) : Prop where
  key : ∀ {i entry}, w.state.running.get? i = some entry → entry.issue.id = i
  entry : ∀ {i entry}, w.state.running.get? i = some entry → w.state.identifierIndex.get? i = some entry.identifier
  index : ∀ i, w.state.identifierIndex.get? i = lastStarted w.tasks i
  retry : ∀ {i entry}, w.retryQueue.get? i = some entry → entry.issueId = i

namespace Indexed

variable {w w' : World}

theorem congr (h : Indexed w) (hs : w'.state.running = w.state.running)
    (hi : w'.state.identifierIndex = w.state.identifierIndex) (ht : w'.tasks = w.tasks)
    (hr : w'.retryQueue = w.retryQueue) : Indexed w' where
  key := by rw [hs]; exact h.key
  entry := by rw [hs, hi]; exact h.entry
  index := by rw [hi, ht]; exact h.index
  retry := by rw [hr]; exact h.retry

/-- An entry of the same issue and identifier in the place of a running one. -/
theorem setRunning {i : Str} {entry entry' : RunningEntry} (h : Indexed w) (he : w.state.running.get? i = some entry)
    (hi : entry'.issue.id = i) (hn : entry'.identifier = entry.identifier) :
    Indexed (w.onState (·.setRunning i entry')) := by
  refine ⟨fun {j e} hj => ?_, fun {j e} hj => ?_, h.index, h.retry⟩
  · rcases Dict.eq_or_of_get?_insert hj with ⟨rfl, rfl⟩ | hj
    · exact hi
    · exact h.key hj
  · rcases Dict.eq_or_of_get?_insert hj with ⟨rfl, rfl⟩ | hj
    · rw [hn]
      exact h.entry he
    · exact h.entry hj

/-- Fewer retries. -/
theorem unscheduled {i : Str} (h : Indexed w) (hu : w.Unscheduled i w') : Indexed w' := by
  obtain ⟨q, ts, n, rfl, hq⟩ := hu
  refine ⟨h.key, h.entry, h.index, fun {j e} hj => ?_⟩
  change q.get? j = some e at hj
  rcases hq j with hqj | ⟨-, hqj⟩
  · exact h.retry (hqj ▸ hj)
  · cases hqj.symm.trans hj

theorem cancelRetry (h : Indexed w) (i : Str) : Indexed (w.cancelRetry i) := h.unscheduled (w.unscheduled_cancelRetry i)

theorem popRetry (h : Indexed w) (i : Str) : Indexed (w.popRetry i) :=
  ⟨h.key, h.entry, h.index, fun hj => h.retry (Dict.get?_of_erase hj)⟩

theorem scheduled (h : Indexed w) (i : Str) (n : Nat) (k : RetryKind) (d : Int) (f : Str → Callback) (e : Option Str) :
    Indexed (w.scheduled i n k d f e) := by
  refine ⟨h.key, h.entry, h.index, fun {j entry} hj => ?_⟩
  rw [World.get?_scheduled] at hj
  split at hj
  · rename_i hij
    cases hj
    exact hij
  · exact h.retry hj

/-- The index moves with the tasks. -/
theorem dispatched (h : Indexed w) (issue : Issue) (attempt : Nat) : Indexed (w.dispatched issue attempt) := by
  refine ⟨fun {j e} hj => ?_, fun {j e} hj => ?_, fun j => ?_, fun hj => h.retry (Dict.get?_of_erase hj)⟩
  · rcases Dict.eq_or_of_get?_insert hj with ⟨rfl, rfl⟩ | hj
    · rfl
    · exact h.key hj
  · change (w.state.identifierIndex.insert issue.id issue.identifier).get? j = _
    rw [Dict.get?_insert]
    change (w.state.running.insert issue.id _).get? j = _ at hj
    rw [Dict.get?_insert] at hj
    split at hj
    · rename_i hij
      cases hj
      rw [if_pos hij]
      rfl
    · rename_i hij
      rw [if_neg hij]
      exact h.entry hj
  · change (w.state.identifierIndex.insert issue.id issue.identifier).get? j = lastStarted (w.tasks ++ [_]) j
    rw [Dict.get?_insert, lastStarted_concat, h.index]

theorem spawnFailed (h : Indexed w) (i : Str) : Indexed (w.spawnFailed i) :=
  (h.cancelRetry i).congr rfl rfl rfl rfl

theorem dispatchIssue {issue : Issue} {attempt : Nat} {cap : Int} {r : Option RunningEntry} (h : Indexed w)
    (hd : dispatchIssue issue attempt cap w = .ret r w') : Indexed w' := by
  rcases dispatchIssue_ret hd with ⟨-, rfl⟩ | ⟨exc, delay, -, rfl⟩
  · exact h.dispatched issue attempt
  · exact (h.spawnFailed _).scheduled ..

theorem of_dispatchIssue_raise {issue : Issue} {attempt : Nat} {cap : Int} {e : Exn} (h : Indexed w)
    (hd : RiverGang.dispatchIssue issue attempt cap w = .raise e w') : Indexed w' := by
  obtain ⟨c, -, hu⟩ := dispatchIssue_raise hd
  have h' : Indexed (w.onState fun s => { s with claimed := c }) := h.congr rfl rfl rfl rfl
  exact h'.unscheduled hu

theorem exited (h : Indexed w) (m : WorkerExit) : Indexed (w.exited m) := by
  have hindex : (w.exited m).state.identifierIndex = w.state.identifierIndex := by
    unfold World.exited
    cases m.ok <;> rfl
  have htasks : (w.exited m).tasks = w.tasks := by rw [World.exited_eq]
  have hqueue : (w.exited m).retryQueue = w.retryQueue := by rw [World.exited_eq]
  refine ⟨fun he => h.key (World.get?_of_exited he), fun he => ?_, ?_, by rw [hqueue]; exact h.retry⟩
  · rw [hindex]
    exact h.entry (World.get?_of_exited he)
  · rw [hindex, htasks]
    exact h.index

end Indexed

/-! ## The phases keep it -/

section Service

variable [Unicode] {D : OrchDiscipline} {w w' : World} {φ φ' : Phase}

theorem Crash.indexed {e : Exn} (h : Indexed w) (hc : Crash D w φ e w') : Indexed w' := by
  cases hc with
  | answer | loader | sort | inputs | questions => exact h
  | interval _ ht =>
    rw [(scheduleNextTick_error ht).1]
    exact h
  | @dispatch _ _ issue _ _ _ hd =>
    have h' : Indexed (w.onState (·.popWaiting issue.id)) := h.congr rfl rfl rfl rfl
    exact h'.of_dispatchIssue_raise hd
  | exit hx =>
    obtain ⟨entry, -, hu, -⟩ := onWorkerExit_raise hx
    exact (h.exited _).unscheduled hu
  | reschedule hs => exact h.unscheduled (RetryQueue.schedule_raise hs).1
  | redispatch _ _ hd => exact h.of_dispatchIssue_raise hd

/-- **The step lemma.** -/
theorem Work.indexed (h : Indexed w) (hw : Work D w φ w' φ') : Indexed w' := by
  cases hw with
  | stall | terminateWithCleanup | terminateWithoutCleanup | adopt | eligible | skip | rewait | reload | noEntry
  | release => exact h.congr rfl rfl rfl rfl
  | refresh he hi => exact h.setRunning he hi rfl
  | skipTick ht | endLoop ht =>
    rw [scheduleNextTick_ret ht, World.tickScheduled_eq]
    exact h.congr rfl rfl rfl rfl
  | @dispatch _ issue _ _ _ hd =>
    have h' : Indexed (w.onState (·.popWaiting issue.id)) := h.congr rfl rfl rfl rfl
    exact h'.dispatchIssue hd
  | exit hx =>
    rcases onWorkerExit_ret hx with ⟨-, rfl⟩ | ⟨entry, delay, -, rfl⟩
    · exact h
    · exact ((h.exited _).scheduled ..).congr rfl rfl rfl rfl
  | @update m =>
    rcases onCodexUpdate_cases w m with hu | ⟨entry, totals, limits, hr, hu⟩
    · rw [hu]
      exact h
    · have hid : entry.issue.id = m.issueId := h.key hr
      have h' := h.setRunning hr (show (entry.updated m.event).issue.id = m.issueId from hid) rfl
      rw [hu]
      exact h'.congr rfl rfl rfl rfl
  | shutdown =>
    rw [World.tickCancelled_eq]
    exact h.congr rfl rfl rfl rfl
  | completed => exact (h.popRetry _).congr rfl rfl rfl rfl
  | popRetry => exact h.popRetry _
  | reschedule hs =>
    obtain ⟨d, -, rfl⟩ := RetryQueue.schedule_ret hs
    exact h.scheduled ..
  | redispatch _ _ hd => exact h.dispatchIssue hd
  | crash hc => exact hc.indexed h

omit [Unicode] in
theorem World.IsInitial.indexed (h : w.IsInitial) : Indexed w := by
  obtain ⟨config, now, client, factory, loader, spawnError, reloads, rfl⟩ := h
  refine ⟨fun h => ?_, fun h => ?_, fun _ => rfl, fun h => ?_⟩ <;> cases h

omit [Unicode] in
theorem Indexed.of_frame (h : Indexed w) (hf : w.EventFrame w') : Indexed w' :=
  h.congr (by rw [hf.state]) (by rw [hf.state]) hf.tasks hf.retryQueue

/-- **The invariant**, in every reachable state. -/
theorem reachable_indexed {c : OrchConf} (h : Reachable D c) : Indexed c.state := by
  have hK : (handlerPhases D).Keeps orchestrator D fun _ w => Indexed w :=
    ⟨fun h hw => hw.indexed h, fun h _ _ he => h.of_frame (event_frame he)⟩
  have hs := Phases.reach_says (handlers_simulate D) hK (J := Indexed) (fun _ hw => hw.indexed)
    (fun _ _ _ hw _ he => hw.of_frame (event_frame he)) (fun w m w' hw hr _ => ?_) (fun _ _ _ hw => hw) h
  · exact Phases.Says.state (Q := Indexed) (fun _ hw => hw) (fun _ _ hw => hw) hs
  · obtain ⟨hr, -⟩ := recv_eq hr
    rw [hr]
    exact hw.congr rfl rfl rfl rfl

end Service

/-! ## The lookup -/

/-- No two issues were last started under one identifier. -/
def Unambiguous (w : World) : Prop :=
  ∀ i j identifier, lastStarted w.tasks i = some identifier → lastStarted w.tasks j = some identifier → i = j

variable {w : World} {identifier i : Str}

/-- An identifier in the index is looked up to the entries of its issue. -/
theorem lookup_of_index (h : Indexed w) (hu : Unambiguous w) (hi : lastStarted w.tasks i = some identifier) :
    lookupIssueByIdentifier w.state w.retryQueue identifier =
      (w.state.running.get? i, w.retryQueue.get? i, some i) := by
  have hindex : ∀ {j}, w.state.identifierIndex.get? j = some identifier → j = i := fun hj =>
    hu _ _ _ ((h.index _).symm.trans hj) hi
  unfold lookupIssueByIdentifier
  cases hr : w.state.running.get? i with
  | some entry =>
    have hname : entry.identifier = identifier := Option.some.inj ((h.entry hr).symm.trans ((h.index i).trans hi))
    have hfind : (w.state.running.values.find? fun entry => entry.identifier = identifier) = some entry := by
      refine Dict.find?_values_eq hr (decide_eq_true hname) fun j e hj he => ?_
      exact hindex ((h.entry hj).trans (congrArg some (of_decide_eq_true he)))
    simp only [hfind, h.key hr]
  | none =>
    have hfind : (w.state.running.values.find? fun entry => entry.identifier = identifier) = none := by
      refine List.find?_eq_none.2 fun e he heq => ?_
      obtain ⟨j, hj⟩ := mem_values.1 he
      have hji := hindex ((h.entry hj).trans (congrArg some (of_decide_eq_true heq)))
      cases (hji ▸ hj).symm.trans hr
    have hentries : (w.state.identifierIndex.entries.find? fun p => p.2 = identifier) = some (i, identifier) :=
      Dict.find?_entries_eq ((h.index i).trans hi) (decide_eq_true rfl) fun j e hj he =>
        hindex (hj.trans (congrArg some (of_decide_eq_true he)))
    simp only [hfind, hentries, Option.map_some]

/-- Any other identifier is that of no entry. -/
theorem lookup_of_unknown (h : Indexed w) (hi : ∀ i, lastStarted w.tasks i ≠ some identifier) :
    lookupIssueByIdentifier w.state w.retryQueue identifier = (none, none, none) := by
  have hfind : (w.state.running.values.find? fun entry => entry.identifier = identifier) = none := by
    refine List.find?_eq_none.2 fun e he heq => ?_
    obtain ⟨j, hj⟩ := mem_values.1 he
    exact hi j ((h.index j).symm.trans ((h.entry hj).trans (congrArg some (of_decide_eq_true heq))))
  have hentries : (w.state.identifierIndex.entries.find? fun p => p.2 = identifier) = none := by
    refine List.find?_eq_none.2 fun p hp heq => ?_
    have hj := Dict.mem_entries.1 (show (p.1, p.2) ∈ _ from hp)
    exact hi p.1 ((h.index _).symm.trans (hj.trans (congrArg some (of_decide_eq_true heq))))
  unfold lookupIssueByIdentifier
  simp only [hfind, hentries, Option.map_none]

/-! ## Rows and details -/

namespace IssueDetail

/-- The detail shows a row of the running issues, but for its priority. -/
def ShowsRunning (d : IssueDetail) (row : RunningRow) : Prop :=
  d.status = .running ∧ ∃ block, d.running = some block ∧
    row = ⟨d.issueId, d.identifier, d.title, d.state, row.priority, block.sessionId, block.startedAt,
      block.lastCodexEvent, block.lastCodexTimestamp, block.turnCount, d.lastError, d.restartCount,
      block.tokens.inputTokens, block.tokens.outputTokens, block.tokens.totalTokens⟩

/-- The detail shows a row of the retries. -/
def ShowsRetry (d : IssueDetail) (row : RetryRow) : Prop :=
  d.status = .retrying ∧ ∃ block, d.retry = some block ∧ d.currentRetryAttempt = some row.attempt ∧
    d.lastError = row.lastError ∧
    row = ⟨d.issueId, some d.identifier, block.attempt, block.kind, block.fireAt, block.lastError⟩

end IssueDetail

section Detail

variable (h : Indexed w) (hu : Unambiguous w) (hi : lastStarted w.tasks i = some identifier)
include h hu hi

theorem detail_of_running {entry : RunningEntry} (he : w.state.running.get? i = some entry) :
    ∃ d, getIssueDetail w.state w.retryQueue identifier = some d ∧ d.issueId = i ∧ d.identifier = identifier ∧
      d.ShowsRunning (buildRunningRow entry) := by
  have hname : entry.identifier = identifier := Option.some.inj ((h.entry he).symm.trans ((h.index i).trans hi))
  unfold getIssueDetail
  rw [lookup_of_index h hu hi, he]
  exact ⟨_, rfl, h.key he, hname, rfl, _, rfl, rfl⟩

theorem detail_of_retry {entry : RetryEntry} (hr : w.state.running.get? i = none)
    (he : w.retryQueue.get? i = some entry) :
    ∃ d, getIssueDetail w.state w.retryQueue identifier = some d ∧ d.issueId = i ∧ d.identifier = identifier ∧
      d.ShowsRetry ⟨i, some identifier, entry.attempt, entry.kind, entry.fireAt, entry.lastError⟩ := by
  unfold getIssueDetail
  rw [lookup_of_index h hu hi, hr, he]
  exact ⟨_, rfl, rfl, rfl, rfl, _, rfl, rfl, rfl, rfl⟩

theorem detail_of_completed (hr : w.state.running.get? i = none) (hq : w.retryQueue.get? i = none)
    (hc : i ∈ w.state.completed) :
    ∃ d, getIssueDetail w.state w.retryQueue identifier = some d ∧ d.issueId = i ∧ d.identifier = identifier ∧
      d.status = .completed := by
  unfold getIssueDetail
  rw [lookup_of_index h hu hi, hr, hq]
  simp only [if_pos hc]
  exact ⟨_, rfl, rfl, rfl, rfl⟩

theorem detail_of_gone (hr : w.state.running.get? i = none) (hq : w.retryQueue.get? i = none)
    (hc : i ∉ w.state.completed) : getIssueDetail w.state w.retryQueue identifier = none := by
  unfold getIssueDetail
  rw [lookup_of_index h hu hi, hr, hq]
  simp only [if_neg hc]

end Detail

theorem detail_of_unknown (h : Indexed w) (hi : ∀ i, lastStarted w.tasks i ≠ some identifier) :
    getIssueDetail w.state w.retryQueue identifier = none := by
  unfold getIssueDetail
  rw [lookup_of_unknown h hi]

/-- A row of the retries is that of an entry. -/
theorem mem_snapshot_retrying (h : Indexed w) (now : Instant) {row : RetryRow} :
    row ∈ (buildSnapshot w.state w.retryQueue now).retrying ↔ ∃ i entry, w.retryQueue.get? i = some entry ∧
      row = ⟨i, lastStarted w.tasks i, entry.attempt, entry.kind, entry.fireAt, entry.lastError⟩ := by
  change row ∈ buildRetryRows w.state w.retryQueue ↔ _
  simp only [buildRetryRows, List.mem_map, mem_values]
  constructor
  · rintro ⟨entry, ⟨i, hi⟩, rfl⟩
    refine ⟨i, entry, hi, ?_⟩
    rw [h.retry hi, h.index]
  · rintro ⟨i, entry, hi, rfl⟩
    refine ⟨entry, ⟨i, hi⟩, ?_⟩
    rw [h.retry hi, h.index]

/-- What the detail of an identifier shows, by what became of its issue. -/
theorem detail_cases (h : Indexed w) (hu : Unambiguous w) (identifier : Str) (now : Instant) :
    let snapshot := buildSnapshot w.state w.retryQueue now
    let detail := getIssueDetail w.state w.retryQueue identifier
    (∃ i entry d, lastStarted w.tasks i = some identifier ∧ w.state.running.get? i = some entry ∧ detail = some d ∧
      d.issueId = i ∧ d.identifier = identifier ∧ buildRunningRow entry ∈ snapshot.running ∧
      d.ShowsRunning (buildRunningRow entry)) ∨
    (∃ i row d, lastStarted w.tasks i = some identifier ∧ i ∉ w.state.running ∧ i ∈ w.retryQueue ∧ detail = some d ∧
      d.issueId = i ∧ d.identifier = identifier ∧ row ∈ snapshot.retrying ∧ d.ShowsRetry row) ∨
    (∃ i d, lastStarted w.tasks i = some identifier ∧ i ∉ w.state.running ∧ i ∉ w.retryQueue ∧ i ∈ w.state.completed ∧
      detail = some d ∧ d.issueId = i ∧ d.identifier = identifier ∧ d.status = .completed) ∨
    detail = none ∧ ∀ i, lastStarted w.tasks i = some identifier →
      i ∉ w.state.running ∧ i ∉ w.retryQueue ∧ i ∉ w.state.completed := by
  intro snapshot detail
  by_cases hi : ∃ i, lastStarted w.tasks i = some identifier
  · obtain ⟨i, hi⟩ := hi
    cases hr : w.state.running.get? i with
    | some entry =>
      obtain ⟨d, hd, hid, hname, hshows⟩ := detail_of_running h hu hi hr
      exact .inl ⟨i, entry, d, hi, hr, hd, hid, hname, mem_snapshot_running hr _ _, hshows⟩
    | none =>
      have hnr := Dict.get?_eq_none.1 hr
      cases hq : w.retryQueue.get? i with
      | some entry =>
        obtain ⟨d, hd, hid, hname, hshows⟩ := detail_of_retry h hu hi hr hq
        have hrow := (mem_snapshot_retrying h now).2 ⟨i, entry, hq, rfl⟩
        rw [hi] at hrow
        exact .inr (.inl ⟨i, _, d, hi, hnr, Dict.mem_of_get? hq, hd, hid, hname, hrow, hshows⟩)
      | none =>
        have hnq := Dict.get?_eq_none.1 hq
        by_cases hc : i ∈ w.state.completed
        · obtain ⟨d, hd, hid, hname, hs⟩ := detail_of_completed h hu hi hr hq hc
          exact .inr (.inr (.inl ⟨i, d, hi, hnr, hnq, hc, hd, hid, hname, hs⟩))
        · refine .inr (.inr (.inr ⟨detail_of_gone h hu hi hr hq hc, fun j hj => ?_⟩))
          obtain rfl := hu _ _ _ hj hi
          exact ⟨hnr, hnq, hc⟩
  · have hi' : ∀ i, lastStarted w.tasks i ≠ some identifier := fun i h => hi ⟨i, h⟩
    exact .inr (.inr (.inr ⟨detail_of_unknown h hi', fun i h => absurd h (hi' i)⟩))

section Service

variable [Unicode]

/-- **The endpoints agree**, in every reachable state in which no two issues go by one identifier. A row of the running
issues is shown by the detail of its identifier, and so is a row of the retries unless the issue runs; a detail that is
answered shows a row of the snapshot, or an issue that is completed and in neither map; it is missing exactly if the issues
that were started under the identifier are gone from all three. A retry has a row without identifier exactly if no worker
was ever started on its issue. -/
theorem endpoints_agree {c : OrchConf} (hreach : Reachable .free c) (hu : Unambiguous c.state) (now : Instant)
    (identifier : Str) :
    let snapshot := buildSnapshot c.state.state c.state.retryQueue now
    let detail := getIssueDetail c.state.state c.state.retryQueue identifier
    (∀ row ∈ snapshot.running, row.identifier = identifier → ∃ d, detail = some d ∧ d.ShowsRunning row) ∧
    (∀ row ∈ snapshot.retrying, row.identifier = some identifier → row.issueId ∉ c.state.state.running →
      ∃ d, detail = some d ∧ d.ShowsRetry row) ∧
    (∀ d, detail = some d → d.identifier = identifier ∧ lastStarted c.state.tasks d.issueId = some identifier ∧
      match d.status with
      | .running => ∃ row ∈ snapshot.running, d.ShowsRunning row
      | .retrying => d.issueId ∉ c.state.state.running ∧ ∃ row ∈ snapshot.retrying, d.ShowsRetry row
      | .completed => d.issueId ∈ c.state.state.completed ∧ d.issueId ∉ c.state.state.running ∧
          d.issueId ∉ c.state.retryQueue) ∧
    (detail = none ↔ ∀ i, lastStarted c.state.tasks i = some identifier →
      i ∉ c.state.state.running ∧ i ∉ c.state.retryQueue ∧ i ∉ c.state.state.completed) ∧
    ∀ row ∈ snapshot.retrying, row.identifier = none ↔ ∀ t ∈ c.state.tasks, t.issue.id ≠ row.issueId := by
  intro snapshot detail
  have h := reachable_indexed hreach
  have hcases := detail_cases h hu identifier now
  refine ⟨fun row hrow hid => ?_, fun row hrow hid hnot => ?_, fun d hd => ?_, ⟨fun hnone => ?_, fun hgone => ?_⟩,
    fun row hrow => ?_⟩
  · obtain ⟨entry, hentry, rfl⟩ := List.mem_map.1 hrow
    obtain ⟨i, hi⟩ := mem_values.1 hentry
    have hstarted : lastStarted c.state.tasks i = some identifier := by
      rw [← h.index, h.entry hi]
      exact congrArg some hid
    obtain ⟨d, hd, -, -, hshows⟩ := detail_of_running h hu hstarted hi
    exact ⟨d, hd, hshows⟩
  · obtain ⟨i, entry, hi, rfl⟩ := (mem_snapshot_retrying h now).1 hrow
    obtain ⟨d, hd, -, -, hshows⟩ := detail_of_retry h hu hid (Dict.get?_eq_none.2 hnot) hi
    refine ⟨d, hd, ?_⟩
    rwa [show lastStarted c.state.tasks i = some identifier from hid]
  · rcases hcases with ⟨i, entry, d', hi, -, hd', rfl, hname, hrow, hshows⟩ |
      ⟨i, row, d', hi, hnr, -, hd', rfl, hname, hrow, hshows⟩ | ⟨i, d', hi, hnr, hnq, hc, hd', rfl, hname, hs⟩ | ⟨hn, -⟩
    · cases hd.symm.trans hd'
      refine ⟨hname, hi, ?_⟩
      rw [hshows.1]
      exact ⟨_, hrow, hshows⟩
    · cases hd.symm.trans hd'
      refine ⟨hname, hi, ?_⟩
      rw [hshows.1]
      exact ⟨hnr, row, hrow, hshows⟩
    · cases hd.symm.trans hd'
      refine ⟨hname, hi, ?_⟩
      rw [hs]
      exact ⟨hc, hnr, hnq⟩
    · cases hd.symm.trans hn
  · rcases hcases with ⟨_, _, d', -, -, hd', -⟩ | ⟨_, _, d', -, -, -, hd', -⟩ | ⟨_, d', -, -, -, -, hd', -⟩ | ⟨-, hgone⟩
    · cases hnone.symm.trans hd'
    · cases hnone.symm.trans hd'
    · cases hnone.symm.trans hd'
    · exact hgone
  · rcases hcases with ⟨i, entry, _, hi, he, -⟩ | ⟨i, _, _, hi, -, hq, -⟩ | ⟨i, _, hi, -, -, hc, -⟩ | ⟨hn, -⟩
    · exact absurd (Dict.mem_of_get? he) (hgone i hi).1
    · exact absurd hq (hgone i hi).2.1
    · exact absurd hc (hgone i hi).2.2
    · exact hn
  · obtain ⟨i, entry, -, rfl⟩ := (mem_snapshot_retrying h now).1 hrow
    exact lastStarted_eq_none

end Service

section Sample

attribute [local instance] asciiTables

theorem endpoints_agree_sample : ∃ c, orchestrator.run sampleStart sampleTick = some c ∧
    ∃ d, getIssueDetail c.state.state c.state.retryQueue (py "a") = some d ∧ d.status = .running := by
  have hrun : ((orchestrator.run sampleStart sampleTick).map fun c =>
      ((buildSnapshot c.state.state c.state.retryQueue 0).running.map (·.identifier), c.state.tasks.map (·.issue.id))) =
      some ([py "a"], [py "a"]) := by decide +kernel
  obtain ⟨c, hc, hshown⟩ := Option.map_eq_some_iff.1 hrun
  obtain ⟨hrows, htasks⟩ := Prod.mk.inj hshown
  have hreach : Reachable .free c := .run (.start sampleWorld_isInitial) (fun l _ => Discipline.always_free l) hc
  have hstarted : ∀ i identifier, lastStarted c.state.tasks i = some identifier → i = py "a" := by
    intro i identifier hi
    obtain ⟨t, ht, -⟩ := Option.map_eq_some_iff.1 hi
    have hmem := List.mem_map_of_mem (f := fun t : WorkerTask => t.issue.id)
      (List.mem_reverse.1 (List.mem_of_find?_eq_some ht))
    rw [htasks, List.mem_singleton] at hmem
    have hid : t.issue.id = i := by simpa using List.find?_some ht
    exact hid.symm.trans hmem
  obtain ⟨row, hrow, hid⟩ := List.mem_map.1 (hrows ▸ List.mem_singleton.2 rfl :
    py "a" ∈ (buildSnapshot c.state.state c.state.retryQueue 0).running.map (·.identifier))
  obtain ⟨d, hd, hshows⟩ := (endpoints_agree hreach
    (fun i j s hi hj => (hstarted i s hi).trans (hstarted j s hj).symm) 0 (py "a")).1 row hrow hid
  exact ⟨c, hc, d, hd, hshows.1⟩

end Sample

end RiverGang
