import RiverGang.Orchestrator.Timers
import RiverGang.Orchestrator.Workers

/-!
# Stall detection

A tick measures the silence of a worker from the last of its updates that was handled. What the worker has posted since
waits in the mailbox, behind the tick.

* `reconcile_eq`: what the stall part of a tick does to the world.
* `trace_heeded`: in every run, what a worker has emitted waits in the mailbox or is no later than the last update that
  was handled.
* `no_false_stall`: of a worker that is not silent for the stall timeout, the tick cancels it and posts an exit for it
  exactly where it lags behind the worker, and for the timeout as floats have it.
* `false_stall`: a run in which the dispatcher is busy with the gate for longer than the timeout.
-/

namespace RiverGang

open Py Coop Task

section Service

/-! ## What the stall part does -/

/-- The second half of `_reconcile`. -/
def refreshRunning [Unicode] : Orch Unit := do
  let w ← get
  if w.state.running.length = 0 then
    pure ()
  else
    match ← Orch.fetchIssueStatesByIds (w.state.running.values.map (·.issue.id)) with
    | .error exc => onException exc (pure ())
    | .ok refreshed =>
      let w ← get
      let actions := reconcileRunningWithTracker w.state refreshed w.config.tracker.terminalStates
        w.config.tracker.activeStates
      forEach actions.terminateWithCleanup fun issueId => withEntry issueId fun w entry => w.terminateWithCleanup entry
      forEach actions.terminateWithoutCleanup fun issueId =>
        withEntry issueId fun w entry => w.terminateWithoutCleanup entry
      forEach actions.updateSnapshot fun p => withEntry p.1 fun w entry => w.refreshEntry p.1 entry p.2

namespace World

/-- Reap the workers of some issues. -/
def reapAll : List Str → World → World
  | [], w => w
  | i :: ids, w => reapAll ids ((w.state.running.get? i).elim w (w.reapStalled i))

/-- The exits that are posted for them. -/
def stallExits (w : World) (ids : List Str) : List Message :=
  ids.filterMap fun i => (w.state.running.get? i).map fun entry =>
    .workerExit (stallExit i entry w.now w.config.codex.stallTimeoutMs)

/-- The world after the stall part of a tick. -/
def stallsReaped (w : World) : World := reapAll (detectStalls w.state w.now w.config.codex.stallTimeoutMs) w

theorem reapAll_eq : ∀ (ids : List Str) (w : World), reapAll ids w =
    { w with cancelled := (reapAll ids w).cancelled, mailbox := w.mailbox ++ w.stallExits ids }
  | [], w => by simp [reapAll, stallExits]
  | i :: ids, w => by
    rw [reapAll]
    cases h : w.state.running.get? i with
    | none =>
      rw [Option.elim_none, stallExits, List.filterMap_cons, h]
      exact reapAll_eq ids w
    | some entry =>
      have hexits : w.stallExits (i :: ids) =
          .workerExit (stallExit i entry w.now w.config.codex.stallTimeoutMs) :: w.stallExits ids := by
        simp [stallExits, h]
      rw [Option.elim_some, hexits, ← List.singleton_append, ← List.append_assoc]
      exact reapAll_eq ids (w.reapStalled i entry)

theorem mem_cancelled_reapAll {t : Nat} : ∀ {ids : List Str} {w : World}, t ∈ (reapAll ids w).cancelled ↔
    t ∈ w.cancelled ∨ t ∉ w.settled ∧ ∃ i ∈ ids, w.workerOf i = some t
  | [], w => by simp [reapAll]
  | i :: ids, w => by
    rw [reapAll]
    cases h : w.state.running.get? i with
    | none =>
      rw [Option.elim_none, mem_cancelled_reapAll]
      simp [workerOf, h]
    | some entry =>
      have hcancelled : t ∈ (w.reapStalled i entry).cancelled ↔
          t ∈ w.cancelled ∨ t ∉ w.settled ∧ entry.workerHandle = t := by
        change t ∈ (if entry.workerHandle ∈ w.settled then w.cancelled else insert entry.workerHandle w.cancelled) ↔ _
        split
        · rename_i hs
          constructor
          · exact .inl
          · rintro (ht | ⟨ht, rfl⟩)
            · exact ht
            · exact absurd hs ht
        · rename_i hs
          rw [Finset.mem_insert]
          constructor
          · rintro (rfl | ht)
            · exact .inr ⟨hs, rfl⟩
            · exact .inl ht
          · rintro (ht | ⟨-, rfl⟩)
            · exact .inr ht
            · exact .inl rfl
      have hsame : ∀ j, (w.reapStalled i entry).workerOf j = w.workerOf j := fun _ => rfl
      rw [Option.elim_some, mem_cancelled_reapAll, hcancelled]
      simp only [hsame, show (w.reapStalled i entry).settled = w.settled from rfl, List.mem_cons, exists_eq_or_imp,
        show w.workerOf i = some entry.workerHandle by simp [workerOf, h], Option.some.injEq]
      tauto

end World

section Reconcile

variable [Unicode]

omit [Unicode] in
theorem forEach_reapStalled : ∀ (ids : List Str) (w : World),
    forEach ids (fun issueId => withEntry issueId fun w entry => w.reapStalled issueId entry) w =
      .ret () (World.reapAll ids w)
  | [], w => rfl
  | i :: ids, w => by
    rw [forEach, bind_apply, World.reapAll]
    cases h : w.state.running.get? i with
    | none =>
      rw [withEntry_none h]
      exact forEach_reapStalled ids w
    | some entry =>
      rw [withEntry_some h]
      exact forEach_reapStalled ids _

/-- The tick begins with the stall part, of the workers that the detection names. -/
theorem reconcile_eq (w : World) : reconcile w = refreshRunning w.stallsReaped := by
  unfold reconcile refreshRunning
  simp only [bind_apply, get_apply, Res.bind_ret, forEach_reapStalled]
  rfl

end Reconcile

/-- A worker is neither cancelled by a step nor has an exit posted for it. -/
def Spared (t : Nat) (w w' : World) : Prop :=
  (t ∈ w'.cancelled ↔ t ∈ w.cancelled) ∧
    ∃ ms, w'.mailbox = w.mailbox ++ ms ∧ ∀ x, .workerExit x ∈ ms → x.about ≠ t

theorem mem_stallExits {w : World} {ids : List Str} {x : WorkerExit} (h : .workerExit x ∈ w.stallExits ids) :
    ∃ i ∈ ids, w.workerOf i = some x.about := by
  obtain ⟨i, hi, he⟩ := List.mem_filterMap.1 h
  obtain ⟨entry, hr, heq⟩ := Option.map_eq_some_iff.1 he
  cases heq
  exact ⟨i, hi, by rw [World.workerOf, hr]; rfl⟩

/-- The stall part spares the workers that the detection does not name. -/
theorem spared_stallsReaped_iff {w : World} {i : Str} {entry : RunningEntry} (hs : w.register.Sound)
    (he : w.state.running.get? i = some entry) :
    Spared entry.workerHandle w w.stallsReaped ↔
      i ∉ detectStalls w.state w.now w.config.codex.stallTimeoutMs := by
  have hw : w.workerOf i = some entry.workerHandle := by rw [World.workerOf, he]; rfl
  have honly : ∀ j, w.workerOf j = some entry.workerHandle → j = i := fun j hj => by
    have hk := hs.current hj
    rw [hs.current hw] at hk
    exact (Option.some.inj hk).symm
  constructor
  · rintro ⟨-, ms, hms, hnone⟩ hi
    rw [World.stallsReaped, World.reapAll_eq] at hms
    rw [← List.append_cancel_left hms] at hnone
    refine hnone (stallExit i entry w.now w.config.codex.stallTimeoutMs) ?_ rfl
    exact List.mem_filterMap.2 ⟨i, hi, by rw [he]; rfl⟩
  · intro hi
    have hno : ¬ ∃ j ∈ detectStalls w.state w.now w.config.codex.stallTimeoutMs,
        w.workerOf j = some entry.workerHandle := by
      rintro ⟨j, hj, hjw⟩
      rw [honly j hjw] at hj
      exact hi hj
    constructor
    · rw [World.stallsReaped, World.mem_cancelled_reapAll]
      simp [hno]
    · refine ⟨_, by rw [World.stallsReaped, World.reapAll_eq], fun x hx hab => hno ?_⟩
      rw [← hab]
      exact mem_stallExits hx

theorem mem_detectStalls_iff {state : OrchestratorState} {now : Instant} {timeout : Int} {i : Str} {entry : RunningEntry}
    (he : state.running.get? i = some entry) (ht : 0 < timeout) :
    i ∈ detectStalls state now timeout ↔
      (timeout : ℚ) ≤ elapsedMs now (entry.lastCodexTimestamp.getD entry.startedAt) := by
  have hstall : shouldTerminateForStall now entry.lastCodexTimestamp entry.startedAt timeout = true ↔
      (timeout : ℚ) ≤ elapsedMs now (entry.lastCodexTimestamp.getD entry.startedAt) := by
    rw [shouldTerminateForStall, if_neg (not_le.2 ht), decide_eq_true_iff]
  rw [← hstall]
  constructor
  · intro hi
    obtain ⟨entry', he', hs⟩ := mem_detectStalls hi
    cases he.symm.trans he'
    exact hs
  · intro hs
    rw [detectStalls, if_neg (not_le.2 ht)]
    exact List.mem_map.2 ⟨(i, entry), List.mem_filter.2 ⟨Dict.mem_entries.2 he, hs⟩, rfl⟩

/-! ## What was emitted -/

/-- What an incident emits for a worker. -/
def emission? (t : Nat) : Incident World Message Event → Option Instant
  | .event _ (.emit t' event) => if t' = t then some event.timestamp else none
  | _ => none

/-- The timestamps of the events that a worker has emitted, in order. -/
def emissions (t : Nat) (h : List (Incident World Message Event)) : List Instant := h.filterMap (emission? t)

theorem emissions_concat (t : Nat) (h : List (Incident World Message Event)) (x : Incident World Message Event) :
    emissions t (h ++ [x]) = emissions t h ++ (emission? t x).toList := by
  rw [emissions, List.filterMap_append, List.filterMap_cons]
  cases emission? t x <;> rfl

/-- The update that a message is. -/
def Message.update? : Message → Option CodexUpdate
  | .codexUpdate m => some m
  | _ => none

/-- The update that is being handled. -/
def Phase.update? : Phase → Option CodexUpdate
  | .handling m => m.update?
  | _ => none

/-- The updates that wait. -/
def World.updates (w : World) : List CodexUpdate := w.mailbox.filterMap Message.update?

/-- What is known of the updates that are not handled yet: they are in order and no later than now; what was handled for
a running issue is no later than they are; and what its worker emitted is among them, or no later than what was
handled. -/
structure Heeded (h : List (Incident World Message Event)) (unread : List CodexUpdate) (w : World) : Prop where
  sorted : unread.Pairwise fun a b => a.event.timestamp ≤ b.event.timestamp
  past : ∀ m ∈ unread, m.event.timestamp ≤ w.now
  seen : ∀ i entry t, w.state.running.get? i = some entry → entry.lastCodexTimestamp = some t →
    t ≤ w.now ∧ ∀ m ∈ unread, t ≤ m.event.timestamp
  heard : ∀ i entry, w.state.running.get? i = some entry → ∀ t ∈ emissions entry.workerHandle h,
    (∃ m ∈ unread, m.issueId = i ∧ m.event.timestamp = t) ∨ ∃ t', entry.lastCodexTimestamp = some t' ∧ t ≤ t'
  emitted : ∀ t, emissions t h ≠ [] → t < w.tasks.length

variable {h : List (Incident World Message Event)} {unread : List CodexUpdate} {w w' : World}

/-- No update is handled: the running entries are those there were, or new. -/
structure Unheard (w w' : World) : Prop where
  updates : w'.updates = w.updates
  now : w'.now = w.now
  tasks : w.tasks.length ≤ w'.tasks.length
  running : ∀ i entry', w'.state.running.get? i = some entry' →
    (∃ entry, w.state.running.get? i = some entry ∧ entry'.workerHandle = entry.workerHandle ∧
      entry'.lastCodexTimestamp = entry.lastCodexTimestamp) ∨
    w.tasks.length ≤ entry'.workerHandle ∧ entry'.lastCodexTimestamp = none

theorem Unheard.of_running (hu : w'.updates = w.updates) (hn : w'.now = w.now) (ht : w'.tasks = w.tasks)
    (hr : w'.state.running = w.state.running) : Unheard w w' where
  updates := hu
  now := hn
  tasks := by rw [ht]
  running i entry' he := .inl ⟨entry', by rwa [← hr], rfl, rfl⟩

theorem Heeded.unheard (hh : Heeded h unread w) (hu : Unheard w w') : Heeded h unread w' where
  sorted := hh.sorted
  past m hm := by rw [hu.now]; exact hh.past m hm
  seen i entry' t he ht := by
    rw [hu.now]
    rcases hu.running i entry' he with ⟨entry, he', -, hl⟩ | ⟨-, hnone⟩
    · exact hh.seen i entry t he' (hl ▸ ht)
    · rw [hnone] at ht
      cases ht
  heard i entry' he t ht := by
    rcases hu.running i entry' he with ⟨entry, he', hw, hl⟩ | ⟨hnew, -⟩
    · rw [hw] at ht
      rw [hl]
      exact hh.heard i entry he' t ht
    · have hlt := hh.emitted entry'.workerHandle (List.ne_nil_of_mem ht)
      omega
  emitted t ht := by
    have hlt := hh.emitted t ht
    have hle := hu.tasks
    omega

theorem Unheard.dispatchIssue {issue : Issue} {attempt : Nat} {cap : Int} {r : Option RunningEntry}
    (hd : RiverGang.dispatchIssue issue attempt cap w = .ret r w') : Unheard w w' := by
  rcases dispatchIssue_ret hd with ⟨-, rfl⟩ | ⟨exc, delay, -, rfl⟩
  · refine ⟨rfl, rfl, ?_, fun j entry' he => ?_⟩
    · change w.tasks.length ≤ (w.tasks ++ [_]).length
      rw [List.length_append]
      omega
    · rcases Dict.eq_or_of_get?_insert he with ⟨-, rfl⟩ | he
      · exact .inr ⟨le_refl _, rfl⟩
      · exact .inl ⟨entry', he, rfl, rfl⟩
  · exact .of_running rfl rfl rfl rfl

/-- **A step that handles no update.** -/
theorem Work.unheard [Unicode] {D : OrchDiscipline} {φ φ' : Phase} (hφ : φ.update? = none) (hφ' : ∀ e, φ' ≠ .crashed e)
    (hw : Work D w φ w' φ') : Unheard w w' := by
  cases hw with
  | stall =>
    refine .of_running ?_ rfl rfl rfl
    change (w.mailbox ++ [_]).filterMap Message.update? = _
    rw [List.filterMap_append]
    exact List.append_nil _
  | terminateWithCleanup | terminateWithoutCleanup | adopt | eligible | skip | rewait | reload | noEntry | completed
    | popRetry | release => exact .of_running rfl rfl rfl rfl
  | @refresh i entry issue he =>
    refine ⟨rfl, rfl, le_refl _, fun j entry' hj => .inl ?_⟩
    rcases Dict.eq_or_of_get?_insert hj with ⟨rfl, rfl⟩ | hj
    · exact ⟨entry, he, rfl, rfl⟩
    · exact ⟨entry', hj, rfl, rfl⟩
  | skipTick ht | endLoop ht =>
    rw [scheduleNextTick_ret ht, World.tickScheduled_eq]
    exact .of_running rfl rfl rfl rfl
  | dispatch _ hd =>
    have hu := Unheard.dispatchIssue hd
    exact ⟨hu.updates, hu.now, hu.tasks, hu.running⟩
  | @exit _ m hx =>
    rcases onWorkerExit_ret hx with ⟨-, rfl⟩ | ⟨entry, delay, -, rfl⟩
    · exact .of_running rfl rfl rfl rfl
    · have heq := World.exited_eq w m
      refine ⟨?_, ?_, ?_, fun j entry' hj => .inl ⟨entry', World.get?_of_exited hj, rfl, rfl⟩⟩
      · change (w.exited m).updates = _
        rw [heq]
        rfl
      · change (w.exited m).now = _
        rw [heq]
      · change w.tasks.length ≤ (w.exited m).tasks.length
        rw [heq]
  | update => cases hφ
  | shutdown =>
    rw [World.tickCancelled_eq]
    exact .of_running rfl rfl rfl rfl
  | reschedule hs =>
    obtain ⟨d, -, rfl⟩ := RetryQueue.schedule_ret hs
    exact .of_running rfl rfl rfl rfl
  | redispatch _ _ hd => exact .dispatchIssue hd
  | crash => exact absurd rfl (hφ' _)

/-- Where the oldest update is not the one in question, it is among the others. -/
theorem Heeded.heard_cons {m : CodexUpdate} (hh : Heeded h (m :: unread) w) {i : Str} {entry : RunningEntry}
    (he : w.state.running.get? i = some entry) {t : Instant} (ht : t ∈ emissions entry.workerHandle h) :
    (m.issueId = i ∧ m.event.timestamp = t) ∨ (∃ m' ∈ unread, m'.issueId = i ∧ m'.event.timestamp = t) ∨
      ∃ t', entry.lastCodexTimestamp = some t' ∧ t ≤ t' := by
  rcases hh.heard i entry he t ht with ⟨m', hm, hi, hts⟩ | hheard
  · rcases List.mem_cons.1 hm with rfl | hm
    · exact .inl ⟨hi, hts⟩
    · exact .inr (.inl ⟨m', hm, hi, hts⟩)
  · exact .inr (.inr hheard)

theorem Heeded.seen_cons {m : CodexUpdate} (hh : Heeded h (m :: unread) w) {i : Str} {entry : RunningEntry} {t : Instant}
    (he : w.state.running.get? i = some entry) (ht : entry.lastCodexTimestamp = some t) :
    t ≤ w.now ∧ ∀ m' ∈ unread, t ≤ m'.event.timestamp := by
  obtain ⟨hn, hle⟩ := hh.seen i entry t he ht
  exact ⟨hn, fun m' hm => hle m' (List.mem_cons_of_mem _ hm)⟩

/-- The oldest update is handled. -/
theorem Heeded.update {m : CodexUpdate} (hh : Heeded h (m :: unread) w) :
    Heeded h unread (w.onState (onCodexUpdate · m)) := by
  obtain ⟨hfirst, hsorted⟩ := List.pairwise_cons.1 hh.sorted
  have hpast : ∀ m' ∈ unread, m'.event.timestamp ≤ w.now := fun m' hm => hh.past m' (List.mem_cons_of_mem _ hm)
  cases hr : w.state.running.get? m.issueId with
  | none =>
    have hw : w.onState (onCodexUpdate · m) = w := by simp only [World.onState, onCodexUpdate, hr]
    rw [hw]
    refine ⟨hsorted, hpast, fun i entry t he ht => hh.seen_cons he ht, fun i entry he t ht => ?_, hh.emitted⟩
    rcases hh.heard_cons he ht with ⟨hi, -⟩ | hheard
    · rw [hi, he] at hr
      cases hr
    · exact hheard
  | some running =>
    have hget : ∀ i, (w.onState (onCodexUpdate · m)).state.running.get? i =
        if m.issueId = i then some (running.updated m.event) else w.state.running.get? i := fun i => by
      have hrun : (w.onState (onCodexUpdate · m)).state.running =
          w.state.running.insert m.issueId (running.updated m.event) := by
        simp only [World.onState, onCodexUpdate, hr]
        rfl
      rw [hrun, Dict.get?_insert]
    refine ⟨hsorted, hpast, fun i entry t he ht => ?_, fun i entry he t ht => ?_, hh.emitted⟩
    · rw [hget] at he
      split at he
      · cases he
        cases ht
        exact ⟨hh.past m List.mem_cons_self, hfirst⟩
      · exact hh.seen_cons he ht
    · rw [hget] at he
      split at he
      · rename_i hi
        cases he
        have hrun : w.state.running.get? i = some running := hi ▸ hr
        rcases hh.heard_cons hrun ht with ⟨-, hts⟩ | hheard | ⟨t', ht', hle⟩
        · exact .inr ⟨_, rfl, hts.ge⟩
        · exact .inl hheard
        · -- what was handled before is no later than this update
          have hm := (hh.seen i running t' hrun ht').2 m List.mem_cons_self
          exact .inr ⟨_, rfl, hle.trans hm⟩
      · rename_i hne
        rcases hh.heard_cons he ht with ⟨hi, -⟩ | hheard
        · exact absurd hi hne
        · exact hheard

/-! ## Events and receipts -/

/-- An emission posts an update; the other events post none, and time only passes. -/
theorem event_updates {e : Event} (he : World.event e w = some w') :
    (∃ t event issue, e = .emit t event ∧ w.taskIssue t = some issue ∧
      w' = w.post (.codexUpdate ⟨issue.id, event⟩)) ∨
    (∀ t event, e ≠ .emit t event) ∧ w'.updates = w.updates ∧ w.now ≤ w'.now := by
  have hpost : ∀ {m : Message}, m.update? = none → (w.post m).updates = w.updates := fun hm => by
    change (w.mailbox ++ [_]).filterMap Message.update? = _
    rw [List.filterMap_append, List.filterMap_cons, hm]
    exact List.append_nil _
  cases e <;> simp only [World.event, Option.some.injEq, Option.map_eq_some_iff, Option.ite_none_right_eq_some] at he
  case advance d =>
    subst he
    exact .inr ⟨by simp, rfl, Int.le.intro d rfl⟩
  case setLoader | setSpawn => exact .inr (he ▸ ⟨by simp, rfl, le_refl _⟩)
  case refresh | reload | shutdown => exact .inr (he ▸ ⟨by simp, hpost rfl, le_refl _⟩)
  case fire handle =>
    obtain ⟨t, -, rfl⟩ := he
    refine .inr ⟨by simp, ?_, le_refl _⟩
    change (w.mailbox ++ _).filterMap Message.update? = _
    have hnone : t.message?.toList.filterMap Message.update? = [] := by
      unfold Timer.message?
      split <;> rfl
    rw [List.filterMap_append, hnone]
    exact List.append_nil _
  case emit task event =>
    obtain ⟨-, issue, hi, rfl⟩ := he
    exact .inl ⟨task, event, issue, rfl, hi, rfl⟩
  case finish task report =>
    obtain ⟨-, issue, -, rfl⟩ := he
    have hu : ((w.settle task).post (.workerExit (World.exitOf issue.id task report))).updates = w.updates := hpost rfl
    exact .inr ⟨by simp, hu, le_refl _⟩
  case settleCancelled | settleRaised | beginCleanup | endCleanup =>
    obtain ⟨-, rfl⟩ := he
    exact .inr ⟨by simp, rfl, le_refl _⟩

/-- The service, where an event carries the time at which it is emitted. -/
def stamped : OrchDiscipline where
  event w e := ∀ t event, e = .emit t event → event.timestamp = w.now
  receive _ _ := True
  answer _ _ _ _ := True

/-- A worker emits, and its update waits. -/
theorem Heeded.emit {t : Nat} {event : RuntimeEvent} {issue : Issue} {first : List CodexUpdate} (hs : w.register.Sound)
    (hh : Heeded h (first ++ w.updates) w) (hi : w.taskIssue t = some issue) (hts : event.timestamp = w.now) :
    Heeded (h ++ [.event w (.emit t event)]) (first ++ (w.post (.codexUpdate ⟨issue.id, event⟩)).updates)
      (w.post (.codexUpdate ⟨issue.id, event⟩)) := by
  have hupdates : (w.post (.codexUpdate ⟨issue.id, event⟩)).updates = w.updates ++ [⟨issue.id, event⟩] := by
    change (w.mailbox ++ [_]).filterMap Message.update? = _
    rw [List.filterMap_append]
    rfl
  have hem : ∀ t', emissions t' (h ++ [.event w (.emit t event)]) =
      emissions t' h ++ (if t = t' then some event.timestamp else none).toList := fun t' => emissions_concat t' h _
  rw [hupdates, ← List.append_assoc]
  refine ⟨?_, ?_, ?_, ?_, ?_⟩
  · refine List.pairwise_append.2 ⟨hh.sorted, List.pairwise_singleton _ _, fun m hm m' hm' => ?_⟩
    obtain rfl := List.mem_singleton.1 hm'
    exact (hh.past m hm).trans hts.ge
  · intro m hm
    rcases List.mem_append.1 hm with hm | hm
    · exact hh.past m hm
    · obtain rfl := List.mem_singleton.1 hm
      exact hts.le
  · intro i entry t' he' ht'
    obtain ⟨hn, hle⟩ := hh.seen i entry t' he' ht'
    refine ⟨hn, fun m hm => ?_⟩
    rcases List.mem_append.1 hm with hm | hm
    · exact hle m hm
    · obtain rfl := List.mem_singleton.1 hm
      exact hn.trans hts.ge
  · intro i entry he' t' ht'
    rw [hem] at ht'
    rcases List.mem_append.1 ht' with ht' | ht'
    · rcases hh.heard i entry he' t' ht' with ⟨m, hm, hmi⟩ | hheard
      · exact .inl ⟨m, List.mem_append_left _ hm, hmi⟩
      · exact .inr hheard
    · split at ht'
      · rename_i heq
        obtain rfl := List.mem_singleton.1 ht'
        -- the worker of an issue is a task on the issue
        have hk := hs.current (World.current_of_running he')
        rw [← heq, World.key_of_taskIssue hi] at hk
        exact .inl ⟨_, List.mem_append_right _ List.mem_cons_self, Option.some.inj hk, rfl⟩
      · cases ht'
  · intro t' ht'
    rw [hem] at ht'
    by_cases heq : t = t'
    · obtain ⟨task, htask, -⟩ := Option.map_eq_some_iff.1 hi
      rw [← heq]
      exact (List.getElem?_eq_some_iff.1 htask).1
    · rw [if_neg heq, Option.toList_none, List.append_nil] at ht'
      exact hh.emitted t' ht'

/-- Time passes and nothing is emitted. -/
theorem Heeded.elapse {incident : Incident World Message Event} (hh : Heeded h unread w)
    (hem : ∀ t, emissions t (h ++ [incident]) = emissions t h) (hr : w'.state.running = w.state.running)
    (ht : w'.tasks = w.tasks) (hn : w.now ≤ w'.now) : Heeded (h ++ [incident]) unread w' where
  sorted := hh.sorted
  past m hm := (hh.past m hm).trans hn
  seen i entry t he hts := by
    rw [hr] at he
    obtain ⟨hle, hall⟩ := hh.seen i entry t he hts
    exact ⟨hle.trans hn, hall⟩
  heard i entry he t hts := by
    rw [hr] at he
    rw [hem] at hts
    exact hh.heard i entry he t hts
  emitted t hts := by
    rw [hem] at hts
    rw [ht]
    exact hh.emitted t hts

theorem Heeded.event {e : Event} {first : List CodexUpdate} (hs : w.register.Sound)
    (hh : Heeded h (first ++ w.updates) w) (hd : stamped.event w e) (he : World.event e w = some w') :
    Heeded (h ++ [.event w e]) (first ++ w'.updates) w' := by
  have hf := event_frame he
  rcases event_updates he with ⟨t, event, issue, rfl, hi, rfl⟩ | ⟨hne, hu, hn⟩
  · exact hh.emit hs hi (hd t event rfl)
  · rw [hu]
    refine hh.elapse (fun t => ?_) (by rw [hf.state]) hf.tasks hn
    rw [emissions_concat]
    cases e with
    | emit t' event => exact absurd rfl (hne t' event)
    | _ => exact List.append_nil _

theorem Heeded.recv {m : Message} (hh : Heeded h w.updates w) (hr : w.recv = some (m, w')) :
    Heeded (h ++ [.receipt w m]) (m.update?.toList ++ w'.updates) w' := by
  obtain ⟨hw, hm⟩ := recv_eq hr
  have hu : w.updates = m.update?.toList ++ w'.updates := by
    change w.mailbox.filterMap Message.update? = _ ++ w'.mailbox.filterMap Message.update?
    rw [hm, List.filterMap_cons]
    cases m.update? <;> rfl
  rw [← hu]
  refine hh.elapse (fun t => ?_) (by rw [hw]) (by rw [hw]) (by rw [hw])
  rw [emissions_concat]
  exact List.append_nil _

/-! ## Every run -/

variable [Unicode]

def HeededIn (h : List (Incident World Message Event)) : Phase → World → Prop
  | .crashed _, _ => True
  | φ, w => Heeded h (φ.update?.toList ++ w.updates) w

omit [Unicode] in
theorem HeededIn.of_ne {φ : Phase} (hh : HeededIn h φ w) (hφ : ∀ e, φ ≠ .crashed e) :
    Heeded h (φ.update?.toList ++ w.updates) w := by
  cases φ with
  | crashed e => exact absurd rfl (hφ e)
  | handling | loop | retry | done => exact hh

/-- **The step lemma.** -/
theorem Work.heeded {D : OrchDiscipline} {φ φ' : Phase} (hh : HeededIn h φ w) (hw : Work D w φ w' φ') :
    HeededIn h φ' w' := by
  by_cases hcrash : ∃ e, φ' = .crashed e
  · obtain ⟨e, rfl⟩ := hcrash
    trivial
  have hφ' : ∀ e, φ' ≠ .crashed e := fun e he => hcrash ⟨e, he⟩
  have hφ : ∀ e, φ ≠ .crashed e := by
    rintro e rfl
    cases hw with
    | crash => exact hφ' _ rfl
  have hh := hh.of_ne hφ
  cases hup : φ.update? with
  | none =>
    have hnew := hw.unheard hup hφ'
    have hup' : φ'.update? = none := by
      cases hw with
      | stall | terminateWithCleanup | terminateWithoutCleanup | adopt | eligible | skip | rewait | reload | noEntry
        | completed | popRetry | release | refresh | skipTick | endLoop | dispatch | exit | update | shutdown | reschedule
        | redispatch => rfl
      | crash => exact absurd rfl (hφ' _)
    have hh' := hh.unheard hnew
    rw [hup] at hh'
    cases φ' with
    | crashed e => exact absurd rfl (hφ' e)
    | handling | loop | retry | done =>
      change Heeded h (Option.toList (Phase.update? _) ++ w'.updates) w'
      rw [hup', hnew.updates]
      exact hh'
  | some m =>
    cases hw with
    | update =>
      have hh' : Heeded h (m :: w.updates) w := by rwa [hup] at hh
      cases hup
      exact hh'.update
    | crash => exact absurd rfl (hφ' _)
    | stall | terminateWithCleanup | terminateWithoutCleanup | adopt | eligible | skip | rewait | reload | noEntry
      | completed | popRetry | release | refresh | skipTick | endLoop | dispatch | exit | shutdown | reschedule
      | redispatch => cases hup

omit [Unicode] in
theorem World.IsInitial.heeded (hw : w.IsInitial) : Heeded [] w.updates w := by
  obtain ⟨config, now, client, factory, loader, spawnError, reloads, rfl⟩ := hw
  have hu : (World.initial config now client factory loader spawnError reloads).updates = [] := by
    change (reloads.map Message.configReloaded ++ [Message.pollTick]).filterMap Message.update? = []
    rw [List.filterMap_append, List.filterMap_map, List.append_eq_nil_iff]
    exact ⟨List.filterMap_eq_nil_iff.2 fun _ _ => rfl, rfl⟩
  rw [hu]
  refine ⟨.nil, by simp, fun i entry t he => ?_, fun i entry he => ?_, fun t ht => absurd rfl ht⟩
  · cases he
  · cases he

/-- In every run, between messages. -/
theorem trace_heeded {past : List (OrchConf × Label OrchSig Event)} {c : OrchConf}
    (ht : orchestrator.Trace stamped World.IsInitial past c) (hc : c.mode = .idle) :
    c.state.register.Sound ∧ Heeded (orchestrator.history past) c.state.updates c.state := by
  have hs := Phases.history_says (handlers_follow stamped)
    (J := fun h w => w.register.Sound ∧ Heeded h w.updates w)
    (K := fun h φ w => w.register.Sound ∧ HeededIn h φ w) ⟨fun hk hw => ?_, fun {h s s' φ e} hk hφ hd he => ?_⟩
    (fun w hw => ⟨hw.sound, hw.heeded⟩) (fun h w e w' hk hd he => ?_) (fun h w m w' hk hr _ => ?_)
    (fun h w m _ hk => hk) ht
  · obtain ⟨w, mode⟩ := c
    obtain rfl : mode = .idle := hc
    exact hs
  · exact ⟨hw.register.1.sound hk.1, hw.heeded hk.2⟩
  · refine ⟨sound_event he hk.1, ?_⟩
    have hne : ∀ e, φ ≠ .crashed e := fun e heq => by rw [heq] at hφ; exact hφ
    have hh := (hk.2.of_ne hne).event hk.1 hd he
    cases φ with
    | crashed e => trivial
    | handling | loop | retry | done => exact hh
  · refine ⟨sound_event he hk.1, ?_⟩
    show Heeded _ ([] ++ w'.updates) w'
    exact hk.2.event hk.1 hd he
  · refine ⟨sound_recv hr hk.1, ?_⟩
    exact hk.2.recv hr

/-- When the worker of a running entry was last heard of by its surroundings: its last event, or its start. -/
def lastSign (h : List (Incident World Message Event)) (entry : RunningEntry) : Instant :=
  (emissions entry.workerHandle h).getLast?.getD entry.startedAt

/-- The dispatcher lags behind the worker of an issue: an update or an exit of the issue waits, or what it handled last is
of an earlier worker. -/
def Lags (i : Str) (entry : RunningEntry) (w : World) : Prop :=
  (∃ m ∈ w.updates, m.issueId = i) ∨ (∃ x ∈ w.exits, x.issueId = i) ∨
    ∃ t, entry.lastCodexTimestamp = some t ∧ t < entry.startedAt

/-- So much time has passed since an instant that rounding may count: 142 years. -/
def Ages (reference : Instant) (w : World) : Prop := 2 ^ 52 ≤ w.now - reference

/-- **No false stall**, where the dispatcher keeps up. A tick is taken up while the worker of a running issue has been
silent for less than the timeout, or has reported its exit. The tick's stall part neither cancels the worker nor posts an
exit for it, if and only if the dispatcher does not lag behind it, nor for ages, or what it handled last is less than the
timeout ago, in the floats of the code. -/
theorem no_false_stall {past : List (OrchConf × Label OrchSig Event)} {c : OrchConf}
    (ht : orchestrator.Trace stamped World.IsInitial past c) (hc : c.mode = .idle) {w : World}
    (hr : c.state.recv = some (.pollTick, w)) {i : Str} {entry : RunningEntry}
    (he : c.state.state.running.get? i = some entry) (hpos : 0 < c.state.config.codex.stallTimeoutMs)
    (hlive : c.state.now - lastSign (orchestrator.history past) entry < c.state.config.codex.stallTimeoutMs * 1000 ∨
      ∃ x ∈ c.state.exits, x.issueId = i ∧ x.about = entry.workerHandle) :
    reconcile w = refreshRunning w.stallsReaped ∧
    (Spared entry.workerHandle w w.stallsReaped ↔
      (Lags i entry c.state ∨ Ages (entry.lastCodexTimestamp.getD entry.startedAt) c.state →
        elapsedMs c.state.now (entry.lastCodexTimestamp.getD entry.startedAt) < c.state.config.codex.stallTimeoutMs)) := by
  refine ⟨reconcile_eq w, ?_⟩
  obtain ⟨hs, hh⟩ := trace_heeded ht hc
  obtain ⟨hw, -⟩ := recv_eq hr
  have hrun : w.state.running.get? i = some entry := by rw [hw]; exact he
  have hnow : w.now = c.state.now := by rw [hw]
  have hconfig : w.config = c.state.config := by rw [hw]
  rw [spared_stallsReaped_iff (sound_recv hr hs) hrun, hnow, hconfig, mem_detectStalls_iff hrun hpos, not_le]
  refine ⟨fun hlt _ => hlt, fun hlag => ?_⟩
  by_cases hl : Lags i entry c.state ∨ Ages (entry.lastCodexTimestamp.getD entry.startedAt) c.state
  · exact hlag hl
  · obtain ⟨hl, hages⟩ := not_or.1 hl
    obtain ⟨hupdate, hexit, hold⟩ : (∀ m ∈ c.state.updates, m.issueId ≠ i) ∧ (∀ x ∈ c.state.exits, x.issueId ≠ i) ∧
        ∀ t, entry.lastCodexTimestamp = some t → entry.startedAt ≤ t :=
      ⟨fun m hm hi => hl (.inl ⟨m, hm, hi⟩), fun x hx hi => hl (.inr (.inl ⟨x, hx, hi⟩)),
        fun t ht => not_lt.1 fun hlt => hl (.inr (.inr ⟨t, ht, hlt⟩))⟩
    -- all that the worker emitted is handled, so the tick measures from its last sign or later
    have hsign : lastSign (orchestrator.history past) entry ≤ entry.lastCodexTimestamp.getD entry.startedAt := by
      unfold lastSign
      cases hlast : (emissions entry.workerHandle (orchestrator.history past)).getLast? with
      | none =>
        cases hts : entry.lastCodexTimestamp with
        | none => exact le_refl _
        | some t => exact hold t hts
      | some t =>
        rcases hh.heard i entry he t (List.mem_of_getLast? hlast) with ⟨m, hm, hi, -⟩ | ⟨t', ht', hle⟩
        · exact absurd hi (hupdate m hm)
        · rw [ht']
          exact hle
    rcases hlive with hlive | ⟨x, hx, hi, -⟩
    · exact elapsedMs_lt hpos ((Int.sub_le_sub_left hsign _).trans_lt hlive) (not_le.1 hages)
    · exact absurd hi (hexit x hx)

end Service

section Sample

attribute [local instance] asciiTables

/-- The first tick starts an issue and goes on to the gate for another one; meanwhile a tick is asked for. -/
def sampleBusyGate : List (Label OrchSig Event) :=
  [.recv, Answers.resume { candidates := .ok [sampleIssue "a", sampleIssue "b"] }, Answers.resume {}, Answers.resume {},
    Answers.resume {}, .event .refresh, .event (.advance 600000)]

/-- What the worker of the first issue emits after 0.6 seconds. -/
def sampleProgress : RuntimeEvent := ⟨py "turn_started", 63000000000600000, 42, [], none⟩

/-- The gate answers half a second later. -/
def sampleGateAnswers : List (Label OrchSig Event) :=
  [.event (.advance 500000), Answers.resume {}, Answers.resume {}, Answers.resume {}]

/-- The tick that is next in the mailbox. -/
def nextTick (w : World) : Option World :=
  match w.recv with
  | some (.pollTick, w') => some w'
  | _ => none

theorem nextTick_eq_some {w w' : World} (h : nextTick w = some w') : w.recv = some (.pollTick, w') := by
  unfold nextTick at h
  split at h
  · rename_i hr
    cases h
    exact hr
  · cases h

/-- A label that emits nothing. -/
def quietLabel : Label OrchSig Event → Bool
  | .event (.emit _ _) => false
  | _ => true

theorem stamped_always {l : Label OrchSig Event} (h : quietLabel l = true) : stamped.Always l := by
  cases l with
  | event e =>
    intro w t event he
    rw [he] at h
    cases h
  | recv => exact fun _ _ => trivial
  | resume o => exact fun _ _ _ => trivial

/-- The next tick finds the first issue at work, and its update behind. -/
theorem sample_lagging : ∃ past c w entry, orchestrator.Trace stamped World.IsInitial past c ∧ c.mode = .idle ∧
    c.state.recv = some (.pollTick, w) ∧ c.state.state.running.get? (py "a") = some entry ∧
    c.state.config.codex.stallTimeoutMs = 1000 ∧
    emissions entry.workerHandle (orchestrator.history past) = [entry.startedAt + 600000] ∧
    c.state.now = entry.startedAt + 1100000 ∧ entry.lastCodexTimestamp = none := by
  have hrun : ((orchestrator.run ⟨stallingWorld, .idle⟩ sampleBusyGate).bind fun c₁ =>
      (orchestrator.step c₁ (.event (.emit 0 sampleProgress))).bind fun c₂ =>
        (orchestrator.run c₂ sampleGateAnswers).bind fun c => (nextTick c.state).map fun _ =>
          decide (c₁.state.now = sampleProgress.timestamp ∧ c.mode.isIdle = true ∧
            ∃ entry, c.state.state.running.get? (py "a") = some entry ∧ c.state.config.codex.stallTimeoutMs = 1000 ∧
              emissions entry.workerHandle (orchestrator.history ((orchestrator.stages ⟨stallingWorld, .idle⟩
                sampleBusyGate ++ [(c₁, .event (.emit 0 sampleProgress))]) ++ orchestrator.stages c₂ sampleGateAnswers)) =
                  [entry.startedAt + 600000] ∧
              c.state.now = entry.startedAt + 1100000 ∧ entry.lastCodexTimestamp = none)) = some true := by
    decide +kernel
  obtain ⟨c₁, hc₁, hrun⟩ := Option.bind_eq_some_iff.1 hrun
  obtain ⟨c₂, hc₂, hrun⟩ := Option.bind_eq_some_iff.1 hrun
  obtain ⟨c, hc, hrun⟩ := Option.bind_eq_some_iff.1 hrun
  obtain ⟨w, hn, hd⟩ := Option.map_eq_some_iff.1 hrun
  obtain ⟨hts, hi, entry, he, hrest⟩ := of_decide_eq_true hd
  have h₁ : orchestrator.Trace stamped World.IsInitial _ c₁ :=
    .run (.start ⟨_, _, _, _, _, _, _, rfl⟩) (fun l hl => stamped_always (List.all_eq_true.1 rfl l hl)) hc₁
  have h₂ : orchestrator.Trace stamped World.IsInitial _ c₂ := .step h₁ (l := .event (.emit 0 sampleProgress))
    (fun t event heq => by cases heq; exact hts.symm) hc₂
  exact ⟨_, c, w, entry, .run h₂ (fun l hl => stamped_always (List.all_eq_true.1 rfl l hl)) hc,
    Mode.isIdle_iff.1 hi, nextTick_eq_some hn, he, hrest⟩

/-- Here the dispatcher lags behind, and by more than the timeout. -/
theorem no_false_stall_sample : ∃ past c w entry, orchestrator.Trace stamped World.IsInitial past c ∧
    c.state.recv = some (.pollTick, w) ∧ c.state.state.running.get? (py "a") = some entry ∧
    (Spared entry.workerHandle w w.stallsReaped ↔
      (Lags (py "a") entry c.state ∨ Ages (entry.lastCodexTimestamp.getD entry.startedAt) c.state →
        elapsedMs c.state.now (entry.lastCodexTimestamp.getD entry.startedAt) <
          c.state.config.codex.stallTimeoutMs)) := by
  obtain ⟨past, c, w, entry, ht, hc, hr, he, htimeout, hem, hnow, -⟩ := sample_lagging
  refine ⟨past, c, w, entry, ht, hr, he, (no_false_stall ht hc hr he (by rw [htimeout]; decide) (.inl ?_)).2⟩
  rw [lastSign, hem, hnow, htimeout]
  have hlt : ∀ s : Int, s + 1100000 - (s + 600000) < 1000 * 1000 := by omega
  exact hlt entry.startedAt

/-- **A false stall.** The worker emitted its first event 0.6 seconds after its start, and the tick comes half a second
later; the timeout is a second. The worker is cancelled and an exit is posted for it. -/
theorem false_stall : ∃ past c w entry, orchestrator.Trace stamped World.IsInitial past c ∧
    c.state.recv = some (.pollTick, w) ∧ c.state.state.running.get? (py "a") = some entry ∧
    c.state.config.codex.stallTimeoutMs = 1000 ∧
    emissions entry.workerHandle (orchestrator.history past) = [entry.startedAt + 600000] ∧
    c.state.now = entry.startedAt + 1100000 ∧ ¬ Spared entry.workerHandle w w.stallsReaped := by
  obtain ⟨past, c, w, entry, ht, hc, hr, he, htimeout, hem, hnow, hlast⟩ := sample_lagging
  refine ⟨past, c, w, entry, ht, hr, he, htimeout, hem, hnow, ?_⟩
  obtain ⟨hw, -⟩ := recv_eq hr
  have hrun : w.state.running.get? (py "a") = some entry := by rw [hw]; exact he
  have hnow' : w.now = entry.startedAt + 1100000 := by rw [hw]; exact hnow
  have htimeout' : w.config.codex.stallTimeoutMs = 1000 := by rw [hw]; exact htimeout
  have helapsed : entry.startedAt + 1100000 - entry.startedAt = 1100000 := add_sub_cancel_left _ _
  rw [spared_stallsReaped_iff (sound_recv hr (trace_heeded ht hc).1) hrun, hnow', htimeout',
    mem_detectStalls_iff hrun (by decide), hlast, not_not, Option.getD_none, elapsedMs, helapsed]
  decide +kernel

end Sample

end RiverGang
