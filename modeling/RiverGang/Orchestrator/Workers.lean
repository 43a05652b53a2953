import RiverGang.Lib.Register
import RiverGang.Orchestrator.Simulation

/-!
# The workers as a register

The register of the service: the worker of each running issue, the tasks that were started, cancelled and settled, and
the exits in the mailbox. Every step of a handler (`Work.register`), every event (`event_register`) and every receipt
(`recv_register`) is an operation on it; so what is known of registers holds of the service as soon as the conditions
of the operations do.
-/

namespace RiverGang

open Py Coop

namespace World

/-- The worker of a running issue. -/
def workerOf (w : World) (issueId : Str) : Option Nat := (w.state.running.get? issueId).map (·.workerHandle)

/-- The exits that wait to be handled. -/
def exits (w : World) : List WorkerExit := w.mailbox.filterMap Message.exit?

def register (w : World) : Register Str where
  current := w.workerOf
  keys := w.tasks.map (·.issue.id)
  stopped := w.cancelled
  ended := w.settled
  reports := w.exits.map fun x => (x.issueId, x.about)

variable {w w' : World}

theorem current_of_running {i : Str} {entry : RunningEntry} (h : w.state.running.get? i = some entry) :
    w.register.current i = some entry.workerHandle := by
  change w.workerOf i = _
  rw [workerOf, h]
  rfl

theorem register_congr (hr : w'.state.running = w.state.running) (hm : w'.mailbox = w.mailbox)
    (ht : w'.tasks = w.tasks) (hc : w'.cancelled = w.cancelled) (hs : w'.settled = w.settled) :
    w'.register = w.register := by
  simp only [register, exits, hm, ht, hc, hs, funext fun i => show w'.workerOf i = w.workerOf i by
    simp only [workerOf, hr]]

/-- A message that is no exit. -/
theorem register_post {m : Message} (hm : m.exit? = none) (w : World) : (w.post m).register = w.register := by
  have he : (w.post m).exits = w.exits := by
    simp [exits, post, List.filterMap_append, hm]
  simp only [register, he]
  rfl

theorem register_post_exit (x : WorkerExit) (w : World) :
    (w.post (.workerExit x)).register = w.register.report x.issueId x.about := by
  have he : (w.post (.workerExit x)).exits = w.exits ++ [x] := by
    simp [exits, post, List.filterMap_append, Message.exit?]
  simp only [register, he, List.map_append]
  rfl

/-- An entry with the same worker in the place of a running one. -/
theorem register_setRunning {i : Str} {entry entry' : RunningEntry} (he : w.state.running.get? i = some entry)
    (hw : entry'.workerHandle = entry.workerHandle) :
    (w.onState (·.setRunning i entry')).register = w.register := by
  have hc : (w.onState (·.setRunning i entry')).workerOf = w.workerOf := by
    funext j
    change ((w.state.running.insert i entry').get? j).map _ = _
    rw [Dict.get?_insert]
    split
    · rename_i hij
      rw [← hij, workerOf, he, Option.map_some, Option.map_some, hw]
    · rfl
  simp only [register, hc]
  rfl

theorem register_dispatched (w : World) (issue : Issue) (attempt : Nat) :
    (w.dispatched issue attempt).register = w.register.start issue.id := by
  have hc : (w.dispatched issue attempt).workerOf = Function.update w.workerOf issue.id (some w.tasks.length) := by
    funext j
    change ((w.state.running.insert issue.id _).get? j).map _ = _
    rw [Dict.get?_insert, Function.update_apply]
    by_cases hj : issue.id = j
    · rw [if_pos hj, if_pos hj.symm]
      rfl
    · rw [if_neg hj, if_neg fun h => hj h.symm]
      rfl
  have ht : (w.dispatched issue attempt).tasks.map (·.issue.id) = w.tasks.map (·.issue.id) ++ [issue.id] :=
    List.map_append
  simp only [register, hc, ht, Register.start, List.length_map]
  rfl

theorem register_exited (w : World) (m : WorkerExit) : (w.exited m).register = w.register.release m.issueId := by
  have hc : (w.exited m).workerOf = Function.update w.workerOf m.issueId none := by
    funext j
    rw [workerOf, exited_running, Dict.get?_erase, Function.update_apply]
    by_cases hj : m.issueId = j
    · rw [if_pos hj, if_pos hj.symm]
      rfl
    · rw [if_neg hj, if_neg fun h => hj h.symm]
      rfl
  rw [exited_eq] at hc ⊢
  simp only [register, hc]
  rfl

/-- An issue that is not running has nothing to release. -/
theorem register_release (h : w.state.running.get? i = none) : w.register.release i = w.register := by
  have hw : w.workerOf i = none := by rw [workerOf, h]; rfl
  simp only [Register.release, register, ← hw, Function.update_eq_self]

theorem register_unscheduled {i : Str} (h : w.Unscheduled i w') : w'.register = w.register := by
  obtain ⟨q, ts, n, rfl, -⟩ := h
  rfl

theorem register_tickScheduled (w : World) : w.tickScheduled.register = w.register := by
  unfold tickScheduled
  cases w.nextTickHandle <;> rfl

theorem register_tickCancelled (w : World) : w.tickCancelled.register = w.register := by
  unfold tickCancelled
  cases w.nextTickHandle <;> rfl

end World

theorem register_scheduleNextTick {w w' : World} (h : scheduleNextTick w = .ret () w') : w'.register = w.register := by
  rw [scheduleNextTick_ret h]
  exact w.register_tickScheduled

theorem register_scheduleNextTick_raise {w w' : World} {e : Exn} (h : scheduleNextTick w = .raise e w') :
    w'.register = w.register := by
  rw [(scheduleNextTick_error h).1]

theorem register_dispatchIssue_raise {w w' : World} {issue : Issue} {attempt : Nat} {cap : Int} {e : Exn}
    (h : dispatchIssue issue attempt cap w = .raise e w') : w'.register = w.register := by
  obtain ⟨c, -, hu⟩ := dispatchIssue_raise h
  rw [World.register_unscheduled hu]
  rfl

/-! ## Events and receipts -/

/-- What an event is to the register. -/
theorem event_register {e : Event} {w w' : World} (h : World.event e w = some w') :
    (∃ task report issue, e = .finish task report ∧ w.taskIssue task = some issue ∧
      w'.register = (w.register.finish task).report issue.id task) ∨
    (∃ task, (e = .settleCancelled task ∧ task ∈ w.cancelled ∨
        e = .settleRaised task ∧ (w.hasCodexClient || w.hasCodexClientFactory) = false) ∧ w.Live task ∧
      w'.register = w.register.finish task) ∨
    w'.register = w.register := by
  cases e <;> simp only [World.event, Option.some.injEq, Option.map_eq_some_iff, Option.ite_none_right_eq_some] at h
  case advance | setLoader | setSpawn => exact .inr (.inr (h ▸ rfl))
  case refresh | reload | shutdown => exact .inr (.inr (h ▸ World.register_post rfl w))
  case fire handle =>
    obtain ⟨t, -, rfl⟩ := h
    refine .inr (.inr ?_)
    cases hm : t.message? with
    | none => exact World.register_congr rfl (List.append_nil _) rfl rfl rfl
    | some m =>
      have he : m.exit? = none := by
        unfold Timer.message? at hm
        split at hm <;> cases hm <;> rfl
      exact World.register_post he (w.cancelTimer handle)
  case emit task event =>
    obtain ⟨-, issue, -, rfl⟩ := h
    exact .inr (.inr (World.register_post rfl w))
  case finish task report =>
    obtain ⟨-, issue, hi, rfl⟩ := h
    exact .inl ⟨task, report, issue, rfl, hi, World.register_post_exit _ (w.settle task)⟩
  case settleCancelled task =>
    obtain ⟨⟨hl, hc⟩, rfl⟩ := h
    exact .inr (.inl ⟨task, .inl ⟨rfl, hc⟩, hl, rfl⟩)
  case settleRaised task =>
    obtain ⟨⟨hl, hn⟩, rfl⟩ := h
    exact .inr (.inl ⟨task, .inr ⟨rfl, hn⟩, hl, rfl⟩)
  case beginCleanup | endCleanup => exact .inr (.inr (h.2 ▸ rfl))

/-- A receipt takes the exit that it receives. -/
theorem recv_register {m : Message} {w w' : World} (h : w.recv = some (m, w')) :
    w'.register = w.register.take w'.register.reports ∧
      w.register.reports = (m.exit?.map fun x => (x.issueId, x.about)).toList ++ w'.register.reports := by
  obtain ⟨hw, hm⟩ := recv_eq h
  refine ⟨by rw [hw]; rfl, ?_⟩
  change (w.mailbox.filterMap Message.exit?).map _ = _ ++ (w'.mailbox.filterMap Message.exit?).map _
  rw [hm, List.filterMap_cons]
  cases m.exit? <;> rfl

/-! ## Steps -/

/-- The exit that is being handled. -/
def Phase.exit? : Phase → Option WorkerExit
  | .handling (.workerExit x) => some x
  | _ => none

variable [Unicode]

/-- What a step of a handler is to the register. -/
inductive RegisterChange (D : OrchDiscipline) (w : World) (φ : Phase) (w' : World) : Prop
  | same : φ.exit? = none → w'.register = w.register → RegisterChange D w φ w'
  | reap {i : Str} {t : Nat} : φ.exit? = none → w.workerOf i = some t →
      w'.register = (w.register.stop t).report i t → RegisterChange D w φ w'
  | cancel {i : Str} {entry : RunningEntry} {refreshed : List Issue} : φ.exit? = none →
      w.state.running.get? i = some entry → RefreshedTo D refreshed w →
      (∀ issue, verdictOf refreshed w i ≠ .updateSnapshot issue) →
      w'.register = w.register.stop entry.workerHandle → RegisterChange D w φ w'
  | tick {issue : Issue} : φ.exit? = none → Cleared D issue w → w.spawnError issue 1 = none →
      w'.register = w.register.start issue.id → RegisterChange D w φ w'
  | retry {m : RetryTimerFired} {issue : Issue} {attempt : Nat} : φ.exit? = none → Matched D m issue w →
      0 < slotsFor issue.state w.state w.config.agent.maxConcurrentAgentsByState →
      w.spawnError issue attempt = none → w'.register = w.register.start issue.id → RegisterChange D w φ w'
  | release {x : WorkerExit} : φ = .handling (.workerExit x) → w'.register = w.register.release x.issueId →
      RegisterChange D w φ w'

omit [Unicode] in
theorem Phase.Awaiting.exit? {φ : Phase} (h : φ.Awaiting) : φ.exit? = none := by
  cases φ with
  | handling m =>
    cases m with
    | workerExit x => exact h.elim
    | _ => rfl
  | _ => rfl

theorem Crash.register {D : OrchDiscipline} {w w' : World} {φ : Phase} {e : Exn} (h : Crash D w φ e w') :
    RegisterChange D w φ w' := by
  cases h with
  | answer hφ => exact .same hφ.exit? rfl
  | loader | sort | inputs | questions => exact .same rfl rfl
  | interval hφ ht => exact .same hφ.exit? (register_scheduleNextTick_raise ht)
  | dispatch hc hd => exact .same rfl ((register_dispatchIssue_raise hd).trans rfl)
  | exit hx =>
    obtain ⟨entry, -, hu, -⟩ := onWorkerExit_raise hx
    exact .release rfl ((World.register_unscheduled hu).trans (w.register_exited _))
  | reschedule hs => exact .same rfl (World.register_unscheduled (RetryQueue.schedule_raise hs).1)
  | redispatch hm _ hd => exact .same rfl (register_dispatchIssue_raise hd)

theorem Work.register {D : OrchDiscipline} {w w' : World} {φ φ' : Phase} (h : Work D w φ w' φ') :
    RegisterChange D w φ w' ∧ φ'.exit? = none := by
  cases h with
  | stall he =>
    refine ⟨.reap rfl (by rw [World.workerOf, he]; rfl) ?_, rfl⟩
    exact World.register_post_exit _ (w.terminateWorkerHandle _)
  | terminateWithCleanup he hr _ hv =>
    exact ⟨.cancel rfl he hr.refreshedTo (fun issue h => by rw [hv] at h; cases h) rfl, rfl⟩
  | terminateWithoutCleanup he hr hv => exact ⟨.cancel rfl he hr (fun issue h => by rw [hv] at h; cases h) rfl, rfl⟩
  | refresh he _ => exact ⟨.same rfl (World.register_setRunning he rfl), rfl⟩
  | adopt | eligible | skip | rewait => exact ⟨.same rfl rfl, rfl⟩
  | skipTick ht | endLoop ht => exact ⟨.same rfl (register_scheduleNextTick ht), rfl⟩
  | @dispatch _ issue _ _ hc hd =>
    rcases dispatchIssue_ret hd with ⟨hs, rfl⟩ | ⟨exc, delay, -, rfl⟩
    · exact ⟨.tick rfl hc hs (World.register_dispatched (w.onState (·.popWaiting issue.id)) issue 1), rfl⟩
    · exact ⟨.same rfl rfl, rfl⟩
  | exit hx =>
    rcases onWorkerExit_ret hx with ⟨hn, rfl⟩ | ⟨entry, delay, -, rfl⟩
    · exact ⟨.release rfl (World.register_release hn).symm, rfl⟩
    · exact ⟨.release rfl (w.register_exited _), rfl⟩
  | @update m =>
    rcases onCodexUpdate_cases w m with hu | ⟨entry, totals, limits, hr, hu⟩
    · rw [hu]
      exact ⟨.same rfl rfl, rfl⟩
    · rw [hu]
      have hs : (entry.updated m.event).workerHandle = entry.workerHandle := rfl
      exact ⟨.same rfl (.trans (World.register_congr rfl rfl rfl rfl rfl) (World.register_setRunning hr hs)), rfl⟩
  | reload => exact ⟨.same rfl rfl, rfl⟩
  | shutdown => exact ⟨.same rfl w.register_tickCancelled, rfl⟩
  | noEntry | completed | popRetry | release => exact ⟨.same rfl rfl, rfl⟩
  | reschedule hs =>
    obtain ⟨d, -, rfl⟩ := RetryQueue.schedule_ret hs
    exact ⟨.same rfl rfl, rfl⟩
  | redispatch hm hs hd =>
    rcases dispatchIssue_ret hd with ⟨hn, rfl⟩ | ⟨exc, delay, -, rfl⟩
    · exact ⟨.retry rfl hm hs hn (w.register_dispatched _ _), rfl⟩
    · exact ⟨.same rfl rfl, rfl⟩
  | crash hc => exact ⟨hc.register, rfl⟩

/-! ## The register is sound -/

omit [Unicode] in
theorem World.IsInitial.register {w : World} (h : w.IsInitial) :
    w.register = ⟨fun _ => none, [], ∅, ∅, []⟩ := by
  obtain ⟨config, now, client, factory, loader, spawnError, reloads, rfl⟩ := h
  have he : (World.initial config now client factory loader spawnError reloads).exits = [] := by
    simp only [World.exits, World.initial, List.filterMap_append, List.filterMap_map, List.append_eq_nil_iff]
    refine ⟨?_, rfl⟩
    rw [List.filterMap_eq_nil_iff]
    exact fun _ _ => rfl
  simp only [World.register, he]
  rfl

omit [Unicode] in
theorem World.IsInitial.sound {w : World} (h : w.IsInitial) : w.register.Sound := by
  rw [h.register]
  refine ⟨?_, ?_, ?_⟩
  · intro k t hk
    cases hk
  · rintro t (ht | ht) <;> exact absurd ht (Finset.notMem_empty t)
  · intro k t hm
    cases hm

theorem RegisterChange.sound {D : OrchDiscipline} {w w' : World} {φ : Phase} (h : RegisterChange D w φ w')
    (hs : w.register.Sound) : w'.register.Sound := by
  cases h with
  | same _ hr => rw [hr]; exact hs
  | reap _ ht hr => rw [hr]; exact (hs.stop (hs.lt ht)).report (hs.current ht)
  | cancel _ he _ _ hr =>
    rw [hr]
    exact hs.stop (hs.lt (World.current_of_running he))
  | tick _ _ _ hr => rw [hr]; exact hs.start _
  | retry _ _ _ _ hr => rw [hr]; exact hs.start _
  | release _ hr => rw [hr]; exact hs.release _

omit [Unicode] in
/-- A task is on the key of its issue. -/
theorem World.key_of_taskIssue {w : World} {task : Nat} {issue : Issue} (h : w.taskIssue task = some issue) :
    w.register.keys[task]? = some issue.id := by
  obtain ⟨t, ht, rfl⟩ := Option.map_eq_some_iff.1 h
  simp only [World.register, List.getElem?_map, ht, Option.map_some]

omit [Unicode] in
theorem sound_event {e : Event} {w w' : World} (h : World.event e w = some w') (hs : w.register.Sound) :
    w'.register.Sound := by
  rcases event_register h with ⟨task, report, issue, -, hi, hr⟩ | ⟨task, -, hl, hr⟩ | hr
  · have hk := World.key_of_taskIssue hi
    rw [hr]
    exact (hs.finish (List.getElem?_eq_some_iff.1 hk).1).report hk
  · rw [hr]
    refine hs.finish ?_
    rw [show w.register.keys = w.tasks.map (·.issue.id) from rfl, List.length_map]
    exact hl.1
  · rw [hr]
    exact hs

omit [Unicode] in
theorem sound_recv {m : Message} {w w' : World} (h : w.recv = some (m, w')) (hs : w.register.Sound) :
    w'.register.Sound := by
  obtain ⟨hr, hm⟩ := recv_register h
  rw [hr]
  refine hs.take fun p hp => ?_
  rw [hm]
  exact List.mem_append_right _ hp

end RiverGang
