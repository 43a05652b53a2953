import RiverGang.Lib.Alarms
import RiverGang.Orchestrator.Backoff
import RiverGang.Orchestrator.Ticks

/-!
# The timers of the retries

The retry queue with the timers of the loop and the `RetryTimerFired` in the mailbox are alarms (`World.alarms`), and the
steps of the handlers are operations on them. Two things break their correspondence: `dispatch_issue` gives the retry of
a failed spawn a timer that posts nothing; and the exit of an issue may schedule a retry while a message of an earlier
timer is still in the mailbox.

* `timers_correspond`: where neither happens, every entry has its own timer, or its message is in the mailbox and it is
  due; no other retry timer is pending; and a message that finds an entry is that of the entry's own timer.
* `silent_timer`, `stale_retry`: runs in which one of the two happens.
-/

namespace RiverGang

open Py Coop

/-- The alarm that a timer is, if it is for a retry. -/
def Timer.alarm? (t : Timer) : Option (Alarm Str) :=
  match t.callback with
  | .postRetryTimer i => some ⟨t.handle, t.due, i⟩
  | _ => none

/-- The ring that a message is. -/
def Message.ring? : Message → Option (Str × Nat)
  | .retryTimerFired m => some (m.issueId, m.timer)
  | _ => none

namespace World

def alarms (w : World) : Alarms Str where
  entry i := (w.retryQueue.get? i).map fun entry => (entry.timerHandle, entry.fireAt)
  armed := w.timers.filterMap Timer.alarm?
  rings := w.mailbox.filterMap Message.ring?
  now := w.now
  next := w.nextHandle

/-- No timer posts nothing. -/
def Loud (w : World) : Prop := ∀ t ∈ w.timers, t.callback ≠ .ignore

variable {w w' : World} {i : Str}

theorem mem_armed {a : Alarm Str} : a ∈ w.alarms.armed ↔ ⟨a.id, a.due, .postRetryTimer a.key⟩ ∈ w.timers := by
  simp only [alarms, List.mem_filterMap]
  constructor
  · rintro ⟨t, ht, ha⟩
    obtain ⟨handle, due, callback⟩ := t
    cases callback <;> cases ha
    exact ht
  · exact fun h => ⟨_, h, rfl⟩

theorem mem_rings {p : Str × Nat} : p ∈ w.alarms.rings ↔ .retryTimerFired ⟨p.1, p.2⟩ ∈ w.mailbox := by
  simp only [alarms, List.mem_filterMap]
  constructor
  · rintro ⟨m, hm, hr⟩
    cases m <;> cases hr
    exact hm
  · exact fun h => ⟨_, h, rfl⟩

theorem entry_alarms {entry : RetryEntry} (h : w.retryQueue.get? i = some entry) :
    w.alarms.entry i = some (entry.timerHandle, entry.fireAt) := by
  change (w.retryQueue.get? i).map _ = _
  rw [h]
  rfl

theorem entry_alarms_none (h : w.retryQueue.get? i = none) : w.alarms.entry i = none := by
  change (w.retryQueue.get? i).map _ = _
  rw [h]
  rfl

/-! ## Steps on alarms -/

theorem alarms_congr (hq : w'.retryQueue = w.retryQueue) (ht : w'.timers = w.timers)
    (hm : w'.mailbox.filterMap Message.ring? = w.mailbox.filterMap Message.ring?) (hn : w'.now = w.now)
    (hh : w'.nextHandle = w.nextHandle) : w'.alarms = w.alarms := by
  simp only [alarms, hq, ht, hm, hn, hh]

theorem alarms_onState (w : World) (f : OrchestratorState → OrchestratorState) : (w.onState f).alarms = w.alarms := rfl

theorem alarms_post {m : Message} (hm : m.ring? = none) (w : World) : (w.post m).alarms = w.alarms :=
  alarms_congr rfl rfl (by simp [post, List.filterMap_append, hm]) rfl rfl

theorem filterMap_alarm?_filter (ts : List Timer) (p : Nat → Bool) :
    (ts.filter fun t => p t.handle).filterMap Timer.alarm? = (ts.filterMap Timer.alarm?).filter fun a => p a.id := by
  induction ts with
  | nil => rfl
  | cons t ts ih =>
    obtain ⟨handle, due, callback⟩ := t
    rw [List.filter_cons, List.filterMap_cons]
    cases callback <;> cases hp : p handle <;> simp [List.filterMap_cons, Timer.alarm?, hp, ih]

theorem entry_erase (w : World) (i : Str) :
    (fun j => ((w.retryQueue.erase i).get? j).map fun entry => (entry.timerHandle, entry.fireAt)) =
      Function.update w.alarms.entry i none := by
  funext j
  rw [Dict.get?_erase, Function.update_apply]
  by_cases hj : i = j
  · rw [if_pos hj, if_pos hj.symm]
    rfl
  · rw [if_neg hj, if_neg fun h => hj h.symm]
    rfl

theorem alarms_cancelRetry (w : World) (i : Str) : (w.cancelRetry i).alarms = w.alarms.cancel i := by
  refine Alarms.ext (entry_erase w i) ?_ rfl rfl rfl
  refine (filterMap_alarm?_filter w.timers fun h => (w.retryQueue.get? i).all fun entry => entry.timerHandle ≠ h).trans ?_
  refine List.filter_congr fun a _ => ?_
  cases h : w.retryQueue.get? i with
  | none => rw [entry_alarms_none h]; rfl
  | some entry => rw [entry_alarms h]; rfl

theorem alarms_popRetry (w : World) (i : Str) : (w.popRetry i).alarms = w.alarms.drop i :=
  Alarms.ext (entry_erase w i) rfl rfl rfl rfl

theorem alarms_scheduled (w : World) (i : Str) (n : Nat) (k : RetryKind) (d : Int) (e : Option Str) :
    (w.scheduled i n k d postRetryTimer e).alarms = w.alarms.set i (d * 1000) := by
  refine Alarms.ext (funext fun j => ?_) ?_ rfl rfl rfl
  · change ((w.scheduled i n k d postRetryTimer e).retryQueue.get? j).map _ =
      Function.update w.alarms.entry i (some (w.nextHandle, w.now + d * 1000)) j
    rw [get?_scheduled, Function.update_apply]
    by_cases hj : i = j
    · rw [if_pos hj, if_pos hj.symm]
      rfl
    · rw [if_neg hj, if_neg fun h => hj h.symm]
      rfl
  · change ((w.cancelRetry i).timers ++ [_]).filterMap Timer.alarm? = (w.alarms.cancel i).armed ++ [_]
    rw [List.filterMap_append, ← alarms_cancelRetry]
    rfl

/-- To stop the timer of the tick stops no retry. -/
theorem Clocked.alarms_cancelTimer (h : w.Clocked) {handle : Nat} (hr : w.nextTickHandle = some handle) :
    (w.cancelTimer handle).alarms = w.alarms := by
  refine Alarms.ext rfl ?_ rfl rfl rfl
  refine (filterMap_alarm?_filter w.timers fun x => x ≠ handle).trans (List.filter_eq_self.2 fun a hm => ?_)
  have hne := (h.retry a.id (.inl ⟨_, mem_armed.1 hm, by simp, rfl⟩)).2
  rw [decide_eq_true_iff]
  rintro rfl
  exact hne hr

theorem alarms_callLater_tick (w : World) (d : Int) :
    (w.callLater d .postPollTick).alarms = w.alarms.wait 0 1 := by
  refine Alarms.ext rfl ?_ rfl (Int.add_zero _).symm rfl
  change (w.timers ++ [_]).filterMap Timer.alarm? = _
  rw [List.filterMap_append]
  exact List.append_nil _

theorem Clocked.alarms_tickScheduled (h : w.Clocked) : w.tickScheduled.alarms = w.alarms.wait 0 1 := by
  unfold World.tickScheduled
  cases hr : w.nextTickHandle with
  | none => exact alarms_callLater_tick w _
  | some handle => exact (alarms_callLater_tick (w.cancelTimer handle) _).trans (by rw [h.alarms_cancelTimer hr])

theorem Clocked.alarms_tickCancelled (h : w.Clocked) : w.tickCancelled.alarms = w.alarms := by
  unfold World.tickCancelled
  cases hr : w.nextTickHandle with
  | none => rfl
  | some handle => exact h.alarms_cancelTimer hr

end World

/-! ## Events -/

/-- An event lets time pass, or an alarm rings. -/
theorem event_alarms {e : Event} {w w' : World} (he : World.event e w = some w') (hc : w.Clocked) (hl : w.Loud) :
    w'.Loud ∧ ((∃ d, w'.alarms = w.alarms.wait d 0) ∨
      ∃ a ∈ w.alarms.armed, a.due ≤ w.now ∧ w'.alarms = w.alarms.ring a) := by
  have hstay : ∀ {v : World}, v.alarms = w.alarms → ∃ d, v.alarms = w.alarms.wait d 0 := fun hv =>
    ⟨0, by rw [hv, Alarms.wait]; simp⟩
  cases e <;> simp only [World.event, Option.some.injEq, Option.map_eq_some_iff, Option.ite_none_right_eq_some] at he
  case advance d => exact ⟨he ▸ hl, .inl ⟨d, by rw [← he]; rfl⟩⟩
  case setLoader | setSpawn => exact ⟨he ▸ hl, .inl (hstay (by rw [← he]; rfl))⟩
  case refresh | reload | shutdown => exact ⟨he ▸ hl, .inl (hstay (by rw [← he]; exact World.alarms_post rfl w))⟩
  case fire handle =>
    obtain ⟨t, ht, rfl⟩ := he
    have hmem := List.mem_of_find?_eq_some ht
    have hp := List.find?_some ht
    simp only [decide_eq_true_eq] at hp
    obtain ⟨rfl, hdue⟩ := hp
    refine ⟨fun u hu => hl u (List.mem_filter.1 hu).1, ?_⟩
    cases hcb : t.callback with
    | ignore => exact absurd hcb (hl t hmem)
    | postPollTick =>
      have hrec : w.nextTickHandle = some t.handle := by
        have hm : t.handle ∈ w.tickHandles := List.mem_filterMap.2 ⟨t, hmem, if_pos hcb⟩
        simpa using hc.tick.subset hm
      refine .inl (hstay ?_)
      have hpost : t.message?.toList = [.pollTick] := by simp [Timer.message?, hcb]
      rw [hpost]
      exact (World.alarms_post (m := .pollTick) rfl (w.cancelTimer t.handle)).trans (hc.alarms_cancelTimer hrec)
    | postRetryTimer i =>
      have ht' : t = ⟨t.handle, t.due, .postRetryTimer i⟩ := by rw [← hcb]
      refine .inr ⟨⟨t.handle, t.due, i⟩, World.mem_armed.2 (ht' ▸ hmem), hdue, ?_⟩
      have hpost : t.message?.toList = [.retryTimerFired ⟨i, t.handle⟩] := by simp [Timer.message?, hcb]
      rw [hpost]
      refine Alarms.ext rfl (World.filterMap_alarm?_filter w.timers fun x => x ≠ t.handle) ?_ rfl rfl
      exact List.filterMap_append
  case emit | finish =>
    obtain ⟨-, issue, -, rfl⟩ := he
    exact ⟨hl, .inl (hstay (World.alarms_congr rfl rfl (by simp [World.post, List.filterMap_append, Message.ring?,
      World.settle]) rfl rfl))⟩
  case settleCancelled | settleRaised | beginCleanup | endCleanup =>
    obtain ⟨-, rfl⟩ := he
    exact ⟨hl, .inl (hstay rfl)⟩

section Service

variable [Unicode]

/-! ## The phases -/

/-- What the phases know of the timers. A message that is being handled was that of the entry, if there is one; the exit
of a running issue finds no message of a timer. -/
def InTime : Phase → World → Prop
  | .crashed _, _ => True
  | .handling (.retryTimerFired m), w => w.Loud ∧ w.alarms.InStep (some m.issueId) ∧ w.alarms.armedFor m.issueId = [] ∧
      ∀ entry, w.retryQueue.get? m.issueId = some entry → w.alarms.ringsFor m.issueId = []
  | .handling (.workerExit x), w => w.Loud ∧ w.alarms.InStep none ∧
      (x.issueId ∈ w.state.running → w.alarms.ringsFor x.issueId = [])
  | .retry m _, w => w.Loud ∧ w.alarms.InStep none ∧ w.alarms.entry m.issueId = none ∧ w.alarms.ringsFor m.issueId = []
  | _, w => w.Loud ∧ w.alarms.InStep none

omit [Unicode] in
theorem TickIn.clocked {φ : Phase} {w : World} (h : TickIn φ w) (hφ : ∀ e, φ ≠ .crashed e) : w.Clocked := by
  cases φ with
  | crashed e => exact absurd rfl (hφ e)
  | handling m =>
    cases m with
    | pollTick => exact h
    | workerExit | codexUpdate | retryTimerFired | configReloaded | shutdown => exact h.1
  | loop issues => exact h
  | retry m entry => exact h.1
  | done m =>
    cases m with
    | shutdown => exact h
    | pollTick | workerExit | codexUpdate | retryTimerFired | configReloaded => exact h.1

/-- To start a worker does not fail with an `Exception`. -/
def Starts (w : World) (issue : Issue) (attempt : Nat) : Prop :=
  ∀ exc, w.spawnError issue attempt = some exc → exc.isException = false

/-- The service, as long as no spawn fails — neither of an issue that the gate cleared, nor of one that a retry finds
with a slot free — and the exit of a running issue is taken up only when no message of a timer of the issue is in the
mailbox. -/
def timelyRetries : OrchDiscipline where
  event _ _ := True
  receive w m := ∀ x, m = .workerExit x → x.issueId ∈ w.state.running →
    ∀ r, .retryTimerFired r ∈ w.mailbox → r.issueId ≠ x.issueId
  answer m w r x :=
    (m = .pollTick → ∀ issue decision, analysisOf r x = some (issue, decision) → decision.sufficient = true →
      Starts w issue 1) ∧
    ∀ t, m = .retryTimerFired t → ∀ candidates issue, candidatesOf r x = some candidates →
      (candidates.find? fun c => c.id = t.issueId) = some issue →
      0 < slotsFor issue.state w.state w.config.agent.maxConcurrentAgentsByState → ∀ attempt, Starts w issue attempt

variable {w w' : World} {φ φ' : Phase}

omit [Unicode] in
/-- A dispatch whose spawn does not fail stops the retry of the issue. -/
theorem Starts.dispatchIssue {issue : Issue} {attempt : Nat} {cap : Int} {r : Option RunningEntry}
    (hs : Starts w issue attempt) (h : RiverGang.dispatchIssue issue attempt cap w = .ret r w') :
    w' = w.dispatched issue attempt := by
  rcases dispatchIssue_ret h with ⟨-, hw⟩ | ⟨exc, delay, hexc, -⟩
  · exact hw
  · rw [dispatchIssue_of_not_exception cap hexc (hs exc hexc)] at h
    cases h

omit [Unicode] in
theorem World.Loud.filter (h : w.Loud) {p : Timer → Bool} (ht : w'.timers = w.timers.filter p) : w'.Loud := by
  intro t hm
  rw [ht] at hm
  exact h t (List.mem_filter.1 hm).1

omit [Unicode] in
theorem World.Loud.concat {p : Timer → Bool} {t : Timer} (h : w.Loud) (ht : w'.timers = w.timers.filter p ++ [t])
    (hc : t.callback ≠ .ignore) : w'.Loud := by
  intro u hm
  rw [ht] at hm
  rcases List.mem_append.1 hm with hm | hm
  · exact h u (List.mem_filter.1 hm).1
  · obtain rfl := List.mem_singleton.1 hm
    exact hc

omit [Unicode] in
theorem World.Loud.tickScheduled (h : w.Loud) : w.tickScheduled.Loud := by
  unfold World.tickScheduled
  cases w.nextTickHandle with
  | none => exact h.concat (p := fun _ => true) (by rw [List.filter_true]; rfl) (by simp)
  | some handle => exact h.concat rfl (by simp)

omit [Unicode] in
theorem World.Loud.tickCancelled (h : w.Loud) : w.tickCancelled.Loud := by
  unfold World.tickCancelled
  cases w.nextTickHandle with
  | none => exact h
  | some handle => exact h.filter rfl

/-- **The step lemma.** -/
theorem Work.inTime (hc : TickIn φ w) (h : InTime φ w) (hw : Work timelyRetries w φ w' φ') : InTime φ' w' := by
  cases hw with
  | stall => exact ⟨h.1, (World.alarms_post (m := .workerExit _) rfl (w.terminateWorkerHandle _)).symm ▸ h.2⟩
  | terminateWithCleanup | terminateWithoutCleanup | refresh | adopt | eligible | skip | rewait | update | reload =>
    exact h
  | skipTick ht | endLoop ht =>
    have hclock := hc.clocked (by simp)
    rw [scheduleNextTick_ret ht]
    exact ⟨h.1.tickScheduled, hclock.alarms_tickScheduled ▸ h.2.wait 0 1⟩
  | @dispatch _ issue _ _ hcl hd =>
    obtain ⟨comments, path, config, decision, ha, hsuff⟩ := hcl
    have hs : Starts (w.onState (·.popWaiting issue.id)) issue 1 := ha.1 rfl issue decision rfl hsuff
    rw [hs.dispatchIssue hd]
    refine ⟨h.1.filter rfl, ?_⟩
    change ((w.onState (·.popWaiting issue.id)).cancelRetry issue.id).alarms.InStep none
    rw [World.alarms_cancelRetry]
    exact h.2.cancel _ (by simp)
  | @exit _ x hx =>
    rcases onWorkerExit_ret hx with ⟨-, rfl⟩ | ⟨entry, delay, hr, rfl⟩
    · exact ⟨h.1, h.2.1⟩
    · have hex : (w.exited x).alarms = w.alarms := by rw [World.exited_eq]; rfl
      have hl : (w.exited x).Loud := by rw [World.exited_eq]; exact h.1
      refine ⟨hl.concat rfl (by simp [postRetryTimer]), ?_⟩
      rw [World.alarms_onState, World.alarms_scheduled, hex]
      exact h.2.1.set (h.2.2 (Dict.mem_of_get? hr)) _
  | shutdown =>
    have hclock := hc.clocked (by simp)
    exact ⟨h.1.tickCancelled, hclock.alarms_tickCancelled ▸ h.2⟩
  | @noEntry m hn =>
    obtain ⟨hl, hk, ha, -⟩ := h
    refine ⟨hl, fun k _ => ?_, hk.fresh, hk.inj⟩
    by_cases hi : m.issueId = k
    · exact .free (by rw [← hi]; exact World.entry_alarms_none hn) (hi ▸ ha)
    · exact hk.kept k fun heq => hi (Option.some.inj heq)
  | completed =>
    obtain ⟨hl, hk, ha, -⟩ := h
    refine ⟨hl, ?_⟩
    rw [World.alarms_onState, World.alarms_popRetry]
    exact hk.drop ha
  | popRetry he _ =>
    obtain ⟨hl, hk, ha, hr⟩ := h
    refine ⟨hl, ?_, World.entry_alarms_none (Dict.get?_erase_self ..), hr _ he⟩
    rw [World.alarms_popRetry]
    exact hk.drop ha
  | @reschedule _ m _ _ hs =>
    obtain ⟨d, -, rfl⟩ := RetryQueue.schedule_ret hs
    refine ⟨h.1.concat rfl (by simp [postRetryTimer]), ?_⟩
    rw [World.alarms_scheduled]
    exact h.2.1.set h.2.2.2 _
  | release => exact ⟨h.1, h.2.1⟩
  | redispatch hm hsl hd =>
    obtain ⟨states, candidates, ha, hf⟩ := hm
    rw [Starts.dispatchIssue (ha.2 _ rfl candidates _ rfl hf hsl _) hd]
    refine ⟨h.1.filter rfl, ?_⟩
    change (w.cancelRetry _).alarms.InStep none
    rw [World.alarms_cancelRetry]
    exact h.2.1.cancel _ (by simp)
  | crash => trivial

omit [Unicode] in
/-- Nothing is armed for a key without an entry, so nothing rings for it. -/
theorem InTime.event {e : Event} (hc : TickIn φ w) (h : InTime φ w) (hφ : φ.Awaiting)
    (he : World.event e w = some w') : InTime φ w' := by
  have hstep : w.Loud → w.alarms.InStep none →
      w'.Loud ∧ w'.alarms.InStep none ∧ ∀ i, w.alarms.entry i = none → w'.alarms.entry i = none ∧
        (w.alarms.ringsFor i = [] → w'.alarms.ringsFor i = []) := by
    intro hl hk
    obtain ⟨hl', ⟨d, hw⟩ | ⟨a, ha, hd, hw⟩⟩ := event_alarms he (hc.clocked fun e heq => by rw [heq] at hφ; exact hφ) hl
    · rw [hw]
      exact ⟨hl', hk.wait d 0, fun i hi => ⟨hi, id⟩⟩
    · rw [hw]
      refine ⟨hl', hk.ring ha hd, fun i hi => ⟨hi, fun hr => ?_⟩⟩
      have hne : ¬ a.key = i := by
        rintro rfl
        rw [((hk.kept a.key (by simp)).of_armed ha).1] at hi
        cases hi
      change ((w.alarms.rings ++ [_]).filter _).map _ = _
      rw [List.filter_append, List.map_append, show (w.alarms.rings.filter _).map Prod.snd = [] from hr]
      simp [hne]
  cases φ with
  | handling m =>
    cases m with
    | pollTick =>
      obtain ⟨hl, hk, -⟩ := hstep h.1 h.2
      exact ⟨hl, hk⟩
    | workerExit | codexUpdate | retryTimerFired | configReloaded | shutdown => exact hφ.elim
  | loop issues =>
    obtain ⟨hl, hk, -⟩ := hstep h.1 h.2
    exact ⟨hl, hk⟩
  | retry m entry =>
    obtain ⟨hl, hk, hi⟩ := hstep h.1 h.2.1
    exact ⟨hl, hk, (hi _ h.2.2.1).1, (hi _ h.2.2.1).2 h.2.2.2⟩
  | done | crashed => exact hφ.elim

omit [Unicode] in
theorem InTime.recv {m : Message} (h : w.Loud ∧ w.alarms.InStep none) (hr : w.recv = some (m, w'))
    (hd : ∀ x, m = .workerExit x → x.issueId ∈ w.state.running →
      ∀ r, .retryTimerFired r ∈ w.mailbox → r.issueId ≠ x.issueId) : InTime (.handling m) w' := by
  obtain ⟨hl, hk⟩ := h
  obtain ⟨hw, hm⟩ := recv_eq hr
  have hl' : w'.Loud := by rw [hw]; exact hl
  have hrings : w.alarms.rings = m.ring?.toList ++ w'.alarms.rings := by
    change w.mailbox.filterMap Message.ring? = _ ++ w'.mailbox.filterMap Message.ring?
    rw [hm, List.filterMap_cons]
    cases m.ring? <;> rfl
  have ha : w'.alarms = w.alarms.answer w'.alarms.rings := by rw [hw]; rfl
  have hsame : m.ring? = none → w'.alarms = w.alarms := by
    intro hn
    rw [hn] at hrings
    rw [ha, ← show w.alarms.rings = w'.alarms.rings from hrings]
    rfl
  cases m with
  | retryTimerFired m =>
    have hhead : w.alarms.rings = (m.issueId, m.timer) :: w'.alarms.rings := hrings
    obtain ⟨hk', hn, hown⟩ := hk.answer hhead
    rw [← ha] at hk' hn
    refine ⟨hl', hk', hn, fun entry he => ?_⟩
    have hq : w.retryQueue.get? m.issueId = some entry := by rw [← he, hw]
    rw [ha]
    exact (hown _ _ (World.entry_alarms hq)).2.2
  | workerExit x =>
    change w'.Loud ∧ w'.alarms.InStep none ∧ _
    rw [hsame rfl]
    refine ⟨hl', hk, fun hrun => ?_⟩
    rw [hw] at hrun
    rw [Alarms.ringsFor, List.map_eq_nil_iff, List.filter_eq_nil_iff]
    intro p hp
    have hne := hd x rfl hrun _ (World.mem_rings.1 hp)
    simpa using hne
  | pollTick | codexUpdate | configReloaded | shutdown =>
    change w'.Loud ∧ w'.alarms.InStep none
    rw [hsame rfl]
    exact ⟨hl', hk⟩

theorem handlers_keep_inTime :
    (handlerPhases timelyRetries).Keeps orchestrator timelyRetries fun φ w => TickIn φ w ∧ InTime φ w where
  work h hw := ⟨hw.tickIn h.1, hw.inTime h.1 h.2⟩
  event h hφ _ he := ⟨h.1.event hφ he, h.2.event h.1 hφ he⟩

omit [Unicode] in
theorem World.IsInitial.inStep {w : World} (h : w.IsInitial) : w.Loud ∧ w.alarms.InStep none := by
  obtain ⟨config, now, client, factory, loader, spawnError, reloads, rfl⟩ := h
  refine ⟨?_, fun k _ => .free rfl rfl, ?_, ?_⟩
  · intro t ht
    cases ht
  · intro k h d he
    cases he
  · intro k j h d d' he
    cases he

/-- What is known of every reachable configuration of a dispatcher that did not crash. -/
theorem reachable_inStep {c : OrchConf} (h : Reachable timelyRetries c) (hc : ∀ e, c.mode ≠ .crashed e) :
    c.state.Loud ∧ c.state.alarms.InStep none := by
  have hs := Phases.reach_says (handlers_simulate timelyRetries) handlers_keep_inTime
    (J := fun w => (w.Clocked ∧ w.TickDue) ∧ w.Loud ∧ w.alarms.InStep none) (fun w hw => ⟨hw.clocked, hw.inStep⟩)
    (fun w e w' hw _ he => ?_) (fun w m w' hw hr hd => ⟨.recv hw.1 hr, .recv hw.2 hr hd⟩)
    (fun w m hm hw => ⟨TickIn.of_done hm hw.1, hw.2⟩) h
  · obtain ⟨w, mode⟩ := c
    cases mode with
    | idle => exact hs.2
    | stopped => obtain ⟨m, -, hs⟩ := hs; exact hs.2
    | busy m r k =>
      obtain ⟨s₀, φ, hφ, -, hs⟩ := hs
      cases φ with
      | handling m =>
        cases m with
        | pollTick => exact hs.2
        | workerExit | codexUpdate | retryTimerFired | configReloaded | shutdown => exact hφ.elim
      | loop issues => exact hs.2
      | retry m entry => exact ⟨hs.2.1, hs.2.2.1⟩
      | done | crashed => exact hφ.elim
    | crashed e => exact absurd rfl (hc e)
  · obtain ⟨hclock, hdue⟩ := hw.1.1.event he
    obtain ⟨hl, ⟨d, hw'⟩ | ⟨a, ha, hd, hw'⟩⟩ := event_alarms he hw.1.1 hw.2.1
    · exact ⟨⟨hclock, hdue hw.1.2⟩, hl, hw' ▸ hw.2.2.wait d 0⟩
    · exact ⟨⟨hclock, hdue hw.1.2⟩, hl, hw' ▸ hw.2.2.ring ha hd⟩

/-- **Retry timers and retry entries correspond**, as long as no spawn fails and no exit of a running issue is taken up
while a message of a timer of the issue is in the mailbox. Every entry has its own timer pending, which will post for its
issue at its date, or the message of that timer is in the mailbox and the date has come; every pending timer that is not
for the tick is that of an entry; and a message that finds an entry for its issue is that of the entry's own timer. -/
theorem timers_correspond {c : OrchConf} (h : Reachable timelyRetries c) (hc : ∀ e, c.mode ≠ .crashed e) :
    (∀ i entry, c.state.retryQueue.get? i = some entry →
      ⟨entry.timerHandle, entry.fireAt, .postRetryTimer i⟩ ∈ c.state.timers ∨
        .retryTimerFired ⟨i, entry.timerHandle⟩ ∈ c.state.mailbox ∧ entry.fireAt ≤ c.state.now) ∧
    (∀ t ∈ c.state.timers, t.callback ≠ .postPollTick → ∃ i entry, c.state.retryQueue.get? i = some entry ∧
      t = ⟨entry.timerHandle, entry.fireAt, .postRetryTimer i⟩) ∧
    ∀ m entry, .retryTimerFired m ∈ c.state.mailbox → c.state.retryQueue.get? m.issueId = some entry →
      m.timer = entry.timerHandle ∧ entry.fireAt ≤ c.state.now := by
  obtain ⟨hl, hk⟩ := reachable_inStep h hc
  refine ⟨fun i entry he => ?_, fun t ht hp => ?_, fun m entry hm he => ?_⟩
  · have hentry := World.entry_alarms he
    cases hk.kept i (by simp) with
    | free hn => rw [hn] at hentry; cases hentry
    | @armed n d he' ha =>
      rw [he'] at hentry
      cases hentry
      have hmem : ⟨entry.timerHandle, entry.fireAt, i⟩ ∈ c.state.alarms.armedFor i := ha ▸ List.mem_cons_self
      exact .inl (World.mem_armed.1 (List.mem_filter.1 hmem).1)
    | @rung n d he' _ hr hd =>
      rw [he'] at hentry
      cases hentry
      have hmem : entry.timerHandle ∈ c.state.alarms.ringsFor i := hr ▸ List.mem_cons_self
      obtain ⟨p, hp, hpn⟩ := List.mem_map.1 hmem
      obtain ⟨hp, hpi⟩ := List.mem_filter.1 hp
      have hmail := World.mem_rings.1 hp
      rw [hpn, of_decide_eq_true hpi] at hmail
      exact .inr ⟨hmail, hd⟩
  · obtain ⟨handle, due, callback⟩ := t
    cases callback with
    | postPollTick => exact absurd rfl hp
    | ignore => exact absurd rfl (hl _ ht)
    | postRetryTimer i =>
      have ha : (⟨handle, due, i⟩ : Alarm Str) ∈ c.state.alarms.armed := World.mem_armed.2 ht
      obtain ⟨entry, he, heq⟩ := Option.map_eq_some_iff.1 ((hk.kept i (by simp)).of_armed ha).1
      cases heq
      exact ⟨i, entry, he, rfl⟩
  · have hr : (m.issueId, m.timer) ∈ c.state.alarms.rings := World.mem_rings.2 hm
    obtain ⟨ht, -, -, hd⟩ := (hk.kept m.issueId (by simp)).of_ring hr (World.entry_alarms he)
    exact ⟨ht, hd⟩

end Service

section Sample

attribute [local instance] asciiTables

/-- No message of a timer is in the mailbox, and only a tick is being handled, whose next issue has a worker to start. -/
def quiet (c : OrchConf) : Bool :=
  decide (c.state.mailbox.filterMap Message.ring? = []) &&
    match c.mode with
    | .busy .pollTick (.analyze issue _ _ _) _ => (c.state.spawnError issue 1).isNone
    | .busy .pollTick _ _ => true
    | .busy _ _ _ => false
    | _ => true

/-- After the first failure, the entry has its timer. -/
theorem timers_correspond_sample : ∃ c entry, Reachable timelyRetries c ∧
    c.state.retryQueue.get? (py "a") = some entry ∧
    ⟨entry.timerHandle, entry.fireAt, .postRetryTimer (py "a")⟩ ∈ c.state.timers := by
  have hrun : ((orchestrator.runIn quiet sampleStart (sampleTick ++ sampleFailure)).map fun c =>
      decide (c.mode.isIdle = true ∧ c.state.mailbox = [] ∧
        (c.state.retryQueue.get? (py "a")).isSome = true)) = some true := by
    decide +kernel
  obtain ⟨c, hc, hd⟩ := Option.map_eq_some_iff.1 hrun
  obtain ⟨hi, hn, he⟩ := of_decide_eq_true hd
  obtain ⟨entry, he⟩ := Option.isSome_iff_exists.1 he
  have h : Reachable timelyRetries c := by
    refine .runIn (.start sampleWorld_isInitial) (fun l _ c hP => ?_) hc
    obtain ⟨hn, hm⟩ := Bool.and_eq_true_iff.1 hP
    have hn := of_decide_eq_true hn
    cases l with
    | event e => trivial
    | recv =>
      intro p _ x _ _ r hr
      have hmem : (r.issueId, r.timer) ∈ c.state.mailbox.filterMap Message.ring? := World.mem_rings.2 hr
      rw [hn] at hmem
      cases hmem
    | resume o =>
      refine Server.allows_resume fun m r k hbusy => ?_
      rw [hbusy] at hm
      cases m with
      | pollTick =>
        refine ⟨fun _ issue decision ha _ exc hexc => ?_, fun t ht => by cases ht⟩
        cases r with
        | analyze issue' comments path config =>
          generalize o (.analyze issue' comments path config) = x at ha
          cases x with
          | error e => cases ha
          | ok d =>
            cases ha
            rw [Option.isNone_iff_eq_none.1 hm] at hexc
            cases hexc
        | fetchIssueStatesByIds | fetchCandidateIssues | fetchComments | ensureForIssue | addComment => cases ha
      | workerExit | codexUpdate | retryTimerFired | configReloaded | shutdown => cases hm
  have ht := (timers_correspond h fun e heq => by rw [Mode.isIdle_iff.1 hi] at heq; cases heq).1 _ _ he
  refine ⟨c, entry, h, he, ht.resolve_right fun hm => ?_⟩
  rw [hn] at hm
  cases hm.1

/-- Starting a worker fails. -/
def failingWorld : World :=
  .initial sampleConfig 63000000000000000 false true (.ok (some sampleConfig))
    (fun _ _ => some ⟨.linearError, py "cannot start"⟩) []

/-- **A silent timer.** The entry of a failed spawn has a timer that will post nothing, and no message. -/
theorem silent_timer : ∃ c entry, Reachable .free c ∧ c.mode = .idle ∧
    c.state.retryQueue.get? (py "a") = some entry ∧
    (∃ t ∈ c.state.timers, t.handle = entry.timerHandle ∧ t.message? = none) ∧ c.state.mailbox = [] ∧
    ∀ t ∈ c.state.timers, t.callback ≠ .postRetryTimer (py "a") := by
  have hrun : ((orchestrator.run ⟨failingWorld, .idle⟩ sampleTick).map fun c =>
      decide (c.mode.isIdle = true ∧ c.state.mailbox = [] ∧
        (∀ t ∈ c.state.timers, t.callback ≠ .postRetryTimer (py "a")) ∧
        ∃ entry, c.state.retryQueue.get? (py "a") = some entry ∧
          ∃ t ∈ c.state.timers, t.handle = entry.timerHandle ∧ t.callback = .ignore)) = some true := by
    decide +kernel
  obtain ⟨c, hc, hd⟩ := Option.map_eq_some_iff.1 hrun
  obtain ⟨hi, hn, hno, entry, he, t, ht, hh, hcb⟩ := of_decide_eq_true hd
  refine ⟨c, entry, .run (.start ⟨_, _, _, _, _, _, _, rfl⟩) (fun l _ => Discipline.always_free l) hc,
    Mode.isIdle_iff.1 hi, he, ⟨t, ht, hh, ?_⟩, hn, hno⟩
  unfold Timer.message?
  rw [hcb]

/-- A worker that was given up as stalled reports after all, and its report is taken up when the issue is at work again:
a second retry is scheduled while the message of the first one's timer waits. -/
def sampleStale : List (Label OrchSig Event) :=
  sampleTick ++ [.event (.advance 2000000), .event .refresh, .recv, Answers.resume {}, Answers.resume {}, .recv,
    .event .refresh, .recv, .event (.finish 0 ⟨py "turn failed", false, 1000000, none⟩), .event (.advance 20000000),
    .event (.fire 2), Answers.resume { candidates := .ok [sampleIssue "a"] }, Answers.resume {}, Answers.resume {},
    Answers.resume {}, .recv]

def stallingWorld : World :=
  .initial { sampleConfig with codex := { sampleConfig.codex with stallTimeoutMs := 1000 } } 63000000000000000 false true
    (.ok (some { sampleConfig with codex := { sampleConfig.codex with stallTimeoutMs := 1000 } })) (fun _ _ => none) []

/-- **A stale retry.** The message that is taken up next finds an entry that is not due and has another timer. -/
theorem stale_retry : ∃ c m w entry, Reachable .free c ∧ c.mode = .idle ∧
    c.state.recv = some (.retryTimerFired m, w) ∧ c.state.retryQueue.get? m.issueId = some entry ∧
    m.timer ≠ entry.timerHandle ∧ c.state.now < entry.fireAt := by
  have hrun : ((orchestrator.run ⟨stallingWorld, .idle⟩ sampleStale).bind fun c =>
      (nextRetry c.state).map fun p : RetryTimerFired × World => decide (c.mode.isIdle = true ∧
        ∃ entry, c.state.retryQueue.get? p.1.issueId = some entry ∧ p.1.timer ≠ entry.timerHandle ∧
          c.state.now < entry.fireAt)) = some true := by
    decide +kernel
  obtain ⟨c, hc, hrun⟩ := Option.bind_eq_some_iff.1 hrun
  obtain ⟨⟨m, w⟩, hn, hd⟩ := Option.map_eq_some_iff.1 hrun
  obtain ⟨hi, entry, he, ht, hf⟩ := of_decide_eq_true hd
  exact ⟨c, m, w, entry, .run (.start ⟨_, _, _, _, _, _, _, rfl⟩) (fun l _ => Discipline.always_free l) hc,
    Mode.isIdle_iff.1 hi, nextRetry_eq_some hn, he, ht, hf⟩

end Sample

end RiverGang
