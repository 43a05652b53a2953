import RiverGang.Orchestrator.Simulation

/-!
# The timer of the next tick

The dispatcher keeps the handle of the timer that it set for the next tick, and cancels that one before it sets another.
So at most one such timer is pending — and no handle is given twice, so stopping a retry never stops it.

* `reachable_clocked`: in every reachable configuration at most one tick is pending; unless a tick is being handled or
  the dispatcher is over, one is, or its `PollTick` is in the mailbox; and a tick that returns leaves exactly one.
-/

namespace RiverGang

open Py Coop

/-! ## The pending tick -/

/-- The handle of a timer, if it is for a tick. -/
def Timer.tick (t : Timer) : Option Nat := if t.callback = .postPollTick then some t.handle else none

namespace World

/-- The pending timers for a tick. -/
def tickHandles (w : World) : List Nat := w.timers.filterMap Timer.tick

/-- A handle that the retries use: of a timer that is not for a tick, or of an entry. -/
def RetryHandle (w : World) (h : Nat) : Prop :=
  (∃ t ∈ w.timers, t.callback ≠ .postPollTick ∧ t.handle = h) ∨
    ∃ i entry, w.retryQueue.get? i = some entry ∧ entry.timerHandle = h

/-- The pending tick is the one on record, and the retries have other handles. -/
structure Clocked (w : World) : Prop where
  tick : w.tickHandles.Sublist w.nextTickHandle.toList
  tickLt : ∀ h, w.nextTickHandle = some h → h < w.nextHandle
  retry : ∀ h, w.RetryHandle h → h < w.nextHandle ∧ w.nextTickHandle ≠ some h

/-- A tick is due: its timer is pending, or its message is in the mailbox. -/
def TickDue (w : World) : Prop := w.tickHandles ≠ [] ∨ .pollTick ∈ w.mailbox

/-- The tick is left alone: handles go to retries only, and none that was given before. -/
structure Untimed (w w' : World) : Prop where
  ticks : w'.tickHandles = w.tickHandles
  record : w'.nextTickHandle = w.nextTickHandle
  mailbox : .pollTick ∈ w.mailbox → .pollTick ∈ w'.mailbox
  next : w.nextHandle ≤ w'.nextHandle
  retry : ∀ h, w'.RetryHandle h → w.RetryHandle h ∨ w.nextHandle ≤ h ∧ h < w'.nextHandle

variable {w w' w'' : World}

/-! ### Steps that leave the tick alone -/

theorem Untimed.trans (h : w.Untimed w') (h' : w'.Untimed w'') : w.Untimed w'' where
  ticks := h'.ticks.trans h.ticks
  record := h'.record.trans h.record
  mailbox hm := h'.mailbox (h.mailbox hm)
  next := h.next.trans h'.next
  retry x hx := by
    have h₁ := h.next
    have h₂ := h'.next
    rcases h'.retry x hx with hx | ⟨hl, hu⟩
    · rcases h.retry x hx with hx | ⟨hl, hu⟩
      · exact .inl hx
      · exact .inr ⟨hl, by omega⟩
    · exact .inr ⟨by omega, hu⟩

theorem Clocked.untimed (h : w.Clocked) (hu : w.Untimed w') : w'.Clocked where
  tick := by
    rw [hu.ticks, hu.record]
    exact h.tick
  tickLt x hx := by
    rw [hu.record] at hx
    exact (h.tickLt x hx).trans_le hu.next
  retry x hx := by
    have hn := hu.next
    rw [hu.record]
    rcases hu.retry x hx with hx | ⟨hl, hx⟩
    · obtain ⟨hlt, hne⟩ := h.retry x hx
      exact ⟨by omega, hne⟩
    · refine ⟨hx, fun hr => ?_⟩
      have hlt := h.tickLt x hr
      omega

theorem TickDue.untimed (h : w.TickDue) (hu : w.Untimed w') : w'.TickDue := by
  rcases h with h | h
  · exact .inl (by rw [hu.ticks]; exact h)
  · exact .inr (hu.mailbox h)

/-- A change of nothing that has to do with timers. -/
theorem Untimed.of_eq (ht : w'.timers = w.timers) (hq : w'.retryQueue = w.retryQueue)
    (hr : w'.nextTickHandle = w.nextTickHandle) (hn : w'.nextHandle = w.nextHandle)
    (hm : .pollTick ∈ w.mailbox → .pollTick ∈ w'.mailbox) : w.Untimed w' where
  ticks := by rw [tickHandles, ht, tickHandles]
  record := hr
  mailbox := hm
  next := hn.ge
  retry x hx := by
    unfold RetryHandle at hx
    rw [ht, hq] at hx
    exact .inl hx

theorem untimed_onState (w : World) (f : OrchestratorState → OrchestratorState) : w.Untimed (w.onState f) :=
  .of_eq rfl rfl rfl rfl id

/-- Dropping timers that are not for the tick, and entries. -/
theorem Clocked.untimed_filter {p : Timer → Bool} {q : Dict Str RetryEntry} (h : w.Clocked)
    (hp : ∀ t ∈ w.timers, w.nextTickHandle = some t.handle → p t = true)
    (hq : ∀ j entry, q.get? j = some entry → w.retryQueue.get? j = some entry) :
    w.Untimed { w with timers := w.timers.filter p, retryQueue := q } where
  ticks := by
    change (w.timers.filter p).filterMap Timer.tick = w.timers.filterMap Timer.tick
    rw [List.filterMap_filter]
    refine List.filterMap_congr fun t ht => ?_
    split
    · rfl
    · rename_i hpt
      -- a timer for the tick would be on record
      refine (if_neg fun htick => hpt (hp t ht ?_)).symm
      have hmem : t.handle ∈ w.tickHandles := List.mem_filterMap.2 ⟨t, ht, if_pos htick⟩
      have hrec := h.tick.subset hmem
      rwa [Option.mem_toList] at hrec
  record := rfl
  mailbox := id
  next := le_rfl
  retry x hx := by
    rcases hx with ⟨t, ht, hx⟩ | ⟨j, entry, he, hx⟩
    · exact .inl (.inl ⟨t, (List.mem_filter.1 ht).1, hx⟩)
    · exact .inl (.inr ⟨j, entry, hq j entry he, hx⟩)

/-- Cancelling a retry does not stop the tick. -/
theorem Clocked.untimed_cancelRetry (h : w.Clocked) (i : Str) : w.Untimed (w.cancelRetry i) := by
  refine h.untimed_filter (fun t _ htick => ?_) fun j entry => Dict.get?_of_erase
  rw [Option.all_eq_true]
  intro entry he
  have hne := (h.retry _ (.inr ⟨i, entry, he, rfl⟩)).2
  rw [decide_eq_true_iff]
  intro heq
  exact hne (by rw [heq]; exact htick)

theorem Clocked.untimed_popRetry (h : w.Clocked) (i : Str) : w.Untimed (w.popRetry i) := by
  have hu := h.untimed_filter (p := fun _ => true) (fun _ _ _ => rfl) fun j entry => Dict.get?_of_erase (k := i)
  rw [List.filter_true] at hu
  exact hu

/-- Nor does scheduling one. -/
theorem Clocked.untimed_scheduled {f : Str → Callback} (hf : ∀ x, f x ≠ .postPollTick) (h : w.Clocked) (i : Str)
    (n : Nat) (k : RetryKind) (d : Int) (e : Option Str) : w.Untimed (w.scheduled i n k d f e) := by
  refine (h.untimed_cancelRetry i).trans ⟨?_, rfl, id, Nat.le_succ _, ?_⟩
  · change ((w.cancelRetry i).timers ++ [_]).filterMap _ = _
    rw [List.filterMap_append]
    simp [Timer.tick, hf, tickHandles]
  · rintro x (⟨t, ht, hne, rfl⟩ | ⟨j, entry, he, rfl⟩)
    · rcases List.mem_append.1 ht with ht | ht
      · exact .inl (.inl ⟨t, ht, hne, rfl⟩)
      · obtain rfl := List.mem_singleton.1 ht
        exact .inr ⟨le_rfl, Nat.lt_succ_self _⟩
    · rw [get?_scheduled] at he
      split at he
      · cases he
        exact .inr ⟨le_rfl, Nat.lt_succ_self _⟩
      · rename_i hne
        refine .inl (.inr ⟨j, entry, ?_, rfl⟩)
        exact (Dict.get?_erase_of_ne _ hne).trans he

theorem Clocked.untimed_dispatchIssue {issue : Issue} {attempt : Nat} {cap : Int} {r : Option RunningEntry}
    (h : w.Clocked) (hd : dispatchIssue issue attempt cap w = .ret r w') : w.Untimed w' := by
  have hc := h.untimed_cancelRetry issue.id
  rcases dispatchIssue_ret hd with ⟨-, rfl⟩ | ⟨exc, delay, -, rfl⟩
  · exact hc.trans (.of_eq rfl rfl rfl rfl id)
  · have hs : w.Untimed (w.spawnFailed issue.id) := hc.trans (.of_eq rfl rfl rfl rfl id)
    exact hs.trans ((h.untimed hs).untimed_scheduled (fun _ => by simp) ..)

/-! ### The tick -/

/-- With the timer on record gone, no tick is pending. -/
theorem Clocked.tickHandles_cancelTimer {handle : Nat} (h : w.Clocked) (hr : w.nextTickHandle = some handle) :
    (w.cancelTimer handle).tickHandles = [] := by
  refine List.filterMap_eq_nil_iff.2 fun t ht => if_neg fun hc => ?_
  obtain ⟨ht, hne⟩ := List.mem_filter.1 ht
  have hmem : t.handle ∈ w.tickHandles := List.mem_filterMap.2 ⟨t, ht, if_pos hc⟩
  have hrec := h.tick.subset hmem
  rw [hr, Option.toList_some, List.mem_singleton] at hrec
  simp [hrec] at hne

/-- Where the tick is set, it is the only one. -/
theorem Clocked.tickScheduled (h : w.Clocked) : w.tickScheduled.Clocked ∧ w.tickScheduled.tickHandles.length = 1 := by
  have hnone : ∃ ts, ts ⊆ w.timers ∧ ts.filterMap Timer.tick = [] ∧
      w.tickScheduled.timers = ts ++ [⟨w.nextHandle, w.now + w.config.polling.intervalMs * 1000, .postPollTick⟩] := by
    unfold World.tickScheduled
    cases hr : w.nextTickHandle with
    | none =>
      have htick := h.tick
      rw [hr] at htick
      exact ⟨w.timers, List.Subset.refl _, List.sublist_nil.1 htick, rfl⟩
    | some handle =>
      exact ⟨(w.cancelTimer handle).timers, List.filter_sublist.subset, h.tickHandles_cancelTimer hr, rfl⟩
  obtain ⟨ts, hsub, hnil, hts⟩ := hnone
  have hticks : w.tickScheduled.tickHandles = [w.nextHandle] := by
    rw [tickHandles, hts, List.filterMap_append, hnil]
    rfl
  refine ⟨⟨?_, ?_, ?_⟩, by rw [hticks]; rfl⟩
  · rw [hticks, tickScheduled_eq]
    exact .refl _
  · intro x hx
    rw [tickScheduled_eq] at hx ⊢
    cases hx
    exact Nat.lt_succ_self _
  · intro x hx
    have hx' : w.RetryHandle x := by
      unfold RetryHandle at hx
      rw [hts] at hx
      rcases hx with ⟨t, ht, hne, hx⟩ | ⟨j, entry, he, hx⟩
      · rcases List.mem_append.1 ht with ht | ht
        · exact .inl ⟨t, hsub ht, hne, hx⟩
        · obtain rfl := List.mem_singleton.1 ht
          exact absurd rfl hne
      · rw [tickScheduled_eq] at he
        exact .inr ⟨j, entry, he, hx⟩
    have hlt := (h.retry x hx').1
    rw [tickScheduled_eq]
    refine ⟨Nat.lt_succ_of_lt hlt, fun hr => ?_⟩
    cases hr
    omega

theorem Clocked.tickCancelled (h : w.Clocked) : w.tickCancelled.Clocked := by
  cases hr : w.nextTickHandle with
  | none =>
    have hw : w.tickCancelled = w := by rw [World.tickCancelled, hr]
    rw [hw]
    exact h
  | some handle =>
    have hw : w.tickCancelled = { w.cancelTimer handle with nextTickHandle := none } := by rw [World.tickCancelled, hr]
    have hnil := h.tickHandles_cancelTimer hr
    rw [hw]
    refine ⟨?_, ?_, ?_⟩
    · change List.Sublist (w.cancelTimer handle).tickHandles _
      rw [hnil]
      exact .refl _
    · intro x hx
      cases hx
    · rintro x (⟨t, ht, hx⟩ | hx)
      · exact ⟨(h.retry x (.inl ⟨t, (List.mem_filter.1 ht).1, hx⟩)).1, by simp⟩
      · exact ⟨(h.retry x (.inr hx)).1, by simp⟩

/-! ### Events and receipts -/

/-- A timer that fires posts its message. -/
theorem Clocked.fire {t : Timer} (h : w.Clocked) (ht : t ∈ w.timers) :
    ((w.cancelTimer t.handle).postAll t.message?.toList).Clocked ∧
      (w.TickDue → ((w.cancelTimer t.handle).postAll t.message?.toList).TickDue) := by
  by_cases hc : t.callback = .postPollTick
  · refine ⟨⟨?_, h.tickLt, ?_⟩, fun _ => .inr ?_⟩
    · exact (List.filter_sublist.filterMap _).trans h.tick
    · rintro x (⟨u, hu, hx⟩ | hx)
      · exact h.retry x (.inl ⟨u, (List.mem_filter.1 hu).1, hx⟩)
      · exact h.retry x (.inr hx)
    · simp [postAll, Timer.message?, hc]
  · have hne := (h.retry t.handle (.inl ⟨t, ht, hc, rfl⟩)).2
    have hu : w.Untimed (w.cancelTimer t.handle) := by
      refine h.untimed_filter (fun u _ htick => ?_) fun _ _ he => he
      rw [decide_eq_true_iff]
      intro heq
      exact hne (by rw [← heq]; exact htick)
    have hu' : w.Untimed ((w.cancelTimer t.handle).postAll t.message?.toList) :=
      hu.trans (.of_eq rfl rfl rfl rfl (List.mem_append_left _))
    exact ⟨h.untimed hu', fun hd => hd.untimed hu'⟩

theorem Clocked.event {e : Event} (h : w.Clocked) (he : World.event e w = some w') :
    w'.Clocked ∧ (w.TickDue → w'.TickDue) := by
  have hf := event_frame he
  rcases event_timers he with ⟨ht, ms, hm, -⟩ | ⟨t, ht, rfl⟩
  · have hu : w.Untimed w' := by
      refine .of_eq ht hf.retryQueue hf.nextTickHandle hf.nextHandle fun hp => ?_
      rw [hm]
      exact List.mem_append_left _ hp
    exact ⟨h.untimed hu, fun hd => hd.untimed hu⟩
  · exact h.fire ht

theorem Clocked.recv {m : Message} (h : w.Clocked) (hr : w.recv = some (m, w')) :
    w'.Clocked ∧ (m ≠ .pollTick → w.TickDue → w'.TickDue) := by
  obtain ⟨hw, hm⟩ := recv_eq hr
  refine ⟨?_, fun hne hd => ?_⟩
  · rw [hw]
    exact ⟨h.tick, h.tickLt, h.retry⟩
  · rcases hd with hd | hd
    · refine .inl ?_
      rw [hw]
      exact hd
    · rw [hm] at hd
      rcases List.mem_cons.1 hd with hd | hd
      · exact absurd hd.symm hne
      · exact .inr hd

end World

/-! ## The phases -/

variable [Unicode]

/-- What the phases know of the tick. -/
def TickIn : Phase → World → Prop
  | .crashed _, _ => True
  | .handling .pollTick, w | .loop _, w | .done .shutdown, w => w.Clocked
  | .done .pollTick, w => w.Clocked ∧ w.tickHandles.length = 1
  | _, w => w.Clocked ∧ w.TickDue

/-- **The step lemma.** -/
theorem Work.tickIn {D : OrchDiscipline} {w w' : World} {φ φ' : Phase} (h : TickIn φ w) (hw : Work D w φ w' φ') :
    TickIn φ' w' := by
  have hretry : ∀ x, postRetryTimer x ≠ .postPollTick := by simp [postRetryTimer]
  have hkeep : ∀ {v v' : World}, v.Clocked ∧ v.TickDue → v.Untimed v' → v'.Clocked ∧ v'.TickDue :=
    fun hv hu => ⟨hv.1.untimed hu, hv.2.untimed hu⟩
  cases hw with
  | stall => exact World.Clocked.untimed h (.of_eq rfl rfl rfl rfl (List.mem_append_left _))
  | terminateWithCleanup | terminateWithoutCleanup | refresh | adopt | rewait =>
    exact World.Clocked.untimed h (.of_eq rfl rfl rfl rfl id)
  | skipTick ht | endLoop ht =>
    rw [scheduleNextTick_ret ht]
    exact World.Clocked.tickScheduled h
  | eligible | skip | noEntry => exact h
  | @dispatch _ issue _ _ _ hd =>
    have h' : (w.onState (·.popWaiting issue.id)).Clocked := World.Clocked.untimed h (w.untimed_onState _)
    exact h'.untimed (h'.untimed_dispatchIssue hd)
  | @exit _ m hx =>
    rcases onWorkerExit_ret hx with ⟨-, rfl⟩ | ⟨entry, delay, -, rfl⟩
    · exact h
    · have he : w.Untimed (w.exited m) := by
        rw [World.exited_eq]
        exact .of_eq rfl rfl rfl rfl id
      have hs := he.trans ((h.1.untimed he).untimed_scheduled hretry m.issueId (nextAttemptFrom entry) m.retryKind delay
        m.retryError)
      exact hkeep h (hs.trans (World.untimed_onState _ _))
  | update | reload => exact hkeep h (.of_eq rfl rfl rfl rfl id)
  | shutdown => exact h.1.tickCancelled
  | completed => exact hkeep h ((h.1.untimed_popRetry _).trans (World.untimed_onState _ _))
  | popRetry => exact hkeep h (h.1.untimed_popRetry _)
  | reschedule hs =>
    obtain ⟨d, -, rfl⟩ := RetryQueue.schedule_ret hs
    exact hkeep h (h.1.untimed_scheduled hretry ..)
  | release => exact hkeep h (w.untimed_onState _)
  | redispatch _ _ hd => exact hkeep h (h.1.untimed_dispatchIssue hd)
  | crash => trivial

omit [Unicode] in
theorem TickIn.event {φ : Phase} {e : Event} {w w' : World} (h : TickIn φ w) (hφ : φ.Awaiting)
    (he : World.event e w = some w') : TickIn φ w' := by
  cases φ with
  | handling m =>
    cases m with
    | pollTick => exact (World.Clocked.event h he).1
    | workerExit | codexUpdate | retryTimerFired | configReloaded | shutdown => exact hφ.elim
  | loop issues => exact (World.Clocked.event h he).1
  | retry m entry =>
    obtain ⟨hc, hd⟩ := h.1.event he
    exact ⟨hc, hd h.2⟩
  | done | crashed => exact hφ.elim

theorem handlers_keep_tickIn (D : OrchDiscipline) : (handlerPhases D).Keeps orchestrator D TickIn where
  work h hw := hw.tickIn h
  event h hφ _ he := h.event hφ he

omit [Unicode] in
theorem World.IsInitial.clocked {w : World} (h : w.IsInitial) : w.Clocked ∧ w.TickDue := by
  obtain ⟨config, now, client, factory, loader, spawnError, reloads, rfl⟩ := h
  refine ⟨⟨.refl _, ?_, ?_⟩, .inr ?_⟩
  · intro x hx
    cases hx
  · rintro x (⟨t, ht, -⟩ | ⟨i, entry, he, -⟩)
    · cases ht
    · cases he
  · simp [World.initial]

omit [Unicode] in
theorem TickIn.recv {m : Message} {w w' : World} (h : w.Clocked ∧ w.TickDue) (hr : w.recv = some (m, w')) :
    TickIn (.handling m) w' := by
  obtain ⟨hc, hd⟩ := h.1.recv hr
  cases m with
  | pollTick => exact hc
  | workerExit | codexUpdate | retryTimerFired | configReloaded | shutdown => exact ⟨hc, hd (by simp) h.2⟩

omit [Unicode] in
/-- A handler that is over leaves a tick that is due, unless it ended the dispatcher. -/
theorem TickIn.of_done {m : Message} {w : World} (hm : m.stops = false) (h : TickIn (.done m) w) :
    w.Clocked ∧ w.TickDue := by
  cases m with
  | pollTick =>
    refine ⟨h.1, .inl fun hnil => ?_⟩
    have hl := h.2
    rw [hnil] at hl
    cases hl
  | shutdown => cases hm
  | workerExit | codexUpdate | retryTimerFired | configReloaded => exact h

/-- What is known of every reachable configuration. -/
theorem reachable_tickIn {D : OrchDiscipline} {c : OrchConf} (h : Reachable D c) :
    (handlerPhases D).Says orchestrator D (fun w => w.Clocked ∧ w.TickDue) TickIn c :=
  Phases.reach_says (handlers_simulate D) (handlers_keep_tickIn D) (fun _ h => h.clocked)
    (fun w e w' h _ he => by
      obtain ⟨hc, hd⟩ := h.1.event he
      exact ⟨hc, hd h.2⟩)
    (fun _ _ _ h hr _ => .recv h hr) (fun _ _ hm h => TickIn.of_done hm h) h

/-- Which message a phase belongs to. -/
def Phase.Of (m : Message) : Phase → Prop
  | .handling m' | .done m' => m = m'
  | .loop _ => m = .pollTick
  | .retry m' _ => m = .retryTimerFired m'
  | .crashed _ => True

theorem phase_of {D : OrchDiscipline} {s₀ w : World} {m : Message} {φ : Phase} (h : Gets D s₀ m φ w) : φ.Of m := by
  induction h with
  | refl => rfl
  | event _ _ _ _ ih => exact ih
  | work _ hw ih =>
    cases hw with
    | eligible | completed | popRetry | noEntry | stall | terminateWithCleanup | terminateWithoutCleanup | refresh | adopt
      | skipTick | skip | rewait | dispatch | endLoop | exit | update | reload | shutdown | reschedule | release
      | redispatch => exact ih
    | crash => trivial

/-- **The tick is kept.** Unless the dispatcher crashed, at most one tick is pending; and unless it is over or handling a
tick, a tick is due. -/
theorem reachable_clocked {D : OrchDiscipline} {c : OrchConf} (h : Reachable D c) (hc : ∀ e, c.mode ≠ .crashed e) :
    c.state.tickHandles.length ≤ 1 ∧
      (c.mode ≠ .stopped → (∀ r k, c.mode ≠ .busy .pollTick r k) → c.state.TickDue) := by
  have hone : ∀ {w : World}, w.Clocked → w.tickHandles.length ≤ 1 := by
    intro w hw
    have hrec : w.nextTickHandle.toList.length ≤ 1 := by cases w.nextTickHandle <;> simp
    exact hw.tick.length_le.trans hrec
  have hs := reachable_tickIn h
  obtain ⟨w, mode⟩ := c
  cases mode with
  | idle => exact ⟨hone hs.1, fun _ _ => hs.2⟩
  | stopped =>
    obtain ⟨m, hm, hs⟩ := hs
    cases m with
    | shutdown => exact ⟨hone hs, fun hne => absurd rfl hne⟩
    | pollTick | workerExit | codexUpdate | retryTimerFired | configReloaded => cases hm
  | busy m r k =>
    obtain ⟨s₀, φ, hφ, hg, hs⟩ := hs
    have ho := phase_of hg
    cases φ with
    | handling m' =>
      cases m' with
      | pollTick => exact ⟨hone hs, fun _ hne => absurd (by rw [ho]) (hne r k)⟩
      | workerExit | codexUpdate | retryTimerFired | configReloaded | shutdown => exact hφ.elim
    | loop issues => exact ⟨hone hs, fun _ hne => absurd (by rw [ho]) (hne r k)⟩
    | retry m' entry => exact ⟨hone hs.1, fun _ _ => hs.2⟩
    | done | crashed => exact hφ.elim
  | crashed e => exact absurd rfl (hc e)

/-- A tick that returns leaves exactly one pending. -/
theorem tickHandles_of_handles {D : OrchDiscipline} {c : OrchConf} {w : World} (h : Reachable D c)
    (hh : Handles D c .pollTick w) : w.tickHandles.length = 1 := by
  have hs := reachable_tickIn h
  obtain ⟨ms, -, hg⟩ := hh.gets
  obtain ⟨s, mode⟩ := c
  obtain ⟨-, hm, -⟩ := hh
  obtain rfl : mode = .idle := hm
  have hstart : TickIn (.handling .pollTick) { s with mailbox := ms } := ⟨hs.1.tick, hs.1.tickLt, hs.1.retry⟩
  exact (hg.keeps (handlers_keep_tickIn D) hstart).2

end RiverGang
