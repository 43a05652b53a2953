import RiverGang.Orchestrator.Exclusive

/-!
# The timers of the retries

A signal for the retry of an issue is a timer that will post its `RetryTimerFired`, or the message that it posted. As
long as no tick is offered an issue with an entry, an issue has at most one signal, and that is its entry's own: an
entry is scheduled only where there was none, so no signal outlives the entry that it was set for.

* `reachable_heard`: so it is in every reachable configuration, between messages and within their handling.
-/

namespace RiverGang

open Py Coop

/-! ## Signals -/

/-- The timer, if it is for the retry of an issue. -/
def Timer.signal (i : Str) (t : Timer) : Option Nat := if t.callback = .postRetryTimer i then some t.handle else none

/-- The timer that posted a message, if that is for the retry of an issue. -/
def Message.signal (i : Str) : Message → Option Nat
  | .retryTimerFired m => if m.issueId = i then some m.timer else none
  | _ => none

namespace World

def signals (w : World) (i : Str) : List Nat :=
  w.timers.filterMap (Timer.signal i) ++ w.mailbox.filterMap (Message.signal i)

/-- An issue has no signal, or that of its entry. -/
def Signalled (w : World) (i : Str) : Prop :=
  (w.signals i).Sublist ((w.retryQueue.get? i).map (·.timerHandle)).toList

variable {w w' : World} {i : Str}

theorem signals_sublist (ht : (w'.timers.filterMap (Timer.signal i)).Sublist (w.timers.filterMap (Timer.signal i)))
    (hm : (w'.mailbox.filterMap (Message.signal i)).Sublist (w.mailbox.filterMap (Message.signal i))) :
    (w'.signals i).Sublist (w.signals i) := ht.append hm

theorem Signalled.mono (h : w.Signalled i) (hs : (w'.signals i).Sublist (w.signals i))
    (hq : w'.retryQueue.get? i = w.retryQueue.get? i) : w'.Signalled i := by
  unfold Signalled
  rw [hq]
  exact hs.trans h

/-- Without an entry there is no signal. -/
theorem Signalled.nil (h : w.Signalled i) (hq : w.retryQueue.get? i = none) : w.signals i = [] := by
  unfold Signalled at h
  rw [hq] at h
  exact List.sublist_nil.1 h

theorem signalled_nil (h : w.signals i = []) : w.Signalled i := by
  unfold Signalled
  rw [h]
  exact List.nil_sublist _

/-- A signal in the mailbox is that of the entry, and there is no other. -/
theorem Signalled.of_mem {t : Nat} (h : w.Signalled i) (ht : t ∈ w.signals i) :
    ∃ entry, w.retryQueue.get? i = some entry ∧ entry.timerHandle = t ∧ w.signals i = [t] := by
  unfold Signalled at h
  cases hq : w.retryQueue.get? i with
  | none =>
    rw [hq] at h
    rw [List.sublist_nil.1 h] at ht
    cases ht
  | some entry =>
    rw [hq] at h
    have hs : w.signals i = [entry.timerHandle] := by
      rcases List.sublist_singleton.1 h with hn | hs
      · rw [hn] at ht
        cases ht
      · exact hs
    rw [hs] at ht ⊢
    obtain rfl := List.mem_singleton.1 ht
    exact ⟨entry, rfl, rfl, rfl⟩

theorem signals_post {m : Message} (hm : m.signal i = none) (w : World) : (w.post m).signals i = w.signals i := by
  simp [signals, post, List.filterMap_append, hm]

theorem signals_cancelTimer (w : World) (h : Nat) : ((w.cancelTimer h).signals i).Sublist (w.signals i) :=
  signals_sublist (List.filter_sublist.filterMap _) (.refl _)

theorem signals_cancelRetry (w : World) (j : Str) : ((w.cancelRetry j).signals i).Sublist (w.signals i) :=
  signals_sublist (List.filter_sublist.filterMap _) (.refl _)

/-- A timer of something else fires. -/
theorem signals_fire_other {t : Timer} (hc : ¬ t.callback = .postRetryTimer i) (w : World) :
    (((w.cancelTimer t.handle).postAll t.message?.toList).signals i).Sublist (w.signals i) := by
  have hm : t.message?.toList.filterMap (Message.signal i) = [] := by
    unfold Timer.message?
    cases hcb : t.callback with
    | postPollTick | ignore => rfl
    | postRetryTimer j =>
      have hj : ¬ j = i := fun hji => hc (by rw [hcb, hji])
      simp [Message.signal, hj]
  refine signals_sublist (List.filter_sublist.filterMap _) ?_
  change ((w.mailbox ++ _).filterMap _).Sublist _
  rw [List.filterMap_append, hm, List.append_nil]

/-- A timer that fires hands its signal on to the mailbox. -/
theorem Signalled.fire {t : Timer} (h : w.Signalled i) (ht : t ∈ w.timers) :
    ((w.cancelTimer t.handle).postAll t.message?.toList).Signalled i := by
  by_cases hc : t.callback = .postRetryTimer i
  · have hsig : t.signal i = some t.handle := if_pos hc
    have hmem : t.handle ∈ w.timers.filterMap (Timer.signal i) := List.mem_filterMap.2 ⟨t, ht, hsig⟩
    obtain ⟨entry, he, hte, hs⟩ := h.of_mem (List.mem_append_left _ hmem)
    -- it was the only signal
    have hone : w.timers.filterMap (Timer.signal i) = [t.handle] ∧ w.mailbox.filterMap (Message.signal i) = [] := by
      have hl := congrArg List.length hs
      rw [signals, List.length_append, List.length_singleton] at hl
      have hpos := List.length_pos_of_mem hmem
      have hnil : w.mailbox.filterMap (Message.signal i) = [] := List.length_eq_zero_iff.1 (by omega)
      rw [signals, hnil, List.append_nil] at hs
      exact ⟨hs, hnil⟩
    have htimers : (w.cancelTimer t.handle).timers.filterMap (Timer.signal i) = [] := by
      refine List.filterMap_eq_nil_iff.2 fun u hu => ?_
      obtain ⟨hu, hne⟩ := List.mem_filter.1 hu
      unfold Timer.signal
      split
      · rename_i huc
        have hus : u.handle ∈ w.timers.filterMap (Timer.signal i) := List.mem_filterMap.2 ⟨u, hu, if_pos huc⟩
        rw [hone.1] at hus
        simp [List.mem_singleton.1 hus] at hne
      · rfl
    unfold Signalled
    rw [show ((w.cancelTimer t.handle).postAll t.message?.toList).retryQueue.get? i = some entry from he]
    simp only [signals, postAll, htimers, Timer.message?, hc, Option.toList_some, List.filterMap_append]
    simp [cancelTimer, hone.2, Message.signal, hte]
  · exact h.mono (signals_fire_other hc w) rfl

/-- An event changes no signal, unless a timer fires. -/
theorem event_signals {e : Event} (he : World.event e w = some w') :
    (∀ i, w'.signals i = w.signals i) ∨
      ∃ t ∈ w.timers, w' = (w.cancelTimer t.handle).postAll t.message?.toList := by
  rcases event_timers he with ⟨ht, ms, hm, hr⟩ | hfire
  · refine .inl fun i => ?_
    have hnil : ms.filterMap (Message.signal i) = [] := by
      refine List.filterMap_eq_nil_iff.2 fun m hmem => ?_
      cases m with
      | retryTimerFired m => exact absurd hmem (hr m)
      | pollTick | workerExit | codexUpdate | configReloaded | shutdown => rfl
    rw [signals, ht, hm, List.filterMap_append, hnil, List.append_nil, signals]
  · exact .inr hfire

theorem Signalled.event {e : Event} (h : w.Signalled i) (he : World.event e w = some w') : w'.Signalled i := by
  rcases event_signals he with hs | ⟨t, ht, rfl⟩
  · exact h.mono (hs i ▸ .refl _) (by rw [(event_frame he).retryQueue])
  · exact h.fire ht

/-- No signal comes from nowhere. -/
theorem signals_event_nil {e : Event} (h : w.signals i = []) (he : World.event e w = some w') : w'.signals i = [] := by
  rcases event_signals he with hs | ⟨t, ht, rfl⟩
  · rw [hs, h]
  · obtain ⟨htn, hmn⟩ := List.append_eq_nil_iff.1 h
    have hc : ¬ t.callback = .postRetryTimer i := by
      intro hc
      have hmem : t.handle ∈ w.timers.filterMap (Timer.signal i) := List.mem_filterMap.2 ⟨t, ht, if_pos hc⟩
      rw [htn] at hmem
      cases hmem
    have hs := signals_fire_other hc w
    rw [h] at hs
    exact List.sublist_nil.1 hs

/-- An entry scheduled where there was none gets the only signal. -/
theorem Signalled.scheduled {j : Str} {n : Nat} {k : RetryKind} {d : Int} {f : Str → Callback} {e : Option Str}
    (hf : ∀ x, f x = .postRetryTimer x ∨ f x = .ignore) (hj : w.signals j = []) (h : w.Signalled i) :
    (w.scheduled j n k d f e).Signalled i := by
  have hsig : ∀ x, (w.scheduled j n k d f e).signals x =
      ((w.cancelRetry j).timers.filterMap (Timer.signal x) ++
        (Timer.signal x ⟨w.nextHandle, w.now + d * 1000, f j⟩).toList) ++ w.mailbox.filterMap (Message.signal x) := by
    intro x
    change List.filterMap _ ((w.cancelRetry j).timers ++ [_]) ++ _ = _
    rw [List.filterMap_append]
    rfl
  by_cases hij : j = i
  · subst hij
    obtain ⟨htn, hmn⟩ := List.append_eq_nil_iff.1 hj
    have hcn : (w.cancelRetry j).timers.filterMap (Timer.signal j) = [] := by
      have hsub : ((w.cancelRetry j).timers.filterMap (Timer.signal j)).Sublist [] :=
        htn ▸ List.filter_sublist.filterMap _
      exact List.sublist_nil.1 hsub
    unfold Signalled
    rw [hsig, hcn, hmn, get?_scheduled_self rfl, List.nil_append, List.append_nil]
    unfold Timer.signal
    split
    · exact .refl _
    · exact List.nil_sublist _
  · have hn : Timer.signal i ⟨w.nextHandle, w.now + d * 1000, f j⟩ = none := by
      refine if_neg ?_
      change ¬ f j = _
      rcases hf j with hfj | hfj <;> rw [hfj] <;> simp [hij]
    unfold Signalled
    rw [hsig, hn, get?_scheduled, if_neg hij, Option.toList_none, List.append_nil]
    exact (signals_cancelRetry w j).trans h

/-- A dispatch of an issue without an entry. -/
theorem Signalled.dispatchIssue {issue : Issue} {attempt : Nat} {cap : Int} {r : Option RunningEntry}
    (h : ∀ i, w.Signalled i) (hi : w.retryQueue.get? issue.id = none)
    (hd : RiverGang.dispatchIssue issue attempt cap w = .ret r w') :
    (∀ i, w'.Signalled i) ∧ ∀ i, issue.id ≠ i → w'.retryQueue.get? i = w.retryQueue.get? i := by
  have hq : ∀ i, (w.retryQueue.erase issue.id).get? i = w.retryQueue.get? i := by
    intro i
    rw [Dict.get?_erase]
    split
    · rename_i hii
      rw [← hii, hi]
    · rfl
  rcases dispatchIssue_ret hd with ⟨-, rfl⟩ | ⟨exc, delay, -, rfl⟩
  · exact ⟨fun i => (h i).mono (signals_cancelRetry w issue.id) (hq i), fun i _ => hq i⟩
  · have hs : ∀ i, (w.spawnFailed issue.id).Signalled i :=
      fun i => (h i).mono (signals_cancelRetry w issue.id) (hq i)
    have hn : (w.spawnFailed issue.id).signals issue.id = [] := (hs issue.id).nil ((hq _).trans hi)
    refine ⟨fun i => (hs i).scheduled (fun _ => .inr rfl) hn, fun i hne => ?_⟩
    rw [get?_scheduled, if_neg hne]
    exact hq i

theorem signals_scheduleNextTick (h : scheduleNextTick w = .ret () w') :
    (w'.signals i).Sublist (w.signals i) ∧ w'.retryQueue = w.retryQueue := by
  have hcall : ∀ v : World, (v.callLater v.config.polling.intervalMs .postPollTick).signals i = v.signals i := by
    intro v
    simp [signals, World.callLater, List.filterMap_append, Timer.signal]
  rw [scheduleNextTick_ret h]
  unfold tickScheduled
  cases w.nextTickHandle with
  | none => exact ⟨(hcall w) ▸ .refl _, rfl⟩
  | some handle =>
    have hc := hcall (w.cancelTimer handle)
    exact ⟨hc ▸ signals_cancelTimer w handle, rfl⟩

end World

/-! ## The phases -/

/-- What the phases know of the signals. -/
def Heard : Phase → World → Prop
  | .crashed _, _ => True
  | .handling (.retryTimerFired m), w => (∀ i, w.Signalled i) ∧ w.signals m.issueId = [] ∧
      ∃ entry, w.retryQueue.get? m.issueId = some entry ∧ entry.timerHandle = m.timer
  | .retry m _, w => (∀ i, w.Signalled i) ∧ w.retryQueue.get? m.issueId = none
  | .loop issues, w => (∀ i, w.Signalled i) ∧ ∀ issue ∈ issues, w.retryQueue.get? issue.id = none
  | _, w => ∀ i, w.Signalled i

variable [Unicode]

/-- No tick is offered an issue twice, or one with an entry. -/
structure Spaced (D : OrchDiscipline) : Prop where
  distinct : DistinctCandidates D
  unretried : ∀ w states candidates, D.answer .pollTick w (.fetchCandidateIssues states) (.ok candidates) →
    ∀ issue ∈ candidates, w.retryQueue.get? issue.id = none

/-- **The step lemma.** -/
theorem Work.heard {D : OrchDiscipline} (hD : Spaced D) {w w' : World} {φ φ' : Phase} (hx : ExclusiveIn φ w)
    (h : Heard φ w) (hw : Work D w φ w' φ') : Heard φ' w' := by
  have hsame : ∀ {v : World}, (∀ i, v.Signalled i) → ∀ {v' : World}, (∀ i, v'.signals i = v.signals i) →
      v'.retryQueue = v.retryQueue → ∀ i, v'.Signalled i :=
    fun hv v' hs hq i => (hv i).mono (hs i ▸ .refl _) (by rw [hq])
  cases hw with
  | stall => exact hsame h (fun i => World.signals_post rfl (w.terminateWorkerHandle _)) rfl
  | terminateWithCleanup | terminateWithoutCleanup | refresh | adopt => exact hsame h (fun _ => rfl) rfl
  | skipTick ht =>
    exact fun i => (h i).mono (World.signals_scheduleNextTick ht).1
      (by rw [(World.signals_scheduleNextTick (i := i) ht).2])
  | endLoop ht =>
    exact fun i => (h.1 i).mono (World.signals_scheduleNextTick ht).1
      (by rw [(World.signals_scheduleNextTick (i := i) ht).2])
  | eligible ha he =>
    refine ⟨h, fun issue hi => hD.unretried _ _ _ ha issue ?_⟩
    exact (List.mem_filter.1 ((sorted_perm he).mem_iff.1 hi)).1
  | skip => exact ⟨h.1, fun x hx => h.2 x (List.mem_cons_of_mem _ hx)⟩
  | rewait => exact ⟨hsame h.1 (fun _ => rfl) rfl, fun x hx => h.2 x (List.mem_cons_of_mem _ hx)⟩
  | @dispatch _ issue issues _ _ hd =>
    have hs : ∀ i, (w.onState (·.popWaiting issue.id)).Signalled i := hsame h.1 (fun _ => rfl) rfl
    obtain ⟨hs', hq⟩ := World.Signalled.dispatchIssue hs (h.2 issue List.mem_cons_self) hd
    refine ⟨hs', fun x hx' => ?_⟩
    have hne : issue.id ≠ x.id := by
      intro heq
      exact (List.nodup_cons.1 hx.2.1).1 (List.mem_map.2 ⟨x, hx', heq.symm⟩)
    rw [hq _ hne]
    exact h.2 x (List.mem_cons_of_mem _ hx')
  | @exit _ m hex =>
    rcases onWorkerExit_ret hex with ⟨-, rfl⟩ | ⟨entry, delay, hr, rfl⟩
    · exact h
    · have hn : w.retryQueue.get? m.issueId = none := Exclusive.noRetry hx (Dict.mem_of_get? hr)
      have hq : (w.exited m).retryQueue = w.retryQueue := by rw [World.exited_eq]
      have hs : ∀ i, (w.exited m).signals i = w.signals i := fun i => by rw [World.exited_eq]; rfl
      have hse : ∀ i, (w.exited m).Signalled i := hsame h hs hq
      exact fun i => (hse i).scheduled (fun _ => .inl rfl) ((hse m.issueId).nil (by rw [hq]; exact hn))
  | update => exact hsame h (fun _ => rfl) rfl
  | reload => exact hsame h (fun _ => rfl) rfl
  | shutdown =>
    refine fun i => (h i).mono ?_ ?_ <;> unfold World.tickCancelled <;> cases w.nextTickHandle
    · exact .refl _
    · exact World.signals_cancelTimer w _
    · rfl
    · rfl
  | noEntry => exact h.1
  | @completed m entry he _ =>
    intro i
    by_cases hi : m.issueId = i
    · exact World.signalled_nil (hi ▸ h.2.1)
    · exact (h.1 i).mono (.refl _) (Dict.get?_erase_of_ne _ hi)
  | @popRetry m entry he _ =>
    refine ⟨fun i => ?_, Dict.get?_erase_self ..⟩
    by_cases hi : m.issueId = i
    · exact World.signalled_nil (hi ▸ h.2.1)
    · exact (h.1 i).mono (.refl _) (Dict.get?_erase_of_ne _ hi)
  | @reschedule _ m entry _ hs =>
    obtain ⟨d, -, rfl⟩ := RetryQueue.schedule_ret hs
    exact fun i => (h.1 i).scheduled (fun _ => .inl rfl) ((h.1 m.issueId).nil h.2)
  | release => exact hsame h.1 (fun _ => rfl) rfl
  | redispatch hm _ hd => exact (World.Signalled.dispatchIssue h.1 (hm.id_eq ▸ h.2) hd).1
  | crash => trivial

omit [Unicode] in
theorem Heard.event {φ : Phase} {e : Event} {w w' : World} (h : Heard φ w) (he : World.event e w = some w') :
    Heard φ w' := by
  have hq := (event_frame he).retryQueue
  have hs : (∀ i, w.Signalled i) → ∀ i, w'.Signalled i := fun h i => (h i).event he
  cases φ with
  | crashed e => trivial
  | handling m =>
    cases m with
    | retryTimerFired m =>
      obtain ⟨h₁, h₂, h₃⟩ := h
      exact ⟨hs h₁, World.signals_event_nil h₂ he, by rw [hq]; exact h₃⟩
    | pollTick | workerExit | codexUpdate | configReloaded | shutdown => exact hs h
  | loop issues => exact ⟨hs h.1, by rw [hq]; exact h.2⟩
  | retry m entry => exact ⟨hs h.1, by rw [hq]; exact h.2⟩
  | done m => exact hs h

omit [Unicode] in
/-- A message that is received is the only signal of its issue, and its entry's own. -/
theorem Heard.recv {m : Message} {w w' : World} (h : ∀ i, w.Signalled i) (hr : w.recv = some (m, w')) :
    Heard (.handling m) w' := by
  obtain ⟨hw, hm⟩ := recv_eq hr
  have hsub : ∀ i, (w'.signals i).Sublist (w.signals i) := by
    intro i
    rw [hw]
    refine World.signals_sublist (.refl _) ?_
    rw [hm]
    exact (List.sublist_cons_self ..).filterMap _
  have hq : w'.retryQueue = w.retryQueue := by rw [hw]
  have hs : ∀ i, w'.Signalled i := fun i => (h i).mono (hsub i) (by rw [hq])
  cases m with
  | retryTimerFired m =>
    have hsig : w.signals m.issueId =
        w.timers.filterMap (Timer.signal m.issueId) ++ m.timer :: w'.mailbox.filterMap (Message.signal m.issueId) := by
      rw [World.signals, hm, List.filterMap_cons]
      simp [Message.signal]
    obtain ⟨entry, he, ht, hone⟩ := (h m.issueId).of_mem (t := m.timer) (by rw [hsig]; simp)
    rw [hone] at hsig
    obtain ⟨h₁, h₂⟩ : w.timers.filterMap (Timer.signal m.issueId) = [] ∧
        w'.mailbox.filterMap (Message.signal m.issueId) = [] := by
      have hl := congrArg List.length hsig
      simp only [List.length_append, List.length_cons, List.length_nil] at hl
      exact ⟨List.length_eq_zero_iff.1 (by omega), List.length_eq_zero_iff.1 (by omega)⟩
    refine ⟨hs, ?_, entry, by rw [hq]; exact he, ht⟩
    rw [World.signals, h₂, List.append_nil, hw]
    exact h₁
  | pollTick | workerExit | codexUpdate | configReloaded | shutdown => exact hs

theorem handlers_keep_heard {D : OrchDiscipline} (hD : Spaced D) :
    (handlerPhases D).Keeps orchestrator D fun φ w => ExclusiveIn φ w ∧ Heard φ w where
  work h hw := ⟨hw.exclusive hD.distinct h.1, hw.heard hD h.1 h.2⟩
  event h _ _ he := ⟨h.1.of_frame (event_frame he), h.2.event he⟩

omit [Unicode] in
theorem World.IsInitial.signalled {w : World} (h : w.IsInitial) (i : Str) : w.Signalled i := by
  obtain ⟨config, now, client, factory, loader, spawnError, reloads, rfl⟩ := h
  refine World.signalled_nil ?_
  change [] ++ (reloads.map Message.configReloaded ++ [Message.pollTick]).filterMap _ = []
  rw [List.nil_append, List.filterMap_append, List.filterMap_map, List.append_eq_nil_iff]
  exact ⟨List.filterMap_eq_nil_iff.2 fun _ _ => rfl, rfl⟩

/-- What is known of every reachable configuration. -/
theorem reachable_heard {D : OrchDiscipline} (hD : Spaced D) {c : OrchConf} (h : Reachable D c) :
    (handlerPhases D).Says orchestrator D (fun w => Exclusive w ∧ ∀ i, w.Signalled i)
      (fun φ w => ExclusiveIn φ w ∧ Heard φ w) c := by
  refine Phases.reach_says (handlers_simulate D) (handlers_keep_heard hD) (fun w hw => ⟨hw.exclusive, hw.signalled⟩)
    (fun w e w' hw _ he => ?_) (fun w m w' hw hr _ => ?_) (fun w m _ hw => hw) h
  · exact ⟨ExclusiveIn.of_frame (φ := .handling .pollTick) hw.1 (event_frame he), fun i => (hw.2 i).event he⟩
  · obtain ⟨hw', -⟩ := recv_eq hr
    refine ⟨?_, .recv hw.2 hr⟩
    rw [hw']
    exact hw.1.congr rfl rfl rfl rfl

end RiverGang
