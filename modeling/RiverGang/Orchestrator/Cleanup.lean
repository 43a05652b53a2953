import RiverGang.Lib.Tenancy
import RiverGang.Orchestrator.Workers

/-!
# Cleanups and the workers they follow

A tick that learns that a running issue is terminal cancels its worker and spawns a cleanup of its workspace in the same
breath: the worker is still stopping its session while the workspace goes. The entry stays in `running`, so that every
later tick does the same again.

* `cleanup_exclusive`: as long as the tracker gives a running issue a terminal state only where its workspace has no
  worker left and no cleanup of this run was spawned before, and no issue is started whose workspace has a cleanup to
  come, no cleanup goes on beside a worker and each run has one cleanup at most.
* `cleanup_races`: a run in which a tick cleans up under a worker, and the next tick once more.

The workspaces are the places of a `Tenancy`, the workers its tenants.
-/

namespace RiverGang

open Py Coop

/-- The workers and cleanups of the workspaces, by identifier. -/
def World.tenancy (w : World) : Tenancy Str where
  places := w.tasks.map (·.issue.identifier)
  left := w.settled
  clearings := w.cleanups.map fun c => (c.identifier, c.about)
  clearing := w.cleaning
  cleared := w.cleaned

section Service

variable [Unicode] {w w' : World}

/-- The service, as long as a cleanup finds no worker and a worker no cleanup: the tracker gives a running issue a terminal
state only where no worker of its identifier is left and no cleanup was spawned for its run, and an issue is started only
where every cleanup of its identifier is done. -/
def cleanSettled : OrchDiscipline where
  event _ _ := True
  receive _ _ := True
  answer m w r x :=
    match m with
    | .pollTick =>
      (∀ refreshed, refreshedOf r x = some refreshed → ∀ i entry, w.state.running.get? i = some entry →
        verdictOf refreshed w i = .terminateWithCleanup →
        w.tenancy.Vacant entry.identifier ∧ w.tenancy.Uncharged entry.workerHandle) ∧
      ∀ issue decision, analysisOf r x = some (issue, decision) → decision.sufficient = true →
        w.tenancy.Clear issue.identifier
    | .retryTimerFired m => ∀ candidates issue, candidatesOf r x = some candidates →
        candidates.find? (fun c => c.id = m.issueId) = some issue →
        0 < slotsFor issue.state w.state w.config.agent.maxConcurrentAgentsByState →
        w.tenancy.Clear issue.identifier
    | _ => True

/-! ## Events and steps -/

omit [Unicode] in
theorem tenancy_dispatched (w : World) (issue : Issue) (attempt : Nat) :
    (w.dispatched issue attempt).tenancy = w.tenancy.enter issue.identifier := by
  have ht : (w.dispatched issue attempt).tasks.map (·.issue.identifier) =
      w.tasks.map (·.issue.identifier) ++ [issue.identifier] := List.map_append
  simp only [World.tenancy, ht]
  rfl

omit [Unicode] in
theorem tenancy_terminateWithCleanup (w : World) (entry : RunningEntry) :
    (w.terminateWithCleanup entry).tenancy = w.tenancy.order entry.identifier entry.workerHandle := by
  have hc : (w.terminateWithCleanup entry).cleanups.map (fun c => (c.identifier, c.about)) =
      w.cleanups.map (fun c => (c.identifier, c.about)) ++ [(entry.identifier, entry.workerHandle)] := List.map_append
  simp only [World.tenancy, hc]
  rfl

omit [Unicode] in
theorem tenancy_unscheduled {i : Str} (h : w.Unscheduled i w') : w'.tenancy = w.tenancy := by
  obtain ⟨q, ts, n, rfl, -⟩ := h
  rfl

omit [Unicode] in
theorem tenancy_dispatchIssue {issue : Issue} {attempt : Nat} {cap : Int} {r : Option RunningEntry}
    (h : dispatchIssue issue attempt cap w = .ret r w') :
    w'.tenancy = w.tenancy ∨ w'.tenancy = w.tenancy.enter issue.identifier := by
  rcases dispatchIssue_ret h with ⟨-, rfl⟩ | ⟨_, _, -, rfl⟩
  · exact .inr (tenancy_dispatched w issue attempt)
  · exact .inl rfl

omit [Unicode] in
theorem tenancy_dispatchIssue_raise {issue : Issue} {attempt : Nat} {cap : Int} {e : Exn}
    (h : dispatchIssue issue attempt cap w = .raise e w') : w'.tenancy = w.tenancy := by
  obtain ⟨_, -, hu⟩ := dispatchIssue_raise h
  rw [tenancy_unscheduled hu]
  rfl

omit [Unicode] in
theorem tenancy_exited (w : World) (m : WorkerExit) : (w.exited m).tenancy = w.tenancy := by
  rw [World.exited_eq]
  rfl

omit [Unicode] in
/-- An event keeps the workspaces safe. -/
theorem safe_event {e : Event} (h : World.event e w = some w') (hs : w.tenancy.Safe) : w'.tenancy.Safe := by
  cases e <;> simp only [World.event, Option.some.injEq, Option.map_eq_some_iff, Option.ite_none_right_eq_some] at h
  case advance | refresh | setLoader | reload | setSpawn | shutdown =>
    rw [← h]
    exact hs
  case fire =>
    obtain ⟨_, -, rfl⟩ := h
    exact hs
  case emit =>
    obtain ⟨-, _, -, rfl⟩ := h
    exact hs
  case finish task report =>
    obtain ⟨-, _, -, rfl⟩ := h
    exact hs.leave task
  case settleCancelled task | settleRaised task =>
    obtain ⟨-, rfl⟩ := h
    exact hs.leave task
  case beginCleanup n =>
    obtain ⟨⟨-, -, hn⟩, rfl⟩ := h
    exact hs.start hn
  case endCleanup n =>
    obtain ⟨-, rfl⟩ := h
    exact hs.finish n

/-- What a step of a handler is to the workspaces. -/
inductive TenancyChange (D : OrchDiscipline) (w w' : World) : Prop
  | same : w'.tenancy = w.tenancy → TenancyChange D w w'
  | cleanup {i : Str} {entry : RunningEntry} {refreshed : List Issue} {past : List Str} :
      w.state.running.get? i = some entry → CleanedUp D refreshed past w → i ∉ past →
      verdictOf refreshed w i = .terminateWithCleanup →
      w'.tenancy = w.tenancy.order entry.identifier entry.workerHandle → TenancyChange D w w'
  | tick {issue : Issue} : Cleared D issue w → w'.tenancy = w.tenancy.enter issue.identifier → TenancyChange D w w'
  | retry {m : RetryTimerFired} {issue : Issue} : Matched D m issue w →
      0 < slotsFor issue.state w.state w.config.agent.maxConcurrentAgentsByState →
      w'.tenancy = w.tenancy.enter issue.identifier → TenancyChange D w w'

theorem Crash.tenancy {D : OrchDiscipline} {φ : Phase} {e : Exn} (h : Crash D w φ e w') : w'.tenancy = w.tenancy := by
  cases h with
  | answer | loader | sort | inputs | questions => rfl
  | interval _ ht => rw [(scheduleNextTick_error ht).1]
  | dispatch _ hd => exact (tenancy_dispatchIssue_raise hd).trans rfl
  | exit hx =>
    obtain ⟨_, -, hu, -⟩ := onWorkerExit_raise hx
    exact (tenancy_unscheduled hu).trans (tenancy_exited w _)
  | reschedule hs => exact tenancy_unscheduled (RetryQueue.schedule_raise hs).1
  | redispatch _ _ hd => exact tenancy_dispatchIssue_raise hd

theorem Work.tenancy {D : OrchDiscipline} {φ φ' : Phase} (h : Work D w φ w' φ') : TenancyChange D w w' := by
  cases h with
  | stall | terminateWithoutCleanup | refresh | adopt | eligible | skip | rewait => exact .same rfl
  | terminateWithCleanup he hc hi hv => exact .cleanup he hc hi hv (tenancy_terminateWithCleanup w _)
  | skipTick ht | endLoop ht =>
    rw [scheduleNextTick_ret ht, World.tickScheduled_eq]
    exact .same rfl
  | dispatch hc hd =>
    rcases tenancy_dispatchIssue hd with ht | ht
    · exact .same ht
    · exact .tick hc ht
  | exit hx =>
    rcases onWorkerExit_ret hx with ⟨-, rfl⟩ | ⟨_, _, -, rfl⟩
    · exact .same rfl
    · exact .same (tenancy_exited w _)
  | update | reload | noEntry | completed | popRetry | release => exact .same rfl
  | shutdown =>
    rw [World.tickCancelled_eq]
    exact .same rfl
  | reschedule hs =>
    obtain ⟨_, -, rfl⟩ := RetryQueue.schedule_ret hs
    exact .same rfl
  | redispatch hm hs hd =>
    rcases tenancy_dispatchIssue hd with ht | ht
    · exact .same ht
    · exact .retry hm hs ht
  | crash hc => exact .same hc.tenancy

/-! ## The workspaces are safe -/

/-- What is known in every phase. -/
def Tidy (w : World) : Prop := w.register.Sound ∧ w.tenancy.Safe

/-- A cleanup that a tick orders finds its workspace vacant, and is the first of its run. -/
theorem CleanedUp.tidy {i : Str} {entry : RunningEntry} {refreshed : List Issue} {past : List Str}
    (h : CleanedUp cleanSettled refreshed past w) (hs : w.register.Sound) (he : w.state.running.get? i = some entry)
    (hi : i ∉ past) (hv : verdictOf refreshed w i = .terminateWithCleanup) :
    w.tenancy.Vacant entry.identifier ∧ w.tenancy.Uncharged entry.workerHandle := by
  obtain ⟨w₀, ids, ha, hw⟩ := h
  have hrun : w.state.running = w₀.state.running := by rw [hw]
  have hverdict : verdictOf refreshed w₀ i = .terminateWithCleanup := by
    rw [hw] at hv
    exact hv
  obtain ⟨hvacant, huncharged⟩ := ha.1 refreshed rfl i entry (hrun ▸ he) hverdict
  have hcleanups : w.tenancy.clearings = w₀.tenancy.clearings ++
      (cleanupsOf w₀ past).map fun c => (c.identifier, c.about) := by
    rw [hw]
    exact List.map_append
  constructor
  · rw [hw]
    exact hvacant
  · intro p hp
    rw [hcleanups, List.mem_append, List.mem_map] at hp
    rcases hp with hp | ⟨c, hc, rfl⟩
    · exact huncharged p hp
    · -- a cleanup of the same tick is about the worker of another issue
      obtain ⟨j, hj, hc⟩ := List.mem_filterMap.1 hc
      obtain ⟨other, hother, rfl⟩ := Option.map_eq_some_iff.1 hc
      intro heq
      have hcurrent := World.current_of_running (hrun ▸ hother)
      rw [show other.workerHandle = entry.workerHandle from heq] at hcurrent
      exact hi (hs.inj hcurrent (World.current_of_running he) ▸ hj)

/-- **The step lemma.** -/
theorem TenancyChange.safe (h : TenancyChange cleanSettled w w') (hs : w.register.Sound) (ht : w.tenancy.Safe) :
    w'.tenancy.Safe := by
  cases h with
  | same hw => rw [hw]; exact ht
  | cleanup he hc hi hv hw =>
    obtain ⟨hvacant, huncharged⟩ := hc.tidy hs he hi hv
    rw [hw]
    exact ht.order hvacant huncharged
  | tick hc hw =>
    obtain ⟨_, _, _, decision, ha, hd⟩ := hc
    rw [hw]
    exact ht.enter (ha.2 _ decision rfl hd)
  | retry hm hslots hw =>
    obtain ⟨_, candidates, ha, hf⟩ := hm
    rw [hw]
    exact ht.enter (ha candidates _ rfl hf hslots)

theorem handlers_keep_tidy : (handlerPhases cleanSettled).Keeps orchestrator cleanSettled fun _ w => Tidy w where
  work hw h := ⟨h.register.1.sound hw.1, h.tenancy.safe hw.1 hw.2⟩
  event hw _ _ he := ⟨sound_event he hw.1, safe_event he hw.2⟩

omit [Unicode] in
theorem World.IsInitial.tidy (h : w.IsInitial) : Tidy w := by
  refine ⟨h.sound, ?_⟩
  obtain ⟨config, now, client, factory, loader, spawnError, reloads, rfl⟩ := h
  exact Tenancy.Safe.empty

omit [Unicode] in
theorem Tidy.recv {m : Message} (hw : Tidy w) (h : w.recv = some (m, w')) : Tidy w' := by
  refine ⟨sound_recv h hw.1, ?_⟩
  obtain ⟨hw', -⟩ := recv_eq h
  rw [hw']
  exact hw.2

theorem reachable_tidy {c : OrchConf} (h : Reachable cleanSettled c) : Tidy c.state := by
  have hs := Phases.reach_says (J := Tidy) (handlers_simulate cleanSettled) handlers_keep_tidy
    (fun w hw => hw.tidy) (fun w e w' hw _ he => ⟨sound_event he hw.1, safe_event he hw.2⟩)
    (fun w m w' hw hr _ => hw.recv hr) (fun _ _ _ hw => hw) h
  exact hs.state (K := fun _ w => Tidy w) (fun _ h => h) fun _ _ h => h

/-- **Cleanups are exclusive**, as long as they are ordered for workspaces that are settled: none goes on while there is
a worker of its identifier, and no run has two. -/
theorem cleanup_exclusive {c : OrchConf} (h : Reachable cleanSettled c) :
    (∀ n ∈ c.state.cleaning, ∀ cleanup, c.state.cleanups[n]? = some cleanup → ∀ t, c.state.Live t →
      (c.state.taskIssue t).map (·.identifier) ≠ some cleanup.identifier) ∧
    (c.state.cleanups.map (·.about)).Nodup := by
  obtain ⟨-, hs⟩ := reachable_tidy h
  constructor
  · intro n hn cleanup hc t hl ht
    have hplace : c.state.tenancy.places[t]? = some cleanup.identifier := by
      simpa [World.tenancy, World.taskIssue, Function.comp_def] using ht
    have hclearing : c.state.tenancy.clearings[n]? = some (cleanup.identifier, cleanup.about) := by
      simp [World.tenancy, hc]
    exact hl.2 (hs.vacant hn hclearing t hplace)
  · have honce := hs.once
    simp only [World.tenancy, List.map_map] at honce
    exact honce

/-- No workspace was cleaned up: nothing is charged, and every workspace may have a worker. -/
theorem cleanSettled_answer {m : Message} {r : OrchReq} {x : OrchSig.Ans r} (hc : w.cleanups = [])
    (hr : refreshedOf r x = none ∨ ∀ t < w.tasks.length, t ∈ w.settled) : cleanSettled.answer m w r x := by
  have hclear : ∀ k, w.tenancy.Clear k := by
    intro k n t hn
    simp [World.tenancy, hc] at hn
  cases m with
  | pollTick =>
    refine ⟨fun refreshed hx i entry _ _ => ?_, fun _ _ _ _ => hclear _⟩
    rcases hr with hr | hr
    · cases hr.symm.trans hx
    · constructor
      · intro t ht
        have hlt := (List.getElem?_eq_some_iff.1 ht).1
        simp only [World.tenancy, List.length_map] at hlt
        exact hr t hlt
      · intro p hp
        simp [World.tenancy, hc] at hp
  | retryTimerFired => exact fun _ _ _ _ _ => hclear _
  | workerExit | codexUpdate | configReloaded | shutdown => trivial

end Service

section Sample

attribute [local instance] asciiTables

/-- The second tick; while it asks for the states, the worker of the issue ends. -/
def sampleEnd : List (Label OrchSig Event) :=
  [.event .refresh, .recv, .event (.finish 0 ⟨py "normal", true, 1000000, none⟩)]

/-- The states: the issue is done. -/
def sampleDone : Label OrchSig Event :=
  Answers.resume { states := .ok [{ sampleIssue "a" with state := py "Done" }] }

/-- The workspace of the issue is cleaned up after its worker has ended. -/
theorem cleanup_exclusive_sample : ∃ c, Reachable cleanSettled c ∧ 0 ∈ c.state.cleaning ∧ ¬ c.state.Live 0 ∧
    c.state.cleanups.map (·.about) = [0] := by
  have hrun : ((orchestrator.runIn (fun c => decide (c.state.cleanups = [])) sampleStart
      (sampleTick ++ sampleEnd)).bind fun c => (orchestrator.runIn (fun c => decide (c.state.cleanups = [] ∧
        ∀ t < c.state.tasks.length, t ∈ c.state.settled)) c [sampleDone]).bind fun c =>
      (orchestrator.run c [.event (.beginCleanup 0)]).map fun c => decide (0 ∈ c.state.cleaning ∧
        c.state.cleanups = [⟨py "a", 0⟩] ∧ c.state.taskIssue 0 = some (sampleIssue "a"))) = some true := by
    decide +kernel
  obtain ⟨c₁, hc₁, hrun⟩ := Option.bind_eq_some_iff.1 hrun
  obtain ⟨c₂, hc₂, hrun⟩ := Option.bind_eq_some_iff.1 hrun
  obtain ⟨c, hc, hd⟩ := Option.map_eq_some_iff.1 hrun
  obtain ⟨hn, ha, ht⟩ := of_decide_eq_true hd
  have h₁ : Reachable cleanSettled c₁ := by
    refine .runIn (.start sampleWorld_isInitial) (fun l hl c hP => ?_) hc₁
    have hP := of_decide_eq_true hP
    simp only [sampleTick, sampleEnd, List.cons_append, List.nil_append, List.mem_cons, List.not_mem_nil, or_false]
      at hl
    rcases hl with rfl | rfl | rfl | rfl | rfl | rfl | rfl | rfl
    case inl | inr.inr.inr.inr.inr.inr.inl => exact fun _ _ => trivial
    case inr.inr.inr.inr.inr.inl | inr.inr.inr.inr.inr.inr.inr => trivial
    all_goals exact Server.allows_resume fun _ r _ _ => cleanSettled_answer hP (.inl (by cases r <;> rfl))
  have h₂ : Reachable cleanSettled c₂ := by
    refine .runIn h₁ (fun l hl c hP => ?_) hc₂
    obtain ⟨hP, hset⟩ := of_decide_eq_true hP
    rw [List.mem_singleton.1 hl]
    exact Server.allows_resume fun _ _ _ _ => cleanSettled_answer hP (.inr hset)
  have h : Reachable cleanSettled c :=
    h₂.run (fun l hl => by rw [List.mem_singleton.1 hl]; exact fun _ => trivial) hc
  refine ⟨c, h, hn, fun hl => ?_, by rw [ha]; rfl⟩
  exact (cleanup_exclusive h).1 0 hn _ (by rw [ha]; rfl) 0 hl (by rw [ht]; rfl)

/-- Two ticks that learn that the issue is done, while its worker is still at it. -/
def sampleRace : List (Label OrchSig Event) :=
  [.event .refresh, .recv, sampleDone, Answers.resume {}, .event (.beginCleanup 0),
    .event .refresh, .recv, sampleDone, Answers.resume {}]

/-- **Cleanups that race.** A cleanup goes on in the workspace of a worker that has not settled, and the run of that
worker has two. -/
theorem cleanup_races : ∃ c, Reachable .free c ∧ 0 ∈ c.state.cleaning ∧ c.state.Live 0 ∧
    c.state.cleanups = [⟨py "a", 0⟩, ⟨py "a", 0⟩] ∧ c.state.taskIssue 0 = some (sampleIssue "a") := by
  have hrun : ((orchestrator.run sampleStart (sampleTick ++ sampleRace)).map fun c =>
      decide (0 ∈ c.state.cleaning ∧ c.state.Live 0 ∧ c.state.cleanups = [⟨py "a", 0⟩, ⟨py "a", 0⟩] ∧
        c.state.taskIssue 0 = some (sampleIssue "a"))) = some true := by decide +kernel
  obtain ⟨c, hc, hd⟩ := Option.map_eq_some_iff.1 hrun
  exact ⟨c, .run (.start sampleWorld_isInitial) (fun l _ => Discipline.always_free l) hc, of_decide_eq_true hd⟩

end Sample

end RiverGang
