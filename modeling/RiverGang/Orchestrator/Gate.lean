import RiverGang.Orchestrator.Exclusive

/-!
# The clarification gate

A tick asks the gate before it starts an issue, a retry does not. So an issue that was started before and then found
unclear waits for an answer and is started by its retry all the same.

* `gate_not_bypassed`: as long as no tick is offered an issue twice, and no retry finds a free slot for an issue that
  waits, nothing that runs waits.
* `gate_bypassed`: a run in which a retry starts an issue that waits.
-/

namespace RiverGang

open Py Coop

section Service

variable [Unicode]

/-- The service, as long as the candidate lists of the ticks name no issue twice, and a retry of an issue that waits is
not answered with that issue and a free slot for it. -/
def gatedRetries : OrchDiscipline where
  event _ _ := True
  receive _ _ := True
  answer m w r x :=
    match m with
    | .pollTick => ∀ candidates, candidatesOf r x = some candidates → (candidates.map (·.id)).Nodup
    | .retryTimerFired m => ∀ candidates issue, candidatesOf r x = some candidates →
        candidates.find? (fun c => c.id = m.issueId) = some issue →
        0 < slotsFor issue.state w.state w.config.agent.maxConcurrentAgentsByState →
        m.issueId ∉ w.state.clarificationWaiting
    | _ => True

theorem gatedRetries_distinct : DistinctCandidates gatedRetries :=
  fun _ _ candidates h => h candidates rfl

/-! ## The invariant -/

/-- Nothing that runs waits. -/
def Gated (w : World) : Prop := ∀ i ∈ w.state.running, i ∉ w.state.clarificationWaiting

section Gated

variable {w w' : World}

omit [Unicode] in
theorem Gated.mono (h : Gated w) (hr : ∀ i ∈ w'.state.running, i ∈ w.state.running)
    (hc : w'.state.clarificationWaiting = w.state.clarificationWaiting) : Gated w' := by
  intro i hi
  rw [hc]
  exact h i (hr i hi)

omit [Unicode] in
theorem Gated.of_state (h : Gated w) (hs : w'.state = w.state) : Gated w' := by
  unfold Gated
  rw [hs]
  exact h

omit [Unicode] in
theorem Gated.setRunning {i : Str} {entry : RunningEntry} (h : Gated w) (he : w.state.running.get? i = some entry)
    (entry' : RunningEntry) : Gated (w.onState (·.setRunning i entry')) := by
  refine h.mono (fun j hj => ?_) rfl
  rcases Dict.mem_insert.1 hj with rfl | hj
  · exact Dict.mem_of_get? he
  · exact hj

omit [Unicode] in
/-- An issue that is not running may wait. -/
theorem Gated.setWaiting {i : Str} (h : Gated w) (hi : i ∉ w.state.running) (entry : ClarificationWaitEntry) :
    Gated (w.onState (·.setWaiting i entry)) := by
  intro j hj hw
  change j ∈ w.state.running at hj
  rcases Dict.mem_insert.1 hw with rfl | hw
  · exact hi hj
  · exact h j hj hw

omit [Unicode] in
theorem Gated.popWaiting (h : Gated w) (i : Str) : Gated (w.onState (·.popWaiting i)) := by
  intro j hj hw
  exact h j hj (Dict.mem_erase.1 hw).2

omit [Unicode] in
/-- An issue that does not wait may be dispatched. -/
theorem Gated.dispatchIssue {issue : Issue} {attempt : Nat} {cap : Int} {r : Option RunningEntry} (h : Gated w)
    (hi : issue.id ∉ w.state.clarificationWaiting) (hd : RiverGang.dispatchIssue issue attempt cap w = .ret r w') :
    Gated w' := by
  have hc : w'.state.clarificationWaiting = w.state.clarificationWaiting := by
    rcases dispatchIssue_ret hd with ⟨-, rfl⟩ | ⟨exc, delay, -, rfl⟩ <;> rfl
  intro j hj
  rw [hc]
  rcases running_of_dispatchIssue hd j hj with rfl | hj
  · exact hi
  · exact h j hj

omit [Unicode] in
theorem Gated.unscheduled {i : Str} (h : Gated w) (hu : w.Unscheduled i w') : Gated w' := by
  obtain ⟨q, ts, n, rfl, -⟩ := hu
  exact h.of_state rfl

omit [Unicode] in
theorem Gated.of_dispatchIssue_raise {issue : Issue} {attempt : Nat} {cap : Int} {e : Exn} (h : Gated w)
    (hd : RiverGang.dispatchIssue issue attempt cap w = .raise e w') : Gated w' := by
  obtain ⟨claimed, -, hu⟩ := dispatchIssue_raise hd
  have h' : Gated (w.onState fun s => { s with claimed := claimed }) := h.mono (fun _ hi => hi) rfl
  exact h'.unscheduled hu

omit [Unicode] in
theorem Gated.exited (h : Gated w) (m : WorkerExit) : Gated (w.exited m) := by
  refine h.mono (fun i hi => ?_) ?_
  · rw [World.exited_running] at hi
    exact (Dict.mem_erase.1 hi).2
  · unfold World.exited
    cases m.ok <;> rfl

end Gated

/-! ## The phases keep it -/

theorem Crash.gated {D : OrchDiscipline} {w w' : World} {φ : Phase} {e : Exn} (h : Gated w)
    (hc : Crash D w φ e w') : Gated w' := by
  cases hc with
  | answer | loader | sort | inputs | questions => exact h
  | interval _ ht =>
    rw [(scheduleNextTick_error ht).1]
    exact h
  | dispatch _ hd => exact (h.popWaiting _).of_dispatchIssue_raise hd
  | exit hx =>
    obtain ⟨entry, -, hu, -⟩ := onWorkerExit_raise hx
    exact (h.exited _).unscheduled hu
  | reschedule hs => exact h.unscheduled (RetryQueue.schedule_raise hs).1
  | redispatch _ _ hd => exact h.of_dispatchIssue_raise hd

/-- **The step lemma.** -/
theorem Work.gated {w w' : World} {φ φ' : Phase} (hx : ExclusiveIn φ w) (h : Gated w)
    (hw : Work gatedRetries w φ w' φ') : Gated w' := by
  cases hw with
  | stall | terminateWithCleanup | terminateWithoutCleanup | adopt | eligible | skip | noEntry => exact h.of_state rfl
  | refresh he => exact h.setRunning he _
  | skipTick ht | endLoop ht =>
    rw [scheduleNextTick_ret ht, World.tickScheduled_eq]
    exact h.of_state rfl
  | rewait => exact h.setWaiting (hx.2.2 _ List.mem_cons_self) _
  | dispatch _ hd => exact (h.popWaiting _).dispatchIssue (fun hi => (Dict.mem_erase.1 hi).1 rfl) hd
  | @exit _ m hex =>
    rcases onWorkerExit_ret hex with ⟨-, rfl⟩ | ⟨entry, delay, -, rfl⟩
    · exact h
    · exact (h.exited m).mono (fun _ hi => hi) rfl
  | @update m =>
    rcases onCodexUpdate_cases w m with hu | ⟨entry, totals, limits, he, hu⟩
    · rw [hu]
      exact h
    · rw [hu]
      exact (h.setRunning he (entry.updated m.event)).mono (fun _ hi => hi) rfl
  | shutdown =>
    rw [World.tickCancelled_eq]
    exact h.of_state rfl
  | reload | completed | popRetry | release => exact h.mono (fun _ hi => hi) rfl
  | reschedule hs =>
    obtain ⟨d, -, rfl⟩ := RetryQueue.schedule_ret hs
    exact h.of_state rfl
  | redispatch hm hslots hd =>
    -- what the gate would have to say, the answer to the retry says
    refine h.dispatchIssue ?_ hd
    rw [hm.id_eq]
    obtain ⟨states, candidates, ha, hf⟩ := hm
    exact ha candidates _ rfl hf hslots
  | crash hc => exact hc.gated h

theorem handlers_keep_gated :
    (handlerPhases gatedRetries).Keeps orchestrator gatedRetries fun φ w => ExclusiveIn φ w ∧ Gated w where
  work h hw := ⟨hw.exclusive gatedRetries_distinct h.1, hw.gated h.1 h.2⟩
  event h _ _ he := ⟨h.1.of_frame (event_frame he), h.2.of_state (event_frame he).state⟩

theorem reachable_gated {c : OrchConf} (h : Reachable gatedRetries c) : Gated c.state := by
  have hs := Phases.reach_says (J := fun w => Exclusive w ∧ Gated w) (handlers_simulate gatedRetries)
    handlers_keep_gated (fun w hw => ⟨hw.exclusive, ?_⟩)
    (fun w e w' hw _ he => ⟨ExclusiveIn.of_frame (φ := .handling .pollTick) hw.1 (event_frame he),
      hw.2.of_state (event_frame he).state⟩)
    (fun w m w' hw hr _ => ?_) (fun _ _ _ hw => hw) h
  · exact hs.state (fun _ h => h.2) fun _ _ h => h.2
  · obtain ⟨config, now, client, factory, loader, spawnError, reloads, rfl⟩ := hw
    exact fun i hi => absurd hi (Dict.not_mem_empty _)
  · obtain ⟨hw', -⟩ := recv_eq hr
    rw [hw']
    exact ⟨hw.1.congr rfl rfl rfl rfl, hw.2.of_state rfl⟩

/-- **The gate is not bypassed**, as long as it is not needed on the way around it: nothing that runs waits. -/
theorem gate_not_bypassed {c : OrchConf} (h : Reachable gatedRetries c) :
    ∀ i, ¬ (i ∈ c.state.state.running ∧ i ∈ c.state.state.clarificationWaiting) :=
  fun i hi => reachable_gated h i hi.1 hi.2

end Service

section Sample

attribute [local instance] asciiTables

theorem gate_not_bypassed_sample : ∃ c, Reachable gatedRetries c ∧ py "a" ∈ c.state.state.running ∧
    py "a" ∉ c.state.state.clarificationWaiting := by
  have hrun : ((orchestrator.runIn (fun c => decide (c.state.state.clarificationWaiting.keys = [])) sampleStart
      sampleTick).map fun c => decide (py "a" ∈ c.state.state.running)) = some true := by decide +kernel
  obtain ⟨c, hc, hd⟩ := Option.map_eq_some_iff.1 hrun
  have hi := of_decide_eq_true hd
  have h : Reachable gatedRetries c := by
    refine .runIn (.start sampleWorld_isInitial) (fun l hl c hP => ?_) hc
    have hP := of_decide_eq_true hP
    rcases mem_sampleTick hl with rfl | rfl | rfl
    · exact fun _ _ => trivial
    all_goals
      refine Server.allows_resume fun m r _ _ => ?_
      cases m with
      | pollTick =>
        intro candidates hr
        cases r <;> cases hr
        simp
      | retryTimerFired m =>
        intro _ _ _ _ _ hi
        rw [show m.issueId ∈ c.state.state.clarificationWaiting ↔ m.issueId ∈ c.state.state.clarificationWaiting.keys
          from Iff.rfl, hP] at hi
        cases hi
      | workerExit | codexUpdate | configReloaded | shutdown => trivial
  exact ⟨c, h, hi, fun hw => gate_not_bypassed h _ ⟨hi, hw⟩⟩

/-- The attempt fails; a tick that is asked for finds the issue unclear; then its retry is due. -/
def sampleBypass : List (Label OrchSig Event) :=
  [.event (.finish 0 ⟨py "turn failed", false, 1000000, some (py "turn failed")⟩), .recv, .event .refresh, .recv,
    Answers.resume { candidates := .ok [sampleIssue "a"] }, Answers.resume {}, Answers.resume {},
    Answers.resume { sufficient := false }, Answers.resume {},
    .event (.advance 20000000), .event (.fire 1), .recv, Answers.resume { candidates := .ok [sampleIssue "a"] }]

/-- **The gate bypassed.** An issue that waits for clarification is running. -/
theorem gate_bypassed : ∃ c, Reachable .free c ∧ py "a" ∈ c.state.state.running ∧
    py "a" ∈ c.state.state.clarificationWaiting := by
  have hrun : ((orchestrator.run sampleStart (sampleTick ++ sampleBypass)).map fun c =>
      decide (py "a" ∈ c.state.state.running ∧ py "a" ∈ c.state.state.clarificationWaiting)) = some true := by
    decide +kernel
  obtain ⟨c, hc, hd⟩ := Option.map_eq_some_iff.1 hrun
  exact ⟨c, .run (.start sampleWorld_isInitial) (fun l _ => Discipline.always_free l) hc, of_decide_eq_true hd⟩

end Sample

end RiverGang
