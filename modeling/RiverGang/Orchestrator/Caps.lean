import RiverGang.Orchestrator.Settings

/-!
# The caps of one configuration

A decision to dispatch uses the per-state caps of `self.config` and the global cap of `OrchestratorState`. A
`ConfigReloaded` sets both; the reload in a tick sets the configuration alone.

* `SlotCheck`: the decisions of a handler, which `SlotCheck.comes` shows to be those that it comes to.
* `caps_of_one_config`: as long as a tick adopts no configuration with another global cap, every decision uses the caps
  of the live configuration.
* `caps_mixed`: a decision that uses the global cap of one configuration and the per-state caps of another.
-/

namespace RiverGang

open Py Coop Task

section Service

variable [Unicode] {D : OrchDiscipline} {w w' : World}

/-! ## Decisions -/

/-- The slot checks of the handlers: an issue, the world at that moment, and the per-state caps that are used. In a tick
it is the next issue of the dispatch loop, in a retry the candidate of its id. -/
inductive SlotCheck (D : OrchDiscipline) (c : OrchConf) : Issue → World → List (Str × Int) → Prop
  | tick {w w₁ w₂ v : World} {config : EffectiveConfig} {candidates before after : List Issue} {issue : Issue}
      {outcomes : List (Issue × Outcome)} : c.mode = .idle → c.state.recv = some (.pollTick, w) →
      D.receive c.state .pollTick → Runs (orchestrator.proto D .pollTick) (reconcile w) (.ok ()) w₁ →
      w₁.workflowLoader = .ok (some config) → orchestrator.Drift D { w₁ with config := config } w₂ →
      D.answer .pollTick w₂ (.fetchCandidateIssues config.tracker.activeStates) (.ok candidates) →
      eligibleOf w₂ candidates = .ok (before ++ issue :: after) →
      Runs (orchestrator.proto D .pollTick) (dispatchLoop w₂.config.agent.maxConcurrentAgentsByState
        clarificationGateAllowsDispatch before w₂) (.ok outcomes) v →
      SlotCheck D c issue v w₂.config.agent.maxConcurrentAgentsByState
  | retry {m : RetryTimerFired} {w v : World} {entry : RetryEntry} {candidates : List Issue} {issue : Issue} :
      c.mode = .idle → c.state.recv = some (.retryTimerFired m, w) → D.receive c.state (.retryTimerFired m) →
      w.retryQueue.get? m.issueId = some entry → m.issueId ∉ w.state.completed →
      orchestrator.Drift D (w.popRetry m.issueId) v →
      D.answer (.retryTimerFired m) v (.fetchCandidateIssues w.config.tracker.activeStates) (.ok candidates) →
      (candidates.find? fun c => c.id = m.issueId) = some issue →
      SlotCheck D c issue v w.config.agent.maxConcurrentAgentsByState

/-- The dispatch loop on a list in two parts. -/
theorem dispatchLoop_append (perStateMap : List (Str × Int)) (gate : Issue → Orch Bool) {α : Type} (after : List Issue)
    (f : Orch α) : ∀ before : List Issue,
      (dispatchLoop perStateMap gate (before ++ after) >>= fun _ => f) =
        dispatchLoop perStateMap gate before >>= fun _ => dispatchLoop perStateMap gate after >>= fun _ => f
  | [] => rfl
  | issue :: before => by
    have ih := dispatchLoop_append perStateMap gate after f before
    have _ : LawfulMonad Orch := Task.lawful
    simp [dispatchLoop, ih]

/-- The handler comes to the check: a run from there on, with the slot or without it, is a run of the handler. -/
theorem SlotCheck.comes {c : OrchConf} {issue : Issue} {v : World} {perStateMap : List (Str × Int)}
    (h : SlotCheck D c issue v perStateMap) : ∃ m w, ∃ yes no : Orch Unit, c.mode = .idle ∧
      c.state.recv = some (m, w) ∧ D.receive c.state m ∧ ∀ o w',
        Runs (orchestrator.proto D m) (if 0 < slotsFor issue.state v.state perStateMap then yes v else no v) o w' →
          Runs (orchestrator.proto D m) (handle m w) o w' := by
  cases h with
  | @tick w w₁ w₂ v config candidates before after _ outcomes hi hn hd hrec hload hdrift hans hel hloop =>
    -- what is left of the tick after the check
    let rest : Outcome → Orch Unit := fun _ =>
      dispatchLoop w₂.config.agent.maxConcurrentAgentsByState clarificationGateAllowsDispatch after >>= fun _ =>
        scheduleNextTick
    let yes : Orch Unit := (do
      let gateAllowsDispatch ← clarificationGateAllowsDispatch issue
      if gateAllowsDispatch then
        let w ← get
        let entry ← dispatchIssue issue 1 w.config.agent.maxRetryBackoffMs
        pure (if entry.isSome then Outcome.dispatched else .spawnFailed)
      else pure .refused) >>= rest
    refine ⟨.pollTick, w, yes, rest .noSlot, hi, hn, hd, fun o w' hr => ?_⟩
    have hcheck : (considerIssue w₂.config.agent.maxConcurrentAgentsByState clarificationGateAllowsDispatch issue v).bind
        rest = if 0 < slotsFor issue.state v.state w₂.config.agent.maxConcurrentAgentsByState then yes v
          else rest .noSlot v := by
      unfold considerIssue
      simp only [bind_apply, get_apply, Res.bind_ret, concurrencyCheck_iff]
      split <;> rfl
    rw [← hcheck] at hr
    have hel' := hel
    unfold eligibleOf at hel'
    change Runs _ (onTick w) o w'
    unfold onTick
    refine Runs.bind hrec ?_
    simp only [bind_apply, get_apply, Res.bind_ret, hload, modify_apply]
    rw [hload] at hdrift
    refine .await hdrift hans ?_
    simp only [bind_apply, get_apply, Res.bind_ret, hel', ofExcept_ok, pure_apply]
    rw [← bind_apply, dispatchLoop_append]
    refine Runs.bind hloop ?_
    simp only [dispatchLoop, bind_apply, Res.bind_assoc, pure_apply, Res.bind_ret]
    exact hr
  | @retry m w v entry candidates _ hi hn hd hr hc hdrift hans hf =>
    refine ⟨.retryTimerFired m, w, retryDispatchFn issue entry.attempt,
      RetryQueue.schedule m.issueId entry.attempt entry.kind w.config.agent.maxRetryBackoffMs postRetryTimer
        (some (py "no available orchestrator slots")), hi, hn, hd, fun o w' hrun => ?_⟩
    have hcond : (if 0 < slotsFor issue.state v.state w.config.agent.maxConcurrentAgentsByState
        then retryDispatchFn issue entry.attempt v
        else RetryQueue.schedule m.issueId entry.attempt entry.kind w.config.agent.maxRetryBackoffMs postRetryTimer
          (some (py "no available orchestrator slots")) v) =
        if slotsFor issue.state v.state w.config.agent.maxConcurrentAgentsByState ≤ 0
        then RetryQueue.schedule m.issueId entry.attempt entry.kind w.config.agent.maxRetryBackoffMs postRetryTimer
          (some (py "no available orchestrator slots")) v
        else retryDispatchFn issue entry.attempt v := by
      split_ifs <;> first | rfl | omega
    rw [hcond] at hrun
    simp only [handle, bind_apply, get_apply, Res.bind_ret]
    unfold onRetryTimer fetchFilteredCandidates
    simp only [bind_apply, get_apply, Res.bind_ret, hr, modify_apply, hc, if_false]
    refine .await hdrift hans ?_
    simp only [hf, bind_apply, get_apply, Res.bind_ret]
    split at hrun <;> rename_i hs <;> simpa only [hs, if_true, if_false] using hrun

/-! ## Global cap and configuration -/

/-- The global cap is that of the live configuration. -/
def Paired (w : World) : Prop := w.state.maxConcurrentAgents = w.config.agent.maxConcurrentAgents

/-- A configuration that a tick would adopt has the global cap in use. -/
def AdoptsCap (w : World) : Prop :=
  ∀ config, w.workflowLoader = .ok (some config) → config.agent.maxConcurrentAgents = w.state.maxConcurrentAgents

/-- The service, where the configuration that a tick finds in the holder has the global cap in use: at its receipt, if
nothing is running, otherwise at the answer to the refresh of the running issues. -/
def mirrored : OrchDiscipline where
  event _ _ := True
  receive w m := m = .pollTick → w.state.running.length = 0 → AdoptsCap w
  answer m w r _ := m = .pollTick → ∀ ids, r = .fetchIssueStatesByIds ids → AdoptsCap w

omit [Unicode] in
theorem SameSettings.paired (h : SameSettings w w') (hw : Paired w) : Paired w' := by
  unfold Paired
  rw [h.cap, h.config]
  exact hw

/-- In the dispatch loop the settings stay. -/
theorem settings_of_loop {issues : List Issue} {φ : Phase}
    (h : (handlerPhases D).Works orchestrator D w (.loop issues) w' φ) :
    (∀ m, φ ≠ .handling m) ∧ SameSettings w w' := by
  have hleaves : ∀ {v v' φ φ'}, Work D v φ v' φ' → (∀ m, φ ≠ .handling m) → ∀ m, φ' ≠ .handling m := by
    intro v v' φ φ' hw hφ m
    cases hw <;> first | exact absurd rfl (hφ _) | simp
  induction h with
  | refl => exact ⟨fun m => by simp, .refl w⟩
  | event _ _ _ he ih => exact ⟨ih.1, ih.2.trans (.of_frame (event_frame he))⟩
  | work _ hw ih =>
    refine ⟨hleaves hw ih.1, ih.2.trans ?_⟩
    rcases hw.settings.2 with ⟨hs, -⟩ | ⟨config, rfl, -⟩ | ⟨config, rfl, -⟩
    · exact hs
    · exact absurd rfl (ih.1 _)
    · exact absurd rfl (ih.1 _)

theorem dispatchLoop_settings {perStateMap : List (Str × Int)} {issues : List Issue} :
    (dispatchLoop perStateMap clarificationGateAllowsDispatch issues w).Sat (orchestrator.proto D .pollTick)
      (fun _ => True) (fun _ w' => SameSettings w w') (fun _ _ => True) := by
  refine ((accounted_dispatchLoop (framed_proto D .pollTick)).sat .refl).mono (fun _ _ => trivial) (fun _ w' h => ?_)
    (fun _ _ _ => trivial)
  obtain ⟨φ, hw, rfl⟩ := h
  exact (settings_of_loop hw).2

omit [Unicode] in
/-- A loop over running entries that touches neither the configuration nor the global cap nor the holder. -/
theorem settings_forEach {β : Type} {l : List β} {k : β → Str} {f : β → World → RunningEntry → World}
    {P : Proto OrchSig World} {X : Exn → World → Prop} {v : World}
    (hf : ∀ x v entry, (f x v entry).workflowLoader = v.workflowLoader ∧ (f x v entry).config = v.config ∧
      (f x v entry).state.maxConcurrentAgents = v.state.maxConcurrentAgents ∧
      (f x v entry).state.pollIntervalMs = v.state.pollIntervalMs)
    (hv : AdoptsCap v ∧ SameSettings w v) :
    (forEach l (fun x => withEntry (k x) (f x)) v).Sat P (fun _ => True)
      (fun _ v' => AdoptsCap v' ∧ SameSettings w v') X := by
  refine Res.Sat.forEach (J := fun v => AdoptsCap v ∧ SameSettings w v) (fun x _ u hu => ?_) hv
  refine withEntry_sat hu fun entry _ => ?_
  obtain ⟨hl, hc, hm, hi⟩ := hf x u entry
  refine ⟨fun config h => ?_, hu.2.trans ⟨hc, hm, hi⟩⟩
  rw [hm]
  exact hu.1 config (hl ▸ h)

/-- Reconciling leaves a tick with a configuration of the same global cap to adopt. -/
theorem reconcile_settings (hw : w.state.running.length = 0 → AdoptsCap w) :
    (reconcile w).Sat (orchestrator.proto mirrored .pollTick) (fun _ => True)
      (fun _ w' => AdoptsCap w' ∧ SameSettings w w') (fun _ _ => True) := by
  have hreap : w.stallsReaped = { w with cancelled := w.stallsReaped.cancelled, mailbox := w.stallsReaped.mailbox } := by
    rw [World.stallsReaped, World.reapAll_eq]
  rw [reconcile_eq, hreap]
  unfold refreshRunning
  simp only [bind_apply, get_apply, Res.bind_ret]
  split
  · rename_i hnone
    exact ⟨hw hnone, rfl, rfl, rfl⟩
  · refine Res.sat_request_bind.2 ⟨trivial, fun u x hr ha => ?_⟩
    have hf := drift_frame hr
    have hadopts : AdoptsCap u := ha rfl _ rfl
    have hsame : SameSettings w u := ⟨hf.config, by rw [hf.state], by rw [hf.state]⟩
    cases x with
    | error exc =>
      dsimp only
      unfold onException
      split
      · exact ⟨hadopts, hsame⟩
      · trivial
    | ok refreshed =>
      simp only [bind_apply, get_apply, Res.bind_ret]
      -- the terminations and the refreshed entries touch none of it
      refine Res.Sat.bind (fun _ v hv => ?_)
        (settings_forEach (k := id) (f := fun _ w entry => w.terminateWithCleanup entry)
          (fun _ _ _ => ⟨rfl, rfl, rfl, rfl⟩) ⟨hadopts, hsame⟩)
      refine Res.Sat.bind (fun _ v hv => ?_)
        (settings_forEach (k := id) (f := fun _ w entry => w.terminateWithoutCleanup entry)
          (fun _ _ _ => ⟨rfl, rfl, rfl, rfl⟩) hv)
      exact settings_forEach (k := Prod.fst) (f := fun p w entry => w.refreshEntry p.1 entry p.2)
        (fun _ _ _ => ⟨rfl, rfl, rfl, rfl⟩) hv

/-- A tick leaves the global cap of the configuration that it leaves. -/
theorem onTick_paired (hw : w.state.running.length = 0 → AdoptsCap w) (hp : Paired w) :
    (onTick w).Sat (orchestrator.proto mirrored .pollTick) (fun _ => True) (fun _ w' => Paired w') (fun _ _ => True) := by
  have hend : ∀ {v : World}, Paired v → (scheduleNextTick v).Sat (orchestrator.proto mirrored .pollTick) (fun _ => True)
      (fun _ w' => Paired w') (fun _ _ => True) := fun {v} hv =>
    .of_sync (scheduleNextTick_sync v) (fun _ v' h => by
      rw [scheduleNextTick_ret h, World.tickScheduled_eq]
      exact hv) fun _ _ _ => trivial
  have hexception : ∀ {exc : Exn} {v : World}, Paired v → (onException exc scheduleNextTick v).Sat
      (orchestrator.proto mirrored .pollTick) (fun _ => True) (fun _ w' => Paired w') (fun _ _ => True) := by
    intro exc v hv
    unfold onException
    split
    · exact hend hv
    · trivial
  unfold onTick
  simp only [bind_apply]
  refine Res.Sat.bind (fun _ w₁ h₁ => ?_) (reconcile_settings hw)
  obtain ⟨hadopts, hsame⟩ := h₁
  have hp₁ := hsame.paired hp
  simp only [bind_apply, get_apply, Res.bind_ret]
  cases hl : w₁.workflowLoader with
  | error exc => exact hexception hp₁
  | ok loaded =>
    cases loaded with
    | none => exact hend hp₁
    | some config =>
      simp only [bind_apply, modify_apply, Res.bind_ret]
      refine Res.sat_request_bind.2 ⟨trivial, fun w₂ x hr _ => ?_⟩
      have hp₂ : Paired w₂ := by
        have hadopted : Paired { w₁ with config := config } := (hadopts config hl).symm
        exact (SameSettings.of_frame (drift_frame hr)).paired hadopted
      cases x with
      | error exc => exact hexception hp₂
      | ok candidates =>
        simp only [bind_apply, get_apply, Res.bind_ret]
        cases he : eligibleOf w₂ candidates with
        | error e =>
          unfold eligibleOf at he
          simp only [he, ofExcept_error, raise_apply, Res.bind_raise]
          trivial
        | ok issues =>
          unfold eligibleOf at he
          simp only [he, ofExcept_ok, bind_apply, pure_apply, Res.bind_ret]
          exact Res.Sat.bind (fun _ w₃ h₃ => hend (h₃.paired hp₂)) dispatchLoop_settings

/-- The other handlers leave it too. -/
theorem gets_paired {s₀ : World} {m : Message} {φ : Phase} (hm : m ≠ .pollTick) (hp : Paired s₀) (h : Gets D s₀ m φ w) :
    Paired w := by
  induction h with
  | refl => exact hp
  | event _ _ _ he ih => exact (SameSettings.of_frame (event_frame he)).paired ih
  | work hg hw ih =>
    rcases hw.settings.2 with ⟨hs, -⟩ | ⟨config, rfl, -⟩ | ⟨config, -, -, rfl⟩
    · exact hs.paired ih
    · exact absurd (phase_of hg) hm
    · rfl

/-- Between messages the global cap is that of the live configuration. -/
theorem reachable_paired {c : OrchConf} (h : Reachable mirrored c) (hc : c.mode = .idle) : Paired c.state := by
  obtain ⟨past, ht⟩ := h.trace
  have hr := Server.Trace.rule (J := fun _ w => Paired w) (Z := fun _ _ => True) (I := fun _ _ _ => True)
    (X := fun _ _ _ => True) (fun w hw => ?_) (fun _ w e w' hp _ he => ?_) (fun _ _ _ _ _ _ _ _ => trivial)
    (fun rs w m w' hp hn hd => ?_) ht
  · obtain ⟨w, mode⟩ := c
    obtain rfl : mode = .idle := hc
    exact hr
  · obtain ⟨config, now, client, factory, loader, spawnError, reloads, rfl⟩ := hw
    rfl
  · exact (SameSettings.of_frame (event_frame he)).paired hp
  · obtain ⟨hw, -⟩ := recv_eq hn
    have hsame : w'.state = w.state := by rw [hw]
    have hp' : Paired w' := by rw [hw]; exact hp
    by_cases hm : m = .pollTick
    · subst hm
      have hadopts : w'.state.running.length = 0 → AdoptsCap w' := fun h0 => by
        rw [hsame] at h0
        have ha := hd rfl h0
        rw [hw]
        exact ha
      exact onTick_paired hadopts hp'
    · refine ((accounted_handle (framed_proto mirrored m)).sat .refl).mono (fun _ _ => trivial) (fun _ v hv => ?_)
        (fun _ _ _ => trivial)
      obtain ⟨φ, hg, rfl⟩ := hv
      cases hst : orchestrator.stops m with
      | true => trivial
      | false =>
        exact gets_paired hm hp' hg

/-- **Caps of one configuration.** Every decision uses the global cap and the per-state caps of the live configuration,
as long as no tick adopts a configuration with another global cap than the one in use. -/
theorem caps_of_one_config {c : OrchConf} {issue : Issue} {v : World} {perStateMap : List (Str × Int)}
    (h : Reachable mirrored c) (hd : SlotCheck mirrored c issue v perStateMap) :
    v.state.maxConcurrentAgents = v.config.agent.maxConcurrentAgents ∧
      perStateMap = v.config.agent.maxConcurrentAgentsByState := by
  cases hd with
  | @tick w w₁ w₂ v config _ _ _ _ _ hi hn hd hrec hload hdrift _ _ hloop =>
    obtain ⟨hw, -⟩ := recv_eq hn
    have hp : Paired w := by
      rw [hw]
      exact reachable_paired h hi
    have hrun : w.state.running.length = 0 → AdoptsCap w := by
      rw [hw]
      exact hd rfl
    obtain ⟨hadopts, -⟩ := (reconcile_settings hrun).runs hrec
    have hadopted : Paired { w₁ with config := config } := (hadopts config hload).symm
    have hloop := dispatchLoop_settings.runs hloop
    have hframe := SameSettings.of_frame (drift_frame hdrift)
    exact ⟨(hframe.trans hloop).paired hadopted, by rw [hloop.config]⟩
  | @retry m w v _ _ _ hi hn _ _ _ hdrift _ _ =>
    obtain ⟨hw, -⟩ := recv_eq hn
    have hp : Paired (w.popRetry m.issueId) := by
      rw [hw]
      exact reachable_paired h hi
    have hframe := SameSettings.of_frame (drift_frame hdrift)
    exact ⟨hframe.paired hp, by rw [hframe.config]; rfl⟩

end Service

/-! ## A reload before the first tick -/

section Sample

attribute [local instance] asciiTables

/-- A configuration for one agent. -/
def sampleSingle : EffectiveConfig :=
  { sampleConfig with agent := ⟨1, 20, 300000, [(py "todo", 1)]⟩ }

/-- The first tick comes to its first candidate with the global cap in use, and the per-state caps of what it adopts. -/
theorem SlotCheck.first {D : OrchDiscipline} {c : OrchConf} {config : EffectiveConfig} {ms : List Message}
    (hi : c.mode = .idle) (hm : c.state.mailbox = .pollTick :: ms) (hr : c.state.state.running = ∅)
    (hd : D.receive c.state .pollTick)
    (hl : c.state.workflowLoader = .ok (some config))
    (ha : D.answer .pollTick { c.state with mailbox := ms, config := config }
      (.fetchCandidateIssues config.tracker.activeStates) (.ok [sampleIssue "a"]))
    (hel : isCandidate c.state.state (config.tracker.activeStates.map lower) (config.tracker.terminalStates.map lower)
      (sampleIssue "a") = true) :
    SlotCheck D c (sampleIssue "a") { c.state with mailbox := ms, config := config }
      config.agent.maxConcurrentAgentsByState := by
  have hn : c.state.recv = some (.pollTick, { c.state with mailbox := ms }) := by rw [World.recv, hm]
  have hrec : reconcile { c.state with mailbox := ms } = .ret () { c.state with mailbox := ms } := by
    have hstalls : detectStalls c.state.state c.state.now c.state.config.codex.stallTimeoutMs = [] := by
      unfold detectStalls
      rw [hr]
      split <;> rfl
    simp [reconcile, hstalls, hr, forEach]
  have hel' : eligibleOf { c.state with mailbox := ms, config := config } [sampleIssue "a"] =
      .ok ([] ++ sampleIssue "a" :: []) := by
    unfold eligibleOf filterCandidates
    rw [List.filter_cons_of_pos hel]
    rfl
  have hruns : Runs (orchestrator.proto D .pollTick) (reconcile { c.state with mailbox := ms }) (.ok ())
      { c.state with mailbox := ms } := by
    rw [hrec]
    exact .ret () _
  exact .tick hi hn hd hruns hl .refl ha hel' (.ret [] _)

/-- A configuration with the global cap of the other, and a cap of its own for a state. -/
def sampleCapped : EffectiveConfig :=
  { sampleConfig with agent := { sampleConfig.agent with maxConcurrentAgentsByState := [(py "todo", 1)] } }

/-- The file is changed before the first tick, but for the global cap. -/
theorem caps_of_one_config_sample : ∃ c v perStateMap,
    orchestrator.run sampleStart [.event (.setLoader (.ok (some sampleCapped))), .event (.reload sampleCapped)] = some c ∧
    SlotCheck mirrored c (sampleIssue "a") v perStateMap ∧ perStateMap = [(py "todo", 1)] ∧
    v.state.maxConcurrentAgents = v.config.agent.maxConcurrentAgents ∧
    perStateMap = v.config.agent.maxConcurrentAgentsByState := by
  obtain ⟨c, hc⟩ : ∃ c, orchestrator.run sampleStart
    [.event (.setLoader (.ok (some sampleCapped))), .event (.reload sampleCapped)] = some c := ⟨_, rfl⟩
  have h : Reachable mirrored c := by
    refine .run (.start sampleWorld_isInitial) (fun l hl => ?_) hc
    simp only [List.mem_cons, List.not_mem_nil, or_false] at hl
    rcases hl with rfl | rfl <;> exact fun _ => trivial
  have hd : SlotCheck mirrored c (sampleIssue "a")
      { c.state with mailbox := [.configReloaded sampleCapped], config := sampleCapped } [(py "todo", 1)] := by
    cases hc
    exact .first rfl rfl rfl (fun _ _ config hl => by cases hl; rfl) rfl (fun _ ids h => by cases h) (by decide +kernel)
  exact ⟨c, _, _, hc, hd, rfl, caps_of_one_config h hd⟩

/-- **A mixed pair.** The file is changed before the first tick, and the configuration with it: to one agent at most,
and one per state. The tick comes first, takes the configuration from the holder, and decides with the per-state caps
of the new one and the global cap of the old one. -/
theorem caps_mixed : ∃ c v perStateMap,
    orchestrator.run sampleStart [.event (.setLoader (.ok (some sampleSingle))), .event (.reload sampleSingle)] = some c ∧
    SlotCheck .free c (sampleIssue "a") v perStateMap ∧
    ∀ config ∈ [sampleConfig, sampleSingle], ¬ (v.state.maxConcurrentAgents = config.agent.maxConcurrentAgents ∧
      perStateMap = config.agent.maxConcurrentAgentsByState) := by
  refine ⟨_, _, _, rfl, .first (c := ⟨_, .idle⟩) rfl rfl rfl trivial rfl trivial (by decide +kernel), ?_⟩
  decide +kernel

end Sample

end RiverGang
