import RiverGang.Lib.History
import RiverGang.Orchestrator.Steps

/-!
# The handlers go by the phases

`handlers_follow`: under any discipline, every handler of the dispatcher goes from its entry phase to its exit phase, or
to a crash, by the steps of `Work`; and this needs no more of the events than that they leave the orchestrator's own
fields alone.

Each part of a handler has its lemma here: it goes from the phase in which it starts to the phase in which it ends. The
dispatch loop is an induction on the issues that are left.
-/

namespace RiverGang

open Py Coop Task

variable [Unicode] {D : OrchDiscipline} {P : Proto OrchSig World} {w : World} {m : Message}

/-- The steps lead from the receipt of `m` in `s₀` to a phase and a world. -/
abbrev Gets (D : OrchDiscipline) (s₀ : World) (m : Message) (φ : Phase) (w : World) : Prop :=
  (handlerPhases D).Works orchestrator D s₀ (.handling m) w φ

/-- A part of a handler that goes by the steps. -/
abbrev Accounted (D : OrchDiscipline) (P : Proto OrchSig World) {α : Type} (t : Res OrchSig Exn World α) (φ : Phase)
    (w : World) (Q : α → World → Phase → World → Prop) : Prop := (handlerPhases D).Goes P Q t φ w

/-- A part ends in a phase, with all accounted for. -/
abbrev EndsIn {α : Type} (φ : Phase) : α → World → Phase → World → Prop := Phases.Exact fun _ φ' _ => φ' = φ

/-- The handler of `m` gets answers of `D`, and the others leave the orchestrator's own fields alone. -/
structure Framed (D : OrchDiscipline) (m : Message) (P : Proto OrchSig World) : Prop where
  frame : ∀ {w w'}, P.rely w w' → w.EventFrame w'
  answer : ∀ {w r x}, P.answer w r x → D.answer m w r x

theorem accounted_request (hP : Framed D m P) {r : OrchReq} {α : Type} {f : OrchSig.Ans r → Orch α}
    {Q : α → World → Phase → World → Prop} {φ : Phase} (hφ : φ.Awaiting)
    (hf : ∀ w' x, w.EventFrame w' → D.answer m w' r x → Accounted D P (f x w') φ w' Q) :
    Accounted D P ((Task.request (S := OrchSig) r w).bind f) φ w Q :=
  .request_bind hφ fun w' x hr ha => hf w' x (hP.frame hr) (hP.answer ha)

/-- An exception that is no `Exception` ends the dispatcher; the others are handled. -/
theorem accounted_onException {r : OrchReq} {x : OrchSig.Ans r} {exc : Exn} {φ : Phase} {α : Type} {h : Orch α}
    {Q : α → World → Phase → World → Prop} (hφ : φ.Awaiting) (ha : D.answer m w r x) (hx : failure r x = some exc)
    (hh : Accounted D P (h w) φ w Q) : Accounted D P (onException exc h w) φ w Q := by
  unfold onException
  cases he : exc.isException with
  | true => simpa using hh
  | false => exact .crash (.crash (.answer hφ ha hx he))

/-! ## Ticks -/

theorem accounted_scheduleNextTick {φ : Phase} (hφ : φ.Awaiting)
    (hd : ∀ w', scheduleNextTick w = .ret () w' → Work D w φ w' (.done .pollTick)) :
    Accounted D P (scheduleNextTick w) φ w (EndsIn (.done .pollTick)) :=
  .of_sync (scheduleNextTick_sync w) (fun _ w' h => ⟨_, hd w' h, rfl⟩) fun _ _ h => .crash (.interval hφ h)

omit [Unicode] in
theorem withEntry_none {i : Str} {f : World → RunningEntry → World} (h : w.state.running.get? i = none) :
    withEntry i f w = .ret () w := by
  simp [withEntry, h]

omit [Unicode] in
theorem withEntry_some {i : Str} {f : World → RunningEntry → World} {entry : RunningEntry}
    (h : w.state.running.get? i = some entry) : withEntry i f w = .ret () (f w entry) := by
  simp [withEntry, h]

omit [Unicode] in
/-- Reading an entry and changing the world by it. -/
theorem withEntry_sat {P : Proto OrchSig World} {I : World → Prop} {X : Exn → World → Prop} {J : World → Prop} {i : Str}
    {f : World → RunningEntry → World} (hw : J w)
    (hf : ∀ entry, w.state.running.get? i = some entry → J (f w entry)) :
    (withEntry i f w).Sat P I (fun _ => J) X := by
  cases h : w.state.running.get? i with
  | none =>
    rw [withEntry_none h]
    exact hw
  | some entry =>
    rw [withEntry_some h]
    exact hf entry h

theorem accounted_withEntry {J : Phase → World → Prop} {φ : Phase} {i : Str} {f : World → RunningEntry → World}
    (hw : J φ w)
    (hf : ∀ entry, w.state.running.get? i = some entry → Work D w φ (f w entry) φ ∧ J φ (f w entry)) :
    Accounted D P (withEntry i f w) φ w (Phases.Exact fun _ => J) := by
  cases h : w.state.running.get? i with
  | none =>
    rw [withEntry_none h]
    exact .ret hw
  | some entry =>
    obtain ⟨hstep, hj⟩ := hf entry h
    rw [withEntry_some h]
    exact .ret_step hstep hj

omit [Unicode] in
/-- A stalled id is that of an entry that stalled. -/
theorem mem_detectStalls {state : OrchestratorState} {now : Instant} {timeout : Int} {i : Str}
    (h : i ∈ detectStalls state now timeout) : ∃ entry, state.running.get? i = some entry ∧
      shouldTerminateForStall now entry.lastCodexTimestamp entry.startedAt timeout = true := by
  unfold detectStalls at h
  split at h
  · cases h
  · obtain ⟨⟨j, entry⟩, hp, rfl⟩ := List.mem_map.1 h
    obtain ⟨hp, hs⟩ := List.mem_filter.1 hp
    exact ⟨entry, Dict.mem_entries.1 hp, hs⟩

/-- The stall part of a reconciliation. -/
theorem accounted_stalls :
    Accounted D P (forEach (detectStalls w.state w.now w.config.codex.stallTimeoutMs)
        (fun issueId => withEntry issueId fun w entry => w.reapStalled issueId entry) w)
      (.handling .pollTick) w (EndsIn (.handling .pollTick)) := by
  -- reaping leaves what the detection read as it was
  have hloop := Phases.Goes.forEach (A := handlerPhases D) (P := P) (φ := .handling .pollTick) (s := w)
    (J := fun φ v => φ = .handling .pollTick ∧ v.state = w.state ∧ v.now = w.now ∧ v.config = w.config)
    (l := detectStalls w.state w.now w.config.codex.stallTimeoutMs)
    (f := fun issueId => withEntry issueId fun w entry => w.reapStalled issueId entry)
    (fun i hi φ v hv => ?_) ⟨rfl, rfl, rfl, rfl⟩
  · exact hloop.mono fun _ _ _ _ h => ⟨h.1, h.2.1⟩
  · obtain ⟨rfl, hst, hn, hc⟩ := hv
    refine accounted_withEntry ⟨rfl, hst, hn, hc⟩ fun entry he => ?_
    obtain ⟨entry', he', hs⟩ := mem_detectStalls hi
    rw [hst] at he
    cases he.symm.trans he'
    exact ⟨.stall (by rw [hst]; exact he') (by rw [hn, hc]; exact hs), rfl, hst, hn, hc⟩

/-- The terminations with cleanup: each issue of the list once. -/
theorem accounted_cleanups {refreshed : List Issue} {ids running : List Str}
    (ha : D.answer .pollTick w (.fetchIssueStatesByIds running) (.ok refreshed)) (hnodup : ids.Nodup)
    (hids : ∀ i ∈ ids, verdictOf refreshed w i = .terminateWithCleanup) :
    Accounted D P
      (forEach ids (fun issueId => withEntry issueId fun w entry => w.terminateWithCleanup entry) w)
      (.handling .pollTick) w
      (Phases.Exact fun _ φ w' => φ = .handling .pollTick ∧ RefreshedTo D refreshed w' ∧ w'.config = w.config) := by
  have hloop := Phases.Goes.forEach_past (A := handlerPhases D) (P := P) (φ := .handling .pollTick) (s := w)
    (J := fun past φ v => φ = .handling .pollTick ∧
      ∃ cancelled, v = { w with cancelled := cancelled, cleanups := w.cleanups ++ cleanupsOf w past })
    (f := fun issueId => withEntry issueId fun w entry => w.terminateWithCleanup entry) (l := ids) (p := [])
    (fun before i after hl φ v hv => ?_) ⟨rfl, w.cancelled, by simp [cleanupsOf]⟩
  · refine hloop.mono fun _ w' φ _ h => ?_
    obtain ⟨hw, hφ, cancelled, heq⟩ := h
    refine ⟨hw, hφ, ?_, by rw [heq]⟩
    have hcleaned : CleanedUp D refreshed ids w' := ⟨w, running, ha, by rw [heq]; rfl⟩
    exact hcleaned.refreshedTo
  · obtain ⟨rfl, cancelled, heq⟩ := hv
    rw [List.nil_append] at heq ⊢
    have hrunning : v.state.running.get? i = w.state.running.get? i := by rw [heq]
    cases he : w.state.running.get? i with
    | none =>
      rw [cleanupsOf_concat_none he, withEntry_none (hrunning.trans he)]
      exact .ret ⟨rfl, cancelled, heq⟩
    | some entry =>
      have hi : verdictOf refreshed v i = .terminateWithCleanup := by
        have hconfig : v.config = w.config := by rw [heq]
        have hverdict := hids i (by simp [hl])
        unfold verdictOf at hverdict ⊢
        rw [hconfig, hverdict]
      have hfresh : i ∉ before := by
        rw [hl] at hnodup
        intro hmem
        exact (List.nodup_append.1 hnodup).2.2 i hmem i List.mem_cons_self rfl
      have hcleaned : CleanedUp D refreshed before v := ⟨w, running, ha, by rw [heq]⟩
      have hafter : ∃ cancelled, v.terminateWithCleanup entry =
          { w with cancelled := cancelled, cleanups := w.cleanups ++ cleanupsOf w (before ++ [i]) } := by
        rw [cleanupsOf_concat_some he, ← List.append_assoc, heq]
        exact ⟨_, rfl⟩
      rw [withEntry_some (hrunning.trans he)]
      exact .ret_step (.terminateWithCleanup (hrunning.trans he) hcleaned hfresh hi) ⟨rfl, hafter⟩

/-- The terminations without cleanup. -/
theorem accounted_terminations {refreshed : List Issue} {ids : List Str} (hr : RefreshedTo D refreshed w)
    (hids : ∀ i ∈ ids, verdictOf refreshed w i = .terminateWithoutCleanup) :
    Accounted D P
      (forEach ids (fun issueId => withEntry issueId fun w entry => w.terminateWithoutCleanup entry) w)
      (.handling .pollTick) w
      (Phases.Exact fun _ φ w' => φ = .handling .pollTick ∧ RefreshedTo D refreshed w' ∧ w'.config = w.config) := by
  refine Phases.Goes.forEach (A := handlerPhases D)
    (J := fun φ v => φ = .handling .pollTick ∧ RefreshedTo D refreshed v ∧ v.config = w.config)
    (fun i hi φ v hv => ?_) ⟨rfl, hr, rfl⟩
  obtain ⟨rfl, hr, hc⟩ := hv
  refine accounted_withEntry ⟨rfl, hr, hc⟩ fun entry he => ?_
  have hi' : verdictOf refreshed v i = .terminateWithoutCleanup := by
    unfold verdictOf
    rw [hc]
    exact hids i hi
  refine ⟨.terminateWithoutCleanup he hr hi', rfl, ?_, hc⟩
  obtain ⟨w₀, ids₀, ha, hv₀⟩ := hr
  exact ⟨w₀, ids₀, ha, by rw [hv₀]; rfl⟩

/-- `_reconcile` -/
theorem accounted_reconcile (hP : Framed D .pollTick P) :
    Accounted D P (reconcile w) (.handling .pollTick) w (EndsIn (.handling .pollTick)) := by
  unfold reconcile
  simp only [bind_apply, get_apply, Res.bind_ret]
  refine accounted_stalls.then fun _ φ w hφ => ?_
  subst hφ
  simp only [bind_apply, get_apply, Res.bind_ret]
  split
  · exact .ret rfl
  · refine accounted_request hP trivial fun w x _ ha => ?_
    cases x with
    | error exc => exact accounted_onException trivial ha rfl (.ret rfl)
    | ok refreshed =>
      simp only [bind_apply, get_apply, Res.bind_ret]
      have hnodup : (reconcileRunningWithTracker w.state refreshed w.config.tracker.terminalStates
          w.config.tracker.activeStates).terminateWithCleanup.Nodup := w.state.running.nodup.filter _
      refine (accounted_cleanups ha hnodup fun i hi => ?_).then fun _ φ₁ w₁ h₁ => ?_
      · obtain ⟨-, hi⟩ := List.mem_filter.1 hi
        unfold verdictOf
        revert hi
        cases classify refreshed w.config.tracker.terminalStates w.config.tracker.activeStates i <;> simp
      obtain ⟨rfl, hr₁, hc₁⟩ := h₁
      refine (accounted_terminations hr₁ fun i hi => ?_).then fun _ φ₂ w₂ h₂ => ?_
      · obtain ⟨-, hi⟩ := List.mem_filter.1 hi
        unfold verdictOf
        rw [hc₁]
        revert hi
        cases classify refreshed w.config.tracker.terminalStates w.config.tracker.activeStates i <;> simp
      refine Phases.Goes.forEach (A := handlerPhases D) (J := fun φ _ => φ = .handling .pollTick)
        (fun p hp φ v hv => ?_) h₂.1
      subst hv
      refine accounted_withEntry rfl fun entry he => ?_
      obtain ⟨i, -, hi⟩ := List.mem_filterMap.1 hp
      have hid : p.2.id = p.1 := by
        cases hcl : classify refreshed w.config.tracker.terminalStates w.config.tracker.activeStates i with
        | updateSnapshot issue =>
          rw [hcl] at hi
          cases hi
          exact classify_updateSnapshot hcl
        | terminateWithCleanup | terminateWithoutCleanup => rw [hcl] at hi; cases hi
      exact ⟨.refresh he hid, rfl⟩

/-! ## The gate and the dispatch loop -/

/-- What the gate leaves: on a refusal the issue is done with; on a permission it is cleared, and what was noted about it
is dropped in the step that dispatches it. -/
def GateLeft (D : OrchDiscipline) (issue : Issue) (issues : List Issue) (b : Bool) (w : World) (φ : Phase)
    (w₁ : World) : Prop :=
  if b then φ = .loop (issue :: issues) ∧ Cleared D issue w₁ ∧ w = w₁.onState (·.popWaiting issue.id)
  else φ = .loop issues ∧ w₁ = w

theorem accounted_gate (hP : Framed D .pollTick P) {issue : Issue} {issues : List Issue} :
    Accounted D P (clarificationGateAllowsDispatch issue w) (.loop (issue :: issues)) w (GateLeft D issue issues) := by
  have hskip : ∀ {v}, Accounted D P (.ret false v) (.loop (issue :: issues)) v (GateLeft D issue issues) :=
    ⟨_, _, .single .skip, rfl, rfl⟩
  have hwait : ∀ {v} entry, Accounted D P (.ret false (v.onState (·.setWaiting issue.id entry)))
      (.loop (issue :: issues)) v (GateLeft D issue issues) := fun _ => ⟨_, _, .single .rewait, rfl, rfl⟩
  unfold clarificationGateAllowsDispatch
  simp only [bind_apply, get_apply, Res.bind_ret]
  split
  · exact hskip
  refine accounted_request hP trivial fun w₁ x _ ha => ?_
  cases x with
  | error exc => exact accounted_onException trivial ha rfl hskip
  | ok comments =>
    cases hf : fingerprintClarificationInputs issue comments with
    | error e =>
      simp only [hf, ofExcept_error, bind_apply, raise_apply, Res.bind_raise]
      exact .crash (.crash (.inputs ha hf))
    | ok fingerprint =>
      simp only [hf, ofExcept_ok, bind_apply, pure_apply, Res.bind_ret]
      cases (w.state.clarificationWaiting.get? issue.id).filter fun entry =>
        noNewInput entry fingerprint (nonClarificationCommentIds comments) with
      | some entry => exact hwait _
      | none =>
      refine accounted_request hP trivial fun w₂ x _ ha₂ => ?_
      cases x with
      | error exc => exact accounted_onException trivial ha₂ rfl hskip
      | ok ensureResult =>
        simp only [bind_apply, get_apply, Res.bind_ret]
        refine accounted_request hP trivial fun w₃ x _ ha₃ => ?_
        cases x with
        | error exc => exact accounted_onException trivial ha₃ rfl hskip
        | ok decision =>
          cases hd : decision.sufficient with
          | true =>
            simp only [if_true, bind_apply, modify_apply, Res.bind_ret, hd, pure_apply]
            exact ⟨_, w₃, .refl, rfl, ⟨_, _, _, _, ha₃, hd⟩, rfl⟩
          | false =>
            cases hq : fingerprintQuestions decision.questions with
            | error e =>
              simp only [hd, hq, Bool.false_eq_true, if_false, ofExcept_error, bind_apply, raise_apply,
                Res.bind_raise]
              exact .crash (.crash (.questions ha₃ hd hq))
            | ok questionFingerprint =>
              simp only [hd, hq, Bool.false_eq_true, if_false, ofExcept_ok, bind_apply, pure_apply, Res.bind_ret]
              split
              · exact hwait _
              · refine accounted_request hP trivial fun w₄ x _ ha₄ => ?_
                cases x with
                | error exc => exact accounted_onException trivial ha₄ rfl hskip
                | ok u => exact hwait _

theorem accounted_considerIssue (hP : Framed D .pollTick P) {perStateMap : List (Str × Int)} {issue : Issue}
    {issues : List Issue} :
    Accounted D P (considerIssue perStateMap clarificationGateAllowsDispatch issue w) (.loop (issue :: issues)) w
      (EndsIn (.loop issues)) := by
  unfold considerIssue
  simp only [bind_apply, get_apply, Res.bind_ret]
  split
  · simp only [bind_apply]
    have hgate : Accounted D P (clarificationGateAllowsDispatch issue w) (.loop (issue :: issues)) w
        (GateLeft D issue issues) := accounted_gate hP
    refine hgate.bind fun b v φ w' hv => ?_
    cases b with
    | false =>
      obtain ⟨rfl, rfl⟩ := hv
      exact .ret rfl
    | true =>
      obtain ⟨rfl, hc, rfl⟩ := hv
      simp only [if_true, bind_apply, get_apply, Res.bind_ret]
      have hd : Accounted D P
          (dispatchIssue issue 1 w'.config.agent.maxRetryBackoffMs (w'.onState (·.popWaiting issue.id)))
          (.loop (issue :: issues)) w' (EndsIn (.loop issues)) :=
        .of_sync (dispatchIssue_sync ..) (fun _ _ h => ⟨_, .dispatch hc h, rfl⟩) fun _ _ h => .crash (.dispatch hc h)
      exact hd.then fun _ _ _ h => .ret h
  · exact .ret_step .skip rfl

theorem accounted_dispatchLoop (hP : Framed D .pollTick P) {perStateMap : List (Str × Int)} :
    ∀ {issues : List Issue} {w : World},
      Accounted D P (dispatchLoop perStateMap clarificationGateAllowsDispatch issues w) (.loop issues) w
        (EndsIn (.loop []))
  | [], _ => .ret rfl
  | issue :: issues, w => by
    unfold dispatchLoop
    simp only [bind_apply]
    refine (accounted_considerIssue hP).then fun o φ v hφ => ?_
    subst hφ
    exact (accounted_dispatchLoop hP).then fun _ _ _ h => .ret h

theorem accounted_onTick (hP : Framed D .pollTick P) :
    Accounted D P (onTick w) (.handling .pollTick) w (EndsIn (.done .pollTick)) := by
  have hend : ∀ {v}, Accounted D P (scheduleNextTick v) (.handling .pollTick) v (EndsIn (.done .pollTick)) :=
    accounted_scheduleNextTick trivial fun _ h => .skipTick h
  unfold onTick
  simp only [bind_apply]
  refine (accounted_reconcile hP).then fun _ φ w hφ => ?_
  subst hφ
  simp only [bind_apply, get_apply, Res.bind_ret]
  cases hl : w.workflowLoader with
  | error exc =>
    dsimp only
    unfold onException
    cases he : exc.isException with
    | true => simpa using hend
    | false => exact .crash (.crash (.loader hl he))
  | ok loaded =>
    cases loaded with
    | none => exact hend
    | some config =>
      simp only [bind_apply, modify_apply, Res.bind_ret]
      refine .step (.adopt hl) (accounted_request hP trivial fun w₁ x _ ha => ?_)
      cases x with
      | error exc => exact accounted_onException trivial ha rfl hend
      | ok candidates =>
        simp only [bind_apply, get_apply, Res.bind_ret]
        cases he : eligibleOf w₁ candidates with
        | error e =>
          unfold eligibleOf at he
          simp only [he, ofExcept_error, raise_apply, Res.bind_raise]
          exact .crash (.crash (.sort ha he))
        | ok issues =>
          have he' := he
          unfold eligibleOf at he'
          simp only [he', ofExcept_ok, bind_apply, pure_apply, Res.bind_ret]
          refine .step (.eligible ha he) ((accounted_dispatchLoop hP).then fun _ φ w₂ hφ => ?_)
          subst hφ
          exact accounted_scheduleNextTick trivial fun _ h => .endLoop h

/-! ## Retry timers -/

theorem accounted_onRetryTimer {m : RetryTimerFired} (hP : Framed D (.retryTimerFired m) P) :
    Accounted D P
      (onRetryTimer m.issueId fetchFilteredCandidates retryDispatchFn w.config.agent.maxConcurrentAgentsByState
        w.config.agent.maxRetryBackoffMs postRetryTimer w)
      (.handling (.retryTimerFired m)) w (EndsIn (.done (.retryTimerFired m))) := by
  unfold onRetryTimer fetchFilteredCandidates
  simp only [bind_apply, get_apply, Res.bind_ret]
  cases hr : w.retryQueue.get? m.issueId with
  | none => exact .ret_step (.noEntry hr) rfl
  | some entry =>
    simp only [bind_apply, modify_apply, Res.bind_ret]
    split
    · rename_i hc
      exact .ret_step (.completed hr hc) rfl
    · rename_i hc
      have hsched : ∀ {v} (err : Option Str), v.config = w.config → Accounted D P
            (RetryQueue.schedule m.issueId entry.attempt entry.kind w.config.agent.maxRetryBackoffMs postRetryTimer err v)
            (.retry m entry) v (EndsIn (.done (.retryTimerFired m))) := fun err hc =>
        hc ▸ .of_sync (RetryQueue.schedule_sync _) (fun _ _ h => ⟨_, .reschedule h, rfl⟩)
          fun _ _ h => .crash (.reschedule h)
      simp only [bind_apply, get_apply, Res.bind_ret]
      refine .step (.popRetry hr hc) (accounted_request hP trivial fun w₁ x hfr ha => ?_)
      have hc : w₁.config = w.config := hfr.config
      cases x with
      | error exc => exact accounted_onException trivial ha rfl (hsched _ hc)
      | ok candidates =>
        dsimp only
        cases hf : candidates.find? fun c => c.id = m.issueId with
        | none => exact .ret_step .release rfl
        | some issue =>
          have hmatch : Matched D m issue w₁ := ⟨_, candidates, ha, hf⟩
          simp only [bind_apply, get_apply, Res.bind_ret]
          split
          · exact hsched _ hc
          · rename_i hslots
            rw [← hc] at hslots
            unfold retryDispatchFn
            simp only [bind_apply, get_apply, Res.bind_ret]
            have hd : Accounted D P (dispatchIssue issue entry.attempt w₁.config.agent.maxRetryBackoffMs w₁)
                (.retry m entry) w₁ (EndsIn (.done (.retryTimerFired m))) :=
              .of_sync (dispatchIssue_sync ..) (fun _ _ h => ⟨_, .redispatch hmatch (not_le.1 hslots) h, rfl⟩)
                fun _ _ h => .crash (.redispatch hmatch (not_le.1 hslots) h)
            exact hd.then fun _ _ _ h => .ret h

/-! ## Handlers -/

theorem accounted_handle (hP : Framed D m P) : Accounted D P (handle m w) (.handling m) w (EndsIn (.done m)) := by
  cases m with
  | pollTick => exact accounted_onTick hP
  | workerExit x =>
    simp only [handle, bind_apply, get_apply, Res.bind_ret]
    exact .of_sync (onWorkerExit_sync ..) (fun _ _ h => ⟨_, .exit h, rfl⟩) fun _ _ h => .crash (.exit h)
  | codexUpdate x => exact .ret_step .update rfl
  | retryTimerFired x =>
    simp only [handle, bind_apply, get_apply, Res.bind_ret]
    exact accounted_onRetryTimer hP
  | configReloaded c => exact .ret_step .reload rfl
  | shutdown =>
    simp only [handle]
    rw [cancelNextTick_eq]
    exact .ret_step .shutdown rfl

theorem framed_proto (D : OrchDiscipline) (m : Message) : Framed D m (orchestrator.proto D m) :=
  ⟨drift_frame, id⟩

/-- **The simulation.** Every handler goes by the steps of `Work`. -/
theorem handlers_follow (D : OrchDiscipline) : (handlerPhases D).Follows orchestrator D :=
  fun _ m _ _ _ => accounted_handle (framed_proto D m)

theorem handlers_simulate (D : OrchDiscipline) : (handlerPhases D).Simulates orchestrator D := (handlers_follow D).simulates

/-! ## One message -/

/-- A run of the handler of the next message, when the dispatcher is idle. -/
def Handles (D : OrchDiscipline) (c : OrchConf) (m : Message) (w : World) : Prop :=
  ∃ w', c.mode = .idle ∧ c.state.recv = some (m, w') ∧ D.receive c.state m ∧
    Runs (orchestrator.proto D m) (handle m w') (.ok ()) w

/-- The handling of the next message under a function of answers. -/
theorem Handles.of_exec {D : OrchDiscipline} {c : OrchConf} {m : Message} {w' : World} {o : (r : OrchReq) → OrchSig.Ans r}
    (hi : c.mode = .idle) (hn : c.state.recv = some (m, w')) (hd : D.receive c.state m)
    (ho : ∀ s r, D.answer m s r (o r)) (he : ((handle m w').exec o).1 = .ok ()) :
    Handles D c m ((handle m w').exec o).2 := by
  have hr := runs_exec (P := orchestrator.proto D m) (fun _ => Relation.ReflTransGen.refl) ho (handle m w')
  rw [he] at hr
  exact ⟨w', hi, hn, hd, hr⟩

/-- The same, of a handling that does not raise. -/
theorem Handles.of_isOk {D : OrchDiscipline} {c : OrchConf} {m : Message} {w' : World} {o : (r : OrchReq) → OrchSig.Ans r}
    (hi : c.mode = .idle) (hn : c.state.recv = some (m, w')) (hd : D.receive c.state m)
    (ho : ∀ s r, D.answer m s r (o r)) (he : ((handle m w').exec o).1.isOk = true) :
    Handles D c m ((handle m w').exec o).2 := by
  refine .of_exec hi hn hd ho ?_
  generalize ((handle m w').exec o).1 = x at he
  cases x with
  | ok u => rfl
  | error e => cases he

/-- The next message, if it is an exit. -/
def nextExit (w : World) : Option (WorkerExit × World) :=
  match w.recv with
  | some (.workerExit x, w') => some (x, w')
  | _ => none

omit [Unicode] in
theorem nextExit_eq_some {w w' : World} {x : WorkerExit} (h : nextExit w = some (x, w')) :
    w.recv = some (.workerExit x, w') := by
  unfold nextExit at h
  split at h
  · rename_i hr
    cases h
    exact hr
  · cases h

/-- A run of a handler is accounted for by the phases. -/
theorem Handles.gets {D : OrchDiscipline} {c : OrchConf} {m : Message} {w : World} (h : Handles D c m w) :
    ∃ ms, c.state.mailbox = m :: ms ∧ Gets D { c.state with mailbox := ms } m (.done m) w := by
  obtain ⟨w', -, hn, hd, hr⟩ := h
  obtain ⟨hw, hm⟩ := recv_eq hn
  refine ⟨_, hm, ?_⟩
  rw [← hw]
  exact Res.Sat.runs (handlers_simulate D _ m w' hn hd) hr

/-- The handling of an exit is one stretch. -/
theorem Handles.exit {c : OrchConf} {x : WorkerExit} (h : Handles D c (.workerExit x) w) :
    ∃ ms, c.state.mailbox = .workerExit x :: ms ∧
      onWorkerExit x c.state.config.agent.maxRetryBackoffMs postRetryTimer { c.state with mailbox := ms } =
        .ret () w := by
  obtain ⟨w', -, hn, -, hr⟩ := h
  obtain ⟨hw, hm⟩ := recv_eq hn
  refine ⟨_, hm, ?_⟩
  rw [← hw]
  have hc : c.state.config = w'.config := by rw [hw]
  rw [hc]
  refine (onWorkerExit_sync ..).runs (P := orchestrator.proto D (.workerExit x)) ?_
  simpa [handle] using hr

end RiverGang
