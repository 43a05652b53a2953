import Mathlib.Data.List.Lex
import Mathlib.Data.Prod.Lex
import Mathlib.Order.Fin.Basic
import RiverGang.Orchestrator.Slots

/-!
# The order of dispatch

The key that a tick sorts by is a rank: a tuple in a linear order, as long as the dates of creation are aware. Issues of
different identifiers have different ranks, so that the tracker's order of the candidates does not matter
(`eligibleOf_perm`), and what a tick starts is settled by what the gate and the spawns say of each issue
(`dispatch_order_free`).
-/

namespace RiverGang

open Py Coop Task

/-! ## Ranks -/

/-- Missing priorities last, then the priority, the date of creation, the identifier. -/
abbrev Rank := Nat ×ₗ (Int ×ₗ (Int ×ₗ Str))

def DispatchKey.rank (k : DispatchKey) : Rank :=
  toLex (k.priorityBucket, toLex (k.priorityVal, toLex (k.created.wall - k.created.utcoffset.getD 0, k.identifier)))

def dispatchRank (issue : Issue) : Rank := (dispatchSortKey issue).rank

/-- Keys with aware dates compare as their ranks. -/
theorem DispatchKey.lt_eq {a b : DispatchKey} (ha : a.created.aware = true) (hb : b.created.aware = true) :
    a.lt b = .ok (decide (a.rank < b.rank)) := by
  obtain ⟨s, hs⟩ := Option.isSome_iff_exists.1 ha
  obtain ⟨t, ht⟩ := Option.isSome_iff_exists.1 hb
  unfold DispatchKey.lt DispatchKey.rank
  simp only [Prod.Lex.toLex_lt_toLex, DateTime.eq, DateTime.lt, hs, ht, Option.getD_some]
  by_cases hbucket : a.priorityBucket = b.priorityBucket
  · by_cases hval : a.priorityVal = b.priorityVal
    · by_cases hcreated : a.created.wall - s = b.created.wall - t
      · simp [hbucket, hval, hcreated]
      · simp [hbucket, hval, hcreated, liftPy, Except.mapError]
    · simp [hbucket, hval]
  · simp [hbucket]

/-- Other identifiers, other ranks. -/
theorem dispatchRank_inj {x y : Issue} (h : dispatchRank x = dispatchRank y) : x.identifier = y.identifier :=
  congrArg (fun k : Rank => (ofLex (ofLex (ofLex k).2).2).2) h

/-- A missing date of creation is aware too. -/
theorem created_aware {issue : Issue} (h : ∀ d ∈ issue.createdAt, d.aware = true) :
    (dispatchSortKey issue).created.aware = true := by
  unfold dispatchSortKey
  cases hc : issue.createdAt with
  | none => rfl
  | some d => exact h d hc

/-- Candidates with distinct identifiers and comparable dates. -/
structure Sortable (candidates : List Issue) : Prop where
  identifiers : (candidates.map (·.identifier)).Nodup
  aware : ∀ c ∈ candidates, ∀ d ∈ c.createdAt, d.aware = true

theorem Sortable.ranks {candidates : List Issue} (h : Sortable candidates) :
    Ranks (fun x y => (dispatchSortKey x).lt (dispatchSortKey y)) dispatchRank candidates :=
  fun x hx y hy => DispatchKey.lt_eq (created_aware (h.aware x hx)) (created_aware (h.aware y hy))

theorem Sortable.of_subset {l l' : List Issue} (h : Sortable l) (hs : l'.Sublist l) : Sortable l' where
  identifiers := h.identifiers.sublist (hs.map _)
  aware c hc := h.aware c (hs.subset hc)

theorem Sortable.rank_inj {candidates : List Issue} (h : Sortable candidates) :
    ∀ x ∈ candidates, ∀ y ∈ candidates, dispatchRank x = dispatchRank y → x = y :=
  fun _ hx _ hy hr => List.inj_on_of_nodup_map h.identifiers hx hy (dispatchRank_inj hr)

section Service

variable [Unicode]

/-- **The tracker's order does not matter**: the eligible issues are the same, in the order of their ranks. -/
theorem eligibleOf_perm {w w' : World} {candidates candidates' : List Issue} (hs : w'.state = w.state)
    (hc : w'.config = w.config) (hp : candidates.Perm candidates') (h : Sortable candidates) :
    ∃ issues, eligibleOf w candidates = .ok issues ∧ eligibleOf w' candidates' = .ok issues ∧
      issues.Pairwise fun x y => dispatchRank x < dispatchRank y := by
  have hf := h.of_subset (List.filter_sublist (p := isCandidate w.state (w.config.tracker.activeStates.map lower)
    (w.config.tracker.terminalStates.map lower)))
  obtain ⟨issues, h₁, h₂⟩ := sorted_eq_of_perm hf.ranks (hp.filter _) hf.rank_inj
  refine ⟨issues, h₁, ?_, ?_⟩
  · unfold eligibleOf
    rw [hs, hc]
    exact h₂
  · have hi : Sortable issues := ⟨((sorted_perm h₁).map _).nodup_iff.2 hf.identifiers,
      fun c hc => hf.aware c ((sorted_perm h₁).mem_iff.1 hc)⟩
    have hne : issues.Pairwise (· ≠ ·) := List.Nodup.of_map _ hi.identifiers
    exact ((sorted_ascending hf.ranks h₁).and hne).imp_of_mem fun hx hy hxy =>
      lt_of_le_of_ne hxy.1 fun hr => hxy.2 (hi.rank_inj _ hx _ hy hr)

/-! ## Ticks -/

variable {D : OrchDiscipline}

/-- A tick from `w` is offered the candidates in the world `v`. -/
def Offered (D : OrchDiscipline) (w : World) (candidates : List Issue) (v : World) : Prop :=
  ∃ w₁ config, Runs (orchestrator.proto D .pollTick) (reconcile w) (.ok ()) w₁ ∧
    w₁.workflowLoader = .ok (some config) ∧ orchestrator.Drift D { w₁ with config := config } v ∧
    D.answer .pollTick v (.fetchCandidateIssues config.tracker.activeStates) (.ok candidates)

/-- A tick from `w`, offered the candidates in `v`, comes through its dispatch loop to `u` with these outcomes. -/
structure DispatchRun (D : OrchDiscipline) (w : World) (candidates : List Issue) (v : World)
    (outs : List (Issue × Outcome)) (u : World) : Prop where
  offered : Offered D w candidates v
  loop : ∃ issues, eligibleOf v candidates = .ok issues ∧ Runs (orchestrator.proto D .pollTick)
    (dispatchLoop v.config.agent.maxConcurrentAgentsByState clarificationGateAllowsDispatch issues v) (.ok outs) u

/-- It is a part of a run of the tick. -/
theorem DispatchRun.comes {w v u w' : World} {candidates : List Issue} {outs : List (Issue × Outcome)}
    {o : Except Exn Unit} (h : DispatchRun D w candidates v outs u)
    (hr : Runs (orchestrator.proto D .pollTick) (scheduleNextTick u) o w') :
    Runs (orchestrator.proto D .pollTick) (onTick w) o w' := by
  obtain ⟨⟨w₁, config, hrec, hload, hdrift, hans⟩, issues, hel, hloop⟩ := h
  unfold eligibleOf at hel
  unfold onTick
  refine Runs.bind hrec ?_
  simp only [bind_apply, get_apply, Res.bind_ret, hload, modify_apply]
  rw [hload] at hdrift
  refine .await hdrift hans ?_
  simp only [bind_apply, get_apply, Res.bind_ret, hel, ofExcept_ok, pure_apply]
  exact Runs.bind hloop hr

/-- As long as a handler has not come to its loop, it starts nothing. -/
theorem tasks_of_handling {m : Message} {w w' : World} {φ : Phase}
    (h : (handlerPhases D).Works orchestrator D w (.handling m) w' φ) (hφ : φ = .handling m) : w'.tasks = w.tasks := by
  induction h with
  | refl => rfl
  | event _ _ _ he ih => exact (event_frame he).tasks.trans (ih hφ)
  | work _ hw ih =>
    subst hφ
    cases hw with
    | stall | terminateWithCleanup | terminateWithoutCleanup | refresh | adopt => exact ih rfl

theorem reconcile_tasks {w w₁ : World} (hrec : Runs (orchestrator.proto D .pollTick) (reconcile w) (.ok ()) w₁) :
    w₁.tasks = w.tasks := by
  have hw := ((accounted_reconcile (framed_proto D .pollTick)).sat .refl).runs hrec
  obtain ⟨φ, hworks, rfl⟩ := hw
  exact tasks_of_handling hworks rfl

theorem Offered.tasks {w v : World} {candidates : List Issue} (h : Offered D w candidates v) : v.tasks = w.tasks := by
  obtain ⟨w₁, config, hrec, -, hdrift, -⟩ := h
  have hw₁ : w₁.tasks = w.tasks := reconcile_tasks hrec
  exact (drift_frame hdrift).tasks.trans hw₁

/-- And a tick that returns has come through its dispatch loop, or it has started nothing. -/
theorem onTick_dispatches {w w' : World} (hr : Runs (orchestrator.proto D .pollTick) (onTick w) (.ok ()) w') :
    w'.tasks = w.tasks ∨ ∃ candidates v outs u, DispatchRun D w candidates v outs u ∧ w'.tasks = u.tasks := by
  suffices hsat : (onTick w).Sat (orchestrator.proto D .pollTick) (fun _ => True)
      (fun _ w' => w'.tasks = w.tasks ∨ ∃ candidates v outs u, DispatchRun D w candidates v outs u ∧ w'.tasks = u.tasks)
      (fun _ _ => True) from hsat.runs hr
  have hend : ∀ v : World, (scheduleNextTick v).Sat (orchestrator.proto D .pollTick) (fun _ => True)
      (fun _ w' => w'.tasks = v.tasks) (fun _ _ => True) := fun v =>
    .of_sync (scheduleNextTick_sync v) (fun _ v' h => by
      rw [scheduleNextTick_ret h, World.tickScheduled_eq]) fun _ _ _ => trivial
  have hexception : ∀ (exc : Exn) (v : World), (onException exc scheduleNextTick v).Sat
      (orchestrator.proto D .pollTick) (fun _ => True) (fun _ w' => w'.tasks = v.tasks) (fun _ _ => True) := by
    intro exc v
    unfold onException
    split
    · exact hend v
    · trivial
  have hidle : ∀ {v : World} {t : Res OrchSig Exn World Unit}, v.tasks = w.tasks →
      t.Sat (orchestrator.proto D .pollTick) (fun _ => True) (fun _ w' => w'.tasks = v.tasks) (fun _ _ => True) →
      t.Sat (orchestrator.proto D .pollTick) (fun _ => True)
        (fun _ w' => w'.tasks = w.tasks ∨ ∃ candidates v outs u, DispatchRun D w candidates v outs u ∧ w'.tasks = u.tasks)
        (fun _ _ => True) := fun hv h => h.mono (fun _ h => h) (fun _ _ h => .inl (h.trans hv)) fun _ _ h => h
  unfold onTick
  simp only [bind_apply]
  refine Res.Sat.bind (fun _ w₁ hrec => ?_) (Res.Sat.of_runs (Q := fun _ w₁ =>
    Runs (orchestrator.proto D .pollTick) (reconcile w) (.ok ()) w₁) fun o w₁ hrec => ?_)
  · have hw₁ : w₁.tasks = w.tasks := reconcile_tasks hrec
    simp only [bind_apply, get_apply, Res.bind_ret]
    cases hload : w₁.workflowLoader with
    | error exc => exact hidle hw₁ (hexception exc w₁)
    | ok loaded =>
      cases loaded with
      | none => exact hidle hw₁ (hend w₁)
      | some config =>
        simp only [bind_apply, modify_apply, Res.bind_ret]
        refine Res.sat_request_bind.2 ⟨trivial, fun v x hdrift hans => ?_⟩
        have hv : v.tasks = w.tasks := (drift_frame hdrift).tasks.trans hw₁
        cases x with
        | error exc => exact hidle hv (hexception exc v)
        | ok candidates =>
          simp only [bind_apply, get_apply, Res.bind_ret]
          cases hel : eligibleOf v candidates with
          | error e =>
            unfold eligibleOf at hel
            simp only [hel, ofExcept_error, raise_apply, Res.bind_raise]
            trivial
          | ok issues =>
            have hel' := hel
            unfold eligibleOf at hel'
            simp only [hel', ofExcept_ok, bind_apply, pure_apply, Res.bind_ret]
            refine Res.Sat.bind (fun outs u hloop => ?_) (Res.Sat.of_runs (Q := fun outs u =>
              Runs (orchestrator.proto D .pollTick) (dispatchLoop v.config.agent.maxConcurrentAgentsByState
                clarificationGateAllowsDispatch issues v) (.ok outs) u) fun o u hloop => ?_)
            · refine (hend u).mono (fun _ h => h) (fun _ w' ht => .inr ?_) fun _ _ h => h
              exact ⟨candidates, v, outs, u, ⟨⟨w₁, config, hrec, hload, hdrift, hans⟩, issues, hel, hloop⟩, ht⟩
            · cases o with
              | error e => trivial
              | ok outs => exact hloop
  · cases o with
    | error e => trivial
    | ok u => exact hrec

/-! ## Two ticks -/

/-- What an issue comes to, if there is a slot. -/
theorem DispatchRun.left {w v u : World} {candidates : List Issue} {outs : List (Issue × Outcome)}
    (h : DispatchRun D w candidates v outs u) (hid : (candidates.map (·.id)).Nodup) : ∃ issues,
    eligibleOf v candidates = .ok issues ∧ outs.map Prod.fst = issues ∧
      LoopLeft v.config.agent.maxConcurrentAgentsByState v.state.maxConcurrentAgents v outs u := by
  obtain ⟨issues, hel, hloop⟩ := h.loop
  obtain ⟨hb, hc⟩ := (fresh_eligible hid hel).clashFree v.config.agent.maxConcurrentAgentsByState
  obtain ⟨outs', hl, -, ho⟩ := dispatchLoop_runs (gate_quiet D) hb hc hloop
  obtain ⟨rfl, hf⟩ := ho outs rfl
  exact ⟨issues, hel, hf, hl⟩

/-- **Dispatch does not depend on the tracker's order.** Two ticks from one state and configuration, offered the same
candidates in any two orders, start the same issues, in the order of their ranks, if what the gate and the spawns say of
an issue depends on the issue alone. -/
theorem dispatch_order_free {D D' : OrchDiscipline} {w w' v v' u u' : World} {candidates candidates' : List Issue}
    {outs outs' : List (Issue × Outcome)} (verdict : Issue → Outcome) (h : DispatchRun D w candidates v outs u)
    (h' : DispatchRun D' w' candidates' v' outs' u') (hs : v'.state = v.state) (hc : v'.config = v.config)
    (hp : candidates.Perm candidates') (hid : (candidates.map (·.id)).Nodup) (hsort : Sortable candidates)
    (hv : ∀ p ∈ outs ++ outs', p.2 ≠ .noSlot → p.2 = verdict p.1) :
    u.tasks.map (·.issue) = w.tasks.map (·.issue) ++ startedBy outs ∧
    u'.tasks.map (·.issue) = w'.tasks.map (·.issue) ++ startedBy outs' ∧
    startedBy outs' = startedBy outs ∧
    (startedBy outs).Pairwise fun x y => dispatchRank x < dispatchRank y := by
  obtain ⟨issues, hel, hf, hl⟩ := h.left hid
  obtain ⟨issues', hel', hf', hl'⟩ := h'.left ((hp.map _).nodup_iff.1 hid)
  obtain ⟨ranked, hr, hr', hranked⟩ := eligibleOf_perm hs hc hp hsort
  cases hel.symm.trans hr
  cases hel'.symm.trans hr'
  have hload : v'.load = v.load := by
    unfold World.load
    rw [hs]
  have hpass' := hl'.pass
  rw [hload, hs, hc] at hpass'
  have hfst : ∀ os : List (Issue × Outcome), (decisions os).map Prod.fst = os.map Prod.fst := fun os => by
    unfold decisions
    rw [List.map_map]
    rfl
  have hdec : decisions outs = decisions outs' := by
    have hdecides : ∀ {os : List (Issue × Outcome)}, (∀ p ∈ os, p.2 ≠ .noSlot → p.2 = verdict p.1) →
        ∀ d ∈ decisions os, d.2 ≠ .full → d.2 = (verdict d.1).decision := by
      intro os hos d hd hfull
      obtain ⟨p, hp, rfl⟩ := List.mem_map.1 hd
      rw [← hos p hp fun hn => hfull (by rw [hn]; rfl)]
    refine hl.pass.determined hpass' (fun issue => (verdict issue).decision) ?_
      (hdecides fun p hp => hv p (List.mem_append_left _ hp)) (hdecides fun p hp => hv p (List.mem_append_right _ hp))
    rw [hfst, hfst, hf, hf']
  have hsub : (startedBy outs).Sublist issues := by
    rw [← hf, ← hfst]
    exact List.filter_sublist.map _
  refine ⟨?_, ?_, ?_, hranked.sublist hsub⟩
  · rw [hl.tasks, h.offered.tasks]
  · rw [hl'.tasks, h'.offered.tasks]
  · unfold startedBy
    rw [hdec]

end Service

section Sample

attribute [local instance] asciiTables

/-- The first tick of the sample service, offered two candidates. -/
theorem sample_dispatchRun (candidates : List Issue) (outs : List (Issue × Outcome))
    (hel : eligibleOf sampleWorld candidates = .ok [sampleIssue "a", sampleIssue "b"])
    (ho : ((dispatchLoop sampleConfig.agent.maxConcurrentAgentsByState clarificationGateAllowsDispatch
      [sampleIssue "a", sampleIssue "b"] sampleWorld).exec (Answers.reply {})).1 = .ok outs) :
    ∃ u, DispatchRun .free sampleWorld candidates sampleWorld outs u := by
  have hr := runs_exec (P := orchestrator.proto .free .pollTick) (o := (Answers.reply {}))
    (fun _ => Relation.ReflTransGen.refl) (fun _ _ => trivial) (dispatchLoop
      sampleConfig.agent.maxConcurrentAgentsByState clarificationGateAllowsDispatch [sampleIssue "a", sampleIssue "b"]
      sampleWorld)
  rw [ho] at hr
  have hrec : Runs (orchestrator.proto .free .pollTick) (reconcile sampleWorld) (.ok ()) sampleWorld := .ret () sampleWorld
  exact ⟨_, ⟨sampleWorld, sampleConfig, hrec, rfl, .refl, trivial⟩, _, hel, hr⟩

/-- The tracker lists them one way or the other. -/
theorem dispatch_order_free_sample : ∃ u u', u.tasks.map (·.issue) = [sampleIssue "a", sampleIssue "b"] ∧
    u'.tasks.map (·.issue) = [sampleIssue "a", sampleIssue "b"] ∧
    DispatchRun .free sampleWorld [sampleIssue "a", sampleIssue "b"] sampleWorld
      [(sampleIssue "a", .dispatched), (sampleIssue "b", .dispatched)] u ∧
    DispatchRun .free sampleWorld [sampleIssue "b", sampleIssue "a"] sampleWorld
      [(sampleIssue "a", .dispatched), (sampleIssue "b", .dispatched)] u' := by
  obtain ⟨u, h⟩ := sample_dispatchRun [sampleIssue "a", sampleIssue "b"]
    [(sampleIssue "a", .dispatched), (sampleIssue "b", .dispatched)] rfl rfl
  obtain ⟨u', h'⟩ := sample_dispatchRun [sampleIssue "b", sampleIssue "a"]
    [(sampleIssue "a", .dispatched), (sampleIssue "b", .dispatched)] rfl rfl
  obtain ⟨ht, ht', -, -⟩ := dispatch_order_free (fun _ => .dispatched) h h' rfl rfl (.swap ..) (by decide)
    ⟨by decide, by decide⟩ (by decide)
  exact ⟨u, u', ht, ht', h, h'⟩

end Sample

end RiverGang
