import RiverGang.Orchestrator.Slots
import RiverGang.Orchestrator.Workers

/-!
# Issues that are listed twice

The paginated reader can return an issue twice, and eligibility is decided for the whole list before the dispatch loop:
so a tick may start the same issue twice, the second worker in the place of the first.

* `startsOnce_iff`: the loop starts each issue at most once, whatever the gate and the spawns do, exactly where no issue
  leaves a slot for a later one of its id.
* `onTick_startsOnce`: so does a tick, if that is so of the candidates it is given.
* `double_dispatch`: a tick of an idle service that starts an issue twice, the second worker in the place of the first.
-/

namespace RiverGang

open Py Coop Task

section Service

variable [Unicode]

/-- Every running issue keeps its worker, and no issue gets two. -/
def StartsOnce (w w' : World) : Prop :=
  (∀ i t, w.workerOf i = some t → w'.workerOf i = some t) ∧
    ∃ started, w'.tasks.map (·.issue) = w.tasks.map (·.issue) ++ started ∧ (started.map (·.id)).Nodup

/-! ## The loop -/

/-- No clash, no second worker. -/
theorem LoopLeft.startsOnce {perStateMap : List (Str × Int)} {w w' : World} {outs : List (Issue × Outcome)}
    {issues : List Issue} (h : LoopLeft perStateMap w.state.maxConcurrentAgents w outs w')
    (hc : ClashFree perStateMap w issues) (ho : outs.map Prod.fst <+: issues) : StartsOnce w w' := by
  refine ⟨fun i t ht => ?_, startedBy outs, h.tasks, h.pass.nodup ?_⟩
  · obtain ⟨entry, he, rfl⟩ := Option.map_eq_some_iff.1 ht
    rw [World.workerOf, h.kept i entry he]
    rfl
  · have hfst : (decisions outs).map Prod.fst = outs.map Prod.fst := by simp [decisions]
    rw [hfst]
    exact List.Pairwise.sublist ho.sublist hc

/-- A gate that allows where an answer comes, and refuses where none does. -/
def askingGate (issue : Issue) : Orch Bool := do
  match ← Orch.fetchComments issue with
  | .ok _ => pure true
  | .error _ => pure false

theorem askingGate_quiet (D : OrchDiscipline) : Quiet D askingGate := by
  intro issue w
  refine Res.sat_request_bind.2 ⟨trivial, fun w' x hr _ => ?_⟩
  have hs : SameSlots w w' := .drift hr
  cases x with
  | ok _ => exact hs
  | error _ => exact hs

variable {perStateMap : List (Str × Int)}

/-- The verdict that the gate is made to give. -/
theorem askingGate_runs (issue : Issue) (w : World) (allowed : Bool) :
    Runs (orchestrator.proto .free .pollTick) (askingGate issue w) (.ok allowed) w := by
  let x : Except Exn (List Comment) := if allowed then .ok [] else .error ⟨.linearError, []⟩
  refine .await (x := x) Relation.ReflTransGen.refl trivial ?_
  cases allowed <;> exact .ret ..

/-- An issue can be passed over. -/
theorem passed_over (perStateMap : List (Str × Int)) (issue : Issue) (w : World) :
    ∃ o, Runs (orchestrator.proto .free .pollTick)
    (considerIssue perStateMap askingGate issue w) (.ok o) w := by
  unfold considerIssue
  simp only [bind_apply, get_apply, Res.bind_ret]
  split
  · exact ⟨.refused, (askingGate_runs issue w false).bind (.ret ..)⟩
  · exact ⟨.noSlot, .ret ..⟩

/-- An issue that finds a slot can be started. -/
theorem started {issue : Issue} {w : World} (hc : concurrencyCheck issue w.state perStateMap = true)
    (hs : w.spawnError issue 1 = none) : Runs (orchestrator.proto .free .pollTick)
    (considerIssue perStateMap askingGate issue w) (.ok .dispatched) (w.dispatched issue 1) := by
  unfold considerIssue
  simp only [bind_apply, get_apply, Res.bind_ret, hc, if_true]
  refine (askingGate_runs issue w true).bind ?_
  simp only [if_true, bind_apply, get_apply, Res.bind_ret, dispatchIssue_of_none _ hs]
  exact .ret ..

/-- Each issue finds a slot after those before it. -/
def Startable (perStateMap : List (Str × Int)) : List Issue → World → Prop
  | [], _ => True
  | x :: xs, w => concurrencyCheck x w.state perStateMap = true ∧ Startable perStateMap xs (w.dispatched x 1)

/-- What can be started in a list, some run of the loop starts. -/
theorem run_startable {selected issues : List Issue} (h : selected.Sublist issues) : ∀ {w : World},
    w.spawnError = (fun _ _ => none) → Startable perStateMap selected w →
    ∃ outs w', Runs (orchestrator.proto .free .pollTick) (dispatchLoop perStateMap askingGate issues w) (.ok outs) w' ∧
      w'.tasks.map (·.issue) = w.tasks.map (·.issue) ++ selected := by
  induction h with
  | slnil => exact fun {w} _ _ => ⟨[], w, .ret .., (List.append_nil _).symm⟩
  | cons x _ ih =>
    intro w hs hst
    obtain ⟨o, ho⟩ := passed_over perStateMap x w
    obtain ⟨outs, w', hr, ht⟩ := ih hs hst
    exact ⟨(x, o) :: outs, w', ho.bind (hr.bind (.ret ..)), ht⟩
  | @cons_cons selected issues x _ ih =>
    intro w hs hst
    have ho := started hst.1 (by rw [hs] : w.spawnError x 1 = none)
    obtain ⟨outs, w', hr, ht⟩ := ih (w := w.dispatched x 1) hs hst.2
    refine ⟨(x, .dispatched) :: outs, w', ho.bind (hr.bind (.ret ..)), ?_⟩
    rw [ht, show (w.dispatched x 1).tasks = w.tasks ++ [⟨x, 1, w.config⟩] from rfl, List.map_append, List.append_assoc]
    rfl

/-- **The loop starts each issue at most once**, whatever the gate and the spawns do, exactly where no eligible issue
leaves a slot for a later one of its id. -/
theorem startsOnce_iff {w : World} {candidates issues : List Issue} (he : eligibleOf w candidates = .ok issues) :
    (∀ gate spawnError o w', Quiet .free gate → Runs (orchestrator.proto .free .pollTick)
      (dispatchLoop perStateMap gate issues { w with spawnError := spawnError }) o w' → StartsOnce w w') ↔
    ClashFree perStateMap w issues := by
  have hfresh := not_running_of_eligible he
  constructor
  · intro h
    refine List.pairwise_iff_forall_sublist.2 fun {x y} hxy hcl => ?_
    have hx : x ∈ issues := hxy.subset List.mem_cons_self
    have hst : Startable perStateMap [x, y] { w with spawnError := fun _ _ => none } := by
      refine ⟨concurrencyCheck_iff.2 hcl.2.1, concurrencyCheck_iff.2 ?_, trivial⟩
      have hl := LoopLeft.load_dispatched (w := w) (hfresh x hx) 1
      have hr := hcl.2.2
      change (slotAdmission w.state.maxConcurrentAgents perStateMap).room y (Load.add x w.load) at hr
      rw [← hl] at hr
      exact hr
    obtain ⟨outs, w', hr, ht⟩ := run_startable hxy rfl hst
    obtain ⟨-, new, hnew, hn⟩ := h askingGate _ _ w' (askingGate_quiet _) hr
    rw [ht] at hnew
    rw [← List.append_cancel_left hnew] at hn
    simp [hcl.1] at hn
  · intro hc gate spawnError o w' hg hr
    have hb : Barred perStateMap { w with spawnError := spawnError } issues :=
      fun issue hi hrun => absurd hrun (hfresh issue hi)
    have hc' : ClashFree perStateMap { w with spawnError := spawnError } issues := hc
    obtain ⟨outs, hl, ho, -⟩ := dispatchLoop_runs hg hb hc' hr
    exact hl.startsOnce hc' ho

/-! ## The tick -/

/-- The same workers, and no task more. -/
structure SameCrew (w w' : World) : Prop where
  workerOf : w'.workerOf = w.workerOf
  tasks : w'.tasks = w.tasks

omit [Unicode] in
theorem SameCrew.refl (w : World) : SameCrew w w := ⟨rfl, rfl⟩

omit [Unicode] in
theorem SameCrew.trans {w w' w'' : World} (h : SameCrew w w') (h' : SameCrew w' w'') : SameCrew w w'' :=
  ⟨h'.workerOf.trans h.workerOf, h'.tasks.trans h.tasks⟩

omit [Unicode] in
theorem SameCrew.of_frame {w w' : World} (h : w.EventFrame w') : SameCrew w w' :=
  ⟨funext fun i => by rw [World.workerOf, World.workerOf, h.state], h.tasks⟩

omit [Unicode] in
theorem SameCrew.tickScheduled {w w' : World} (h : scheduleNextTick w = .ret () w') : SameCrew w w' := by
  rw [scheduleNextTick_ret h, World.tickScheduled_eq]
  exact ⟨rfl, rfl⟩

omit [Unicode] in
theorem SameCrew.startsOnce {w w' : World} (h : SameCrew w w') : StartsOnce w w' :=
  ⟨fun i t ht => by rw [h.workerOf]; exact ht, [], by rw [h.tasks, List.append_nil], .nil⟩

omit [Unicode] in
theorem SameCrew.trans_startsOnce {w w' w'' : World} (h : SameCrew w w') (h' : StartsOnce w' w'') : StartsOnce w w'' := by
  obtain ⟨hk, started, ht, hn⟩ := h'
  refine ⟨fun i t hi => hk i t ?_, started, ?_, hn⟩
  · rw [h.workerOf]
    exact hi
  · rw [ht, h.tasks]

omit [Unicode] in
theorem StartsOnce.trans_sameCrew {w w' w'' : World} (h : StartsOnce w w') (h' : SameCrew w' w'') : StartsOnce w w'' := by
  obtain ⟨hk, started, ht, hn⟩ := h
  refine ⟨fun i t hi => ?_, started, ?_, hn⟩
  · rw [h'.workerOf]
    exact hk i t hi
  · rw [h'.tasks, ht]

variable {D : OrchDiscipline} {w₀ : World}

/-- A part of a tick that starts nobody. -/
abbrev CrewKept (D : OrchDiscipline) (w₀ : World) {α : Type} (t : Res OrchSig Exn World α) : Prop :=
  t.Sat (orchestrator.proto D .pollTick) (fun _ => True) (fun _ w => SameCrew w₀ w) (fun _ w => SameCrew w₀ w)

theorem crewKept_withEntry {ids : List Str} {f : Str → World → RunningEntry → World} {w : World} (hw : SameCrew w₀ w)
    (hf : ∀ v i entry, v.state.running.get? i = some entry → SameCrew v (f i v entry)) :
    CrewKept D w₀ (forEach ids (fun issueId => withEntry issueId (f issueId)) w) :=
  Res.Sat.forEach (fun i _ _ hv => withEntry_sat hv fun entry he => hv.trans (hf _ i entry he)) hw

theorem crewKept_reconcile (w : World) : CrewKept D w (reconcile w) := by
  have hrefresh : ∀ v i entry (issue : Issue), v.state.running.get? i = some entry →
      SameCrew v (v.refreshEntry i entry issue) := by
    intro v i entry issue he
    have hw : ({ entry with issue := issue } : RunningEntry).workerHandle = entry.workerHandle := rfl
    exact ⟨congrArg Register.current (World.register_setRunning he hw), rfl⟩
  unfold reconcile
  simp only [bind_apply, get_apply, Res.bind_ret]
  refine Res.Sat.bind (fun _ w₁ h₁ => ?_) (crewKept_withEntry (.refl w) fun _ _ _ _ => ⟨rfl, rfl⟩)
  simp only [bind_apply, get_apply, Res.bind_ret]
  split
  · exact h₁
  · refine Res.sat_request_bind.2 ⟨trivial, fun w₂ x hr _ => ?_⟩
    have h₂ : SameCrew w w₂ := h₁.trans (.of_frame (drift_frame hr))
    cases x with
    | error exc =>
      dsimp only
      unfold onException
      split <;> exact h₂
    | ok refreshed =>
      simp only [bind_apply, get_apply, Res.bind_ret]
      refine Res.Sat.bind (fun _ w₃ h₃ => ?_) (crewKept_withEntry h₂ fun _ _ _ _ => ⟨rfl, rfl⟩)
      refine Res.Sat.bind (fun _ w₄ h₄ => ?_) (crewKept_withEntry h₃ fun _ _ _ _ => ⟨rfl, rfl⟩)
      exact Res.Sat.forEach (fun p _ v hv => withEntry_sat hv fun entry he =>
        hv.trans (hrefresh v p.1 entry p.2 he)) h₄

/-- No candidate list of a tick lets one issue leave a slot for a later one of its id. -/
def ClashFreeTicks (D : OrchDiscipline) : Prop :=
  ∀ w states candidates issues, D.answer .pollTick w (.fetchCandidateIssues states) (.ok candidates) →
    eligibleOf w candidates = .ok issues → ClashFree w.config.agent.maxConcurrentAgentsByState w issues

/-- A tick starts each issue at most once, where its candidates do not clash. -/
theorem onTick_startsOnce (hD : ClashFreeTicks D) (w : World) :
    (onTick w).Sat (orchestrator.proto D .pollTick) (fun _ => True) (fun _ w' => StartsOnce w w')
      (fun _ w' => StartsOnce w w') := by
  have hend : ∀ {v}, StartsOnce w v → (scheduleNextTick v).Sat (orchestrator.proto D .pollTick) (fun _ => True)
      (fun _ w' => StartsOnce w w') (fun _ w' => StartsOnce w w') := by
    intro v hv
    refine .of_sync (scheduleNextTick_sync v) (fun _ _ h => hv.trans_sameCrew (.tickScheduled h)) fun e v' h => ?_
    rw [(scheduleNextTick_error h).1]
    exact hv
  unfold onTick
  rw [bind_apply]
  refine Res.Sat.bind (fun _ w₁ h₁ => ?_) ((crewKept_reconcile w).mono (fun _ h => h) (fun _ _ h => h)
    fun _ _ h => h.startsOnce)
  simp only [bind_apply, get_apply, Res.bind_ret]
  match w₁.workflowLoader with
  | .error exc =>
    dsimp only
    unfold onException
    split
    · exact hend h₁.startsOnce
    · exact h₁.startsOnce
  | .ok none => exact hend h₁.startsOnce
  | .ok (some config) =>
    simp only [bind_apply, modify_apply, Res.bind_ret]
    refine Res.sat_request_bind.2 ⟨trivial, fun w₂ x hr ha => ?_⟩
    have h₁' : SameCrew w { w₁ with config := config } := h₁.trans ⟨rfl, rfl⟩
    have h₂ : SameCrew w w₂ := h₁'.trans (.of_frame (drift_frame hr))
    cases x with
    | error exc =>
      dsimp only
      unfold onException
      split
      · exact hend h₂.startsOnce
      · exact h₂.startsOnce
    | ok candidates =>
      simp only [bind_apply, get_apply, Res.bind_ret]
      cases he : eligibleOf w₂ candidates with
      | error e =>
        unfold eligibleOf at he
        simp only [he, ofExcept_error, raise_apply, Res.bind_raise]
        exact h₂.startsOnce
      | ok issues =>
        have hc := hD w₂ _ candidates issues ha he
        have hb : Barred w₂.config.agent.maxConcurrentAgentsByState w₂ issues :=
          fun issue hi hrun => absurd hrun (not_running_of_eligible he issue hi)
        unfold eligibleOf at he
        simp only [he, ofExcept_ok, bind_apply, pure_apply, Res.bind_ret]
        refine Res.Sat.bind (fun outs w₃ h₃ => hend (h₂.trans_startsOnce h₃))
          ((dispatchLoop_sat (gate_quiet D) hb hc).mono (fun _ h => h) ?_ ?_)
        · rintro outs w₃ ⟨ho, hl⟩
          exact hl.startsOnce hc (ho ▸ List.prefix_rfl)
        · rintro e w₃ ⟨outs, ho, hl⟩
          exact h₂.trans_startsOnce (hl.startsOnce hc ho)

/-- **One tick never double-dispatches** exactly where its candidates do not clash: that is what the loop needs, and it
is enough for the tick. -/
theorem tick_startsOnce :
    (∀ {perStateMap : List (Str × Int)} {w : World} {candidates issues : List Issue},
      eligibleOf w candidates = .ok issues →
      ((∀ gate spawnError o w', Quiet .free gate → Runs (orchestrator.proto .free .pollTick)
        (dispatchLoop perStateMap gate issues { w with spawnError := spawnError }) o w' → StartsOnce w w') ↔
      ClashFree perStateMap w issues)) ∧
    ∀ {D : OrchDiscipline}, ClashFreeTicks D → ∀ {w w' : World} {o : Except Exn Unit},
      Runs (orchestrator.proto D .pollTick) (onTick w) o w' → StartsOnce w w' := by
  refine ⟨startsOnce_iff, fun {D} hD {w w' o} hr => ?_⟩
  have h := (onTick_startsOnce hD w).runs hr
  cases o <;> exact h

end Service

section Sample

attribute [local instance] asciiTables

/-- The same issue on two pages, in two states. -/
def repeatedIssue : List Issue := [sampleIssue "a", { sampleIssue "a" with state := py "In Progress" }]

/-- A service with one slot. -/
def oneSlot : World := { sampleWorld with state := { sampleWorld.state with maxConcurrentAgents := 1 } }

/-- With one slot, the second finds none. -/
theorem tick_startsOnce_sample : ∃ w', Runs (orchestrator.proto .free .pollTick)
      (dispatchLoop [] clarificationGateAllowsDispatch repeatedIssue oneSlot)
      (.ok (repeatedIssue.zip [.dispatched, .noSlot])) w' ∧ StartsOnce oneSlot w' := by
  have hr := runs_exec (P := orchestrator.proto .free .pollTick) (o := (Answers.reply {}))
    (fun _ => Relation.ReflTransGen.refl) (fun _ _ => trivial)
    (dispatchLoop [] clarificationGateAllowsDispatch repeatedIssue oneSlot)
  have ho : ((dispatchLoop [] clarificationGateAllowsDispatch repeatedIssue oneSlot).exec (Answers.reply {})).1 =
    .ok (repeatedIssue.zip [.dispatched, .noSlot]) := rfl
  rw [ho] at hr
  have he : eligibleOf oneSlot repeatedIssue = .ok repeatedIssue := rfl
  have hc : ClashFree [] oneSlot repeatedIssue := by
    refine .cons (fun y hy hcl => ?_) (List.pairwise_singleton ..)
    obtain rfl := List.mem_singleton.1 hy
    exact absurd (show 0 < Load.slots .. from hcl.2.2) (by decide)
  exact ⟨_, hr, (tick_startsOnce.1 he).2 hc _ _ _ _ (gate_quiet .free) hr⟩

/-- **A double dispatch.** A tick of a service without workers starts two workers for one issue, and the entry of the
first is replaced by that of the second. -/
theorem double_dispatch : ∃ c w w', Reachable .free c ∧ c.mode = .idle ∧ c.state.recv = some (.pollTick, w) ∧
    Runs (orchestrator.proto .free .pollTick) (onTick w) (.ok ()) w' ∧ w.tasks = [] ∧
    w'.tasks.map (·.issue.id) = [py "a", py "a"] ∧ w'.workerOf (py "a") = some 1 ∧ ¬ StartsOnce w w' := by
  let w : World := { sampleWorld with mailbox := [] }
  have hr := runs_exec (P := orchestrator.proto .free .pollTick) (o := Answers.reply { candidates := .ok repeatedIssue })
    (fun _ => Relation.ReflTransGen.refl) (fun _ _ => trivial) (onTick w)
  have ho : ((onTick w).exec (Answers.reply { candidates := .ok repeatedIssue })).1 = .ok () := by
    decide +kernel
  rw [ho] at hr
  have hids : ((onTick w).exec (Answers.reply { candidates := .ok repeatedIssue })).2.tasks.map (·.issue.id) =
    [py "a", py "a"] := by decide +kernel
  have hworker : ((onTick w).exec (Answers.reply { candidates := .ok repeatedIssue })).2.workerOf (py "a") =
    some 1 := by decide +kernel
  refine ⟨sampleStart, w, _, .start sampleWorld_isInitial, rfl, rfl, hr, rfl, hids, hworker, ?_⟩
  -- The two new tasks are of one issue.
  rintro ⟨-, started, htasks, hnodup⟩
  have hstarted : started.map (·.id) = [py "a", py "a"] := by
    have hnew : ((onTick w).exec (Answers.reply { candidates := .ok repeatedIssue })).2.tasks.map (·.issue) = started :=
      htasks
    rw [← hids, ← hnew, List.map_map]
    rfl
  rw [hstarted] at hnodup
  exact absurd hnodup (by decide)

end Sample

end RiverGang
