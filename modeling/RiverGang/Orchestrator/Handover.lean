import RiverGang.Config.Defaults
import RiverGang.Config.Validation
import RiverGang.Orchestrator.System

/-!
# The worker's transitions, the reconciler and the filter

A worker moves its issue to `start_state` before its turn and to `success_state` after it. What the next reconciliation
makes of the first move, and the next filter of the second, depends on the active and the terminal states; the validation
looks at none of these names.

* `transitions_fit`: the reconciliation goes on with the issue exactly if the state to which the worker moved it — without a
  `start_state` the one in which it was dispatched, which a tick has checked — is active and not terminal; the filter is
  done with it exactly if `success_state` is not.
* `transitions_misfit`: valid configurations, with defaults for the rest, under which the worker's own move has its issue
  terminated, and under which a finished issue is eligible.
-/

namespace RiverGang

open Py Coop

section Service

variable [Unicode]

/-- A state in which issues are worked on. -/
def TrackerConfig.Works (t : TrackerConfig) (stateName : Str) : Prop :=
  lower stateName ∈ t.activeStates.map lower ∧ lower stateName ∉ t.terminalStates.map lower

/-- The state of an issue after the worker's move, up to the case of letters. -/
def TrackerConfig.MovedTo (stateName : Str) (issue refreshed : Issue) : Prop :=
  refreshed.id = issue.id ∧ lower refreshed.state = lower stateName

variable {t : TrackerConfig} {stateName : Str} {refreshedIssues : List Issue} {refreshed : Issue} {i : Str}

/-- The reconciliation goes on with an issue exactly while it is in such a state. -/
theorem classify_eq_updateSnapshot_iff (hr : refreshedById refreshedIssues i = some refreshed) :
    classify refreshedIssues t.terminalStates t.activeStates i = .updateSnapshot refreshed ↔ t.Works refreshed.state := by
  unfold classify TrackerConfig.Works
  simp only [hr]
  split
  · rename_i h
    simp [h]
  · rename_i h
    split
    · rename_i h'
      simp [h, h']
    · rename_i h'
      simp [h']

/-- A snapshot is that of a running issue; the others are terminated. -/
theorem mem_updateSnapshot_iff {state : OrchestratorState} : (i, refreshed) ∈
    (reconcileRunningWithTracker state refreshedIssues t.terminalStates t.activeStates).updateSnapshot ↔
      i ∈ state.running ∧ classify refreshedIssues t.terminalStates t.activeStates i = .updateSnapshot refreshed := by
  unfold reconcileRunningWithTracker
  simp only [List.mem_filterMap]
  constructor
  · rintro ⟨j, hj, h⟩
    cases hc : classify refreshedIssues t.terminalStates t.activeStates j with
    | updateSnapshot r =>
      rw [hc] at h
      cases h
      exact ⟨hj, hc⟩
    | terminateWithCleanup | terminateWithoutCleanup => rw [hc] at h; cases h
  · rintro ⟨hi, hc⟩
    exact ⟨i, hi, by rw [hc]⟩

theorem not_mem_terminate {state : OrchestratorState}
    (h : classify refreshedIssues t.terminalStates t.activeStates i = .updateSnapshot refreshed) :
    i ∉ (reconcileRunningWithTracker state refreshedIssues t.terminalStates t.activeStates).terminateWithCleanup ∧
    i ∉ (reconcileRunningWithTracker state refreshedIssues t.terminalStates t.activeStates).terminateWithoutCleanup := by
  unfold reconcileRunningWithTracker
  simp [h]

/-- An eligible issue is in such a state. -/
theorem works_of_mem_filterCandidates {candidates : List Issue} {state : OrchestratorState} {issue : Issue}
    (h : issue ∈ filterCandidates candidates state t.activeStates t.terminalStates) : t.Works issue.state := by
  obtain ⟨-, h⟩ := List.mem_filter.1 h
  simp only [isCandidate, Bool.and_eq_true, decide_eq_true_eq] at h
  exact ⟨h.1.1.1.2, h.1.1.1.1⟩

/-- The reconciliation keeps a running issue: its snapshot is taken, and it is not terminated. -/
def TrackerConfig.Keeps (t : TrackerConfig) (state : OrchestratorState) (refreshedIssues : List Issue) (issueId : Str)
    (refreshed : Issue) : Prop :=
  let actions := reconcileRunningWithTracker state refreshedIssues t.terminalStates t.activeStates
  (issueId, refreshed) ∈ actions.updateSnapshot ∧ issueId ∉ actions.terminateWithCleanup ∧
    issueId ∉ actions.terminateWithoutCleanup

theorem keeps_iff {state : OrchestratorState} (hi : i ∈ state.running)
    (hr : refreshedById refreshedIssues i = some refreshed) : t.Keeps state refreshedIssues i refreshed ↔
      t.Works refreshed.state := by
  unfold TrackerConfig.Keeps
  simp only [mem_updateSnapshot_iff, ← classify_eq_updateSnapshot_iff hr]
  exact ⟨fun h => h.1.2, fun h => ⟨⟨hi, h⟩, not_mem_terminate h⟩⟩

/-- Whether a state is one to work in depends on its lowered name. -/
theorem TrackerConfig.works_congr {stateName' : Str} (h : lower stateName = lower stateName') :
    t.Works stateName ↔ t.Works stateName' := by
  unfold TrackerConfig.Works
  rw [h]

/-- An issue in such a state and without blockers is eligible when nothing is running or claimed. -/
theorem eligible_of_works {config : EffectiveConfig} {issue : Issue} (h : config.tracker.Works issue.state)
    (hb : issue.blockedBy = []) : issue ∈ filterCandidates [issue] (.initial config) config.tracker.activeStates
      config.tracker.terminalStates := by
  refine List.mem_filter.2 ⟨List.mem_singleton_self _, ?_⟩
  simp [isCandidate, h.1, h.2, hasNonTerminalBlocker, hb, OrchestratorState.initial, OrchestratorState.isClaimed]

/-- **The worker's transitions.** The first part is about the move to `start_state`, if there is one: in every later state
in which the issue is running, and whatever else was refreshed, the reconciliation keeps it, exactly if the state after the
move is active and not terminal. The second part is about the move to `success_state`: no filter lets the issue pass,
exactly if that state is not active or is terminal. The last part is what a tick has checked of an issue that it starts. -/
theorem transitions_fit (config : EffectiveConfig) (issue : Issue) :
    ((∀ state refreshedIssues refreshed, issue.id ∈ state.running →
        refreshedById refreshedIssues issue.id = some refreshed →
        TrackerConfig.MovedTo (config.tracker.startState.getD issue.state) issue refreshed →
        config.tracker.Keeps state refreshedIssues issue.id refreshed) ↔
      config.tracker.Works (config.tracker.startState.getD issue.state)) ∧
    (∀ s, config.tracker.successState = some s →
      ((∀ state candidates finished, TrackerConfig.MovedTo s issue finished →
        finished ∉ filterCandidates candidates state config.tracker.activeStates config.tracker.terminalStates) ↔
      ¬ config.tracker.Works s)) ∧
    ∀ state candidates,
      issue ∈ filterCandidates candidates state config.tracker.activeStates config.tracker.terminalStates →
        config.tracker.Works issue.state := by
  refine ⟨⟨fun h => ?_, fun hw state refreshedIssues refreshed hi hr hm => ?_⟩, fun s _ => ⟨fun h hw => ?_, ?_⟩,
    fun _ _ => works_of_mem_filterCandidates⟩
  · -- the issue is running, and nothing but the move has happened
    let moved : Issue := { issue with state := config.tracker.startState.getD issue.state }
    have hr : refreshedById [moved] issue.id = some moved := by simp [refreshedById, moved]
    have hi : issue.id ∈ ((OrchestratorState.initial config).addRunning (freshEntry 0 issue 1 0)).running :=
      Dict.mem_insert.2 (.inl rfl)
    exact (keeps_iff hi hr).1 (h _ [moved] moved hi hr ⟨rfl, rfl⟩)
  · exact (keeps_iff hi hr).2 ((TrackerConfig.works_congr hm.2).2 hw)
  · let finished : Issue := { issue with state := s, blockedBy := [] }
    have hel : finished ∈ filterCandidates [finished] (.initial config) config.tracker.activeStates
        config.tracker.terminalStates := eligible_of_works hw rfl
    exact h (.initial config) [finished] finished ⟨rfl, rfl⟩ hel
  · intro hw state candidates finished hm hmem
    exact hw ((TrackerConfig.works_congr hm.2).1 (works_of_mem_filterCandidates hmem))

end Service

section Sample

attribute [local instance] asciiTables sampleBuiltins

/-- The front matter of a service for Linear that sets the active states, and leaves the rest to the defaults. -/
def sampleFrontMatter (activeStates : List Str) : Entries :=
  [(.str (py "tracker"), .map [(.str (py "kind"), .str (py "linear")), (.str (py "api_key"), .str (py "key")),
    (.str (py "project_slug"), .str (py "proj")), (.str (py "active_states"), strings activeStates)])]

/-- What that comes to. -/
def sampleActive (activeStates : List Str) : EffectiveConfig :=
  { defaultConfig (py "/tmp/symphony_workspaces") with
    tracker := { (defaultConfig []).tracker with
      kind := some (py "linear"), apiKey := some (py "key"), projectSlug := some (py "proj")
      activeStates := activeStates } }

/-- **Misfits.** With "Todo" as the only active state, the default `start_state` takes an issue out of the active states,
and the next reconciliation terminates its worker. With "In Review" among the active states, the default `success_state`
leaves a finished issue eligible. Both configurations are valid. -/
theorem transitions_misfit :
    (∃ config, applyDefaults (sampleFrontMatter [py "Todo"]) (py "/tmp/symphony_workspaces") = .ok config ∧
      (validateForDispatch config).ok = true ∧
      sampleIssue "a" ∈ filterCandidates [sampleIssue "a"] (.initial config) config.tracker.activeStates
        config.tracker.terminalStates ∧
      ∃ s, config.tracker.startState = some s ∧
        py "a" ∈ (reconcileRunningWithTracker
          ((OrchestratorState.initial config).addRunning (freshEntry 0 (sampleIssue "a") 1 0))
          [{ sampleIssue "a" with state := s }] config.tracker.terminalStates
          config.tracker.activeStates).terminateWithoutCleanup) ∧
    ∃ config, applyDefaults (sampleFrontMatter [py "Todo", py "In Review"]) (py "/tmp/symphony_workspaces") = .ok config ∧
      (validateForDispatch config).ok = true ∧
      ∃ s, config.tracker.successState = some s ∧
        { sampleIssue "a" with state := s } ∈ filterCandidates [{ sampleIssue "a" with state := s }] (.initial config)
          config.tracker.activeStates config.tracker.terminalStates := by
  refine ⟨⟨sampleActive [py "Todo"], rfl, by decide +kernel, by decide +kernel, _, rfl, by decide +kernel⟩,
    sampleActive [py "Todo", py "In Review"], rfl, by decide +kernel, _, rfl, by decide +kernel⟩

end Sample

end RiverGang
