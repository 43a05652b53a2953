import RiverGang.Orchestrator.Dispatch

/-!
# Reconciliation

`orchestrator/reconcile.py`: which running entries have stalled, and what a refreshed list of issues says about each.
-/

namespace RiverGang

open Py Coop

def detectStalls (state : OrchestratorState) (now : Instant) (stallTimeoutMs : Int) : List Str :=
  if stallTimeoutMs ≤ 0 then []
  else (state.running.entries.filter fun p =>
    shouldTerminateForStall now p.2.lastCodexTimestamp p.2.startedAt stallTimeoutMs).map Prod.fst

structure ReconcileActions where
  terminateWithCleanup : List Str
  terminateWithoutCleanup : List Str
  updateSnapshot : List (Str × Issue)

variable [Unicode]

/-- What becomes of one running entry. -/
inductive Verdict
  | terminateWithCleanup
  | terminateWithoutCleanup
  | updateSnapshot (refreshed : Issue)

/-- The issue that a refreshed list has under an id: the last one. -/
def refreshedById (refreshedIssues : List Issue) (issueId : Str) : Option Issue :=
  refreshedIssues.reverse.find? fun issue => issue.id = issueId

/-- Terminal goes before active; a missing issue is neither. -/
def classify (refreshedIssues : List Issue) (terminalStates activeStates : List Str) (issueId : Str) : Verdict :=
  match refreshedById refreshedIssues issueId with
  | none => .terminateWithoutCleanup
  | some refreshed =>
    if lower refreshed.state ∈ terminalStates.map lower then .terminateWithCleanup
    else if lower refreshed.state ∈ activeStates.map lower then .updateSnapshot refreshed
    else .terminateWithoutCleanup

def reconcileRunningWithTracker (state : OrchestratorState) (refreshedIssues : List Issue)
    (terminalStates activeStates : List Str) : ReconcileActions :=
  let verdict := classify refreshedIssues terminalStates activeStates
  { terminateWithCleanup := state.running.keys.filter fun i => verdict i matches .terminateWithCleanup
    terminateWithoutCleanup := state.running.keys.filter fun i => verdict i matches .terminateWithoutCleanup
    updateSnapshot := state.running.keys.filterMap fun i =>
      match verdict i with
      | .updateSnapshot refreshed => some (i, refreshed)
      | _ => none }

/-- A snapshot is of the issue it is stored for. -/
theorem classify_updateSnapshot {refreshedIssues : List Issue} {terminalStates activeStates : List Str} {i : Str}
    {refreshed : Issue} (h : classify refreshedIssues terminalStates activeStates i = .updateSnapshot refreshed) :
    refreshed.id = i := by
  unfold classify at h
  split at h
  · cases h
  · rename_i r hr
    split at h
    · cases h
    · split at h
      · cases h
        simpa using List.find?_some hr
      · cases h

end RiverGang
