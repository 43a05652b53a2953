import RiverGang.Orchestrator.Steps

/-!
# Eligibility on the two ways to a dispatch

A tick filters the candidates, a retry looks for its issue in the list as the tracker gave it. So what a retry starts is
one of the issues that `filter_candidates` would let through exactly when the issue that it finds is `Eligible`: active
and not terminal, not running, and blocked by nothing but issues in terminal states.

* `retry_admits`: this, for every state and every list of candidates.
* `retry_inadmissible`: a run in which a retry starts an issue with an open blocker.
-/

namespace RiverGang

open Py Coop Task

section Service

variable [Unicode]

/-- What `filter_candidates` asks of an issue, its claim apart. -/
structure Eligible (w : World) (issue : Issue) : Prop where
  active : lower issue.state ∈ w.config.tracker.activeStates.map lower
  notTerminal : lower issue.state ∉ w.config.tracker.terminalStates.map lower
  notRunning : issue.id ∉ w.state.running
  unblocked : ∀ blocker ∈ issue.blockedBy, ∃ s, blocker.state = some s ∧
    lower s ∈ w.config.tracker.terminalStates.map lower

/-- `filter_candidates`, with the claim of one issue removed. -/
def admitted (w : World) (issueId : Str) (candidates : List Issue) : List Issue :=
  filterCandidates candidates (w.state.unclaim issueId) w.config.tracker.activeStates w.config.tracker.terminalStates

variable {w : World} {m : RetryTimerFired} {issue : Issue} {candidates : List Issue}

theorem hasNonTerminalBlocker_eq_false {terminalNorm : List Str} :
    hasNonTerminalBlocker issue terminalNorm = false ↔
      ∀ blocker ∈ issue.blockedBy, ∃ s, blocker.state = some s ∧ lower s ∈ terminalNorm := by
  rw [hasNonTerminalBlocker, List.any_eq_false]
  refine forall₂_congr fun blocker _ => ?_
  cases blocker.state with
  | none => simp
  | some s => simp

/-- The filter tests the issues one by one. -/
theorem mem_admitted : issue ∈ admitted w issue.id candidates ↔ issue ∈ candidates ∧ Eligible w issue := by
  rw [admitted, filterCandidates, List.mem_filter]
  refine and_congr_right fun _ => ?_
  have hclaim : (w.state.unclaim issue.id).isClaimed issue.id = false := by
    simp [OrchestratorState.isClaimed, OrchestratorState.unclaim]
  simp only [isCandidate, hclaim, Bool.not_false, Bool.and_true, Bool.and_eq_true, decide_eq_true_eq,
    Bool.not_eq_true', hasNonTerminalBlocker_eq_false]
  constructor
  · intro ⟨⟨⟨hterminal, hactive⟩, hrunning⟩, hblockers⟩
    exact ⟨hactive, hterminal, hrunning, hblockers⟩
  · intro h
    exact ⟨⟨⟨h.notTerminal, h.active⟩, h.notRunning⟩, h.unblocked⟩

/-! ## What a retry starts -/

/-- The tracker gives the candidates `candidates`, if it gives any. -/
def answeredBy (candidates : List Issue) : OrchDiscipline where
  event _ _ := True
  receive _ _ := True
  answer _ _ r x := ∀ given, candidatesOf r x = some given → given = candidates

/-- The issue that the timer of a retry finds room for. -/
structure Restarts (w : World) (m : RetryTimerFired) (candidates : List Issue) (issue : Issue) : Prop where
  scheduled : m.issueId ∈ w.retryQueue
  incomplete : m.issueId ∉ w.state.completed
  found : (candidates.find? fun c => c.id = m.issueId) = some issue
  slot : 0 < slotsFor issue.state w.state w.config.agent.maxConcurrentAgentsByState

theorem Restarts.id_eq (h : Restarts w m candidates issue) : issue.id = m.issueId := by
  simpa using List.find?_some h.found

/-- The workers that are new are on issues that meet `P`. -/
def StartsOnly (P : Issue → Prop) (w w' : World) : Prop := ∀ t ∈ w'.tasks.drop w.tasks.length, P t.issue

omit [Unicode] in
theorem StartsOnly.of_tasks {P : Issue → Prop} {w' : World} (h : w'.tasks = w.tasks) : StartsOnly P w w' := by
  intro t ht
  rw [h, List.drop_length] at ht
  cases ht

theorem startsOnly_schedule {P : Issue → Prop} {D : OrchDiscipline} {I : World → Prop} {i : Str} {attempt : Nat}
    {kind : RetryKind} {cap : Int} {lastError : Option Str} {v : World} (h : v.tasks = w.tasks) :
    (RetryQueue.schedule i attempt kind cap postRetryTimer lastError v).Sat (orchestrator.proto D (.retryTimerFired m)) I
      (fun _ => StartsOnly P w) (fun _ => StartsOnly P w) := by
  apply Res.Sat.of_sync (RetryQueue.schedule_sync v)
  · intro _ w' hs
    obtain ⟨_, -, rfl⟩ := RetryQueue.schedule_ret hs
    exact .of_tasks h
  · intro e w' hs
    obtain ⟨_, _, _, rfl, -⟩ := (RetryQueue.schedule_raise hs).1
    exact .of_tasks h

/-- A dispatch starts a worker on its issue, or none. -/
theorem startsOnly_dispatch {P : Issue → Prop} {D : OrchDiscipline} {I : World → Prop} {attempt : Nat} {v : World}
    (h : v.tasks = w.tasks) (hP : P issue) :
    (retryDispatchFn issue attempt v).Sat (orchestrator.proto D (.retryTimerFired m)) I
      (fun _ => StartsOnly P w) (fun _ => StartsOnly P w) := by
  have hdispatch : (dispatchIssue issue attempt v.config.agent.maxRetryBackoffMs v).Sat
      (orchestrator.proto D (.retryTimerFired m)) I (fun _ => StartsOnly P w) (fun _ => StartsOnly P w) := by
    apply Res.Sat.of_sync (dispatchIssue_sync issue attempt v.config.agent.maxRetryBackoffMs v)
    · intro _ w' hd
      rcases dispatchIssue_ret hd with ⟨-, rfl⟩ | ⟨_, _, -, rfl⟩
      · intro t ht
        rw [show (v.dispatched issue attempt).tasks = v.tasks ++ [⟨issue, attempt, v.config⟩] from rfl, h,
          List.drop_left, List.mem_singleton] at ht
        rw [ht]
        exact hP
      · exact .of_tasks h
    · intro e w' hd
      obtain ⟨_, -, _, _, _, rfl, -⟩ := dispatchIssue_raise hd
      exact .of_tasks h
  simp only [retryDispatchFn, bind_apply, get_apply, Res.bind_ret]
  exact hdispatch.bind fun _ _ hs => hs

/-- A retry starts the issue that it finds room for, or none. -/
theorem retry_startsOnly (w : World) (m : RetryTimerFired) (candidates : List Issue) :
    (handle (.retryTimerFired m) w).Sat (orchestrator.proto (answeredBy candidates) (.retryTimerFired m)) (fun _ => True)
      (fun _ => StartsOnly (Restarts w m candidates) w) (fun _ => StartsOnly (Restarts w m candidates) w) := by
  simp only [handle, onRetryTimer, fetchFilteredCandidates, bind_apply, get_apply, Res.bind_ret]
  cases hentry : w.retryQueue.get? m.issueId with
  | none => exact .of_tasks rfl
  | some entry =>
    simp only [bind_apply, modify_apply, Res.bind_ret]
    split
    · exact .of_tasks rfl
    · rename_i hincomplete
      refine Res.sat_request_bind.2 ⟨trivial, ?_⟩
      intro v x hdrift hanswer
      have hframe := drift_frame hdrift
      cases x with
      | error exc =>
        simp only [onException]
        split
        · exact startsOnly_schedule hframe.tasks
        · exact StartsOnly.of_tasks hframe.tasks
      | ok given =>
        have hgiven : given = candidates := hanswer given rfl
        subst hgiven
        dsimp only
        cases hfound : given.find? fun c => c.id = m.issueId with
        | none => exact StartsOnly.of_tasks hframe.tasks
        | some issue =>
          simp only [bind_apply, get_apply, Res.bind_ret]
          split
          · exact startsOnly_schedule hframe.tasks
          · rename_i hslot
            apply startsOnly_dispatch hframe.tasks
            rw [hframe.state] at hslot
            exact ⟨Dict.mem_of_get? hentry, hincomplete, hfound, Int.not_le.1 hslot⟩

/-- The tracker gives the candidates and a worker can be started: what the retry finds room for is started. -/
theorem Restarts.runs (h : Restarts w m candidates issue) : ∃ w' attempt config,
    Runs (orchestrator.proto (answeredBy candidates) (.retryTimerFired m)) (handle (.retryTimerFired m) w) (.ok ()) w' ∧
      w'.tasks = w.tasks ++ [⟨issue, attempt, config⟩] := by
  obtain ⟨entry, hentry⟩ := Dict.mem_iff_get?.1 h.scheduled
  let v : World := { w.popRetry m.issueId with spawnError := fun _ _ => none }
  have hdispatch : retryDispatchFn issue entry.attempt v = .ret () (v.dispatched issue entry.attempt) := by
    have hspawn : v.spawnError issue entry.attempt = none := rfl
    simp only [retryDispatchFn, bind_apply, get_apply, Res.bind_ret, dispatchIssue_of_none _ hspawn, pure_apply]
  have hslot : ¬slotsFor issue.state v.state w.config.agent.maxConcurrentAgentsByState ≤ 0 := Int.not_le.2 h.slot
  refine ⟨v.dispatched issue entry.attempt, entry.attempt, w.config, ?_, rfl⟩
  simp only [handle, onRetryTimer, fetchFilteredCandidates, bind_apply, get_apply, Res.bind_ret, hentry, modify_apply,
    h.incomplete, if_false]
  have hset : orchestrator.Drift (answeredBy candidates) (w.popRetry m.issueId) v :=
    .single ⟨.setSpawn fun _ _ => none, trivial, rfl⟩
  refine Runs.await hset (x := (.ok candidates : Except Exn (List Issue))) ?_ ?_
  · intro given hgiven
    cases hgiven
    rfl
  · simp only [Res.bind_ret, h.found, bind_apply, get_apply, hslot, if_false, hdispatch]
    exact .ret () _

/-- Whatever else happens while a retry waits for the candidates: the issues that it starts are ones that
`filter_candidates` lets through, exactly when the issue that it finds room for is eligible. -/
theorem retry_admits (w : World) (m : RetryTimerFired) (candidates : List Issue) :
    (∀ o w', Runs (orchestrator.proto (answeredBy candidates) (.retryTimerFired m)) (handle (.retryTimerFired m) w) o w' →
      ∀ t ∈ w'.tasks.drop w.tasks.length, t.issue ∈ admitted w m.issueId candidates) ↔
      ∀ issue, Restarts w m candidates issue → Eligible w issue := by
  constructor
  · intro h issue hr
    obtain ⟨w', attempt, config, hrun, htasks⟩ := hr.runs
    have hadmitted := h _ _ hrun ⟨issue, attempt, config⟩ (by rw [htasks, List.drop_left]; exact List.mem_singleton_self _)
    rw [← hr.id_eq, mem_admitted] at hadmitted
    exact hadmitted.2
  · intro h o w' hrun t ht
    have hstarts : StartsOnly (Restarts w m candidates) w w' := by
      have hpost := (retry_startsOnly w m candidates).runs hrun
      cases o with
      | ok _ => exact hpost
      | error _ => exact hpost
    have hr := hstarts t ht
    rw [← hr.id_eq, mem_admitted]
    exact ⟨List.mem_of_find?_eq_some hr.found, h t.issue hr⟩

end Service

section Sample

attribute [local instance] asciiTables

/-- The issue of the first tick, now blocked by one that is in progress. -/
def sampleBlocked : Issue :=
  { sampleIssue "a" with blockedBy := [⟨some (py "b"), some (py "b"), some (py "In Progress")⟩] }

/-- The attempt fails, and then its retry is due. -/
def sampleDue : List (Label OrchSig Event) :=
  [.event (.finish 0 ⟨py "turn failed", false, 1000000, some (py "turn failed")⟩), .recv, .event (.advance 20000000),
    .event (.fire 1)]

theorem sampleBlocked_not_eligible {w : World} (h : w.config.tracker.terminalStates = [py "Done"]) :
    ¬Eligible w sampleBlocked := by
  intro he
  obtain ⟨s, hs, hterminal⟩ := he.unblocked _ (List.mem_singleton_self _)
  cases hs
  rw [h] at hterminal
  exact absurd hterminal (by decide +kernel)

/-- **A retry of a blocked issue.** The service is idle, the timer of the retry has fired, and what the tracker gives
makes the retry start an issue that the filter does not let through. -/
theorem retry_inadmissible : ∃ (c : OrchConf) (m : RetryTimerFired) (w w' : World) (t : WorkerTask),
    Reachable .free c ∧ c.mode.isIdle = true ∧ c.state.recv = some (.retryTimerFired m, w) ∧
    Runs (orchestrator.proto (answeredBy [sampleBlocked]) (.retryTimerFired m)) (handle (.retryTimerFired m) w) (.ok ())
      w' ∧
    t ∈ w'.tasks.drop w.tasks.length ∧ t.issue ∉ admitted w m.issueId [sampleBlocked] := by
  have hrun : ((orchestrator.run sampleStart (sampleTick ++ sampleDue)).map fun c =>
      decide (c.mode.isIdle = true ∧ c.state.mailbox.map Message.retry? = [some ⟨py "a", 1⟩] ∧
        py "a" ∈ c.state.retryQueue ∧ py "a" ∉ c.state.state.completed ∧
        0 < slotsFor (py "Todo") c.state.state c.state.config.agent.maxConcurrentAgentsByState ∧
        c.state.config.tracker.terminalStates = [py "Done"])) = some true := by decide +kernel
  obtain ⟨c, hc, hd⟩ := Option.map_eq_some_iff.1 hrun
  obtain ⟨hidle, hmail, hscheduled, hincomplete, hslot, hterminal⟩ := of_decide_eq_true hd
  have hreach : Reachable .free c :=
    .run (.start sampleWorld_isInitial) (fun l _ => Discipline.always_free l) hc
  obtain ⟨msg, hbox, hmsg⟩ := List.map_eq_singleton_iff.1 hmail
  have hrecv : c.state.recv = some (.retryTimerFired ⟨py "a", 1⟩, { c.state with mailbox := [] }) := by
    rw [World.recv, hbox, Message.retry?_eq_some hmsg]
  have hr : Restarts { c.state with mailbox := [] } ⟨py "a", 1⟩ [sampleBlocked] sampleBlocked :=
    ⟨hscheduled, hincomplete, rfl, hslot⟩
  obtain ⟨w', attempt, config, hruns, htasks⟩ := hr.runs
  refine ⟨c, _, _, w', ⟨sampleBlocked, attempt, config⟩, hreach, hidle, hrecv, hruns, ?_, ?_⟩
  · rw [htasks, List.drop_left]
    exact List.mem_singleton_self _
  · rw [← hr.id_eq]
    intro hadmitted
    exact sampleBlocked_not_eligible (w := { c.state with mailbox := [] }) hterminal (mem_admitted.1 hadmitted).2

end Sample

end RiverGang
