import RiverGang.Worker.Report

/-!
# An attempt as the service sees it

The service of `Orchestrator/System.lean` knows of a worker only that it posts updates and settles. That is what an
attempt does: `attempt_drift` plays every run of an attempt as events of its task.
-/

namespace RiverGang

open Py Coop Task

/-- The worker whose doing an event is. -/
def Event.worker? : Event → Option Nat
  | .emit task _ | .finish task _ | .settleCancelled task | .settleRaised task => some task
  | _ => none

/-- The events of one worker, no others. -/
def byWorker (task : Nat) : OrchDiscipline where
  event _ e := e.worker? = some task
  receive _ _ := True
  answer _ _ _ _ := True

section Service

variable [Unicode]

namespace World

variable {w w' : World} {task : Nat} {issue : Issue}

/-- A task that emits its updates goes on working on its issue. -/
theorem drift_emits (ht : w.Attempting task) (hi : w.taskIssue task = some issue) : ∀ updates : List CodexUpdate,
    (∀ u ∈ updates, u.issueId = issue.id) →
      orchestrator.Drift (byWorker task) w { w with mailbox := w.mailbox ++ updates.map .codexUpdate } := by
  intro updates
  induction updates generalizing w with
  | nil =>
    intro _
    rw [List.map_nil, List.append_nil]
    exact .refl
  | cons u updates ih =>
    intro hu
    have he : event (.emit task u.event) w = some (w.post (.codexUpdate u)) := by
      obtain ⟨issueId, e⟩ := u
      have hid : issueId = issue.id := hu _ List.mem_cons_self
      simp [event, ht, hi, hid]
    have hrest := ih (w := w.post (.codexUpdate u)) ht hi fun v hv => hu v (List.mem_cons_of_mem _ hv)
    have hpost : (w.post (.codexUpdate u)).mailbox ++ updates.map .codexUpdate =
        w.mailbox ++ (u :: updates).map .codexUpdate := by
      simp [post]
    rw [← hpost]
    exact .head ⟨.emit task u.event, rfl, he⟩ hrest

end World

/-- **Every run of an attempt** with a client is one of the service's events for its task: its messages go to the mailbox
in their order, and the task settles. It ends by an exception only if its task was cancelled. -/
theorem attempt_drift {p : AttemptParams} (hclient : p.hasCodexClient || p.hasCodexClientFactory)
    (hstop : p.stopSession = anyStopSession ∨ p.stopSession = CodexClient.stopSession) {s s' : Attempt}
    (hs : s.log = []) {o : Except Exn Unit} (hr : Runs (outcomes fun _ => True) (runAgentAttempt p s) o s')
    {w : World} (hw : w.Attempting p.task) (hi : w.taskIssue p.task = some p.issue)
    (hc : ∀ e, o = .error e → p.task ∈ w.cancelled) :
    ∃ w', orchestrator.Drift (byWorker p.task) w w' ∧ w'.mailbox = w.mailbox ++ s'.posts ∧ p.task ∈ w'.settled := by
  have hquiet : StopsQuietly (fun _ => True) p.stopSession := by
    rcases hstop with h | h <;> rw [h]
    · exact anyStopSession_quiet
    · exact CodexClient.stopSession_quiet
  have hstart : Unstreamed p s.log := by
    rw [hs]
    exact ⟨⟨by simp, trivial⟩, rfl⟩
  have hpost := (runAgentAttempt_ends hquiet (fun _ _ => trivial) hclient hstart).runs hr
  cases o with
  | ok u =>
    obtain ⟨r, hlog⟩ := hpost
    obtain ⟨updates, hu, hposts⟩ := r.posts_eq
    have hemit := World.drift_emits hw hi updates hu
    have hexit : World.exitOf p.issue.id p.task ⟨r.exit.reason, r.exit.ok, r.exit.runtimeSeconds, r.exit.lastError⟩ =
        r.exit := by
      unfold World.exitOf
      rw [← r.issueId, ← r.about]
    have hfinish : World.event (.finish p.task ⟨r.exit.reason, r.exit.ok, r.exit.runtimeSeconds, r.exit.lastError⟩)
        { w with mailbox := w.mailbox ++ updates.map .codexUpdate } =
        some ((World.settle { w with mailbox := w.mailbox ++ updates.map .codexUpdate } p.task).post
          (.workerExit r.exit)) := by
      refine (if_pos hw).trans ?_
      show (w.taskIssue p.task).map _ = _
      rw [hi, Option.map_some, hexit]
    refine ⟨_, hemit.tail ⟨.finish p.task _, rfl, hfinish⟩, ?_, ?_⟩
    · show (w.mailbox ++ updates.map .codexUpdate) ++ [.workerExit r.exit] = _
      rw [Attempt.posts, hlog, hposts, List.append_assoc]
    · exact Finset.mem_insert_self p.task w.settled
  | error e =>
    obtain ⟨-, updates, hu, hposts⟩ := hpost
    have hemit := World.drift_emits hw hi updates hu
    refine ⟨_, hemit.tail ⟨.settleCancelled p.task, rfl, if_pos ⟨hw.1, hc e rfl⟩⟩, ?_, ?_⟩
    · show w.mailbox ++ updates.map .codexUpdate = _
      rw [Attempt.posts, hposts]
    · exact Finset.mem_insert_self _ _

end Service

section Sample

attribute [local instance] asciiTables

/-- The service with the worker of the attempt. -/
def attemptWorld : World :=
  { sampleWorld with tasks := [⟨sampleParams.issue, sampleParams.attempt, sampleParams.config⟩] }

/-- An attempt whose turn fails, as events. -/
theorem attempt_drift_sample : ∃ w', orchestrator.Drift (byWorker 0) attemptWorld w' ∧
    w'.mailbox = attemptWorld.mailbox ++ ((runAgentAttempt sampleParams sampleAttempt).exec turnFails.reply).2.posts ∧
    0 ∈ w'.settled := by
  have hrun := runs_exec (P := outcomes fun _ => True) (o := turnFails.reply) (fun s => ⟨s.now, rfl⟩)
    (fun _ _ _ _ => trivial) (runAgentAttempt sampleParams sampleAttempt)
  have hw : attemptWorld.Attempting 0 := by decide
  have hok : ((runAgentAttempt sampleParams sampleAttempt).exec turnFails.reply).1.isOk = true := by decide +kernel
  refine attempt_drift (p := sampleParams) rfl (.inr rfl) rfl hrun hw rfl fun e he => ?_
  rw [he] at hok
  cases hok

end Sample

end RiverGang
