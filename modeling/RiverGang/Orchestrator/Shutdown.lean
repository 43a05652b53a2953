import RiverGang.Lib.Queue
import RiverGang.Orchestrator.Settings

/-!
# The mailbox, and the `Shutdown` in it

`orchestrator/mailbox.py` is a queue: the dispatcher takes its head, and everybody else adds to its end. So messages are
handled in the order in which they were posted.

* `Work.mailbox`: the steps of the dispatcher add to the end as well.
* `shutdown_prompt`: what is posted is handled after all that waited then and before all that comes later, and a
  `Shutdown` ends the dispatcher after just the messages that waited when it came.
-/

namespace RiverGang

open Py Coop

/-- What an event posts. -/
def Event.posts (w : World) : Event → List Message
  | .fire handle => ((w.timers.find? fun t => t.handle = handle ∧ t.due ≤ w.now).bind Timer.message?).toList
  | .refresh => [.pollTick]
  | .reload config => [.configReloaded config]
  | .emit task event => ((w.taskIssue task).map fun issue => .codexUpdate ⟨issue.id, event⟩).toList
  | .finish task report =>
    ((w.taskIssue task).map fun issue => .workerExit (World.exitOf issue.id task report)).toList
  | .shutdown => [.shutdown]
  | .advance _ | .setLoader _ | .setSpawn _ | .settleCancelled _ | .settleRaised _ | .beginCleanup _ | .endCleanup _ => []

theorem event_mailbox {e : Event} {w w' : World} (h : World.event e w = some w') : w'.mailbox = w.mailbox ++ e.posts w := by
  cases e <;> simp only [World.event, Option.some.injEq, Option.map_eq_some_iff, Option.ite_none_right_eq_some] at h
  case advance | setLoader | setSpawn => subst h; exact (List.append_nil _).symm
  case refresh | reload | shutdown => subst h; rfl
  case fire handle =>
    obtain ⟨t, ht, rfl⟩ := h
    simp only [Event.posts, ht, Option.bind_some]
    rfl
  case emit | finish =>
    obtain ⟨-, issue, hi, rfl⟩ := h
    simp only [Event.posts, hi, Option.map_some]
    rfl
  case settleCancelled | settleRaised | beginCleanup | endCleanup =>
    obtain ⟨-, rfl⟩ := h
    exact (List.append_nil _).symm

/-! ## Steps -/

variable {w w' : World}

theorem unscheduled_mailbox {i : Str} (h : w.Unscheduled i w') : w'.mailbox = w.mailbox := by
  obtain ⟨q, ts, n, rfl, -⟩ := h
  rfl

theorem exited_mailbox (w : World) (m : WorkerExit) : (w.exited m).mailbox = w.mailbox := by rw [World.exited_eq]

section Service

variable [Unicode] {D : OrchDiscipline} {φ φ' : Phase}

theorem Crash.mailbox {e : Exn} (h : Crash D w φ e w') : w'.mailbox = w.mailbox := by
  cases h with
  | answer | loader | sort | inputs | questions => rfl
  | interval hφ hs =>
    obtain ⟨rfl, -⟩ := scheduleNextTick_error hs
    rfl
  | dispatch _ hd | redispatch _ _ hd =>
    obtain ⟨claimed, -, hu⟩ := dispatchIssue_raise hd
    have hmailbox := unscheduled_mailbox hu
    exact hmailbox
  | exit hx =>
    obtain ⟨entry, -, hu, -⟩ := onWorkerExit_raise hx
    exact (unscheduled_mailbox hu).trans (exited_mailbox w _)
  | reschedule hs => exact unscheduled_mailbox (RetryQueue.schedule_raise hs).1

/-- **The step lemma.** A step of the dispatcher adds to the end of the mailbox, if anything. -/
theorem Work.mailbox (h : Work D w φ w' φ') : w.mailbox <+: w'.mailbox := by
  cases h with
  | stall => exact List.prefix_append _ _
  | terminateWithCleanup | terminateWithoutCleanup | refresh | adopt | eligible | skip | rewait | update | reload
    | noEntry | completed | popRetry | release => exact List.prefix_rfl
  | skipTick ht | endLoop ht =>
    rw [scheduleNextTick_ret ht, World.tickScheduled_eq]
  | dispatch _ hd | redispatch _ _ hd =>
    rcases dispatchIssue_ret hd with ⟨-, rfl⟩ | ⟨exc, delay, -, rfl⟩ <;> exact List.prefix_rfl
  | exit hx =>
    rcases onWorkerExit_ret hx with ⟨-, rfl⟩ | ⟨entry, delay, -, rfl⟩
    · exact List.prefix_rfl
    · change w.mailbox <+: (w.exited _).mailbox
      rw [exited_mailbox]
  | shutdown => rw [World.tickCancelled_eq]
  | reschedule hs =>
    obtain ⟨d, -, rfl⟩ := RetryQueue.schedule_ret hs
    exact List.prefix_rfl
  | crash hc => rw [hc.mailbox]

theorem mailbox_queued (D : OrchDiscipline) :
    Queued (handlerPhases D) orchestrator D World.mailbox fun w e => e.posts w where
  next hn := (recv_eq hn).2
  event he := event_mailbox he
  work hw := hw.mailbox

theorem stopsAtOnce : orchestrator.StopsAtOnce := by
  intro m s hm
  cases m with
  | shutdown => exact ⟨s.tickCancelled, cancelNextTick_eq s⟩
  | pollTick | workerExit | codexUpdate | retryTimerFired | configReloaded => cases hm

/-! ## Every run -/

omit [Unicode] in
theorem stops_iff {m : Message} : m.stops = true ↔ m = .shutdown := by
  cases m <;> simp [Message.stops]

/-- **The order of the messages**: in every run, whatever is posted at some point is handled after all that waited then, and
before all that is posted later; and a `Shutdown`, where none waited, is handled after just those messages that did: no
other is, and the dispatcher has stopped exactly if all of them are. -/
theorem shutdown_prompt {init : World → Prop} {past₁ past₂ : List (OrchConf × Label OrchSig Event)} {c₁ c : OrchConf}
    {e : Event} (h : orchestrator.Trace D init (past₁ ++ (c₁, .event e) :: past₂) c) :
    c₁.state.mailbox ++ e.posts c₁.state <+: taken (orchestrator.history past₂) ++ c.state.mailbox ∧
    (e = .shutdown → .shutdown ∉ c₁.state.mailbox →
      taken (orchestrator.history past₂) <+: c₁.state.mailbox ++ [.shutdown] ∧
      (c.mode = .stopped ↔ taken (orchestrator.history past₂) = c₁.state.mailbox ++ [.shutdown])) := by
  constructor
  · refine (mailbox_queued D).served (handlers_follow D) h (orchestrator.history past₁) _ _ _ ?_
    simp only [Server.history, List.filterMap_append, List.filterMap_cons]
    rfl
  · rintro rfl hfirst
    refine (mailbox_queued D).prompt (handlers_follow D) stopsAtOnce h rfl rfl fun m hm => ?_
    rw [Bool.eq_false_iff]
    exact fun hs => hfirst (stops_iff.1 hs ▸ hm)

end Service

section Sample

attribute [local instance] asciiTables

/-- Two ticks wait when the `Shutdown` comes, and a third is asked for after it. -/
def shutdownRun : List (Label OrchSig Event) :=
  [.event .refresh, .recv, Answers.resume {}, .recv, Answers.resume {}, .recv]

theorem shutdown_prompt_sample : ∃ past₁ c₁ past₂ c,
    orchestrator.Trace .free World.IsInitial (past₁ ++ (c₁, .event .shutdown) :: past₂) c ∧
    c₁.state.mailbox.length = 2 ∧ c.state.mailbox.length = 1 ∧
    taken (orchestrator.history past₂) = c₁.state.mailbox ++ [.shutdown] := by
  have hrun : ((orchestrator.run sampleStart [.event .refresh]).bind fun c₁ =>
      (orchestrator.step c₁ (.event .shutdown)).bind fun c₂ => (orchestrator.run c₂ shutdownRun).map fun c =>
        (c₁.state.mailbox.length, c₁.state.mailbox.any Message.stops, c.mode.isStopped, c.state.mailbox.length)) =
      some (2, false, true, 1) := by decide +kernel
  obtain ⟨c₁, hc₁, hrun⟩ := Option.bind_eq_some_iff.1 hrun
  obtain ⟨c₂, hc₂, hrun⟩ := Option.bind_eq_some_iff.1 hrun
  obtain ⟨c, hc, hrun⟩ := Option.map_eq_some_iff.1 hrun
  simp only [Prod.mk.injEq] at hrun
  obtain ⟨hlength, hstops, hstopped, hleft⟩ := hrun
  have htrace := ((Server.Trace.start sampleWorld_isInitial).run (fun l _ => Discipline.always_free l) hc₁).step
    (D := .free) (l := .event .shutdown) trivial hc₂
  have htrace := htrace.run (fun l _ => Discipline.always_free l) hc
  rw [List.append_assoc] at htrace
  refine ⟨_, c₁, _, c, htrace, hlength, hleft, ?_⟩
  have hfirst : Message.shutdown ∉ c₁.state.mailbox := by
    intro hm
    have hany : c₁.state.mailbox.any Message.stops = true := List.any_eq_true.2 ⟨_, hm, rfl⟩
    rw [hany] at hstops
    cases hstops
  exact ((shutdown_prompt htrace).2 rfl hfirst).2.1 (Mode.isStopped_iff.1 hstopped)

end Sample

end RiverGang
