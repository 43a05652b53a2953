import RiverGang.Orchestrator.Stalls

/-!
# The settings in use

`self.config`, and of it what `OrchestratorState` has a copy of: the global cap and the interval of the ticks. Two steps
of the dispatcher change them: a tick adopts what the holder has, and a `ConfigReloaded` its own configuration, with the
copies; and no step touches the holder or posts a `ConfigReloaded` (`Work.settings`).
-/

namespace RiverGang

open Py Coop Task

def Message.reload? : Message → Option EffectiveConfig
  | .configReloaded config => some config
  | _ => none

/-- The configurations that wait in the mailbox, oldest first. -/
def World.reloads (w : World) : List EffectiveConfig := w.mailbox.filterMap Message.reload?

/-- The configuration and the copies of it are as they were. -/
structure SameSettings (w w' : World) : Prop where
  config : w'.config = w.config
  cap : w'.state.maxConcurrentAgents = w.state.maxConcurrentAgents
  interval : w'.state.pollIntervalMs = w.state.pollIntervalMs

/-- The holder and the waiting configurations are as they were. -/
structure SameReloads (w w' : World) : Prop where
  holder : w'.workflowLoader = w.workflowLoader
  reloads : w'.reloads = w.reloads

namespace World

/-- The world after a `ConfigReloaded`. -/
def reconfigured (w : World) (config : EffectiveConfig) : World :=
  { w with
    config := config
    state := { w.state with
      pollIntervalMs := config.polling.intervalMs
      maxConcurrentAgents := config.agent.maxConcurrentAgents } }

theorem mem_reloads {w : World} {config : EffectiveConfig} :
    config ∈ w.reloads ↔ .configReloaded config ∈ w.mailbox := by
  unfold reloads
  rw [List.mem_filterMap]
  constructor
  · rintro ⟨m, hm, he⟩
    cases m with
    | configReloaded c => cases he; exact hm
    | pollTick | workerExit | codexUpdate | retryTimerFired | shutdown => cases he
  · exact fun h => ⟨_, h, rfl⟩

end World

/-- The configuration that a handler is about to adopt for its message. -/
def Phase.adopting : Phase → List EffectiveConfig
  | .handling (.configReloaded config) => [config]
  | _ => []

theorem Phase.Awaiting.adopting {φ : Phase} (h : φ.Awaiting) : φ.adopting = [] := by
  cases φ with
  | handling m =>
    cases m with
    | configReloaded => exact h.elim
    | pollTick | workerExit | codexUpdate | retryTimerFired | shutdown => rfl
  | loop | retry | done | crashed => rfl

variable {w w' w'' : World}

theorem SameSettings.refl (w : World) : SameSettings w w := ⟨rfl, rfl, rfl⟩

theorem SameSettings.trans (h : SameSettings w w') (h' : SameSettings w' w'') : SameSettings w w'' :=
  ⟨h'.config.trans h.config, h'.cap.trans h.cap, h'.interval.trans h.interval⟩

theorem SameSettings.of_frame (h : w.EventFrame w') : SameSettings w w' := ⟨h.config, by rw [h.state], by rw [h.state]⟩

/-- An event of the others, but for the watcher's, leaves the holder and the waiting configurations alone. -/
theorem event_sameReloads {e : Event} (hl : ∀ loader, e ≠ .setLoader loader) (hr : ∀ config, e ≠ .reload config)
    (h : World.event e w = some w') : SameReloads w w' := by
  have hpost : ∀ {m : Message}, m.reload? = none → (w.post m).reloads = w.reloads := by
    intro m hm
    simp [World.reloads, World.post, hm]
  cases e <;> simp only [World.event, Option.some.injEq, Option.map_eq_some_iff, Option.ite_none_right_eq_some] at h
  case setLoader loader => exact absurd rfl (hl loader)
  case reload config => exact absurd rfl (hr config)
  case advance | setSpawn => subst h; exact ⟨rfl, rfl⟩
  case refresh | shutdown => subst h; exact ⟨rfl, hpost rfl⟩
  case fire =>
    obtain ⟨t, -, rfl⟩ := h
    refine ⟨rfl, ?_⟩
    unfold World.reloads World.postAll Timer.message?
    rw [List.filterMap_append]
    cases t.callback <;> exact List.append_nil _
  case emit | finish =>
    obtain ⟨-, issue, -, rfl⟩ := h
    exact ⟨rfl, hpost rfl⟩
  case settleCancelled | settleRaised | beginCleanup | endCleanup =>
    obtain ⟨-, rfl⟩ := h
    exact ⟨rfl, rfl⟩

/-! ## Steps -/

theorem unscheduled_settings {i : Str} (h : w.Unscheduled i w') : SameReloads w w' ∧ SameSettings w w' := by
  obtain ⟨q, ts, n, rfl, -⟩ := h
  exact ⟨⟨rfl, rfl⟩, rfl, rfl, rfl⟩

theorem dispatchIssue_settings {issue : Issue} {attempt : Nat} {cap : Int} {r : Option RunningEntry}
    (h : dispatchIssue issue attempt cap w = .ret r w') : SameReloads w w' ∧ SameSettings w w' := by
  rcases dispatchIssue_ret h with ⟨-, rfl⟩ | ⟨exc, delay, -, rfl⟩ <;> exact ⟨⟨rfl, rfl⟩, rfl, rfl, rfl⟩

theorem dispatchIssue_error_settings {issue : Issue} {attempt : Nat} {cap : Int} {e : Exn}
    (h : dispatchIssue issue attempt cap w = .raise e w') : SameReloads w w' ∧ SameSettings w w' := by
  obtain ⟨claimed, -, hu⟩ := dispatchIssue_raise h
  obtain ⟨q, ts, n, rfl, -⟩ := hu
  exact ⟨⟨rfl, rfl⟩, rfl, rfl, rfl⟩

theorem exited_settings (w : World) (m : WorkerExit) : SameReloads w (w.exited m) ∧ SameSettings w (w.exited m) := by
  unfold World.exited
  split <;> exact ⟨⟨rfl, rfl⟩, rfl, rfl, rfl⟩

section Service

variable [Unicode] {D : OrchDiscipline} {φ φ' : Phase}

theorem Crash.settings {e : Exn} (h : Crash D w φ e w') :
    SameReloads w w' ∧ SameSettings w w' ∧ φ.adopting = [] := by
  have hsame : SameReloads w w ∧ SameSettings w w := ⟨⟨rfl, rfl⟩, rfl, rfl, rfl⟩
  cases h with
  | answer hφ => exact ⟨hsame.1, hsame.2, hφ.adopting⟩
  | loader | sort | inputs | questions => exact ⟨hsame.1, hsame.2, rfl⟩
  | interval hφ hs =>
    obtain ⟨rfl, -⟩ := scheduleNextTick_error hs
    exact ⟨hsame.1, hsame.2, hφ.adopting⟩
  | dispatch _ hd =>
    obtain ⟨hr, hs⟩ := dispatchIssue_error_settings hd
    exact ⟨⟨hr.holder, hr.reloads⟩, ⟨hs.config, hs.cap, hs.interval⟩, rfl⟩
  | exit hx =>
    obtain ⟨entry, -, hu, -⟩ := onWorkerExit_raise hx
    obtain ⟨hr, hs⟩ := exited_settings w _
    obtain ⟨hr', hs'⟩ := unscheduled_settings hu
    exact ⟨⟨hr'.holder.trans hr.holder, hr'.reloads.trans hr.reloads⟩, hs.trans hs', rfl⟩
  | reschedule hs =>
    obtain ⟨hr, hs⟩ := unscheduled_settings (RetryQueue.schedule_raise hs).1
    exact ⟨hr, hs, rfl⟩
  | redispatch _ _ hd =>
    obtain ⟨hr, hs⟩ := dispatchIssue_error_settings hd
    exact ⟨hr, hs, rfl⟩

/-- **The step lemma.** A step leaves the holder and the waiting configurations; and it leaves the settings, or a tick
adopts the configuration in the holder, or a `ConfigReloaded` its own. -/
theorem Work.settings (h : Work D w φ w' φ') : SameReloads w w' ∧
    (SameSettings w w' ∧ φ.adopting = [] ∧ φ'.adopting = [] ∨
    (∃ config, φ = .handling .pollTick ∧ φ' = .handling .pollTick ∧ w.workflowLoader = .ok (some config) ∧
      w' = { w with config := config }) ∨
    ∃ config, φ = .handling (.configReloaded config) ∧ φ' = .done (.configReloaded config) ∧
      w' = w.reconfigured config) := by
  cases h with
  | adopt hl => exact ⟨⟨rfl, rfl⟩, .inr (.inl ⟨_, rfl, rfl, hl, rfl⟩)⟩
  | reload => exact ⟨⟨rfl, rfl⟩, .inr (.inr ⟨_, rfl, rfl, rfl⟩)⟩
  | stall =>
    have hm : ∀ x, (Message.workerExit x).reload? = none := fun _ => rfl
    exact ⟨⟨rfl, by simp [World.reloads, World.reapStalled, World.post, World.terminateWorkerHandle, hm]⟩,
      .inl ⟨⟨rfl, rfl, rfl⟩, rfl, rfl⟩⟩
  | terminateWithCleanup | terminateWithoutCleanup | refresh | eligible | skip | rewait | noEntry | completed | popRetry
    | release => exact ⟨⟨rfl, rfl⟩, .inl ⟨⟨rfl, rfl, rfl⟩, rfl, rfl⟩⟩
  | dispatch _ hd =>
    obtain ⟨hr, hs⟩ := dispatchIssue_settings hd
    exact ⟨⟨hr.holder, hr.reloads⟩, .inl ⟨⟨hs.config, hs.cap, hs.interval⟩, rfl, rfl⟩⟩
  | redispatch _ _ hd =>
    obtain ⟨hr, hs⟩ := dispatchIssue_settings hd
    exact ⟨hr, .inl ⟨hs, rfl, rfl⟩⟩
  | skipTick ht | endLoop ht =>
    rw [scheduleNextTick_ret ht, World.tickScheduled_eq]
    exact ⟨⟨rfl, rfl⟩, .inl ⟨⟨rfl, rfl, rfl⟩, rfl, rfl⟩⟩
  | @exit _ m hx =>
    rcases onWorkerExit_ret hx with ⟨-, rfl⟩ | ⟨entry, delay, -, rfl⟩
    · exact ⟨⟨rfl, rfl⟩, .inl ⟨.refl _, rfl, rfl⟩⟩
    · obtain ⟨hr, hs⟩ := exited_settings w m
      exact ⟨⟨hr.holder, hr.reloads⟩, .inl ⟨⟨hs.config, hs.cap, hs.interval⟩, rfl, rfl⟩⟩
  | @update m =>
    rcases onCodexUpdate_cases w m with hu | ⟨entry, totals, limits, -, hu⟩ <;> rw [hu] <;>
      exact ⟨⟨rfl, rfl⟩, .inl ⟨⟨rfl, rfl, rfl⟩, rfl, rfl⟩⟩
  | shutdown =>
    rw [World.tickCancelled_eq]
    exact ⟨⟨rfl, rfl⟩, .inl ⟨⟨rfl, rfl, rfl⟩, rfl, rfl⟩⟩
  | reschedule hs =>
    obtain ⟨d, -, rfl⟩ := RetryQueue.schedule_ret hs
    exact ⟨⟨rfl, rfl⟩, .inl ⟨⟨rfl, rfl, rfl⟩, rfl, rfl⟩⟩
  | crash hc =>
    obtain ⟨hr, hs, hφ⟩ := hc.settings
    exact ⟨hr, .inl ⟨hs, hφ, rfl⟩⟩

end Service

end RiverGang
