import RiverGang.Orchestrator.Workers

/-!
# The running entries from step to step

Apart from the updates, a step of a handler leaves the running entries as they are, but for entries that are gone and for
their issues, which a refresh replaces; and it may start one attempt (`Work.carried`).
-/

namespace RiverGang

open Py Coop

variable {w w' : World}

/-- The attempts go on: entries may be gone, and their issues may be new. -/
structure Carried (w w' : World) : Prop where
  totals : w'.state.codexTotals = w.state.codexTotals
  tasks : w'.tasks = w.tasks
  entries : ∀ i entry', w'.state.running.get? i = some entry' → ∃ entry, w.state.running.get? i = some entry ∧
    ∃ issue, entry' = { entry with issue := issue }

theorem Carried.of_running (hr : w'.state.running = w.state.running)
    (hc : w'.state.codexTotals = w.state.codexTotals) (ht : w'.tasks = w.tasks) : Carried w w' where
  totals := hc
  tasks := ht
  entries i entry' h := ⟨entry', by rwa [← hr], entry'.issue, rfl⟩

theorem Carried.of_state (hs : w'.state = w.state) (ht : w'.tasks = w.tasks) : Carried w w' :=
  .of_running (by rw [hs]) (by rw [hs]) ht

theorem Carried.trans {w'' : World} (h : Carried w w') (h' : Carried w' w'') : Carried w w'' where
  totals := h'.totals.trans h.totals
  tasks := h'.tasks.trans h.tasks
  entries i entry'' he := by
    obtain ⟨entry', he', issue', rfl⟩ := h'.entries i entry'' he
    obtain ⟨entry, he'', issue, rfl⟩ := h.entries i entry' he'
    exact ⟨entry, he'', issue', rfl⟩

theorem Carried.unscheduled {i : Str} (h : w.Unscheduled i w') : Carried w w' := by
  obtain ⟨q, ts, n, rfl, -⟩ := h
  exact .of_state rfl rfl

theorem carried_refreshEntry {i : Str} {entry : RunningEntry} (he : w.state.running.get? i = some entry) (issue : Issue) :
    Carried w (w.refreshEntry i entry issue) where
  totals := rfl
  tasks := rfl
  entries j entry' h := by
    rcases Dict.eq_or_of_get?_insert h with ⟨rfl, rfl⟩ | h
    · exact ⟨entry, he, issue, rfl⟩
    · exact ⟨entry', h, entry'.issue, rfl⟩

theorem carried_exited (w : World) (m : WorkerExit) : Carried w (w.exited m) where
  totals := by
    unfold World.exited
    cases m.ok <;> rfl
  tasks := by rw [World.exited_eq]
  entries j entry h := ⟨entry, World.get?_of_exited h, entry.issue, rfl⟩

theorem carried_dispatchIssue_raise {issue : Issue} {attempt : Nat} {cap : Int} {e : Exn}
    (h : dispatchIssue issue attempt cap w = .raise e w') : Carried w w' := by
  obtain ⟨claimed, -, hu⟩ := dispatchIssue_raise h
  have hclaim : Carried w (w.onState fun s => { s with claimed := claimed }) := .of_running rfl rfl rfl
  exact hclaim.trans (.unscheduled hu)

theorem carried_popWaiting (w : World) (i : Str) : Carried w (w.onState (·.popWaiting i)) := .of_running rfl rfl rfl

theorem carried_scheduleNextTick (w : World) : Carried w w.tickScheduled := by
  rw [World.tickScheduled_eq]
  exact .of_state rfl rfl

/-- The attempts go on, and perhaps one is started. -/
inductive Continued (w w' : World) : Prop
  | carried : Carried w w' → Continued w w'
  | started {v : World} (issue : Issue) (attempt : Nat) : Carried w v → w' = v.dispatched issue attempt → Continued w w'

theorem continued_dispatchIssue {issue : Issue} {attempt : Nat} {cap : Int} {r : Option RunningEntry}
    (h : dispatchIssue issue attempt cap w = .ret r w') : Continued w w' := by
  rcases dispatchIssue_ret h with ⟨-, rfl⟩ | ⟨_, _, -, rfl⟩
  · exact .started issue attempt (.of_state rfl rfl) rfl
  · exact .carried (.of_running rfl rfl rfl)

theorem Continued.of_carried {v : World} (h : Carried w v) (h' : Continued v w') : Continued w w' := by
  cases h' with
  | carried hk => exact .carried (h.trans hk)
  | started issue attempt hk he => exact .started issue attempt (h.trans hk) he

section Service

variable [Unicode] {D : OrchDiscipline} {φ φ' : Phase}

theorem Crash.carried {e : Exn} (h : Crash D w φ e w') : Carried w w' := by
  cases h with
  | answer | loader | sort | inputs | questions => exact .of_state rfl rfl
  | interval _ ht =>
    rw [(scheduleNextTick_error ht).1]
    exact .of_state rfl rfl
  | dispatch _ hd => exact (carried_popWaiting w _).trans (carried_dispatchIssue_raise hd)
  | exit hx =>
    obtain ⟨_, -, hu, -⟩ := onWorkerExit_raise hx
    exact (carried_exited w _).trans (.unscheduled hu)
  | reschedule hs => exact .unscheduled (RetryQueue.schedule_raise hs).1
  | redispatch _ _ hd => exact carried_dispatchIssue_raise hd

/-- **The step lemma.** -/
theorem Work.continued (h : Work D w φ w' φ') (hφ : ∀ m, φ ≠ .handling (.codexUpdate m)) : Continued w w' := by
  cases h with
  | stall | terminateWithCleanup | terminateWithoutCleanup => exact .carried (.of_state rfl rfl)
  | refresh he _ => exact .carried (carried_refreshEntry he _)
  | adopt | eligible | skip | rewait => exact .carried (.of_running rfl rfl rfl)
  | skipTick ht | endLoop ht =>
    rw [scheduleNextTick_ret ht]
    exact .carried (carried_scheduleNextTick w)
  | dispatch _ hd => exact .of_carried (carried_popWaiting w _) (continued_dispatchIssue hd)
  | exit hx =>
    rcases onWorkerExit_ret hx with ⟨-, rfl⟩ | ⟨_, _, -, rfl⟩
    · exact .carried (.of_state rfl rfl)
    · exact .carried ((carried_exited w _).trans (.of_running rfl rfl rfl))
  | @update m => exact absurd rfl (hφ m)
  | reload => exact .carried (.of_running rfl rfl rfl)
  | shutdown =>
    rw [World.tickCancelled_eq]
    exact .carried (.of_state rfl rfl)
  | noEntry | completed | popRetry | release => exact .carried (.of_running rfl rfl rfl)
  | reschedule hs =>
    obtain ⟨_, -, rfl⟩ := RetryQueue.schedule_ret hs
    exact .carried (.of_state rfl rfl)
  | redispatch _ _ hd => exact continued_dispatchIssue hd
  | crash hc => exact .carried hc.carried

end Service

/-! ## Updates -/

section Update

variable {m : CodexUpdate} {entry : RunningEntry}

theorem get?_onCodexUpdate {state : OrchestratorState} (hr : state.running.get? m.issueId = some entry) (j : Str) :
    (onCodexUpdate state m).running.get? j =
      if m.issueId = j then some (entry.updated m.event) else state.running.get? j := by
  simp only [onCodexUpdate, hr]
  exact Dict.get?_insert ..

theorem onCodexUpdate_of_none {state : OrchestratorState} (hr : state.running.get? m.issueId = none) :
    onCodexUpdate state m = state := by
  simp only [onCodexUpdate, hr]

end Update

/-! ## What the updates of a run come to -/

/-- An account of the entries in terms of the messages so far: a step that is no update keeps it, an update continues it
by its message, and it takes no notice of other messages. -/
structure Accounts (J : List (World × Message) → World → Prop) : Prop where
  continued : ∀ {rs w w'}, J rs w → Continued w w' → J rs w'
  update : ∀ {rs w v m}, J rs w → w.register.Sound → v.state = w.state →
    J (rs ++ [(v, .codexUpdate m)]) (w.onState (onCodexUpdate · m))
  other : ∀ {rs w v m}, J rs w → v.state = w.state → (∀ m', m ≠ .codexUpdate m') → J (rs ++ [(v, m)]) w

section Runs

variable [Unicode] {D : OrchDiscipline} {φ φ' : Phase} {J : List (World × Message) → World → Prop}
  {rs : List (World × Message)}

/-- The account in a phase: an update that is received and not yet handled is among the messages already. -/
def AccountIn (J : List (World × Message) → World → Prop) (rs : List (World × Message)) : Phase → World → Prop
  | .handling (.codexUpdate m), w => ∃ rs₀ v, rs = rs₀ ++ [(v, .codexUpdate m)] ∧ v.state = w.state ∧ J rs₀ w
  | _, w => J rs w

omit [Unicode] in
theorem accountIn_iff (h : ∀ m, φ ≠ .handling (.codexUpdate m)) : AccountIn J rs φ w ↔ J rs w := by
  unfold AccountIn
  split
  · exact absurd rfl (h _)
  · rfl

theorem Work.ne_update (h : Work D w φ w' φ') (m : CodexUpdate) : φ' ≠ .handling (.codexUpdate m) := by
  cases h <;> simp

omit [Unicode] in
theorem Phase.Awaiting.ne_update (h : φ.Awaiting) (m : CodexUpdate) : φ ≠ .handling (.codexUpdate m) := by
  rintro rfl
  exact h

omit [Unicode] in
theorem Accounts.of_state (hJ : Accounts J) (hs : w'.state = w.state) (ht : w'.tasks = w.tasks) (h : J rs w) : J rs w' :=
  hJ.continued h (.carried (.of_state hs ht))

theorem Accounts.keeps (hJ : Accounts J) (D : OrchDiscipline) (rs : List (World × Message)) :
    (handlerPhases D).Keeps orchestrator D fun φ w => w.register.Sound ∧ AccountIn J rs φ w where
  work := by
    intro w w' φ φ' ⟨hsound, hb⟩ hw
    refine ⟨hw.register.1.sound hsound, (accountIn_iff hw.ne_update).2 ?_⟩
    by_cases hφ : ∃ m, φ = .handling (.codexUpdate m)
    · obtain ⟨m, rfl⟩ := hφ
      obtain ⟨rs₀, v, rfl, hv, hb⟩ := hb
      cases hw with
      | update => exact hJ.update hb hsound hv
      | crash hc =>
        cases hc with
        | answer hawait | interval hawait => exact hawait.elim
    · have hne : ∀ m, φ ≠ .handling (.codexUpdate m) := fun m h => hφ ⟨m, h⟩
      exact hJ.continued ((accountIn_iff hne).1 hb) (hw.continued hne)
  event := by
    intro w w' φ e ⟨hsound, hb⟩ hawait _ he
    have hf := event_frame he
    have hb' := (accountIn_iff hawait.ne_update).1 hb
    exact ⟨sound_event he hsound, (accountIn_iff hawait.ne_update).2 (hJ.of_state hf.state hf.tasks hb')⟩

omit [Unicode] in
/-- A message is among the messages when it is received. -/
theorem Accounts.receive (hJ : Accounts J) {v : World} {m : Message} (h : J rs v) (hr : v.recv = some (m, w)) :
    AccountIn J (rs ++ [(v, m)]) (.handling m) w := by
  obtain ⟨hw, -⟩ := recv_eq hr
  have hs : v.state = w.state := by rw [hw]
  have hb : J rs w := hJ.of_state hs.symm (by rw [hw]) h
  cases m with
  | codexUpdate m => exact ⟨rs, v, rfl, hs, hb⟩
  | pollTick | workerExit | retryTimerFired | configReloaded | shutdown => exact hJ.other hb hs (by simp)

/-- **The rule**: what accounts for the updates says so of every run. -/
theorem Accounts.trace (hJ : Accounts J) (hinit : ∀ w, w.IsInitial → J [] w)
    {past : List (OrchConf × Label OrchSig Event)} {c : OrchConf} (h : orchestrator.Trace D World.IsInitial past c) :
    J (orchestrator.receipts past) c.state := by
  have hs := Phases.trace_says (J := fun rs w => w.register.Sound ∧ J rs w)
    (K := fun rs φ w => w.register.Sound ∧ AccountIn J rs φ w) (handlers_simulate D) (hJ.keeps D)
    (fun w hw => ⟨hw.sound, hinit w hw⟩) ?_ ?_ (fun _ _ _ _ hb => hb) h
  · obtain ⟨w, mode⟩ := c
    cases mode with
    | idle => exact hs.2
    | stopped =>
      obtain ⟨_, -, -, hb⟩ := hs
      exact hb
    | busy m r k =>
      obtain ⟨_, _, hawait, -, -, hb⟩ := hs
      exact (accountIn_iff hawait.ne_update).1 hb
    | crashed => exact hs.2
  · intro rs w e w' ⟨hsound, hb⟩ _ he
    exact ⟨sound_event he hsound, hJ.of_state (event_frame he).state (event_frame he).tasks hb⟩
  · intro rs w m w' ⟨hsound, hb⟩ hr _
    exact ⟨sound_recv hr hsound, hJ.receive hb hr⟩

end Runs

end RiverGang
