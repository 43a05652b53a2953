import RiverGang.Orchestrator.Workers

/-!
# Which attempt an exit is about

An exit names an issue, not an attempt, and a stalled worker is reaped by every tick that finds its entry. So an exit
can still wait in the mailbox when its issue is started again, and is then handled for the new attempt.

* `exits_attributed`: as long as no issue is started that is running or has an exit in the mailbox, and no worker reports
  whose place another has taken, an exit is handled for the attempt that it is about only, and a worker that goes on is
  the worker of its issue.
* `exit_misattributed`: a run in which two ticks reap a worker, and the second exit removes the next attempt.
-/

namespace RiverGang

open Py Coop

section Service

variable [Unicode]

/-- Not running, and no exit of it waits. -/
def Vacant (w : World) (issueId : Str) : Prop := issueId ∉ w.state.running ∧ ∀ x ∈ w.exits, x.issueId ≠ issueId

/-- The service, as long as it starts vacant issues only, and no worker reports whose place another has taken. -/
def startsVacant : OrchDiscipline where
  event w e := ∀ task report issue, e = .finish task report → w.taskIssue task = some issue →
    w.workerOf issue.id = none ∨ w.workerOf issue.id = some task
  receive _ _ := True
  answer m w r x :=
    (m = .pollTick → ∀ issue decision, analysisOf r x = some (issue, decision) → decision.sufficient = true →
      w.spawnError issue 1 = none → Vacant w issue.id) ∧
    ∀ t, m = .retryTimerFired t → ∀ candidates issue, candidatesOf r x = some candidates →
      (candidates.find? fun c => c.id = t.issueId) = some issue →
      0 < slotsFor issue.state w.state w.config.agent.maxConcurrentAgentsByState →
      (∃ attempt, w.spawnError issue attempt = none) → Vacant w issue.id

/-- What is known in a phase: exits are on the attempts of their issues, also the one that is being handled, and the
workers that go on are those of their issues. -/
structure Attribution (φ : Phase) (w : World) : Prop where
  sound : w.register.Sound
  attributed : w.register.Attributed
  manned : w.register.Manned
  due : ∀ x, φ.exit? = some x → w.register.Due x.issueId x.about

omit [Unicode] in
theorem Vacant.current {w : World} {i : Str} (h : Vacant w i) : w.register.current i = none := by
  change w.workerOf i = none
  rw [World.workerOf, Dict.get?_eq_none.2 h.1]
  rfl

omit [Unicode] in
theorem Vacant.not_reported {w : World} {i : Str} (h : Vacant w i) (t : Nat) : (i, t) ∉ w.register.reports := by
  intro hm
  obtain ⟨x, hx, hxi⟩ := List.mem_map.1 hm
  cases hxi
  exact h.2 x hx rfl

omit [Unicode] in
/-- A vacant issue is started. -/
theorem Attribution.start {φ φ' : Phase} {w w' : World} {i : Str} (h : Attribution φ w) (hφ' : φ'.exit? = none)
    (hi : Vacant w i) (hr : w'.register = w.register.start i) : Attribution φ' w' where
  sound := hr ▸ h.sound.start i
  attributed := hr ▸ h.attributed.start hi.not_reported
  manned := hr ▸ h.manned.start hi.current
  due x hx := by rw [hφ'] at hx; cases hx

omit [Unicode] in
/-- A worker is stopped. -/
theorem Attribution.stop {φ φ' : Phase} {w w' : World} {t : Nat} (h : Attribution φ w) (hφ' : φ'.exit? = none)
    (ht : t < w.register.keys.length) (hr : w'.register = w.register.stop t) : Attribution φ' w' where
  sound := hr ▸ h.sound.stop ht
  attributed := hr ▸ fun k u hm => (h.attributed k u hm).stop t
  manned := hr ▸ h.manned.stop t
  due x hx := by rw [hφ'] at hx; cases hx

/-- **The step lemma.** -/
theorem RegisterChange.attribution {w w' : World} {φ φ' : Phase} (h : RegisterChange startsVacant w φ w')
    (hφ' : φ'.exit? = none) (hw : Attribution φ w) : Attribution φ' w' := by
  have hdue : ∀ x, φ'.exit? = some x → w'.register.Due x.issueId x.about := by
    intro x hx
    rw [hφ'] at hx
    cases hx
  cases h with
  | same _ hr => exact ⟨hr ▸ hw.sound, hr ▸ hw.attributed, hr ▸ hw.manned, hdue⟩
  | @reap i t _ ht hr =>
    have hstop : (w.register.stop t).Attributed := fun k u hm => (hw.attributed k u hm).stop t
    refine ⟨?_, ?_, ?_, hdue⟩
    · rw [hr]
      exact (hw.sound.stop (hw.sound.lt ht)).report (hw.sound.current ht)
    · rw [hr]
      exact hstop.report ⟨.inr ht, Register.over_stop_self w.register t⟩
    · rw [hr]
      exact hw.manned.stop t
  | @cancel i entry _ _ he _ _ hr =>
    have ht : w.register.current i = some entry.workerHandle := by
      change w.workerOf i = _
      rw [World.workerOf, he]
      rfl
    exact hw.stop hφ' (hw.sound.lt ht) hr
  | @tick issue _ hc hs hr =>
    obtain ⟨comments, path, config, decision, ha, hd⟩ := hc
    exact hw.start hφ' (ha.1 rfl issue decision rfl hd hs) hr
  | @retry m issue attempt _ hm hsl hs hr =>
    obtain ⟨states, candidates, ha, hf⟩ := hm
    exact hw.start hφ' (ha.2 m rfl candidates issue rfl hf hsl ⟨attempt, hs⟩) hr
  | @release x hφ hr =>
    have hd := hw.due x (by rw [hφ]; rfl)
    refine ⟨?_, ?_, ?_, hdue⟩
    · rw [hr]
      exact hw.sound.release _
    · rw [hr]
      exact fun k u hm => (hw.attributed k u hm).release _
    · rw [hr]
      exact hw.manned.release hd

theorem attribution_event {φ : Phase} {e : Event} {w w' : World} (hw : Attribution φ w)
    (hd : startsVacant.event w e) (h : World.event e w = some w') : Attribution φ w' := by
  have hs := sound_event h hw.sound
  rcases event_register h with ⟨task, report, issue, rfl, hi, hr⟩ | ⟨task, -, -, hr⟩ | hr
  · have hfin : (w.register.finish task).Attributed := fun k u hm => (hw.attributed k u hm).finish task
    refine ⟨hs, ?_, ?_, fun x hx => ?_⟩
    · rw [hr]
      exact hfin.report ⟨hd task report issue rfl hi, Register.over_finish_self w.register task⟩
    · rw [hr]
      exact hw.manned.finish task
    · rw [hr]
      exact (hw.due x hx).finish task
  · refine ⟨hs, ?_, ?_, fun x hx => ?_⟩
    · rw [hr]
      exact fun k u hm => (hw.attributed k u hm).finish task
    · rw [hr]
      exact hw.manned.finish task
    · rw [hr]
      exact (hw.due x hx).finish task
  · exact ⟨hs, hr ▸ hw.attributed, hr ▸ hw.manned, hr ▸ hw.due⟩

theorem handlers_keep_attribution : (handlerPhases startsVacant).Keeps orchestrator startsVacant Attribution where
  work hw h := h.register.1.attribution h.register.2 hw
  event hw _ hd h := attribution_event hw hd h

omit [Unicode] in
/-- A receipt hands the exit that it takes to the phase that handles it. -/
theorem attribution_recv {φ : Phase} {m : Message} {w w' : World} (h : w.recv = some (m, w')) (hw : Attribution φ w) :
    Attribution (.handling m) w' := by
  obtain ⟨hr, hm⟩ := recv_register h
  have hmem : ∀ p ∈ w'.register.reports, p ∈ w.register.reports := by
    rw [hm]
    exact fun p hp => List.mem_append_right _ hp
  refine ⟨sound_recv h hw.sound, ?_, ?_, fun x hx => ?_⟩
  · intro k t hkt
    have hd := hw.attributed k t (hmem _ hkt)
    rw [hr]
    exact hd
  · rw [hr]
    exact hw.manned
  · have hx' : m.exit? = some x := by
      cases m <;> cases hx
      rfl
    have hd := hw.attributed x.issueId x.about (by rw [hm, hx']; exact List.mem_cons_self)
    rw [hr]
    exact hd

theorem reachable_attribution {c : OrchConf} (h : Reachable startsVacant c) : ∃ φ, Attribution φ c.state := by
  have hs := Phases.reach_says (J := Attribution (.handling .pollTick))
    (handlers_simulate startsVacant) handlers_keep_attribution (fun w hw => ?_)
    (fun w e w' hw hd he => attribution_event hw hd he) (fun w m w' hw hn _ => attribution_recv hn hw)
    (fun _ _ _ hw => ⟨hw.sound, hw.attributed, hw.manned, fun x hx => by cases hx⟩) h
  · obtain ⟨w, m⟩ := c
    cases m with
    | idle | crashed => exact ⟨_, hs⟩
    | stopped => obtain ⟨m, -, hs⟩ := hs; exact ⟨_, hs⟩
    | busy m r k => obtain ⟨s₀, φ, -, -, hs⟩ := hs; exact ⟨φ, hs⟩
  · refine ⟨hw.sound, ?_, ?_, fun x hx => by cases hx⟩
    · intro k t hm
      rw [hw.register] at hm
      cases hm
    · intro k t hk
      rw [hw.register] at hk
      cases hk

omit [Unicode] in
/-- The handling of an exit touches its issue only. -/
theorem onWorkerExit_frame {x : WorkerExit} {cap : Int} {w w' : World}
    (h : onWorkerExit x cap postRetryTimer w = .ret () w')
    {i : Str} (hi : x.issueId ≠ i) : w'.state.running.get? i = w.state.running.get? i ∧
      (i ∈ w'.state.claimed ↔ i ∈ w.state.claimed) ∧ w'.retryQueue.get? i = w.retryQueue.get? i := by
  rcases onWorkerExit_ret h with ⟨-, rfl⟩ | ⟨entry, delay, -, rfl⟩
  · exact ⟨rfl, Iff.rfl, rfl⟩
  · refine ⟨?_, ?_, ?_⟩
    · change (w.exited x).state.running.get? i = _
      rw [World.exited_running, Dict.get?_erase_of_ne _ hi]
    · change i ∈ (w.exited x).state.claimed.erase x.issueId ↔ _
      rw [World.exited_claimed, Finset.mem_erase]
      exact ⟨fun h => h.2, fun h => ⟨Ne.symm hi, h⟩⟩
    · change ((w.exited x).scheduled x.issueId _ _ _ _ _).retryQueue.get? i = _
      rw [World.get?_scheduled, if_neg hi, World.exited_eq]

/-- **Exit attribution**, as long as only vacant issues are started and no worker reports whose place another has taken:
handling an exit leaves the entry, the claim and the retry of an issue alone whose worker it is not about; and a worker
that is neither cancelled nor settled is the worker of its issue. -/
theorem exits_attributed {c : OrchConf} (h : Reachable startsVacant c) :
    (∀ x w, Handles startsVacant c (.workerExit x) w → ∀ i t, c.state.workerOf i = some t → t ≠ x.about →
      w.state.running.get? i = c.state.state.running.get? i ∧
      (i ∈ w.state.claimed ↔ i ∈ c.state.state.claimed) ∧ w.retryQueue.get? i = c.state.retryQueue.get? i) ∧
    ∀ task issue, c.state.taskIssue task = some issue → task ∉ c.state.settled → task ∉ c.state.cancelled →
      c.state.workerOf issue.id = some task := by
  obtain ⟨φ, hw⟩ := reachable_attribution h
  refine ⟨fun x w hx i t ht hne => ?_, fun task issue hi hs hc => ?_⟩
  · obtain ⟨ms, hm, hx⟩ := hx.exit
    have hd := hw.attributed x.issueId x.about (List.mem_map.2 ⟨x, by simp [World.exits, hm, Message.exit?], rfl⟩)
    have hi : x.issueId ≠ i := by
      rintro rfl
      rcases hd.1 with hn | hs
      · cases hn.symm.trans ht
      · cases hs.symm.trans ht
        exact hne rfl
    exact onWorkerExit_frame hx hi
  · exact hw.manned _ _ (World.key_of_taskIssue hi) fun ho => ho.elim hc hs

end Service

section Sample

attribute [local instance] asciiTables

/-- No exit waits, and a tick starts nothing but what is not running. -/
def startsIdle (c : OrchConf) : Bool :=
  decide (c.state.exits = []) &&
    match c.mode with
    | .busy .pollTick (.analyze issue _ _ _) _ => decide (issue.id ∉ c.state.state.running)
    | .busy .pollTick _ _ => true
    | .busy _ _ _ => false
    | _ => true

theorem startsVacant_resume {c : OrchConf} (h : startsIdle c = true) (o : (r : OrchReq) → OrchSig.Ans r) :
    orchestrator.Allows startsVacant c (.resume o) := by
  obtain ⟨hx, hm⟩ := Bool.and_eq_true_iff.1 h
  refine Server.allows_resume fun m r k hbusy => ?_
  rw [hbusy] at hm
  cases m with
  | pollTick =>
    refine ⟨fun _ issue decision ha _ _ => ?_, fun _ hm => by cases hm⟩
    cases r with
    | analyze issue' comments path config =>
      cases hanswer : o (.analyze issue' comments path config) with
      | error e =>
        rw [hanswer] at ha
        cases ha
      | ok d =>
        rw [hanswer] at ha
        cases ha
        refine ⟨of_decide_eq_true hm, fun x hmem => ?_⟩
        rw [of_decide_eq_true hx] at hmem
        cases hmem
    | _ => cases ha
  | _ => cases hm

/-- The tick starts two issues, and the worker of the first fails: the other keeps its worker. -/
theorem exits_attributed_sample : ∃ c x w, Reachable startsVacant c ∧ Handles startsVacant c (.workerExit x) w ∧
    x.about = 0 ∧ c.state.workerOf (py "b") = some 1 ∧
    w.state.running.get? (py "b") = c.state.state.running.get? (py "b") := by
  have hrun : ((orchestrator.runIn startsIdle sampleStart (.recv ::
      Answers.resume { candidates := .ok [sampleIssue "a", sampleIssue "b"] } :: List.replicate 6 (Answers.resume {}))).bind
      fun c₁ => (orchestrator.step c₁ (.event (.finish 0 ⟨py "turn failed", false, 0, none⟩))).bind fun c =>
        (nextExit c.state).map fun p => decide (c₁.state.taskIssue 0 = some (sampleIssue "a") ∧
          c₁.state.workerOf (py "a") = some 0 ∧ c.mode.isIdle = true ∧ p.1.about = 0 ∧
          c.state.workerOf (py "b") = some 1 ∧
          ((handle (.workerExit p.1) p.2).exec (Answers.reply {})).1.isOk = true)) = some true := by decide +kernel
  obtain ⟨c₁, hc₁, hrun⟩ := Option.bind_eq_some_iff.1 hrun
  obtain ⟨c, hc, hrun⟩ := Option.bind_eq_some_iff.1 hrun
  obtain ⟨⟨x, w'⟩, hn, hd⟩ := Option.map_eq_some_iff.1 hrun
  obtain ⟨hissue, hworker, hi, hx, hother, hok⟩ := of_decide_eq_true hd
  have h₁ : Reachable startsVacant c₁ := by
    refine .runIn (.start sampleWorld_isInitial) (fun l hl c hP => ?_) hc₁
    simp only [List.mem_cons, List.mem_replicate] at hl
    rcases hl with rfl | rfl | ⟨-, rfl⟩
    · exact fun _ _ => trivial
    all_goals exact startsVacant_resume hP _
  have h : Reachable startsVacant c := .step h₁ (l := .event (.finish 0 ⟨py "turn failed", false, 0, none⟩))
    (fun task report issue heq hissue' => by
      cases heq
      cases hissue.symm.trans hissue'
      exact .inr hworker) hc
  have hanswer : ∀ s r, startsVacant.answer (.workerExit x) s r (Answers.reply {} r) :=
    fun _ _ => ⟨nofun, nofun⟩
  have hexit := Handles.of_isOk (Mode.isIdle_iff.1 hi) (nextExit_eq_some hn) trivial hanswer hok
  exact ⟨c, x, _, h, hexit, hx, hother, ((exits_attributed h).1 x _ hexit _ 1 hother (by rw [hx]; decide)).1⟩

/-- Stall detection is on. -/
def stallConfig : EffectiveConfig := { sampleConfig with codex := { sampleConfig.codex with stallTimeoutMs := 300000 } }

def stallStart : OrchConf :=
  ⟨.initial stallConfig 63000000000000000 false true (.ok (some stallConfig)) (fun _ _ => none) [], .idle⟩

/-- After the first tick two more are asked for, and then the worker stalls: each of them reaps it, and a third is asked
for in between. The first exit releases the issue, the third tick starts it again, and then comes the second exit. -/
def sampleStall : List (Label OrchSig Event) :=
  [.event .refresh, .event .refresh, .event (.advance 400000000),
    .recv, Answers.resume {}, Answers.resume {}, .event .refresh,
    .recv, Answers.resume {}, Answers.resume {},
    .recv] ++ sampleTick ++ [.recv]

/-- **An exit for another attempt.** A worker goes on that is neither cancelled nor settled, and its issue is not
running. -/
theorem exit_misattributed : ∃ c, Reachable .free c ∧ c.state.taskIssue 1 = some (sampleIssue "a") ∧
    1 ∉ c.state.settled ∧ 1 ∉ c.state.cancelled ∧ c.state.workerOf (py "a") = none := by
  have hrun : ((orchestrator.run stallStart (sampleTick ++ sampleStall)).map fun c =>
      decide (c.state.taskIssue 1 = some (sampleIssue "a") ∧ 1 ∉ c.state.settled ∧ 1 ∉ c.state.cancelled ∧
        c.state.workerOf (py "a") = none)) = some true := by decide +kernel
  obtain ⟨c, hc, hd⟩ := Option.map_eq_some_iff.1 hrun
  exact ⟨c, .run (.start ⟨_, _, _, _, _, _, _, rfl⟩) (fun l _ => Discipline.always_free l) hc, of_decide_eq_true hd⟩

end Sample

end RiverGang
