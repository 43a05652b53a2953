import RiverGang.Orchestrator.Workers

/-!
# Leaked slots

A running entry goes only when an exit of its issue is handled. A worker that a reconciliation cancels because the
tracker no longer wants its issue to be worked on posts none, so its entry stays.

* `no_leaked_slot`: as long as the tracker wants every running issue to go on on which there is no exit yet, and workers
  have a client, the worker of a running entry is at work or its exit is in the mailbox.
* `leaked_slot`: a run in which an issue is done while its worker is at it, and its entry stays for good.
-/

namespace RiverGang

open Py Coop

section Service

variable [Unicode]

/-- The service, with a client for its workers, as long as the tracker keeps every running issue active on which no exit
is in the mailbox. -/
def keptActive : OrchDiscipline where
  event w _ := (w.hasCodexClient || w.hasCodexClientFactory) = true
  receive _ _ := True
  answer m w r x := m = .pollTick → ∀ refreshed, refreshedOf r x = some refreshed →
    ∀ i entry, w.state.running.get? i = some entry →
      (∀ x ∈ w.exits, ¬ (x.issueId = i ∧ x.about = entry.workerHandle)) →
      ∃ issue, verdictOf refreshed w i = .updateSnapshot issue

/-- What is known in a phase: every worker that is over has an exit, but for the issue whose exit is being handled. -/
def Accountable (φ : Phase) (w : World) : Prop :=
  w.register.Sound ∧ w.register.Reported (φ.exit?.map (·.issueId))

omit [Unicode] in
theorem mem_reports {w : World} {i : Str} {t : Nat} :
    (i, t) ∈ w.register.reports ↔ ∃ x ∈ w.exits, x.issueId = i ∧ x.about = t := by
  simp only [World.register, List.mem_map, Prod.mk.injEq]

/-- **The step lemma.** -/
theorem RegisterChange.accountable {w w' : World} {φ φ' : Phase} (h : RegisterChange keptActive w φ w')
    (hφ' : φ'.exit? = none) (hw : Accountable φ w) : Accountable φ' w' := by
  refine ⟨h.sound hw.1, ?_⟩
  obtain ⟨hs, ha⟩ := hw
  rw [hφ']
  cases h with
  | same hφ hr => rw [hφ] at ha; rw [hr]; exact ha
  | reap hφ ht hr => rw [hφ] at ha; rw [hr]; exact ha.stop_report hs ht
  | @cancel i entry refreshed hφ he hf hv hr =>
    rw [hφ] at ha
    rw [hr]
    have ht := World.current_of_running he
    refine ha.stop fun k _ hk => ?_
    -- the tracker ended it, so its exit was already there
    cases hs.inj ht hk
    rw [mem_reports]
    by_contra hn
    obtain ⟨w₀, ids, hans, hw₀⟩ := hf
    rw [hw₀] at he hv hn
    obtain ⟨issue, hi⟩ := hans rfl refreshed rfl i entry he fun x hx hxi => hn ⟨x, hx, hxi⟩
    exact hv issue hi
  | tick hφ _ _ hr => rw [hφ] at ha; rw [hr]; exact ha.start hs _
  | retry hφ _ _ _ hr => rw [hφ] at ha; rw [hr]; exact ha.start hs _
  | release hφ hr => rw [hφ] at ha; rw [hr]; exact ha.release

theorem accountable_event {φ : Phase} {e : Event} {w w' : World} (hw : Accountable φ w) (hd : keptActive.event w e)
    (h : World.event e w = some w') : Accountable φ w' := by
  refine ⟨sound_event h hw.1, ?_⟩
  obtain ⟨hs, ha⟩ := hw
  rcases event_register h with ⟨task, report, issue, -, hi, hr⟩ | ⟨task, ht | ht, -, hr⟩ | hr
  · rw [hr]
    exact ha.finish_report hs (World.key_of_taskIssue hi)
  · rw [hr]
    exact ha.finish (.inl ht.2)
  · cases hd.symm.trans ht.2
  · rw [hr]
    exact ha

theorem handlers_keep_accountable : (handlerPhases keptActive).Keeps orchestrator keptActive Accountable where
  work hw h := h.register.1.accountable h.register.2 hw
  event hw _ hd h := accountable_event hw hd h

omit [Unicode] in
/-- A receipt hands the exit that it takes to the phase that handles it. -/
theorem accountable_recv {m : Message} {w w' : World} (h : w.recv = some (m, w')) (hs : w.register.Sound)
    (ha : w.register.Reported none) : Accountable (.handling m) w' := by
  refine ⟨sound_recv h hs, ?_⟩
  obtain ⟨hr, hm⟩ := recv_register h
  cases m with
  | workerExit x =>
    rw [hr]
    exact ha.taken hm
  | pollTick | codexUpdate | retryTimerFired | configReloaded | shutdown =>
    rw [hr]
    refine ha.mono fun p hp => ?_
    rw [hm] at hp
    exact hp

theorem reachable_accountable {c : OrchConf} (h : Reachable keptActive c) :
    c.state.register.Sound ∧ c.state.register.Reported none := by
  have hs := Phases.reach_says (J := fun w => w.register.Sound ∧ w.register.Reported none)
    (handlers_simulate keptActive) handlers_keep_accountable
    (fun w hw => ⟨hw.sound, fun k t _ hk => by rw [hw.register] at hk; cases hk⟩)
    (fun w e w' hw hd he => accountable_event (φ := .handling .pollTick) hw hd he)
    (fun w m w' hw hn _ => accountable_recv hn hw.1 hw.2) (fun _ _ _ hw => hw) h
  obtain ⟨w, m⟩ := c
  cases m with
  | idle | crashed => exact hs
  | stopped => obtain ⟨m, -, hs⟩ := hs; exact hs
  | busy m r k =>
    obtain ⟨s₀, φ, hφ, -, hs⟩ := hs
    rw [Accountable, Phase.Awaiting.exit? hφ] at hs
    exact hs

/-- **No leaked slot**, as long as the tracker keeps active what has not reported: when the worker of a running entry
has settled or was cancelled, an exit about it is in the mailbox; so without exits all entries have workers at work. -/
theorem no_leaked_slot {c : OrchConf} (h : Reachable keptActive c) :
    (∀ i entry, c.state.state.running.get? i = some entry →
      entry.workerHandle ∈ c.state.settled ∨ entry.workerHandle ∈ c.state.cancelled →
      ∃ x ∈ c.state.exits, x.issueId = i ∧ x.about = entry.workerHandle) ∧
    (c.state.exits = [] → ∀ i entry, c.state.state.running.get? i = some entry → c.state.Live entry.workerHandle) := by
  obtain ⟨hs, ha⟩ := reachable_accountable h
  have hrep : ∀ i entry, c.state.state.running.get? i = some entry →
      entry.workerHandle ∈ c.state.settled ∨ entry.workerHandle ∈ c.state.cancelled →
      ∃ x ∈ c.state.exits, x.issueId = i ∧ x.about = entry.workerHandle := fun i entry he ho =>
    mem_reports.1 (ha i _ (by simp) (World.current_of_running he) ho.symm)
  refine ⟨hrep, fun hn i entry he => ⟨?_, fun hset => ?_⟩⟩
  · have hlt := hs.lt (World.current_of_running he)
    rw [show c.state.register.keys = c.state.tasks.map (·.issue.id) from rfl, List.length_map] at hlt
    exact hlt
  · obtain ⟨x, hx, -⟩ := hrep i entry he (.inl hset)
    rw [hn] at hx
    cases hx

end Service

section Sample

attribute [local instance] asciiTables

theorem no_leaked_slot_sample : ∃ c, orchestrator.run sampleStart sampleTick = some c ∧ c.state.exits = [] ∧
    ∃ entry, c.state.state.running.get? (py "a") = some entry ∧ c.state.Live entry.workerHandle := by
  have hrun : ((orchestrator.run sampleStart sampleTick).map fun c =>
      decide (c.state.exits = [] ∧ (c.state.state.running.get? (py "a")).isSome)) = some true := by decide +kernel
  obtain ⟨c, hc, hd⟩ := Option.map_eq_some_iff.1 hrun
  obtain ⟨hn, he⟩ := of_decide_eq_true hd
  obtain ⟨entry, he⟩ := Option.isSome_iff_exists.1 he
  have hl : ∀ l ∈ sampleTick, keptActive.Always l := by
    intro l hl
    rcases mem_sampleTick hl with rfl | rfl | rfl
    · exact fun _ _ => trivial
    all_goals
      intro m s r _ refreshed hr
      cases r <;> cases hr
  exact ⟨c, hc, hn, entry, he, (no_leaked_slot (.run (.start sampleWorld_isInitial) hl hc)).2 hn _ _ he⟩

/-- The second tick, which learns that the issue is done; its worker stops. -/
def sampleTermination : List (Label OrchSig Event) :=
  [.event .refresh, .recv, Answers.resume { states := .ok [{ sampleIssue "a" with state := py "Done" }] },
    Answers.resume {}, .event (.settleCancelled 0)]

/-- **A leaked slot.** No exit is in the mailbox, and the worker of the running entry has settled. -/
theorem leaked_slot : ∃ c, Reachable .free c ∧ c.state.exits = [] ∧
    ∃ entry, c.state.state.running.get? (py "a") = some entry ∧ entry.workerHandle ∈ c.state.settled := by
  have hrun : ((orchestrator.run sampleStart (sampleTick ++ sampleTermination)).map fun c =>
      decide (c.state.exits = [] ∧ ∃ entry, c.state.state.running.get? (py "a") = some entry ∧
        entry.workerHandle ∈ c.state.settled)) = some true := by decide +kernel
  obtain ⟨c, hc, hd⟩ := Option.map_eq_some_iff.1 hrun
  exact ⟨c, .run (.start sampleWorld_isInitial) (fun l _ => Discipline.always_free l) hc, of_decide_eq_true hd⟩

end Sample

end RiverGang
