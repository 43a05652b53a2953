import RiverGang.Observability.Snapshot

/-!
# What a running row shows

A running entry is the entry that its dispatch made, with the updates that were handled for it since, in their order
(`trace_replayed`). So each field that a row of the snapshot shows is the last that an update gave (`running_row_replayed`);
nothing ever writes its error or its restart count.
-/

namespace RiverGang

open Py Coop Window

/-! ## The last that a list gives -/

section Latest

variable {ε α : Type}

/-- What the last of the events gives that gives anything. -/
def latest (f : ε → Option α) (events : List ε) : Option α := events.reverse.findSome? f

@[simp] theorem latest_nil (f : ε → Option α) : latest f [] = none := rfl

theorem latest_concat (f : ε → Option α) (events : List ε) (evt : ε) :
    latest f (events ++ [evt]) = (f evt).or (latest f events) := by
  unfold latest
  rw [List.reverse_append, List.reverse_singleton, List.singleton_append, List.findSome?_cons]
  cases f evt <;> rfl

theorem latest_some (f : ε → α) (events : List ε) : latest (fun evt => some (f evt)) events = events.getLast?.map f := by
  rw [List.getLast?_eq_head?_reverse]
  unfold latest
  cases events.reverse <;> rfl

end Latest

/-! ## An entry after its updates -/

/-- The session id that an update gives. -/
def sessionIdOf (evt : RuntimeEvent) : Option Str :=
  (extractSessionIds evt.payload).map fun ids => composeSessionId ids.1 ids.2

/-- The counts that an update reports. -/
def reportOf (evt : RuntimeEvent) : Option TokenSnapshot := evt.usage.bind usageCounts

section Entry

variable (entry : RunningEntry) (events : List RuntimeEvent)

def RunningEntry.replayed : RunningEntry := events.foldl RunningEntry.updated entry

theorem RunningEntry.replayed_concat (evt : RuntimeEvent) :
    entry.replayed (events ++ [evt]) = (entry.replayed events).updated evt := List.foldl_append

/-- The issue is what a refresh writes, not an update. -/
theorem RunningEntry.updated_issue (issue : Issue) (evt : RuntimeEvent) :
    ({ entry with issue := issue } : RunningEntry).updated evt = { entry.updated evt with issue := issue } := by
  simp only [RunningEntry.updated]

theorem getD_map_or {α β : Type} (f : α → β) (a b : Option α) (c : β) :
    (a.map f).getD ((b.map f).getD c) = ((a.or b).map f).getD c := by
  cases a <;> rfl

/-- What no update writes. -/
theorem RunningEntry.replayed_frame : (entry.replayed events).workerHandle = entry.workerHandle ∧
    (entry.replayed events).identifier = entry.identifier ∧ (entry.replayed events).startedAt = entry.startedAt ∧
    (entry.replayed events).retryAttempt = entry.retryAttempt ∧
    (entry.replayed events).lastError = entry.lastError ∧ (entry.replayed events).restartCount = entry.restartCount := by
  induction events generalizing entry with
  | nil => exact ⟨rfl, rfl, rfl, rfl, rfl, rfl⟩
  | cons evt events ih => exact ih (entry.updated evt)

/-- What the updates write: each time the last that they gave. -/
theorem RunningEntry.replayed_fields :
    (entry.replayed events).lastCodexEvent = (latest (fun evt => some evt.event) events).or entry.lastCodexEvent ∧
    (entry.replayed events).lastCodexTimestamp =
      (latest (fun evt => some evt.timestamp) events).or entry.lastCodexTimestamp ∧
    (entry.replayed events).lastCodexMessage =
      (latest (fun evt => extractMessageText evt.payload) events).or entry.lastCodexMessage ∧
    (entry.replayed events).sessionId = (latest sessionIdOf events).or entry.sessionId ∧
    (entry.replayed events).lastReportedInputTokens =
      ((latest reportOf events).map (·.inputTokens)).getD entry.lastReportedInputTokens ∧
    (entry.replayed events).lastReportedOutputTokens =
      ((latest reportOf events).map (·.outputTokens)).getD entry.lastReportedOutputTokens ∧
    (entry.replayed events).lastReportedTotalTokens =
      ((latest reportOf events).map (·.totalTokens)).getD entry.lastReportedTotalTokens := by
  induction events using List.reverseRecOn with
  | nil => exact ⟨rfl, rfl, rfl, rfl, rfl, rfl, rfl⟩
  | append_singleton events evt ih =>
    obtain ⟨-, -, hmessage, hsession, hinput, houtput, htotal⟩ := ih
    rw [RunningEntry.replayed_concat]
    simp only [latest_concat, Option.or_assoc, ← getD_map_or, ← hmessage, ← hsession, ← hinput, ← houtput, ← htotal]
    exact ⟨rfl, rfl, rfl, rfl, rfl, rfl, rfl⟩

end Entry

/-! ## Every run -/

variable {rs : List (World × Message)} {w w' : World}

/-- The running entries are those of their dispatches with the updates that were handled for them. -/
structure Replayed (rs : List (World × Message)) (w : World) : Prop where
  entries : ∀ i entry, w.state.running.get? i = some entry → ∃ task startedAt issue,
    w.tasks[entry.workerHandle]? = some task ∧ entry =
      { (freshEntry entry.workerHandle task.issue task.attempt startedAt).replayed
          (handledFor rs entry.workerHandle) with issue := issue }
  started : ∀ task, w.tasks.length ≤ task → handledFor rs task = []

theorem Replayed.carried (h : Replayed rs w) (hc : Carried w w') : Replayed rs w' where
  entries i entry' he := by
    obtain ⟨entry, he', issue', rfl⟩ := hc.entries i entry' he
    obtain ⟨task, startedAt, issue, ht, hentry⟩ := h.entries i entry he'
    refine ⟨task, startedAt, issue', by rw [hc.tasks]; exact ht, ?_⟩
    exact congrArg (fun e : RunningEntry => { e with issue := issue' }) hentry
  started := by
    rw [hc.tasks]
    exact h.started

/-- A new worker, to which no update was credited before. -/
theorem Replayed.dispatched (h : Replayed rs w) (issue : Issue) (attempt : Nat) :
    Replayed rs (w.dispatched issue attempt) where
  entries i entry he := by
    rcases Dict.eq_or_of_get?_insert he with ⟨-, rfl⟩ | he
    · have hnone : handledFor rs (freshEntry w.tasks.length issue attempt w.now).workerHandle = [] :=
        h.started _ (Nat.le_refl _)
      refine ⟨⟨issue, attempt, w.config⟩, w.now, issue, List.getElem?_concat_length, ?_⟩
      rw [hnone]
      rfl
    · obtain ⟨task, startedAt, issue', ht, hentry⟩ := h.entries i entry he
      exact ⟨task, startedAt, issue', (List.getElem?_append_left (List.getElem?_eq_some_iff.1 ht).1).trans ht, hentry⟩
  started task ht := by
    have hlength : (w.dispatched issue attempt).tasks.length = w.tasks.length + 1 := List.length_append
    exact h.started task (by omega)

theorem Replayed.continued (h : Replayed rs w) (hc : Continued w w') : Replayed rs w' := by
  cases hc with
  | carried hk => exact h.carried hk
  | started issue attempt hk he =>
    rw [he]
    exact (h.carried hk).dispatched issue attempt

/-- A message that is no update of a running issue. -/
theorem Replayed.unhandled (h : Replayed rs w) {v : World} {m : Message} (hm : handledUpdate? v m = none) :
    Replayed (rs ++ [(v, m)]) w := by
  have hsame : ∀ task, handledFor (rs ++ [(v, m)]) task = handledFor rs task := by
    intro task
    rw [handledFor_concat, hm]
    simp
  constructor
  · simpa only [hsame] using h.entries
  · simpa only [hsame] using h.started

/-- **An update** is the next of its entry's. -/
theorem Replayed.update (h : Replayed rs w) (hsound : w.register.Sound) {v : World} {m : CodexUpdate}
    (hs : v.state = w.state) : Replayed (rs ++ [(v, .codexUpdate m)]) (w.onState (onCodexUpdate · m)) := by
  cases hr : w.state.running.get? m.issueId with
  | none =>
    have hw : w.onState (onCodexUpdate · m) = w := by simp only [World.onState, onCodexUpdate_of_none hr]
    rw [hw]
    exact h.unhandled (by simp only [handledUpdate?, hs, hr, Option.map_none])
  | some entry =>
    have hhandled : handledUpdate? v (.codexUpdate m) = some (entry.workerHandle, m.event) := by
      simp only [handledUpdate?, hs, hr, Option.map_some]
    have hlt : entry.workerHandle < w.tasks.length := by
      simpa [World.register] using hsound.lt (World.current_of_running hr)
    constructor
    · intro i entry' he
      change (onCodexUpdate w.state m).running.get? i = _ at he
      rw [get?_onCodexUpdate hr] at he
      rw [handledFor_concat, hhandled, Option.bind_some]
      split at he
      · cases he
        obtain ⟨task, startedAt, issue, ht, hentry⟩ := h.entries _ _ hr
        have hself : (entry.updated m.event).workerHandle = entry.workerHandle := rfl
        refine ⟨task, startedAt, issue, ht, ?_⟩
        rw [hself, if_pos rfl, Option.toList_some, RunningEntry.replayed_concat, ← RunningEntry.updated_issue, ← hentry]
      · rename_i hne
        have hother : entry.workerHandle ≠ entry'.workerHandle := by
          intro heq
          exact hne (hsound.inj (World.current_of_running hr) (heq ▸ World.current_of_running he))
        rw [if_neg hother, Option.toList_none, List.append_nil]
        exact h.entries i entry' he
    · intro task ht
      have hlength : (w.onState (onCodexUpdate · m)).tasks.length = w.tasks.length := rfl
      rw [handledFor_concat, hhandled, Option.bind_some, if_neg (by omega), Option.toList_none, List.append_nil]
      exact h.started task (by omega)

theorem replayed_accounts : Accounts Replayed where
  continued h hc := h.continued hc
  update h hsound hs := h.update hsound hs
  other := by
    intro rs w v m h _ hm
    cases m with
    | codexUpdate m => exact absurd rfl (hm m)
    | pollTick | workerExit | retryTimerFired | configReloaded | shutdown => exact h.unhandled rfl

theorem World.IsInitial.replayed (h : w.IsInitial) : Replayed [] w := by
  obtain ⟨config, now, client, factory, loader, spawnError, reloads, rfl⟩ := h
  constructor
  · intro i entry he
    cases he
  · exact fun _ _ => rfl

section Service

variable [Unicode] {D : OrchDiscipline}

/-- **The entries**, after any run. -/
theorem trace_replayed {past : List (OrchConf × Label OrchSig Event)} {c : OrchConf}
    (h : orchestrator.Trace D World.IsInitial past c) : Replayed (orchestrator.receipts past) c.state :=
  replayed_accounts.trace (fun _ hw => hw.replayed) h

/-- **A running row**, after any run: it is of one worker that was started, and shows what the updates that were handled
for it gave last. It shows no error and no restart, ever. -/
theorem running_row_replayed {past : List (OrchConf × Label OrchSig Event)} {c : OrchConf}
    (h : orchestrator.Trace .free World.IsInitial past c) {i : Str} {entry : RunningEntry}
    (he : c.state.state.running.get? i = some entry) :
    let handled := handledFor (orchestrator.receipts past) entry.workerHandle
    ∃ task, c.state.tasks[entry.workerHandle]? = some task ∧
      (buildRunningRow entry).identifier = task.issue.identifier ∧ entry.retryAttempt = task.attempt ∧
      (buildRunningRow entry).lastCodexEvent = handled.getLast?.map (·.event) ∧
      (buildRunningRow entry).lastCodexTimestamp = handled.getLast?.map (·.timestamp) ∧
      (buildRunningRow entry).sessionId = latest sessionIdOf handled ∧
      (issueRunningBlock entry).lastCodexMessage = latest (fun evt => extractMessageText evt.payload) handled ∧
      (issueRunningBlock entry).tokens = (latest reportOf handled).getD ⟨0, 0, 0⟩ ∧
      (buildRunningRow entry).lastError = none ∧ (buildRunningRow entry).restartCount = 0 := by
  intro handled
  obtain ⟨task, startedAt, issue, ht, hentry⟩ := (trace_replayed h).entries i entry he
  have hframe := (freshEntry entry.workerHandle task.issue task.attempt startedAt).replayed_frame handled
  have hfields := (freshEntry entry.workerHandle task.issue task.attempt startedAt).replayed_fields handled
  obtain ⟨-, hidentifier, -, hattempt, herror, hrestart⟩ := hframe
  obtain ⟨hevent, htimestamp, hmessage, hsession, hinput, houtput, htotal⟩ := hfields
  rw [latest_some] at hevent htimestamp
  refine ⟨task, ht, ?_, ?_, ?_, ?_, ?_, ?_, ?_, ?_, ?_⟩
  · exact (congrArg RunningEntry.identifier hentry).trans hidentifier
  · exact (congrArg RunningEntry.retryAttempt hentry).trans hattempt
  · exact (congrArg RunningEntry.lastCodexEvent hentry).trans (hevent.trans (Option.or_none ..))
  · exact (congrArg RunningEntry.lastCodexTimestamp hentry).trans (htimestamp.trans (Option.or_none ..))
  · exact (congrArg RunningEntry.sessionId hentry).trans (hsession.trans (Option.or_none ..))
  · exact (congrArg RunningEntry.lastCodexMessage hentry).trans (hmessage.trans (Option.or_none ..))
  · have hinput := (congrArg RunningEntry.lastReportedInputTokens hentry).trans hinput
    have houtput := (congrArg RunningEntry.lastReportedOutputTokens hentry).trans houtput
    have htotal := (congrArg RunningEntry.lastReportedTotalTokens hentry).trans htotal
    unfold issueRunningBlock
    rw [hinput, houtput, htotal]
    cases latest reportOf handled <;> rfl
  · exact (congrArg RunningEntry.lastError hentry).trans herror
  · exact (congrArg RunningEntry.restartCount hentry).trans hrestart

end Service

section Sample

attribute [local instance] asciiTables

/-- The row of the worker that started a turn and sent a message. -/
theorem running_row_replayed_sample : ∃ past c entry, orchestrator.Trace .free World.IsInitial past c ∧
    c.state.state.running.get? (py "a") = some entry ∧ (buildRunningRow entry).identifier = py "a" ∧
    (buildRunningRow entry).lastCodexEvent = some (py "agent_message") ∧ (buildRunningRow entry).restartCount = 0 := by
  have hrun : ((orchestrator.run sampleStart (sampleMessages 1)).bind fun c =>
      (c.state.state.running.get? (py "a")).map fun entry => (entry.workerHandle, c.state.tasks.map (·.issue.identifier))) =
      some (0, [py "a"]) := by decide +kernel
  have hhandled : (handledFor (orchestrator.receipts (orchestrator.stages sampleStart (sampleMessages 1))) 0).getLast?.map
      (·.event) = some (py "agent_message") := by decide +kernel
  obtain ⟨c, hc, he⟩ := Option.bind_eq_some_iff.1 hrun
  obtain ⟨entry, he, hw⟩ := Option.map_eq_some_iff.1 he
  obtain ⟨hw, htasks⟩ := Prod.mk.inj hw
  have ht : orchestrator.Trace .free World.IsInitial (orchestrator.stages sampleStart (sampleMessages 1)) c :=
    .run (.start sampleWorld_isInitial) (fun l _ => Discipline.always_free l) hc
  obtain ⟨task, htask, hidentifier, -, hevent, -, -, -, -, -, hrestart⟩ := running_row_replayed ht he
  rw [hw] at htask hevent
  have hissue : task.issue.identifier = py "a" := by
    have hget := congrArg (fun l : List Str => l[0]?) htasks
    simp only [List.getElem?_map, htask, Option.map_some, List.getElem?_cons_zero] at hget
    exact Option.some.inj hget
  exact ⟨_, c, entry, ht, he, hidentifier.trans hissue, hevent.trans hhandled, hrestart⟩

end Sample

end RiverGang
