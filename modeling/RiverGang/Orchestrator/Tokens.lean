import RiverGang.Lib.Meter
import RiverGang.Orchestrator.Entries

/-!
# Token accounting

An attempt is a task that was started; while its entry is the running one of its issue, the updates of the issue are its
own, and what they carry is charged to it. The charges of a run are a log of meters, one for each attempt.

`Books` relates the log to the state: the baselines of the running entries are the last charges of their attempts, and,
as long as no attempt goes back, the totals are the sum of the last charges of all attempts. `token_accounting` says so
of every run, and that the totals never fall.
-/

namespace RiverGang

open Py Coop Meter

/-! ## Counters -/

inductive Counter
  | input
  | output
  | total

def TokenSnapshot.count (s : TokenSnapshot) : Counter → Int
  | .input => s.inputTokens
  | .output => s.outputTokens
  | .total => s.totalTokens

instance TokenSnapshot.le : LE TokenSnapshot := ⟨fun a b => ∀ k, a.count k ≤ b.count k⟩

/-- The baselines of an entry. -/
def RunningEntry.reported (entry : RunningEntry) : TokenSnapshot :=
  ⟨entry.lastReportedInputTokens, entry.lastReportedOutputTokens, entry.lastReportedTotalTokens⟩

theorem count_addDeltas (totals : TokenSnapshot) (entry : RunningEntry) (counts : TokenSnapshot) (k : Counter) :
    (addDeltas totals entry counts).count k = totals.count k + max 0 (counts.count k - entry.reported.count k) := by
  cases k <;> rfl

theorem reported_updated (entry : RunningEntry) (event : RuntimeEvent) :
    (entry.updated event).reported = (event.usage.bind usageCounts).getD entry.reported := by
  simp only [RunningEntry.reported, RunningEntry.updated]
  cases event.usage.bind usageCounts <;> rfl

/-- The totals after an update. -/
def updatedTotals (state : OrchestratorState) (m : CodexUpdate) : TokenSnapshot := (onCodexUpdate state m).codexTotals

theorem updatedTotals_le (state : OrchestratorState) (m : CodexUpdate) : state.codexTotals ≤ updatedTotals state m := by
  intro k
  unfold updatedTotals onCodexUpdate
  cases state.running.get? m.issueId with
  | none => exact Int.le_refl _
  | some entry =>
    cases m.event.usage.bind usageCounts with
    | none => exact Int.le_refl _
    | some counts =>
      simp only [Option.map_some, Option.getD_some, count_addDeltas]
      omega

/-! ## The log -/

/-- What a message charges, and to which attempt. -/
def charge? (w : World) : Message → Option (Nat × TokenSnapshot)
  | .codexUpdate m => do
    let entry ← w.state.running.get? m.issueId
    let counts ← m.event.usage.bind usageCounts
    pure (entry.workerHandle, counts)
  | _ => none

/-- One counter of what the messages of a run charge. -/
def charged (k : Counter) (receipts : List (World × Message)) : List (Nat × Int) :=
  receipts.filterMap fun r => (charge? r.1 r.2).map fun c => (c.1, c.2.count k)

/-- The totals that a message leaves behind. -/
def totalsLeft (w : World) : Message → TokenSnapshot
  | .codexUpdate m => updatedTotals w.state m
  | _ => w.state.codexTotals

/-- The totals that the last message leaves behind. -/
def totalsAfter (receipts : List (World × Message)) : TokenSnapshot :=
  (receipts.getLast?.map fun r => totalsLeft r.1 r.2).getD ⟨0, 0, 0⟩

variable {rs : List (World × Message)} {w w' : World} {k : Counter}

theorem charged_concat (k : Counter) (rs : List (World × Message)) (w : World) (m : Message) :
    charged k (rs ++ [(w, m)]) = charged k rs ++ ((charge? w m).map fun c => (c.1, c.2.count k)).toList := by
  rw [charged, List.filterMap_append, List.filterMap_cons]
  cases (charge? w m).map fun c => (c.1, c.2.count k) <;> rfl

@[simp] theorem totalsAfter_concat (rs : List (World × Message)) (w : World) (m : Message) :
    totalsAfter (rs ++ [(w, m)]) = totalsLeft w m := by
  simp [totalsAfter]

/-! ## The books -/

structure Books (rs : List (World × Message)) (w : World) : Prop where
  baseline : ∀ i entry, w.state.running.get? i = some entry →
    ∀ k, entry.reported.count k = last (charged k rs) entry.workerHandle
  started : ∀ k, ∀ p ∈ charged k rs, p.1 < w.tasks.length
  total : ∀ k, Cumulative (charged k rs) →
    w.state.codexTotals.count k = ∑ t ∈ Finset.range w.tasks.length, last (charged k rs) t
  current : w.state.codexTotals = totalsAfter rs

/-- The attempts are the same, but for entries that are gone. -/
structure Kept (w w' : World) : Prop where
  totals : w'.state.codexTotals = w.state.codexTotals
  tasks : w'.tasks = w.tasks
  entries : ∀ i entry', w'.state.running.get? i = some entry' → ∃ entry, w.state.running.get? i = some entry ∧
    entry'.workerHandle = entry.workerHandle ∧ entry'.reported = entry.reported

theorem Carried.kept (h : Carried w w') : Kept w w' where
  totals := h.totals
  tasks := h.tasks
  entries i entry' he := by
    obtain ⟨entry, he', issue, rfl⟩ := h.entries i entry' he
    exact ⟨entry, he', rfl, rfl⟩

theorem Books.kept (h : Books rs w) (hk : Kept w w') : Books rs w' where
  baseline i entry' he k := by
    obtain ⟨entry, he', hw, hr⟩ := hk.entries i entry' he
    rw [hw, hr]
    exact h.baseline i entry he' k
  started := by
    rw [hk.tasks]
    exact h.started
  total := by
    rw [hk.totals, hk.tasks]
    exact h.total
  current := hk.totals.trans h.current

/-- A new attempt starts from zero. -/
theorem Books.dispatched (h : Books rs w) (issue : Issue) (attempt : Nat) : Books rs (w.dispatched issue attempt) := by
  have hfresh : ∀ k, last (charged k rs) w.tasks.length = 0 := fun k =>
    last_of_not_mem fun p hp heq => Nat.lt_irrefl _ (heq ▸ h.started k p hp)
  have hlength : (w.dispatched issue attempt).tasks.length = w.tasks.length + 1 := List.length_append
  constructor
  · intro i entry he k
    rcases Dict.eq_or_of_get?_insert he with ⟨-, rfl⟩ | he
    · rw [show (freshEntry w.tasks.length issue attempt w.now).workerHandle = w.tasks.length from rfl, hfresh]
      cases k <;> rfl
    · exact h.baseline i entry he k
  · intro k p hp
    rw [hlength]
    exact Nat.lt_succ_of_lt (h.started k p hp)
  · intro k hc
    rw [hlength, Finset.sum_range_succ, hfresh, add_zero]
    exact h.total k hc
  · exact h.current

/-- A message that charges nothing, handled. -/
theorem Books.uncharged (h : Books rs w) {v : World} {m : Message} (hm : charge? v m = none)
    (hc : w.state.codexTotals = totalsLeft v m) : Books (rs ++ [(v, m)]) w := by
  have hcharged : ∀ k, charged k (rs ++ [(v, m)]) = charged k rs := by
    intro k
    rw [charged_concat, hm]
    simp
  constructor
  · simpa only [hcharged] using h.baseline
  · simpa only [hcharged] using h.started
  · simpa only [hcharged] using h.total
  · rw [totalsAfter_concat, hc]

section Update

variable {m : CodexUpdate} {entry : RunningEntry}

/-- An update that says nothing of usage. -/
theorem kept_onCodexUpdate (hr : w.state.running.get? m.issueId = some entry)
    (hu : m.event.usage.bind usageCounts = none) : Kept w (w.onState (onCodexUpdate · m)) where
  totals := by simp only [World.onState, onCodexUpdate, hr, hu, Option.map_none, Option.getD_none]
  tasks := rfl
  entries i entry' he := by
    change (onCodexUpdate w.state m).running.get? i = _ at he
    rw [get?_onCodexUpdate hr] at he
    split at he
    · rename_i hi
      cases he
      exact ⟨entry, hi ▸ hr, rfl, by rw [reported_updated, hu, Option.getD_none]⟩
    · exact ⟨entry', he, rfl, rfl⟩

/-- The counters of an update, charged to the attempt of the entry. -/
theorem Books.charge (h : Books rs w) (hsound : w.register.Sound) {v : World} {counts : TokenSnapshot}
    (hr : w.state.running.get? m.issueId = some entry) (hu : m.event.usage.bind usageCounts = some counts)
    (hs : v.state = w.state) : Books (rs ++ [(v, .codexUpdate m)]) (w.onState (onCodexUpdate · m)) := by
  have hcharge : charge? v (.codexUpdate m) = some (entry.workerHandle, counts) := by
    simp only [charge?, hs, hr, hu]
    rfl
  have hcharged : ∀ k, charged k (rs ++ [(v, .codexUpdate m)]) =
      charged k rs ++ [(entry.workerHandle, counts.count k)] := by
    intro k
    rw [charged_concat, hcharge]
    rfl
  have hlt : entry.workerHandle < w.tasks.length := by
    simpa [World.register] using hsound.lt (World.current_of_running hr)
  constructor
  · intro i entry' he k
    change (onCodexUpdate w.state m).running.get? i = _ at he
    rw [get?_onCodexUpdate hr] at he
    rw [hcharged, last_concat]
    split at he
    · cases he
      rw [reported_updated, hu, Option.getD_some]
      exact (Function.update_self entry.workerHandle (counts.count k) (last (charged k rs))).symm
    · rename_i hne
      have hother : entry'.workerHandle ≠ entry.workerHandle := by
        intro heq
        exact hne (hsound.inj (World.current_of_running hr) (heq ▸ World.current_of_running he))
      rw [Function.update_of_ne hother]
      exact h.baseline i entry' he k
  · intro k p hp
    rw [hcharged, List.mem_append, List.mem_singleton] at hp
    rcases hp with hp | rfl
    · exact h.started k p hp
    · exact hlt
  · intro k hc
    rw [hcharged] at hc ⊢
    have hle := hc.last_le
    have htotal := h.total k hc.of_concat
    have hbase := h.baseline _ _ hr k
    have htasks : (w.onState (onCodexUpdate · m)).tasks = w.tasks := rfl
    rw [htasks, sum_last_concat (Finset.mem_range.2 hlt)]
    simp only [World.onState, onCodexUpdate, hr, hu, Option.map_some, Option.getD_some, count_addDeltas]
    omega
  · rw [totalsAfter_concat, totalsLeft, hs]
    rfl

/-- An update is charged to the attempt whose entry it finds. -/
theorem Books.update (h : Books rs w) (hsound : w.register.Sound) {v : World} (hs : v.state = w.state) :
    Books (rs ++ [(v, .codexUpdate m)]) (w.onState (onCodexUpdate · m)) := by
  cases hr : w.state.running.get? m.issueId with
  | none =>
    have hstate := onCodexUpdate_of_none hr
    have hw : w.onState (onCodexUpdate · m) = w := by simp only [World.onState, hstate]
    rw [hw]
    apply h.uncharged
    · simp only [charge?, hs, hr]
      rfl
    · rw [totalsLeft, updatedTotals, hs, hstate]
  | some entry =>
    cases hu : m.event.usage.bind usageCounts with
    | none =>
      apply (h.kept (kept_onCodexUpdate hr hu)).uncharged
      · simp only [charge?, hs, hr, hu]
        rfl
      · rw [totalsLeft, updatedTotals, hs]
        rfl
    | some counts => exact h.charge hsound hr hu hs

end Update

/-! ## Runs -/

section Service

variable [Unicode] {D : OrchDiscipline}

omit [Unicode] in
theorem books_account : Accounts Books where
  continued := by
    intro rs w w' h hc
    cases hc with
    | carried hc => exact h.kept hc.kept
    | started issue attempt hc he =>
      rw [he]
      exact (h.kept hc.kept).dispatched issue attempt
  update h hsound hs := h.update hsound hs
  other := by
    intro rs w v m h hs hm
    cases m with
    | codexUpdate m => exact absurd rfl (hm m)
    | pollTick | workerExit | retryTimerFired | configReloaded | shutdown =>
      apply h.uncharged rfl
      rw [← hs]
      rfl

omit [Unicode] in
theorem World.IsInitial.books (h : w.IsInitial) : Books [] w := by
  obtain ⟨config, now, client, factory, loader, spawnError, reloads, rfl⟩ := h
  constructor
  · intro i entry he
    cases he
  · intro k p hp
    cases hp
  · intro k _
    cases k <;> rfl
  · rfl

theorem trace_books {past : List (OrchConf × Label OrchSig Event)} {c : OrchConf}
    (h : orchestrator.Trace D World.IsInitial past c) : Books (orchestrator.receipts past) c.state :=
  books_account.trace (fun _ hw => hw.books) h

/-- A step leaves the totals, or an update adds to them. -/
theorem totals_step {past : List (OrchConf × Label OrchSig Event)} {c c' : OrchConf} {l : Label OrchSig Event}
    (h : orchestrator.Trace D World.IsInitial past c) (h' : orchestrator.Trace D World.IsInitial (past ++ [(c, l)]) c') :
    c.state.state.codexTotals ≤ c'.state.state.codexTotals := by
  have hb := (trace_books h).current
  have hb' := (trace_books h').current
  rw [Server.receipts_concat] at hb'
  cases hr : orchestrator.receipt? (c, l) with
  | none =>
    rw [hr, Option.toList_none, List.append_nil, ← hb] at hb'
    rw [hb']
    exact fun k => Int.le_refl _
  | some r =>
    obtain ⟨w, m⟩ := r
    have hw : w = c.state := Server.receipt?_state hr
    rw [hr, Option.toList_some, totalsAfter_concat, hw] at hb'
    rw [hb']
    cases m with
    | codexUpdate m => exact updatedTotals_le _ m
    | pollTick | workerExit | retryTimerFired | configReloaded | shutdown => exact fun k => Int.le_refl _

theorem totals_pairwise {past : List (OrchConf × Label OrchSig Event)} {c : OrchConf}
    (h : orchestrator.Trace D World.IsInitial past c) :
    (past.map (fun p => p.1.state.state.codexTotals) ++ [c.state.state.codexTotals]).Pairwise (· ≤ ·) := by
  induction h with
  | start => exact List.pairwise_singleton _ _
  | @step past c c' l ht ha hs ih =>
    rw [List.map_append, List.map_singleton]
    refine List.pairwise_append.2 ⟨ih, List.pairwise_singleton _ _, ?_⟩
    intro a hmem b hb
    rw [List.mem_singleton.1 hb]
    have hlast := totals_step ht (.step ht ha hs)
    rcases List.mem_append.1 hmem with hmem | hmem
    · have hle := (List.pairwise_append.1 ih).2.2 a hmem _ (List.mem_singleton_self _)
      exact fun k => Int.le_trans (hle k) (hlast k)
    · rw [List.mem_singleton.1 hmem]
      exact hlast

/-- **Token accounting**, after any run: the totals never fell; each counter of them is the sum of the last charges of all
attempts, if no attempt went back in it; an update for an issue that is not running changes nothing, and one for a
running issue leaves the entries of the others. -/
theorem token_accounting {past : List (OrchConf × Label OrchSig Event)} {c : OrchConf}
    (h : orchestrator.Trace .free World.IsInitial past c) :
    (past.map (fun p => p.1.state.state.codexTotals) ++ [c.state.state.codexTotals]).Pairwise (· ≤ ·) ∧
    (∀ k, Cumulative (charged k (orchestrator.receipts past)) → c.state.state.codexTotals.count k =
      ∑ t ∈ Finset.range c.state.tasks.length, last (charged k (orchestrator.receipts past)) t) ∧
    (∀ w m, m.issueId ∉ w.state.running → handle (.codexUpdate m) w = .ret () w) ∧
    ∀ w m, ∃ w', handle (.codexUpdate m) w = .ret () w' ∧
      ∀ i, i ≠ m.issueId → w'.state.running.get? i = w.state.running.get? i := by
  refine ⟨totals_pairwise h, (trace_books h).total, ?_, ?_⟩
  · intro w m hi
    change Res.ret () (w.onState (onCodexUpdate · m)) = _
    simp only [World.onState, onCodexUpdate_of_none (Dict.get?_eq_none.2 hi)]
  · intro w m
    refine ⟨w.onState (onCodexUpdate · m), rfl, ?_⟩
    intro i hi
    change (onCodexUpdate w.state m).running.get? i = _
    cases hr : w.state.running.get? m.issueId with
    | none => rw [onCodexUpdate_of_none hr]
    | some entry => rw [get?_onCodexUpdate hr, if_neg (Ne.symm hi)]

end Service

section Sample

attribute [local instance] asciiTables

/-- A report of the tokens that were used so far. -/
def sampleUsage (input output total : Int) : RuntimeEvent where
  event := METHOD_TOKEN_USAGE_UPDATED
  timestamp := 63000000000000000
  codexAppServerPid := 42
  payload := []
  usage := some (TokenSnapshot.asdict ⟨input, output, total⟩)

/-- A tick starts an issue, whose worker reports twice and fails; its retry starts another, which reports from zero. -/
def sampleReports : List (Label OrchSig Event) :=
  sampleTick ++ [.event (.emit 0 (sampleUsage 5 3 8)), .event (.emit 0 (sampleUsage 9 4 13)), .recv, .recv,
    .event (.finish 0 ⟨py "turn failed", false, 0, none⟩), .recv, .event (.advance 20000000), .event (.fire 1), .recv,
    Answers.resume { candidates := .ok [sampleIssue "a"] }, .event (.emit 1 (sampleUsage 4 2 6)), .recv]

theorem token_accounting_sample : ∃ past c, orchestrator.Trace .free World.IsInitial past c ∧
    charged .input (orchestrator.receipts past) = [(0, 5), (0, 9), (1, 4)] ∧ c.state.tasks.length = 2 ∧
    c.state.state.codexTotals.count .input = 13 ∧ c.state.state.codexTotals.count .input =
      ∑ t ∈ Finset.range c.state.tasks.length, last (charged .input (orchestrator.receipts past)) t := by
  have hcharged : charged .input (orchestrator.receipts (orchestrator.stages sampleStart sampleReports)) =
      [(0, 5), (0, 9), (1, 4)] := by decide +kernel
  have hrun : ((orchestrator.run sampleStart sampleReports).map fun c =>
      (c.state.tasks.length, c.state.state.codexTotals.count .input)) = some (2, 13) := by decide +kernel
  obtain ⟨c, hc, hend⟩ := Option.map_eq_some_iff.1 hrun
  obtain ⟨hlength, htotal⟩ := Prod.mk.inj hend
  have ht : orchestrator.Trace .free World.IsInitial (orchestrator.stages sampleStart sampleReports) c :=
    .run (.start sampleWorld_isInitial) (fun l _ => Discipline.always_free l) hc
  refine ⟨_, c, ht, hcharged, hlength, htotal, (token_accounting ht).2.1 .input ?_⟩
  rw [hcharged]
  intro t
  by_cases h₀ : t = 0
  · subst h₀
    decide
  by_cases h₁ : t = 1
  · subst h₁
    decide
  have hnone : readings [(0, 5), (0, 9), (1, 4)] t = [] := by simp [readings, Ne.symm h₀, Ne.symm h₁]
  rw [hnone]
  exact List.pairwise_singleton _ _

end Sample

end RiverGang
