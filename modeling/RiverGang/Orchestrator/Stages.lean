import RiverGang.Orchestrator.Backoff

/-!
# The life of an issue

What the orchestrator does with one issue, as a machine of its own: an issue is released, running, or queued for a retry,
and `Move` lists how the handling of a message may move it. The service refines it: the messages that it handles take
each issue through moves (`issue_lives`).

The machine forgets all else, so what is said of it is short. `IssueLife.Lived.conserved`: every worker that was started
on an issue is the one that runs, or has had its exit handled.
-/

namespace RiverGang

open Py Coop

/-! ## The machine -/

/-- Where an issue is. -/
inductive IssueStage
  | released
  | running (task attempt : Nat)
  | queued (attempt : Nat) (kind : RetryKind)
  deriving DecidableEq

/-- Whether a worker is on it. -/
def IssueStage.active : IssueStage → Bool
  | .running _ _ => true
  | _ => false

/-- An issue: where it is, whether an attempt on it ended well, and how many workers were started on it. -/
@[ext]
structure IssueLife where
  stage : IssueStage
  completed : Bool
  starts : Nat

namespace IssueLife

/-- An issue that nobody has seen. -/
def born : IssueLife := ⟨.released, false, 0⟩

def start (v : IssueLife) (task attempt : Nat) : IssueLife :=
  { v with stage := .running task attempt, starts := v.starts + 1 }

def put (v : IssueLife) (stage : IssueStage) : IssueLife := { v with stage := stage }

/-- The messages that have to move an issue: the exit of the running one, the retry of one that completed. -/
def Pressed (i : Str) : Message → IssueLife → Prop
  | .workerExit x, v => x.issueId = i ∧ v.stage.active = true
  | .retryTimerFired r, v => r.issueId = i ∧ v.completed = true ∧ ∃ n k, v.stage = .queued n k
  | _, _ => False

/-- What the handling of a message makes of an issue; `tasks` is the number of workers that were started before. -/
inductive Move (i : Str) (tasks : Nat) : Message → IssueLife → IssueLife → Prop
  | stay {m : Message} {v : IssueLife} : ¬Pressed i m v → Move i tasks m v v
  /-- a tick starts it, wherever it is but running -/
  | dispatch {v : IssueLife} {t : Nat} : v.stage.active = false → tasks ≤ t → Move i tasks .pollTick v (v.start t 1)
  | spawnFailed {v : IssueLife} : v.stage.active = false →
      Move i tasks .pollTick v (v.put (.queued 2 .failure))
  | exit {x : WorkerExit} {t n s : Nat} {c : Bool} : x.issueId = i →
      Move i tasks (.workerExit x) ⟨.running t n, c, s⟩ ⟨.queued (n + 1) x.retryKind, x.ok || c, s⟩
  /-- a retry finds that it completed, or no candidate -/
  | drop {r : RetryTimerFired} {n s : Nat} {k : RetryKind} {c : Bool} : r.issueId = i →
      Move i tasks (.retryTimerFired r) ⟨.queued n k, c, s⟩ ⟨.released, c, s⟩
  | redispatch {r : RetryTimerFired} {t n s : Nat} {k : RetryKind} : r.issueId = i → tasks ≤ t →
      Move i tasks (.retryTimerFired r) ⟨.queued n k, false, s⟩ (start ⟨.queued n k, false, s⟩ t n)
  | respawnFailed {r : RetryTimerFired} {n s : Nat} {k : RetryKind} : r.issueId = i →
      Move i tasks (.retryTimerFired r) ⟨.queued n k, false, s⟩ ⟨.queued (n + 1) .failure, false, s⟩

end IssueLife

/-! ## The service as the machine sees it -/

/-- The stage of an issue in a world. -/
def issueStage (w : World) (i : Str) : IssueStage :=
  match w.state.running.get? i with
  | some entry => .running entry.workerHandle entry.retryAttempt
  | none => (w.retryQueue.get? i).elim .released fun entry => .queued entry.attempt entry.kind

def lifeOf (w : World) (i : Str) : IssueLife :=
  ⟨issueStage w i, i ∈ w.state.completed, w.tasks.countP fun t => t.issue.id = i⟩

namespace IssueLife

/-- A life through the messages that were handled: between two receipts the issue moves by the first message. -/
inductive Lived (i : Str) : List (World × Message) → IssueLife → Prop
  | born : Lived i [] born
  | move {rs : List (World × Message)} {w : World} {m : Message} {v : IssueLife} : Lived i rs (lifeOf w i) →
      Move i w.tasks.length m (lifeOf w i) v → Lived i (rs ++ [(w, m)]) v

/-- The exits that were handled while the issue was running. -/
def exits (i : Str) (rs : List (World × Message)) : Nat :=
  rs.countP fun r => match r.2 with
    | .workerExit x => x.issueId = i ∧ (issueStage r.1 i).active
    | _ => false

theorem exits_concat (i : Str) (rs : List (World × Message)) (w : World) (m : Message) :
    exits i (rs ++ [(w, m)]) = exits i rs + exits i [(w, m)] := List.countP_append

/-- A message that presses nothing moves no exit. -/
theorem exits_single {i : Str} {w : World} {m : Message} (h : ∀ x, m = .workerExit x → ¬Pressed i m (lifeOf w i)) :
    exits i [(w, m)] = 0 := by
  cases m with
  | workerExit x =>
    have hn : ¬(x.issueId = i ∧ (issueStage w i).active = true) := h x rfl
    simp only [exits, List.countP_singleton, decide_eq_true_eq]
    rw [if_neg hn]
  | pollTick | codexUpdate | retryTimerFired | configReloaded | shutdown => rfl

/-- **Every worker is accounted for**: it runs, or its exit was handled. -/
theorem Lived.conserved {i : Str} {rs : List (World × Message)} {v : IssueLife} (h : Lived i rs v) :
    v.starts = exits i rs + v.stage.active.toNat := by
  induction h with
  | born => rfl
  | @move rs w m v _ hm ih =>
    rw [exits_concat]
    generalize hv : lifeOf w i = u at hm ih
    have hquiet : (∀ x, m ≠ .workerExit x) → exits i [(w, m)] = 0 := fun hne => exits_single fun x hx => absurd hx (hne x)
    cases hm with
    | stay hn =>
      rw [exits_single fun x hx => hv ▸ hn]
      exact ih
    | dispatch hi =>
      rw [hquiet (by simp)]
      rw [hi] at ih
      simp only [start, IssueStage.active, Bool.toNat_true, Bool.toNat_false] at ih ⊢
      omega
    | spawnFailed hi =>
      rw [hquiet (by simp)]
      rw [hi] at ih
      exact ih
    | @exit x t n s c hx =>
      have hone : exits i [(w, .workerExit x)] = 1 := by
        have hactive : x.issueId = i ∧ (issueStage w i).active = true := by
          have hs : issueStage w i = .running t n := congrArg IssueLife.stage hv
          exact ⟨hx, by rw [hs]; rfl⟩
        simp only [exits, List.countP_singleton, decide_eq_true_eq]
        rw [if_pos hactive]
      rw [hone]
      simp only [IssueStage.active, Bool.toNat_true, Bool.toNat_false] at ih ⊢
      omega
    | drop | respawnFailed =>
      rw [hquiet (by simp)]
      exact ih
    | redispatch =>
      rw [hquiet (by simp)]
      simp only [start, IssueStage.active, Bool.toNat_true, Bool.toNat_false] at ih ⊢
      omega

end IssueLife

/-! ## What the operations make of a life -/

section Operations

variable {w w' : World} {i : Str}

theorem issueStage_running {entry : RunningEntry} (h : w.state.running.get? i = some entry) :
    issueStage w i = .running entry.workerHandle entry.retryAttempt := by
  simp only [issueStage, h]

theorem issueStage_queued {entry : RetryEntry} (h : w.state.running.get? i = none) (hq : w.retryQueue.get? i = some entry) :
    issueStage w i = .queued entry.attempt entry.kind := by
  simp only [issueStage, h, hq, Option.elim_some]

theorem issueStage_released (h : w.state.running.get? i = none) (hq : w.retryQueue.get? i = none) :
    issueStage w i = .released := by
  simp only [issueStage, h, hq, Option.elim_none]

theorem issueStage_active : (issueStage w i).active = true ↔ i ∈ w.state.running := by
  rw [Dict.mem_iff_get?]
  unfold issueStage
  cases w.state.running.get? i with
  | some entry => simp [IssueStage.active]
  | none => cases w.retryQueue.get? i <;> simp [IssueStage.active]

theorem issueStage_inactive (h : i ∉ w.state.running) : (issueStage w i).active = false :=
  Bool.eq_false_iff.2 fun ha => h (issueStage_active.1 ha)

theorem issueStage_congr (hr : w'.state.running.get? i = w.state.running.get? i)
    (hq : w'.retryQueue.get? i = w.retryQueue.get? i) : issueStage w' i = issueStage w i := by
  unfold issueStage
  rw [hr, hq]

theorem lifeOf_congr (hr : w'.state.running = w.state.running) (hq : w'.retryQueue = w.retryQueue)
    (hc : w'.state.completed = w.state.completed) (ht : w'.tasks = w.tasks) : lifeOf w' i = lifeOf w i := by
  have hstage : issueStage w' i = issueStage w i := issueStage_congr (by rw [hr]) (by rw [hq])
  unfold lifeOf
  rw [hstage, hc, ht]

theorem lifeOf_frame (h : w.EventFrame w') : lifeOf w' i = lifeOf w i :=
  lifeOf_congr (by rw [h.state]) h.retryQueue (by rw [h.state]) h.tasks

/-- An entry of the same worker and attempt in the place of a running one. -/
theorem lifeOf_setRunning {j : Str} {entry entry' : RunningEntry} (he : w.state.running.get? j = some entry)
    (hw : entry'.workerHandle = entry.workerHandle) (ha : entry'.retryAttempt = entry.retryAttempt) :
    lifeOf (w.onState (·.setRunning j entry')) i = lifeOf w i := by
  have hstage : issueStage (w.onState (·.setRunning j entry')) i = issueStage w i := by
    have hget : (w.onState (·.setRunning j entry')).state.running.get? i = if j = i then some entry' else
      w.state.running.get? i := Dict.get?_insert ..
    by_cases hij : j = i
    · subst hij
      rw [if_pos rfl] at hget
      rw [issueStage_running hget, issueStage_running he, hw, ha]
    · rw [if_neg hij] at hget
      exact issueStage_congr hget rfl
  unfold lifeOf
  rw [hstage]
  rfl

theorem lifeOf_dispatched (w : World) (issue : Issue) (attempt : Nat) (i : Str) :
    lifeOf (w.dispatched issue attempt) i =
      if issue.id = i then (lifeOf w i).start w.tasks.length attempt else lifeOf w i := by
  have hget : (w.dispatched issue attempt).state.running.get? i = if issue.id = i then
    some (freshEntry w.tasks.length issue attempt w.now) else w.state.running.get? i := Dict.get?_insert ..
  have hqueue : (w.dispatched issue attempt).retryQueue.get? i = if issue.id = i then none else w.retryQueue.get? i :=
    Dict.get?_erase ..
  have hstarts : (w.dispatched issue attempt).tasks.countP (fun t => t.issue.id = i) =
      w.tasks.countP (fun t => t.issue.id = i) + if issue.id = i then 1 else 0 := by
    change (w.tasks ++ [_]).countP _ = _
    rw [List.countP_append, List.countP_singleton]
    simp
  unfold lifeOf
  rw [hstarts]
  by_cases hi : issue.id = i
  · rw [if_pos hi] at hget
    rw [issueStage_running hget, if_pos hi, if_pos hi]
    rfl
  · rw [if_neg hi] at hget hqueue
    rw [issueStage_congr hget hqueue, if_neg hi, if_neg hi]
    rfl

/-- A retry for an issue that is not running. -/
theorem lifeOf_scheduled {j : Str} (hj : j ∉ w.state.running) (n : Nat) (k : RetryKind) (d : Int) (f : Str → Callback)
    (e : Option Str) (i : Str) : lifeOf (w.scheduled j n k d f e) i =
      if j = i then (lifeOf w i).put (.queued n k) else lifeOf w i := by
  have hqueue := World.get?_scheduled w j n k d f e i
  unfold lifeOf
  by_cases hi : j = i
  · subst hi
    rw [if_pos rfl] at hqueue
    rw [issueStage_queued (show (w.scheduled j n k d f e).state.running.get? j = none from Dict.get?_eq_none.2 hj) hqueue,
      if_pos rfl]
    rfl
  · rw [if_neg hi] at hqueue
    have hstage : issueStage (w.scheduled j n k d f e) i = issueStage w i := issueStage_congr rfl hqueue
    rw [hstage, if_neg hi]
    rfl

theorem lifeOf_popRetry (w : World) (j i : Str) : lifeOf (w.popRetry j) i =
    if j = i ∧ i ∉ w.state.running then (lifeOf w i).put .released else lifeOf w i := by
  have hqueue : (w.popRetry j).retryQueue.get? i = if j = i then none else w.retryQueue.get? i := Dict.get?_erase ..
  unfold lifeOf
  by_cases hi : j = i
  · rw [if_pos hi] at hqueue
    by_cases hr : i ∈ w.state.running
    · obtain ⟨entry, he⟩ := Dict.mem_iff_get?.1 hr
      rw [issueStage_running (show (w.popRetry j).state.running.get? i = some entry from he), issueStage_running he,
        if_neg fun h => h.2 hr]
      rfl
    · rw [issueStage_released (show (w.popRetry j).state.running.get? i = none from Dict.get?_eq_none.2 hr) hqueue,
        if_pos ⟨hi, hr⟩]
      rfl
  · rw [if_neg hi] at hqueue
    have hstage : issueStage (w.popRetry j) i = issueStage w i := issueStage_congr rfl hqueue
    rw [hstage, if_neg fun h => hi h.1]
    rfl

end Operations

/-! ## The phases -/

section Service

variable [Unicode]

/-- How far the handling of `m`, which was received in `v`, has moved the issue. -/
def Moving (i : Str) (v : World) (m : Message) : Phase → World → Prop
  | .handling m', w => m' = m ∧ v.tasks.length ≤ w.tasks.length ∧ lifeOf w i = lifeOf v i
  | .loop issues, w => m = .pollTick ∧ v.tasks.length ≤ w.tasks.length ∧
      IssueLife.Move i v.tasks.length .pollTick (lifeOf v i) (lifeOf w i) ∧
      (i ∈ issues.map (·.id) → lifeOf w i = lifeOf v i)
  | .retry r entry, w => m = .retryTimerFired r ∧ v.tasks.length ≤ w.tasks.length ∧
      if r.issueId = i then
        ∃ s, lifeOf v i = ⟨.queued entry.attempt entry.kind, false, s⟩ ∧ lifeOf w i = ⟨.released, false, s⟩
      else lifeOf w i = lifeOf v i
  | .done m', w => m' = m ∧ IssueLife.Move i v.tasks.length m (lifeOf v i) (lifeOf w i)
  | .crashed _, _ => True

variable {D : OrchDiscipline} {i : Str} {v w w' : World} {m : Message} {φ φ' : Phase}

omit [Unicode] in
theorem Moving.congr (h : Moving i v m φ w) (hl : lifeOf w' i = lifeOf w i) (ht : w'.tasks = w.tasks) :
    Moving i v m φ w' := by
  cases φ with
  | handling | loop | retry =>
    simp only [Moving] at h ⊢
    rw [hl, ht]
    exact h
  | done =>
    simp only [Moving] at h ⊢
    rw [hl]
    exact h
  | crashed => trivial

omit [Unicode] in
theorem IssueLife.Move.quiet {n : Nat} {a b : IssueLife} (hm : ∀ u, ¬Pressed i m u) (h : b = a) : Move i n m a b := by
  rw [h]
  exact .stay (hm a)

omit [Unicode] in
/-- What a dispatch of the issue leaves, from where no worker is on it. -/
theorem lifeOf_dispatchIssue {issue : Issue} {attempt : Nat} {cap : Int} {r : Option RunningEntry}
    (hn : issue.id ∉ w.state.running) (hd : dispatchIssue issue attempt cap w = .ret r w') :
    w.tasks.length ≤ w'.tasks.length ∧ lifeOf w' i =
      if issue.id = i then
        if w.spawnError issue attempt = none then (lifeOf w i).start w.tasks.length attempt
        else (lifeOf w i).put (.queued (attempt + 1) .failure)
      else lifeOf w i := by
  rcases dispatchIssue_ret hd with ⟨hs, rfl⟩ | ⟨exc, delay, hs, rfl⟩
  · refine ⟨?_, by rw [lifeOf_dispatched, if_pos hs]⟩
    change w.tasks.length ≤ (w.tasks ++ [_]).length
    simp
  · refine ⟨Nat.le_refl _, ?_⟩
    have hn' : issue.id ∉ (w.spawnFailed issue.id).state.running := hn
    have hsome : some exc ≠ none := by simp
    rw [lifeOf_scheduled hn', hs]
    by_cases hi : issue.id = i
    · rw [if_pos hi, if_pos hi, if_neg hsome]
      rfl
    · rw [if_neg hi, if_neg hi]
      have hqueue : (w.spawnFailed issue.id).retryQueue.get? i = w.retryQueue.get? i := Dict.get?_erase_of_ne _ hi
      have hstage : issueStage (w.spawnFailed issue.id) i = issueStage w i := issueStage_congr rfl hqueue
      unfold lifeOf
      rw [hstage]
      rfl

omit [Unicode] in
theorem exited_completed (w : World) (x : WorkerExit) :
    i ∈ (w.exited x).state.completed ↔ (x.ok = true ∧ x.issueId = i) ∨ i ∈ w.state.completed := by
  unfold World.exited
  cases x.ok with
  | false =>
    change i ∈ w.state.completed ↔ _
    simp
  | true =>
    change i ∈ insert x.issueId w.state.completed ↔ _
    rw [Finset.mem_insert, eq_comm]
    simp

omit [Unicode] in
/-- The exit of a running issue. -/
theorem move_exited {n : Nat} {x : WorkerExit} {entry : RunningEntry} (hr : w.state.running.get? x.issueId = some entry) :
    IssueLife.Move i n (.workerExit x) (lifeOf w i) (if x.issueId = i then
      (lifeOf (w.exited x) i).put (.queued (nextAttemptFrom entry) x.retryKind) else lifeOf (w.exited x) i) := by
  have htasks : (w.exited x).tasks = w.tasks := by rw [World.exited_eq]
  have hqueue : (w.exited x).retryQueue = w.retryQueue := by rw [World.exited_eq]
  have hdone : (lifeOf (w.exited x) i).completed = (x.ok && decide (x.issueId = i) || (lifeOf w i).completed) := by
    have hiff := exited_completed (i := i) w x
    rw [Bool.eq_iff_iff]
    simpa only [lifeOf, Bool.or_eq_true, Bool.and_eq_true, decide_eq_true_eq] using hiff
  have hstarts : (lifeOf (w.exited x) i).starts = (lifeOf w i).starts := by
    unfold lifeOf
    rw [htasks]
  by_cases hi : x.issueId = i
  · rw [if_pos hi]
    rw [decide_eq_true hi, Bool.and_true] at hdone
    have hlife : lifeOf w i =
        ⟨.running entry.workerHandle entry.retryAttempt, (lifeOf w i).completed, (lifeOf w i).starts⟩ := by
      rw [← issueStage_running (hi ▸ hr)]
      rfl
    have hnext (s : IssueStage) : (lifeOf (w.exited x) i).put s =
        ⟨s, x.ok || (lifeOf w i).completed, (lifeOf w i).starts⟩ := by
      rw [← hdone, ← hstarts]
      rfl
    rw [hnext, hlife]
    exact .exit hi
  · rw [if_neg hi]
    have hget : (w.exited x).state.running.get? i = w.state.running.get? i := by
      rw [World.exited_running]
      exact Dict.get?_erase_of_ne _ hi
    have hstage : (lifeOf (w.exited x) i).stage = (lifeOf w i).stage := issueStage_congr hget (by rw [hqueue])
    rw [decide_eq_false hi, Bool.and_false, Bool.false_or] at hdone
    have hsame : lifeOf (w.exited x) i = lifeOf w i := IssueLife.ext hstage hdone hstarts
    rw [hsame]
    exact .stay fun hp => hi hp.1

/-- **The step lemma.** -/
theorem Work.moving (hx : ExclusiveIn φ w) (h : Moving i v m φ w) (hw : Work D w φ w' φ') : Moving i v m φ' w' := by
  cases hw with
  | stall | terminateWithCleanup | terminateWithoutCleanup | adopt =>
    exact h.congr (lifeOf_congr rfl rfl rfl rfl) rfl
  | refresh he _ => exact h.congr (lifeOf_setRunning he rfl rfl) rfl
  | skipTick ht =>
    obtain ⟨rfl, -, hl⟩ := h
    rw [scheduleNextTick_ret ht, World.tickScheduled_eq]
    exact ⟨rfl, .quiet (fun _ => id) hl⟩
  | eligible =>
    obtain ⟨rfl, hn, hl⟩ := h
    exact ⟨rfl, hn, .quiet (fun _ => id) hl, fun _ => hl⟩
  | skip | rewait =>
    obtain ⟨rfl, hn, hm, hl⟩ := h
    exact ⟨rfl, hn, hm, fun hi => hl (List.mem_cons_of_mem _ hi)⟩
  | @dispatch _ issue issues _ _ hd =>
    obtain ⟨rfl, hn, hm, hl⟩ := h
    have hpop : lifeOf (w.onState (·.popWaiting issue.id)) i = lifeOf w i := lifeOf_congr rfl rfl rfl rfl
    have hfresh : issue.id ∉ (w.onState (·.popWaiting issue.id)).state.running := hx.2.2 _ List.mem_cons_self
    obtain ⟨hle, hlife⟩ := lifeOf_dispatchIssue (i := i) hfresh hd
    have hle : w.tasks.length ≤ w'.tasks.length := hle
    rw [hpop] at hlife
    by_cases hi : issue.id = i
    · subst hi
      have hsame := hl (by simp)
      have hidle : (lifeOf v issue.id).stage.active = false := by
        rw [← hsame]
        exact issueStage_inactive hfresh
      have htail : issue.id ∉ issues.map (·.id) := (List.nodup_cons.1 hx.2.1).1
      rw [if_pos rfl, hsame] at hlife
      refine ⟨rfl, by omega, ?_, fun hi => absurd hi htail⟩
      rw [hlife]
      split
      · exact .dispatch hidle hn
      · exact .spawnFailed hidle
    · rw [if_neg hi] at hlife
      rw [← hlife] at hm hl
      refine ⟨rfl, by omega, hm, fun hi => hl (List.mem_cons_of_mem _ hi)⟩
  | endLoop ht =>
    obtain ⟨rfl, -, hm, -⟩ := h
    rw [scheduleNextTick_ret ht, World.tickScheduled_eq]
    exact ⟨rfl, hm⟩
  | @exit _ x hx' =>
    obtain ⟨rfl, -, hl⟩ := h
    have hx : Exclusive w := hx
    refine ⟨rfl, ?_⟩
    rcases onWorkerExit_ret hx' with ⟨hr, rfl⟩ | ⟨entry, delay, hr, rfl⟩
    · rw [hl]
      refine .stay fun hp => ?_
      rw [← hl] at hp
      obtain ⟨rfl, ha⟩ := hp
      exact absurd (issueStage_active.1 ha) (Dict.get?_eq_none.1 hr)
    · have hlife : lifeOf (((w.exited x).scheduled x.issueId (nextAttemptFrom entry) x.retryKind delay postRetryTimer
          x.retryError).onState (·.unclaim x.issueId)) i = lifeOf ((w.exited x).scheduled x.issueId
          (nextAttemptFrom entry) x.retryKind delay postRetryTimer x.retryError) i := lifeOf_congr rfl rfl rfl rfl
      rw [hlife, lifeOf_scheduled (not_mem_exited w x), ← hl]
      exact move_exited hr
  | @update x =>
    obtain ⟨rfl, -, hl⟩ := h
    refine ⟨rfl, ?_⟩
    have hsame : lifeOf (w.onState (onCodexUpdate · x)) i = lifeOf w i := by
      rcases onCodexUpdate_cases w x with hu | ⟨entry, totals, limits, hr, hu⟩
      · rw [hu]
      · have hset : lifeOf (w.onState (·.setRunning x.issueId (entry.updated x.event))) i = lifeOf w i :=
          lifeOf_setRunning hr rfl rfl
        rw [hu, ← hset]
        exact lifeOf_congr rfl rfl rfl rfl
    rw [hsame, hl]
    exact .stay id
  | reload =>
    obtain ⟨rfl, -, hl⟩ := h
    exact ⟨rfl, .quiet (fun _ => id) hl⟩
  | shutdown =>
    obtain ⟨rfl, -, hl⟩ := h
    rw [World.tickCancelled_eq]
    exact ⟨rfl, .quiet (fun _ => id) hl⟩
  | @noEntry r hq =>
    obtain ⟨rfl, -, hl⟩ := h
    refine ⟨rfl, ?_⟩
    rw [hl]
    refine .stay fun hp => ?_
    rw [← hl] at hp
    obtain ⟨rfl, -, n, k, hs⟩ := hp
    change issueStage w r.issueId = _ at hs
    cases hr : w.state.running.get? r.issueId with
    | some entry => cases (issueStage_running hr).symm.trans hs
    | none => cases (issueStage_released hr hq).symm.trans hs
  | @completed r entry hq hc =>
    obtain ⟨rfl, -, hl⟩ := h
    have hx : Exclusive w := hx
    refine ⟨rfl, ?_⟩
    have hsame : lifeOf ((w.popRetry r.issueId).onState (·.unclaim r.issueId)) i = lifeOf (w.popRetry r.issueId) i :=
      lifeOf_congr rfl rfl rfl rfl
    rw [hsame, lifeOf_popRetry, ← hl]
    have hidle : r.issueId ∉ w.state.running := fun hr => by cases (hx.noRetry hr).symm.trans hq
    by_cases hi : r.issueId = i
    · subst hi
      rw [if_pos ⟨rfl, hidle⟩]
      have hlife : lifeOf w r.issueId = ⟨.queued entry.attempt entry.kind, (lifeOf w r.issueId).completed,
          (lifeOf w r.issueId).starts⟩ := by
        rw [← issueStage_queued (Dict.get?_eq_none.2 hidle) hq]
        rfl
      rw [hlife]
      exact .drop rfl
    · rw [if_neg fun h => hi h.1]
      exact .stay fun hp => hi hp.1
  | @popRetry r entry hq hc =>
    obtain ⟨rfl, hn, hl⟩ := h
    have hx : Exclusive w := hx
    refine ⟨rfl, hn, ?_⟩
    have hidle : r.issueId ∉ w.state.running := fun hr => by cases (hx.noRetry hr).symm.trans hq
    rw [lifeOf_popRetry, ← hl]
    by_cases hi : r.issueId = i
    · subst hi
      rw [if_pos rfl, if_pos ⟨rfl, hidle⟩]
      refine ⟨(lifeOf w r.issueId).starts, ?_, ?_⟩ <;> unfold lifeOf
      · rw [issueStage_queued (Dict.get?_eq_none.2 hidle) hq, decide_eq_false hc]
      · rw [decide_eq_false hc]
        rfl
    · rw [if_neg hi, if_neg fun h => hi h.1]
  | @reschedule _ r entry _ hs =>
    obtain ⟨rfl, hn, hl⟩ := h
    obtain ⟨d, -, rfl⟩ := RetryQueue.schedule_ret hs
    refine ⟨rfl, ?_⟩
    rw [lifeOf_scheduled hx.2]
    by_cases hi : r.issueId = i
    · rw [if_pos hi] at hl ⊢
      obtain ⟨s, hv, hw⟩ := hl
      rw [hv, hw]
      exact .stay fun hp => by cases hp.2.1
    · rw [if_neg hi] at hl ⊢
      rw [hl]
      exact .stay fun hp => hi hp.1
  | @release r entry =>
    obtain ⟨rfl, hn, hl⟩ := h
    refine ⟨rfl, ?_⟩
    change IssueLife.Move i _ _ (lifeOf v i) (lifeOf w i)
    by_cases hi : r.issueId = i
    · rw [if_pos hi] at hl
      obtain ⟨s, hv, hw⟩ := hl
      rw [hv, hw]
      exact .drop hi
    · rw [if_neg hi] at hl
      rw [hl]
      exact .stay fun hp => hi hp.1
  | @redispatch _ r entry issue _ hm _ hd =>
    obtain ⟨rfl, hn, hl⟩ := h
    have hid := hm.id_eq
    obtain ⟨hle, hlife⟩ := lifeOf_dispatchIssue (i := i) (hid ▸ hx.2) hd
    refine ⟨rfl, ?_⟩
    rw [hlife, hid]
    by_cases hi : r.issueId = i
    · rw [if_pos hi] at hl ⊢
      obtain ⟨s, hv, hw⟩ := hl
      rw [hv, hw]
      split
      · exact .redispatch hi hn
      · exact .respawnFailed hi
    · rw [if_neg hi] at hl ⊢
      rw [hl]
      exact .stay fun hp => hi hp.1
  | crash => trivial

/-! ## Every run -/

/-- The issue in a phase of the message that was received last. -/
def InStage (i : Str) (rs : List (World × Message)) (φ : Phase) (w : World) : Prop :=
  ExclusiveIn φ w ∧ ∃ rs₀ v m, rs = rs₀ ++ [(v, m)] ∧ IssueLife.Lived i rs₀ (lifeOf v i) ∧ Moving i v m φ w

omit [Unicode] in
theorem World.IsInitial.lived (h : w.IsInitial) : IssueLife.Lived i [] (lifeOf w i) := by
  obtain ⟨config, now, client, factory, loader, spawnError, reloads, rfl⟩ := h
  exact .born

theorem handlers_keep_inStage (i : Str) (rs : List (World × Message)) :
    (handlerPhases distinctCandidates).Keeps orchestrator distinctCandidates (InStage i rs) where
  work h hw := by
    obtain ⟨hx, rs₀, v, m, hrs, hlived, hm⟩ := h
    exact ⟨hw.exclusive distinctCandidates_distinct hx, rs₀, v, m, hrs, hlived, hw.moving hx hm⟩
  event h _ _ he := by
    obtain ⟨hx, rs₀, v, m, hrs, hlived, hm⟩ := h
    have hf := event_frame he
    exact ⟨hx.of_frame hf, rs₀, v, m, hrs, hlived, hm.congr (lifeOf_frame hf) hf.tasks⟩

/-- **Each issue lives by the machine**: what the service holds of it after a run is what the moves of the messages that
were handled make of it. As many workers were started on it as exits of its running attempts were handled, and the one
that runs; and nothing but a running one is claimed. -/
theorem issue_lives {past : List (OrchConf × Label OrchSig Event)} {c : OrchConf}
    (h : orchestrator.Trace distinctCandidates World.IsInitial past c) (hc : c.mode = .idle) (i : Str) :
    IssueLife.Lived i (orchestrator.receipts past) (lifeOf c.state i) ∧
      (lifeOf c.state i).starts =
        IssueLife.exits i (orchestrator.receipts past) + (lifeOf c.state i).stage.active.toNat ∧
      (i ∈ c.state.state.claimed ↔ (lifeOf c.state i).stage.active = true) := by
  have hs := Phases.trace_says (J := fun rs w => Exclusive w ∧ IssueLife.Lived i rs (lifeOf w i)) (K := InStage i)
    (handlers_simulate distinctCandidates) (handlers_keep_inStage i) (fun w hw => ⟨hw.exclusive, hw.lived⟩)
    (fun rs w e w' hk _ he => ?_) (fun rs w m w' hk hr _ => ?_) (fun rs w m _ hk => ?_) h
  · have hidle : NoIdleClaim c.state := reachable_noIdleClaim h.reach fun e he => by rw [hc] at he; cases he
    obtain ⟨w, mode⟩ := c
    obtain rfl : mode = .idle := hc
    obtain ⟨hx, hlived⟩ := hs
    exact ⟨hlived, hlived.conserved, fun hi => issueStage_active.2 (hidle i hi),
      fun ha => hx.claimed (issueStage_active.1 ha)⟩
  · have hf := event_frame he
    exact ⟨ExclusiveIn.of_frame (φ := .handling .pollTick) hk.1 hf, (lifeOf_frame hf).symm ▸ hk.2⟩
  · obtain ⟨hw, -⟩ := recv_eq hr
    refine ⟨?_, rs, w, m, rfl, hk.2, rfl, ?_, ?_⟩ <;> rw [hw]
    · exact hk.1.congr rfl rfl rfl rfl
    · exact lifeOf_congr rfl rfl rfl rfl
  · obtain ⟨hx, rs₀, v, m', rfl, hlived, rfl, hm⟩ := hk
    exact ⟨hx, hlived.move hm⟩

end Service

section Sample

attribute [local instance] asciiTables

/-- A failed attempt: the issue waits for its second, and the one worker that was started has its exit handled. -/
theorem issue_lives_sample : ∃ past c, orchestrator.Trace distinctCandidates World.IsInitial past c ∧
    c.mode = .idle ∧ issueStage c.state (py "a") = .queued 2 .failure ∧
    IssueLife.exits (py "a") (orchestrator.receipts past) = 1 ∧ py "a" ∉ c.state.state.claimed := by
  have hrun : ((orchestrator.run sampleStart (sampleTick ++ sampleFailure)).map fun c => (c.mode.isIdle,
      issueStage c.state (py "a"), c.state.tasks.countP fun t => t.issue.id = py "a")) =
      some (true, .queued 2 .failure, 1) := by decide +kernel
  obtain ⟨c, hc, he⟩ := Option.map_eq_some_iff.1 hrun
  obtain ⟨hmode, he⟩ := Prod.mk.inj he
  obtain ⟨hstage, hstarts⟩ := Prod.mk.inj he
  have hl : ∀ l ∈ sampleTick ++ sampleFailure, distinctCandidates.Always l := by
    intro l hl
    simp only [sampleTick, sampleFailure, List.cons_append, List.nil_append, List.mem_cons, List.not_mem_nil,
      or_false] at hl
    rcases hl with rfl | rfl | rfl | rfl | rfl | rfl | rfl
    case inr.inr.inr.inr.inr.inl => exact fun _ => trivial
    case inl | inr.inr.inr.inr.inr.inr => exact fun _ _ => trivial
    all_goals
      intro m s r _ candidates hr
      cases r <;> cases hr
      simp
  have ht := Server.Trace.run (.start sampleWorld_isInitial) hl hc
  have hidle : c.mode = .idle := Mode.isIdle_iff.1 hmode
  obtain ⟨-, hsum, hclaimed⟩ := issue_lives ht hidle (py "a")
  have hinactive : (lifeOf c.state (py "a")).stage.active = false := congrArg IssueStage.active hstage
  rw [hinactive] at hsum hclaimed
  have hone : (lifeOf c.state (py "a")).starts = 1 := hstarts
  rw [hone, Bool.toNat_false, Nat.add_zero] at hsum
  exact ⟨_, c, ht, hidle, hstage, hsum.symm, fun hi => Bool.false_ne_true (hclaimed.1 hi)⟩

end Sample

end RiverGang
