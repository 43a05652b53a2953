import RiverGang.Orchestrator.Ticks

/-!
# The poll loop goes on

An exception that escapes a handler ends the dispatcher, and with it the ticks. Not all that a tick does with data is
within a `try`: dates with and without an offset do not compare, and a fingerprint is taken of UTF-8 text, which a lone
surrogate has no place in.

* `poll_loop_kept`: on data without either, as long as failures are ordinary exceptions and delays can be scheduled, the
  dispatcher does not crash, and a tick stays due.
* `poll_loop_killed`: two issues, one of them with an offset in its date of creation, end the dispatcher.
-/

namespace RiverGang

open Py Coop

section Service

variable [Unicode]

/-! ## Data that a tick can take -/

/-- The delays that a configuration asks for can be scheduled at an instant, as can the next poll of an unclear issue. -/
structure EffectiveConfig.Schedulable (config : EffectiveConfig) (now : Instant) : Prop where
  interval : FloatFits config.polling.intervalMs
  backoff : RetryQueue.DelayFits now config.agent.maxRetryBackoffMs
  continuation : RetryQueue.DelayFits now CONTINUATION_DELAY_MS
  clarification : RetryQueue.DelayFits now CLARIFICATION_POLL_INTERVAL_MS

/-- All that the dispatcher may adopt can be scheduled, and what may fail fails with ordinary exceptions. -/
structure World.Tame (w : World) : Prop where
  config : w.config.Schedulable w.now
  loaded : ∀ config, w.workflowLoader = .ok (some config) → config.Schedulable w.now
  reloaded : ∀ config, .configReloaded config ∈ w.mailbox → config.Schedulable w.now
  loader : ∀ e, w.workflowLoader = .error e → e.isException = true
  spawn : ∀ issue attempt e, w.spawnError issue attempt = some e → e.isException = true

/-- Issues of one priority have dates that compare; a missing date counts as one with an offset. -/
def Comparable (issues : List Issue) : Prop :=
  ∀ x ∈ issues, ∀ y ∈ issues, x.priority = y.priority →
    (x.createdAt.getD farFuture).aware = (y.createdAt.getD farFuture).aware

/-- The service, as long as no event makes it less than tame, calls fail with ordinary exceptions, and a tick gets
eligible issues that compare, and no lone surrogates in what it takes fingerprints of. -/
def tameData : OrchDiscipline where
  event w e := ∀ w', World.event e w = some w' → w'.Tame
  receive _ _ := True
  answer m w r x :=
    (∀ e, failure r x = some e → e.isException = true) ∧
    (m = .pollTick →
      (∀ candidates, candidatesOf r x = some candidates → Comparable (filterCandidates candidates w.state
        w.config.tracker.activeStates w.config.tracker.terminalStates)) ∧
      (∀ issue comments, commentsOf r x = some (issue, comments) → EncodableInputs issue comments) ∧
      ∀ issue decision, analysisOf r x = some (issue, decision) → decision.sufficient = false →
        ∀ q ∈ normalizedQuestions decision.questions, Utf8Encodable q)

omit [Unicode] in
/-- The backoff of an attempt: at least ten seconds, but for the cap. -/
theorem computeBackoffMs_ok {attempt : Nat} (h : 1 ≤ attempt) (cap : Int) :
    ∃ base, 10000 ≤ base ∧ computeBackoffMs attempt cap = .ok (min base cap) := by
  refine ⟨FAILURE_BASE_MS * 2 ^ (attempt - 1), ?_, if_neg (by omega)⟩
  have hpow : (0 : Int) < 2 ^ (attempt - 1) := Int.pow_pos (by decide)
  simp only [FAILURE_BASE_MS]
  omega

omit [Unicode] in
/-- Every delay of a retry can be scheduled. -/
theorem EffectiveConfig.Schedulable.delay {config : EffectiveConfig} {now : Instant} (h : config.Schedulable now)
    (kind : RetryKind) (attempt : Nat) (ha : 1 ≤ attempt) :
    ∃ delay, RetryQueue.delayMs kind attempt config.agent.maxRetryBackoffMs = .ok delay ∧
      RetryQueue.DelayFits now delay := by
  cases kind with
  | continuation => exact ⟨_, rfl, h.continuation⟩
  | failure =>
    obtain ⟨base, hb, hd⟩ := computeBackoffMs_ok ha config.agent.maxRetryBackoffMs
    obtain ⟨⟨hl, hu⟩, h0, hm⟩ := h.backoff
    obtain ⟨-, hc, -⟩ := h.continuation
    refine ⟨_, hd, ⟨by omega, by omega⟩, ?_, ?_⟩ <;> simp only [CONTINUATION_DELAY_MS, Instant] at * <;> omega

/-- Issues that compare can be sorted. -/
theorem eligibleOf_ok {w : World} {candidates : List Issue} (h : Comparable (filterCandidates candidates w.state
    w.config.tracker.activeStates w.config.tracker.terminalStates)) : ∃ issues, eligibleOf w candidates = .ok issues := by
  refine sorted_total fun x hx y hy => ?_
  by_cases hp : x.priority = y.priority
  · exact DispatchKey.lt_ok (h x hx y hy hp)
  · refine DispatchKey.lt_ok_of_ne ?_
    cases hx : x.priority <;> cases hy : y.priority <;> simp_all [dispatchSortKey]

/-! ## No crash -/

/-- Attempts from 1 on. -/
def Attempts (w : World) : Prop := ∀ i entry, w.retryQueue.get? i = some entry → 1 ≤ entry.attempt

/-- What the phases know; none is a crash. -/
def Steady : Phase → World → Prop
  | .crashed _, _ => False
  | .handling (.configReloaded config), w => (w.Tame ∧ Attempts w) ∧ config.Schedulable w.now
  | .retry _ entry, w => (w.Tame ∧ Attempts w) ∧ 1 ≤ entry.attempt
  | _, w => w.Tame ∧ Attempts w

omit [Unicode] in
theorem Steady.base {φ : Phase} {w : World} (h : Steady φ w) : w.Tame ∧ Attempts w := by
  cases φ with
  | crashed => exact h.elim
  | handling m =>
    cases m with
    | configReloaded => exact h.1
    | pollTick | workerExit | codexUpdate | retryTimerFired | shutdown => exact h
  | retry => exact h.1
  | loop | done => exact h

omit [Unicode] in
/-- A dispatch does not raise where worker starts fail with ordinary exceptions and the delays can be scheduled. -/
theorem World.Tame.dispatchIssue {w w' : World} {issue : Issue} {attempt : Nat} {e : Exn} (h : w.Tame) :
    dispatchIssue issue attempt w.config.agent.maxRetryBackoffMs w ≠ .raise e w' := by
  intro hd
  rcases dispatchIssue_cases issue attempt w.config.agent.maxRetryBackoffMs w with ⟨-, hd'⟩ | ⟨exc, delay, -, -, hd'⟩ |
    ⟨exc, hs, hf, -⟩
  · cases hd.symm.trans hd'
  · cases hd.symm.trans hd'
  · obtain ⟨delay, hdelay, hfits⟩ := h.config.delay .failure (attempt + 1) (by omega)
    exact hf (h.spawn _ _ _ hs) delay hdelay hfits

/-- **Nothing crashes.** -/
theorem Crash.elim {w w' : World} {φ : Phase} {e : Exn} (h : Steady φ w) (hc : Crash tameData w φ e w') : False := by
  have ht := h.base.1
  cases hc with
  | answer _ ha hx he =>
    have hx := ha.1 e hx
    rw [he] at hx
    cases hx
  | loader hl he =>
    have hl := ht.loader e hl
    rw [he] at hl
    cases hl
  | interval _ hs => exact (scheduleNextTick_error hs).2 ht.config.interval
  | sort ha he =>
    obtain ⟨issues, hi⟩ := eligibleOf_ok ((ha.2 rfl).1 _ rfl)
    cases he.symm.trans hi
  | inputs ha he =>
    obtain ⟨d, hd⟩ := fingerprintClarificationInputs_ok_iff.2 ((ha.2 rfl).2.1 _ _ rfl)
    cases he.symm.trans hd
  | questions ha hs he =>
    obtain ⟨d, hd⟩ := fingerprintQuestions_ok_iff.2 ((ha.2 rfl).2.2 _ _ rfl hs)
    cases he.symm.trans hd
  | @dispatch _ _ issue _ _ _ hd =>
    have ht' : (w.onState (·.popWaiting issue.id)).Tame := ⟨ht.config, ht.loaded, ht.reloaded, ht.loader, ht.spawn⟩
    exact ht'.dispatchIssue hd
  | exit hx =>
    obtain ⟨entry, -, -, hf⟩ := onWorkerExit_raise hx
    obtain ⟨delay, hd, hfits⟩ := ht.config.delay _ (nextAttemptFrom entry) (Nat.succ_pos _)
    exact hf delay hd hfits
  | reschedule hs =>
    obtain ⟨delay, hd, hfits⟩ := ht.config.delay _ _ h.2
    exact (RetryQueue.schedule_raise hs).2 delay hd hfits
  | redispatch _ _ hd => exact ht.dispatchIssue hd

/-! ## The phases keep it -/

omit [Unicode] in
/-- What a step changes of the configuration is one that was there to be adopted. -/
theorem World.Tame.congr {w w' : World} (h : w.Tame) (hc : w'.config.Schedulable w.now) (hn : w'.now = w.now)
    (hl : w'.workflowLoader = w.workflowLoader)
    (hm : ∀ config, .configReloaded config ∈ w'.mailbox → .configReloaded config ∈ w.mailbox)
    (hs : w'.spawnError = w.spawnError) : w'.Tame where
  config := by rw [hn]; exact hc
  loaded config hload := by
    rw [hl] at hload
    rw [hn]
    exact h.loaded config hload
  reloaded config hmem := by
    rw [hn]
    exact h.reloaded config (hm config hmem)
  loader := by rw [hl]; exact h.loader
  spawn := by rw [hs]; exact h.spawn

omit [Unicode] in
theorem Attempts.scheduled {w : World} {n : Nat} (h : Attempts w) (hn : 1 ≤ n) (i : Str) (k : RetryKind) (d : Int)
    (f : Str → Callback) (e : Option Str) : Attempts (w.scheduled i n k d f e) := by
  intro j entry he
  rw [World.get?_scheduled] at he
  split at he
  · cases he
    exact hn
  · exact h j entry he

omit [Unicode] in
theorem Attempts.erase {w w' : World} {i : Str} (h : Attempts w) (hq : w'.retryQueue = w.retryQueue.erase i) :
    Attempts w' := by
  intro j entry he
  rw [hq] at he
  exact h j entry (Dict.get?_of_erase he)

omit [Unicode] in
/-- A dispatch keeps both. -/
theorem steady_dispatchIssue {w w' : World} {issue : Issue} {n : Nat} {cap : Int} {r : Option RunningEntry}
    (h : w.Tame ∧ Attempts w) (hd : dispatchIssue issue n cap w = .ret r w') : w'.Tame ∧ Attempts w' := by
  obtain ⟨ht, ha⟩ := h
  rcases dispatchIssue_ret hd with ⟨-, rfl⟩ | ⟨exc, delay, -, rfl⟩
  · exact ⟨ht.congr ht.config rfl rfl (fun _ => id) rfl, ha.erase rfl⟩
  · have hs : Attempts (w.spawnFailed issue.id) := ha.erase rfl
    exact ⟨ht.congr ht.config rfl rfl (fun _ => id) rfl, hs.scheduled (Nat.succ_pos n) _ _ _ _ _⟩

/-- **The step lemma.** -/
theorem Work.steady {w w' : World} {φ φ' : Phase} (h : Steady φ w) (hw : Work tameData w φ w' φ') : Steady φ' w' := by
  obtain ⟨ht, ha⟩ := h.base
  cases hw with
  | stall =>
    refine ⟨ht.congr ht.config rfl rfl (fun config hm => ?_) rfl, ha⟩
    rcases List.mem_append.1 hm with hm | hm
    · exact hm
    · simp at hm
  | terminateWithCleanup | terminateWithoutCleanup | refresh | eligible | skip | rewait | update | noEntry | release =>
    exact ⟨ht.congr ht.config rfl rfl (fun _ => id) rfl, ha⟩
  | adopt hl => exact ⟨ht.congr (ht.loaded _ hl) rfl rfl (fun _ => id) rfl, ha⟩
  | skipTick hs | endLoop hs =>
    rw [scheduleNextTick_ret hs, World.tickScheduled_eq]
    exact ⟨ht.congr ht.config rfl rfl (fun _ => id) rfl, ha⟩
  | @dispatch _ issue _ _ _ hd =>
    have h' : (w.onState (·.popWaiting issue.id)).Tame := ht.congr ht.config rfl rfl (fun _ => id) rfl
    exact steady_dispatchIssue ⟨h', ha⟩ hd
  | @exit _ m hx =>
    rcases onWorkerExit_ret hx with ⟨-, rfl⟩ | ⟨entry, delay, -, rfl⟩
    · exact ⟨ht, ha⟩
    · have he : (w.exited m).Tame ∧ Attempts (w.exited m) := by
        rw [World.exited_eq]
        exact ⟨ht.congr ht.config rfl rfl (fun _ => id) rfl, ha⟩
      exact ⟨he.1.congr he.1.config rfl rfl (fun _ => id) rfl, he.2.scheduled (Nat.succ_pos _) _ _ _ _ _⟩
  | reload => exact ⟨ht.congr h.2 rfl rfl (fun _ => id) rfl, ha⟩
  | shutdown =>
    rw [World.tickCancelled_eq]
    exact ⟨ht.congr ht.config rfl rfl (fun _ => id) rfl, ha⟩
  | completed => exact ⟨ht.congr ht.config rfl rfl (fun _ => id) rfl, ha.erase rfl⟩
  | popRetry he => exact ⟨⟨ht.congr ht.config rfl rfl (fun _ => id) rfl, ha.erase rfl⟩, ha _ _ he⟩
  | reschedule hs =>
    obtain ⟨d, -, rfl⟩ := RetryQueue.schedule_ret hs
    exact ⟨ht.congr ht.config rfl rfl (fun _ => id) rfl, ha.scheduled h.2 _ _ _ _ _⟩
  | redispatch _ _ hd => exact steady_dispatchIssue ⟨ht, ha⟩ hd
  | crash hc => exact hc.elim h

/-- The service from a tame start. -/
abbrev Tamely (c : OrchConf) : Prop := orchestrator.Reach tameData (fun w => w.IsInitial ∧ w.Tame) c

theorem handlers_keep_steady : (handlerPhases tameData).Keeps orchestrator tameData Steady where
  work h hw := hw.steady h
  event {w w' φ e} h hφ hd he := by
    have hbase : w'.Tame ∧ Attempts w' := by
      refine ⟨hd w' he, fun i entry hi => ?_⟩
      rw [(event_frame he).retryQueue] at hi
      exact h.base.2 i entry hi
    cases φ with
    | handling m =>
      cases m with
      | pollTick => exact hbase
      | workerExit | codexUpdate | retryTimerFired | configReloaded | shutdown => exact hφ.elim
    | loop => exact hbase
    | retry => exact ⟨hbase, h.2⟩
    | done | crashed => exact hφ.elim

omit [Unicode] in
theorem Steady.recv {m : Message} {w w' : World} (h : w.Tame ∧ Attempts w) (hr : w.recv = some (m, w')) :
    Steady (.handling m) w' := by
  obtain ⟨hw, hm⟩ := recv_eq hr
  have hsub : ∀ config, .configReloaded config ∈ w'.mailbox → .configReloaded config ∈ w.mailbox := by
    intro config hc
    rw [hm]
    exact List.mem_cons_of_mem _ hc
  have hbase : w'.Tame ∧ Attempts w' := by
    rw [hw]
    exact ⟨h.1.congr h.1.config rfl rfl hsub rfl, h.2⟩
  cases m with
  | configReloaded config =>
    refine ⟨hbase, ?_⟩
    rw [hw]
    exact h.1.reloaded config (hm ▸ List.mem_cons_self)
  | pollTick | workerExit | codexUpdate | retryTimerFired | shutdown => exact hbase

/-- What is known of every configuration. -/
theorem tamely_steady {c : OrchConf} (h : Tamely c) :
    (handlerPhases tameData).Says orchestrator tameData (fun w => w.Tame ∧ Attempts w) Steady c := by
  refine Phases.reach_says (handlers_simulate tameData) handlers_keep_steady (fun w hw => ⟨hw.2, ?_⟩)
    (fun w e w' hw hd he => ⟨hd w' he, ?_⟩) (fun _ _ _ hw hr _ => .recv hw hr) (fun _ _ _ hw => hw.base) h
  · obtain ⟨config, now, client, factory, loader, spawnError, reloads, rfl⟩ := hw.1
    intro i entry hi
    cases hi
  · intro i entry hi
    rw [(event_frame he).retryQueue] at hi
    exact hw.2 i entry hi

/-- **The poll loop goes on.** On tame data the dispatcher never crashes; at most one tick is pending; until the
shutdown, and but for the handling of a tick, a tick is due; and every tick returns and leaves exactly one pending. -/
theorem poll_loop_kept {c : OrchConf} (h : Tamely c) :
    (∀ e, c.mode ≠ .crashed e) ∧ c.state.tickHandles.length ≤ 1 ∧
    (c.mode ≠ .stopped → (∀ r k, c.mode ≠ .busy .pollTick r k) → c.state.TickDue) ∧
    ∀ w o w', c.mode = .idle → c.state.recv = some (.pollTick, w) →
      Runs (orchestrator.proto tameData .pollTick) (onTick w) o w' → o = .ok () ∧ w'.tickHandles.length = 1 := by
  have hs := tamely_steady h
  have hr : Reachable tameData c := h.of_init fun _ hw => hw.1
  have hc : ∀ e, c.mode ≠ .crashed e := by
    obtain ⟨w, mode⟩ := c
    rintro e rfl
    exact hs
  obtain ⟨hone, hdue⟩ := reachable_clocked hr hc
  refine ⟨hc, hone, hdue, fun w o w' hi hn hrun => ?_⟩
  have hg := Res.Sat.runs (handlers_simulate tameData _ .pollTick w hn trivial) hrun
  obtain ⟨s, mode⟩ := c
  obtain rfl : mode = .idle := hi
  cases o with
  | ok u => exact ⟨rfl, tickHandles_of_handles hr ⟨w, rfl, hn, trivial, hrun⟩⟩
  | error e => exact (Phases.Works.keeps handlers_keep_steady hg (.recv hs hn)).elim

end Service

section Sample

attribute [local instance] asciiTables

theorem sampleWorld_tame : sampleWorld.Tame := by
  have hs : sampleConfig.Schedulable sampleWorld.now := by
    refine ⟨?_, ⟨?_, ?_⟩, ⟨?_, ?_⟩, ⟨?_, ?_⟩⟩ <;> decide +kernel
  refine ⟨hs, fun config hl => ?_, fun config hm => ?_, fun e he => ?_, fun issue attempt e he => ?_⟩
  · cases hl
    exact hs
  · simp [sampleWorld, World.initial] at hm
  · cases he
  · cases he

/-- The comments that are asked for are those of the sample issue. -/
def asksSample (c : OrchConf) : Bool :=
  match c.mode with
  | .busy _ (.fetchComments issue) _ => issue = sampleIssue "a"
  | _ => true

theorem poll_loop_kept_sample : ∃ c, Tamely c ∧ c.mode = .idle ∧ c.state.tickHandles.length ≤ 1 ∧ c.state.TickDue := by
  have hrun : ((orchestrator.runIn asksSample sampleStart sampleTick).map fun c => c.mode.isIdle) = some true := by
    decide +kernel
  obtain ⟨c, hc, hi⟩ := Option.map_eq_some_iff.1 hrun
  have h : Tamely c := by
    refine .runIn (.start ⟨sampleWorld_isInitial, sampleWorld_tame⟩) (fun l hl c hP => ?_) hc
    obtain ⟨w, mode⟩ := c
    rcases mem_sampleTick hl with rfl | rfl | rfl
    · exact fun _ _ => trivial
    all_goals
      cases mode with
      | busy m r k =>
        refine ⟨fun e he => ?_, fun _ => ⟨fun candidates hx => ?_, fun issue comments hx => ?_, fun issue d hx hs => ?_⟩⟩
        · cases r <;> cases he
          rfl
        · cases r <;> cases hx
          intro x hx y hy _
          have hx := (List.mem_filter.1 hx).1
          have hy := (List.mem_filter.1 hy).1
          simp_all
        · cases r <;> cases hx
          obtain rfl : issue = sampleIssue "a" := of_decide_eq_true hP
          exact ⟨⟨encodable_py _, encodable_py _, encodable_py _, encodable_nil⟩, fun c hc => by cases hc⟩
        · cases r <;> cases hx
          cases hs
      | idle | stopped | crashed => trivial
  have hi := Mode.isIdle_iff.1 hi
  obtain ⟨-, hone, hdue, -⟩ := poll_loop_kept h
  exact ⟨c, h, hi, hone, hdue (by rw [hi]; simp) fun r k => by rw [hi]; simp⟩

/-- An issue created on the first of January 2024, by a clock with the given offset. -/
def datedIssue (offset : Option Int) : Issue :=
  { sampleIssue "a" with createdAt := some ⟨738885 * 86400000000, offset⟩ }

/-- An issue whose title is a lone surrogate. -/
def brokenIssue : Issue := { sampleIssue "a" with title := [0xD800] }

/-- **The poll loop killed.** A naive and an aware date of creation, or a lone surrogate, end the dispatcher. -/
theorem poll_loop_killed :
    (∃ c e, Reachable .free c ∧ c.mode = .crashed e ∧ e.cls = .typeError) ∧
    ∃ c e, Reachable .free c ∧ c.mode = .crashed e ∧ e.cls = .unicodeEncodeError := by
  have hkill : ∀ ls {cls}, ((orchestrator.run sampleStart ls).bind fun c => c.mode.crash?).map (·.cls) = some cls →
      ∃ c e, Reachable .free c ∧ c.mode = .crashed e ∧ e.cls = cls := by
    intro ls cls hrun
    obtain ⟨e, he, hcls⟩ := Option.map_eq_some_iff.1 hrun
    obtain ⟨c, hc, he⟩ := Option.bind_eq_some_iff.1 he
    exact ⟨c, e, .run (.start sampleWorld_isInitial) (fun l _ => Discipline.always_free l) hc,
      Mode.crash?_eq_some he, hcls⟩
  refine ⟨hkill [.recv, Answers.resume { candidates := .ok [datedIssue none, datedIssue (some 0)] }] ?_,
    hkill [.recv, Answers.resume { candidates := .ok [brokenIssue] }, Answers.resume {}] ?_⟩ <;> decide +kernel

end Sample

end RiverGang
