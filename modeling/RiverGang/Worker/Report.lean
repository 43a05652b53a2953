import RiverGang.Worker.Attempt

/-!
# The report of an attempt

Every way through an attempt ends in `finalizeAttempt`, and none goes on after it: what comes before is `Early`, and the
report is a comment where the attempt failed, the transition of the ticket, and the exit.

* `runAgentAttempt_sat`: an attempt reports, or it ends by an exception that is none (a cancellation) and posts no exit.
* `attempt_reported`: so an attempt that is not cancelled posts exactly one exit, after all its updates.
-/

namespace RiverGang

open Py Coop Task

/-! ## What is in a log -/

namespace Entry

/-- A session was opened. -/
def opens : Entry → Bool
  | .called (.startSession ..) (.ok _) => true
  | _ => false

/-- A turn was streamed to its end. -/
def streams : Entry → Bool
  | .called (.streamTurn ..) ⟨_, .ok _⟩ => true
  | _ => false

def comments : Entry → Bool
  | .called (.addComment ..) _ => true
  | _ => false

/-- The state that a transition of the given kind was asked to go to. -/
def transition? (t : Transition) : Entry → Option (Str × Str)
  | .called (.transitionState t' issueId stateName) _ => if t' = t then some (issueId, stateName) else none
  | _ => none

/-- What an attempt may do before its report. -/
def Early (p : AttemptParams) : Entry → Prop
  | .posted (.codexUpdate m) => m.issueId = p.issue.id
  | .posted _ => False
  | .called (.addComment ..) _ => False
  | .called (.transitionState .success ..) _ => False
  | _ => True

/-- What says nothing about the attempt. -/
def Neutral : Entry → Prop
  | .called (.ensureForIssue _) _ => True
  | .called (.codexClientFactory ..) _ => True
  | .called (.runHook ..) _ => True
  | .called (.stopSession _) _ => True
  | .called (.waitForExit _) _ => True
  | .called .aclose _ => True
  | _ => False

end Entry

/-- Transitions to the start state come only after a session was opened; `opened` says whether one was before. -/
def StartsLate : Bool → List Entry → Prop
  | _, [] => True
  | opened, e :: log => ((e.transition? .start).isSome → opened = true) ∧ StartsLate (opened || e.opens) log

theorem startsLate_append : ∀ {opened : Bool} {log log' : List Entry},
    StartsLate opened (log ++ log') ↔ StartsLate opened log ∧ StartsLate (opened || log.any Entry.opens) log'
  | opened, [], log' => by simp [StartsLate]
  | opened, e :: log, log' => by
    rw [List.cons_append, StartsLate, StartsLate, startsLate_append, List.any_cons, Bool.or_assoc, and_assoc]

/-- A log without transitions to the start state. -/
theorem StartsLate.of_none : ∀ {opened : Bool} {log : List Entry}, (∀ e ∈ log, e.transition? .start = none) →
    StartsLate opened log
  | _, [], _ => trivial
  | opened, e :: log, h => by
    refine ⟨fun hs => ?_, .of_none fun e' he' => h e' (List.mem_cons_of_mem _ he')⟩
    rw [h e List.mem_cons_self] at hs
    cases hs

/-- What `StartsLate` says of one entry. -/
theorem StartsLate.opened {opened : Bool} {l₁ l₂ : List Entry} {e : Entry} (h : StartsLate opened (l₁ ++ e :: l₂))
    (he : (e.transition? .start).isSome) : (opened || l₁.any Entry.opens) = true :=
  (startsLate_append.1 h).2.1 he

/-- Before the report. -/
structure Early (p : AttemptParams) (log : List Entry) : Prop where
  entries : ∀ e ∈ log, e.Early p
  starts : StartsLate false log

/-- Only updates were posted. -/
def Unreported (p : AttemptParams) (log : List Entry) : Prop :=
  ∃ updates : List CodexUpdate, (∀ u ∈ updates, u.issueId = p.issue.id) ∧
    log.filterMap Entry.post? = updates.map .codexUpdate

/-- More of what says nothing. -/
def Extends (log log' : List Entry) : Prop := ∃ l, log' = log ++ l ∧ ∀ e ∈ l, e.Neutral

section Logs

variable {p : AttemptParams} {log log' l : List Entry} {e : Entry}

theorem Entry.Neutral.early (h : e.Neutral) : e.Early p := by
  cases e with
  | posted m => exact h.elim
  | called r x => cases r <;> trivial

theorem Entry.Neutral.quiet (h : e.Neutral) :
    e.opens = false ∧ e.streams = false ∧ e.post? = none ∧ e.transition? .start = none := by
  cases e with
  | posted m => exact h.elim
  | called r x => cases r <;> first | exact ⟨rfl, rfl, rfl, rfl⟩ | exact h.elim

theorem Early.append (h : Early p log) (he : ∀ e ∈ l, e.Early p) (hs : StartsLate (log.any Entry.opens) l) :
    Early p (log ++ l) := by
  refine ⟨fun e hm => ?_, startsLate_append.2 ⟨h.starts, by simpa using hs⟩⟩
  rcases List.mem_append.1 hm with hm | hm
  · exact h.entries e hm
  · exact he e hm

theorem Early.extend (h : Early p log) (hx : Extends log log') : Early p log' := by
  obtain ⟨l, rfl, hl⟩ := hx
  exact h.append (fun e he => (hl e he).early) (.of_none fun e he => (hl e he).quiet.2.2.2)

theorem any_streams_extend (hx : Extends log log') : log'.any Entry.streams = log.any Entry.streams := by
  obtain ⟨l, rfl, hl⟩ := hx
  have hnone : l.any Entry.streams = false := by
    rw [List.any_eq_false]
    intro e he
    simp [(hl e he).quiet.2.1]
  rw [List.any_append, hnone, Bool.or_false]

/-- The updates of a log that is early. -/
theorem Early.unreported : ∀ {log : List Entry}, (∀ e ∈ log, e.Early p) → Unreported p log
  | [], _ => ⟨[], by simp, rfl⟩
  | e :: log, h => by
    obtain ⟨updates, hu, hp⟩ := Early.unreported fun e' he' => h e' (List.mem_cons_of_mem _ he')
    have he := h e List.mem_cons_self
    cases e with
    | posted m =>
      cases m with
      | codexUpdate u =>
        refine ⟨u :: updates, fun v hv => ?_, by rw [List.filterMap_cons, hp]; rfl⟩
        rcases List.mem_cons.1 hv with rfl | hv
        · exact he
        · exact hu v hv
      | pollTick | workerExit | retryTimerFired | configReloaded | shutdown => exact he.elim
    | called r x => exact ⟨updates, hu, by rw [List.filterMap_cons, hp]; rfl⟩

/-- Calls post nothing. -/
theorem Unreported.append (h : Unreported p log) (hl : ∀ e ∈ l, e.post? = none) : Unreported p (log ++ l) := by
  obtain ⟨updates, hu, hp⟩ := h
  refine ⟨updates, hu, ?_⟩
  rw [List.filterMap_append, List.filterMap_eq_nil_iff.2 hl, List.append_nil, hp]

theorem Unreported.extend (h : Unreported p log) (hx : Extends log log') : Unreported p log' := by
  obtain ⟨l, rfl, hl⟩ := hx
  exact h.append fun e he => (hl e he).quiet.2.2.1

theorem Extends.refl (log : List Entry) : Extends log log := ⟨[], (List.append_nil _).symm, by simp⟩

theorem Extends.trans {log'' : List Entry} (h : Extends log log') (h' : Extends log' log'') : Extends log log'' := by
  obtain ⟨l, rfl, hl⟩ := h
  obtain ⟨l', rfl, hl'⟩ := h'
  refine ⟨l ++ l', by rw [List.append_assoc], fun e he => ?_⟩
  rcases List.mem_append.1 he with he | he
  · exact hl e he
  · exact hl' e he

theorem Extends.one (h : e.Neutral) : Extends log (log ++ [e]) :=
  ⟨[e], rfl, fun e' he' => by rw [List.mem_singleton.1 he']; exact h⟩

end Logs

/-! ## Calls -/

/-- Only the clock goes on, and calls may raise what `q` allows. -/
def outcomes (q : Exn → Prop) : Proto AttemptSig Attempt where
  rely s s' := ∃ now, s' = { s with now := now }
  answer _ r x := ∀ e, raised r x = some e → q e

section Calls

variable {q : Exn → Prop} {p : AttemptParams} {s : Attempt}

/-- A part of an attempt that may be suspended anywhere. -/
abbrev Ends (q : Exn → Prop) {α : Type} (t : Res AttemptSig Exn Attempt α) (Q : α → Attempt → Prop)
    (X : Exn → Attempt → Prop) : Prop := t.Sat (outcomes q) (fun _ => True) Q X

/-- After a call, with its entry in the log. -/
structure Attempt.Called (s : Attempt) (r : AttemptReq) (x : AttemptSig.Ans r) (s' : Attempt) : Prop where
  log : s'.log = s.log ++ [.called r x]
  stopped : s'.stopped = s.stopped

theorem call_ends {r : AttemptReq} {α : Type} {f : AttemptSig.Ans r → Worker α} {Q : α → Attempt → Prop}
    {X : Exn → Attempt → Prop}
    (hf : ∀ x s', (∀ e, raised r x = some e → q e) → s.Called r x s' → Ends q (f x s') Q X) :
    Ends q ((call r s).bind f) Q X := by
  refine ⟨trivial, ?_⟩
  rintro _ x ⟨now, rfl⟩ ha
  exact hf x _ ha ⟨rfl, rfl⟩

/-- A suppressed call leaves its entry, and passes on only what is no `Exception`. -/
theorem suppress_ends (r : AttemptReq) :
    Ends q (suppress r s) (fun _ s' => ∃ x, s.Called r x s' ∧ ∀ e, raised r x = some e → e.isException = true)
      (fun e s' => (q e ∧ e.isException = false) ∧ ∃ x, s.Called r x s' ∧ raised r x = some e) := by
  unfold suppress
  rw [bind_apply]
  refine call_ends fun x s' hx hcall => ?_
  dsimp only
  cases he : raised r x with
  | none => exact ⟨x, hcall, by simp [he]⟩
  | some e =>
    unfold onException
    dsimp only
    split
    · rename_i hc
      exact ⟨x, hcall, fun e' he' => by rw [he] at he'; cases he'; exact hc⟩
    · rename_i hne
      exact ⟨⟨hx e he, by simpa using hne⟩, x, hcall, he⟩

/-- A call that says nothing about the attempt. -/
theorem suppress_extends {r : AttemptReq} (hr : ∀ x, (Entry.called r x).Neutral) :
    Ends q (suppress r s) (fun _ s' => Extends s.log s'.log)
      (fun e s' => (q e ∧ e.isException = false) ∧ Extends s.log s'.log) := by
  refine (suppress_ends r).mono (fun _ h => h) ?_ ?_
  · rintro _ s' ⟨x, hx, -⟩
    rw [hx.log]
    exact .one (hr x)
  · rintro e s' ⟨he, x, hx, -⟩
    refine ⟨he, ?_⟩
    rw [hx.log]
    exact .one (hr x)

/-! ## The end of a session -/

/-- What is asked of a client's `stop_session`: it posts nothing and leaves the ticket alone. -/
def StopsQuietly (q : Exn → Prop) (stopSession : Session → Worker Unit) : Prop :=
  ∀ session s, Ends q (stopSession session s) (fun _ s' => Extends s.log s'.log)
    (fun e s' => q e ∧ Extends s.log s'.log)

theorem anyStopSession_quiet : StopsQuietly q anyStopSession := by
  intro session s
  unfold anyStopSession
  rw [bind_apply]
  refine call_ends fun x s' hx hcall => ?_
  have hext : Extends s.log s'.log := by
    rw [hcall.log]
    exact .one trivial
  cases x with
  | ok u => exact hext
  | error e => exact ⟨hx e rfl, hext⟩

theorem CodexClient.stopSession_quiet : StopsQuietly q CodexClient.stopSession := by
  intro session s
  unfold CodexClient.stopSession
  rw [bind_apply, get_apply, Res.bind_ret]
  by_cases hs : s.stopped = true
  · rw [if_pos hs]
    exact .refl _
  · rw [if_neg hs, bind_apply, modify_apply, Res.bind_ret, bind_apply]
    have hwait := suppress_extends (q := q) (s := { s with stopped := true }) (r := .waitForExit 5000) fun _ => trivial
    refine Res.Sat.bind ?_ (hwait.mono (fun _ h => h) (fun _ _ h => h) fun e s' h => ⟨h.1.1, h.2⟩)
    intro _ s' hs'
    refine (suppress_extends (r := .aclose) fun _ => trivial).mono (fun _ h => h) ?_ ?_
    · intro _ s'' hs''
      exact Extends.trans hs' hs''
    · intro e s'' h
      exact ⟨h.1.1, Extends.trans hs' h.2⟩

theorem runAfterRunBestEffort_ends (workspacePath : Str) :
    Ends q (runAfterRunBestEffort p workspacePath s) (fun _ s' => Extends s.log s'.log)
      (fun e s' => (q e ∧ e.isException = false) ∧ Extends s.log s'.log) := by
  unfold runAfterRunBestEffort
  cases script? p.config.hooks.afterRun with
  | none => exact .refl _
  | some script => exact suppress_extends fun _ => trivial

/-- The `finally` of a session: only a cancellation leaves it by an exception. -/
theorem cleanup_ends (hp : StopsQuietly q p.stopSession) (session : Session) (workspacePath : Str) :
    Ends q ((tryExcept Exn.isException (p.stopSession session) (fun _ => pure ()) >>= fun _ =>
      runAfterRunBestEffort p workspacePath) s) (fun _ s' => Extends s.log s'.log)
      (fun e s' => (q e ∧ e.isException = false) ∧ Extends s.log s'.log) := by
  rw [bind_apply, tryExcept_apply]
  refine Res.Sat.bind (Q := fun _ s' => Extends s.log s'.log) ?_ (Res.Sat.tryExcept ?_ ?_ (hp session s))
  · intro _ s' hs'
    refine (runAfterRunBestEffort_ends workspacePath).mono (fun _ h => h) ?_ ?_
    · intro _ s'' h
      exact Extends.trans hs' h
    · intro e s'' h
      exact ⟨h.1, Extends.trans hs' h.2⟩
  · intro e s' _ h
    exact h.2
  · intro e s' he h
    exact ⟨⟨h.1, he⟩, h.2⟩

end Calls

/-! ## The report -/

/-- The comment on a failed attempt. -/
def CommentOf (p : AttemptParams) (ok : Bool) (log : List Entry) : Prop :=
  if ok then log = [] else ∃ body x, log = [.called (.addComment p.issue.id body) x]

/-- The transition of the ticket after an attempt. -/
def SuccessOf (p : AttemptParams) (log : List Entry) : Prop :=
  match p.config.tracker.successState with
  | none => log = []
  | some stateName => ∃ x, log = [.called (.transitionState .success p.issue.id stateName) x]

/-- What an attempt with a report did: `before`, then the comment, the transition and the exit. -/
structure Report (p : AttemptParams) where
  before : List Entry
  comment : List Entry
  transition : List Entry
  exit : WorkerExit
  early : Early p before
  ok_iff : exit.ok = before.any Entry.streams
  issueId : exit.issueId = p.issue.id
  about : exit.about = p.task
  commented : CommentOf p exit.ok comment
  transitioned : SuccessOf p transition

def Report.log {p : AttemptParams} (r : Report p) : List Entry :=
  r.before ++ (r.comment ++ (r.transition ++ [.posted (.workerExit r.exit)]))

/-- The end of an attempt that reports. -/
def Reported (p : AttemptParams) (s : Attempt) : Prop := ∃ r : Report p, s.log = r.log

/-- The end of an attempt that does not report. -/
def Aborted (q : Exn → Prop) (p : AttemptParams) (e : Exn) (s : Attempt) : Prop :=
  (q e ∧ e.isException = false) ∧ Unreported p s.log

section Finalize

variable {q : Exn → Prop} {p : AttemptParams} {s : Attempt}

theorem CommentOf.quiet {ok : Bool} {log : List Entry} (h : CommentOf p ok log) : ∀ e ∈ log, e.post? = none := by
  unfold CommentOf at h
  split at h
  · simp [h]
  · obtain ⟨body, x, rfl⟩ := h
    simp [Entry.post?]

theorem SuccessOf.quiet {log : List Entry} (h : SuccessOf p log) : ∀ e ∈ log, e.post? = none := by
  unfold SuccessOf at h
  split at h
  · simp [h]
  · obtain ⟨x, rfl⟩ := h
    simp [Entry.post?]

/-- The comment of `finalizeAttempt`. -/
theorem comment_ends (ok : Bool) (body : Str) :
    Ends q ((if (!ok) = true then safeAddComment p body else pure ()) s)
      (fun _ s' => ∃ comment, CommentOf p ok comment ∧ s'.log = s.log ++ comment)
      (fun e s' => (q e ∧ e.isException = false) ∧ ∃ comment, CommentOf p ok comment ∧ s'.log = s.log ++ comment) := by
  cases ok with
  | true => exact ⟨[], rfl, (List.append_nil _).symm⟩
  | false =>
    refine (suppress_ends (.addComment p.issue.id body)).mono (fun _ h => h) ?_ ?_
    · rintro _ s' ⟨x, hx, -⟩
      exact ⟨_, ⟨body, x, rfl⟩, hx.log⟩
    · rintro e s' ⟨he, x, hx, -⟩
      exact ⟨he, _, ⟨body, x, rfl⟩, hx.log⟩

/-- Its transition. -/
theorem success_ends :
    Ends q (safeTransition p .success p.config.tracker.successState s)
      (fun _ s' => ∃ transition, SuccessOf p transition ∧ s'.log = s.log ++ transition)
      (fun e s' => (q e ∧ e.isException = false) ∧
        ∃ transition, SuccessOf p transition ∧ s'.log = s.log ++ transition) := by
  unfold safeTransition SuccessOf
  cases p.config.tracker.successState with
  | none => exact ⟨[], rfl, (List.append_nil _).symm⟩
  | some stateName =>
    refine (suppress_ends (.transitionState .success p.issue.id stateName)).mono (fun _ h => h) ?_ ?_
    · rintro _ s' ⟨x, hx, -⟩
      exact ⟨_, ⟨x, rfl⟩, hx.log⟩
    · rintro e s' ⟨he, x, hx, -⟩
      exact ⟨he, _, ⟨x, rfl⟩, hx.log⟩

/-- `finalizeAttempt` makes the report, or a cancellation stops it before the exit. -/
theorem finalizeAttempt_ends {reason : Str} {ok : Bool} {startedAt : Instant} {lastError : Option Str}
    (he : Early p s.log) (hok : ok = s.log.any Entry.streams) :
    Ends q (finalizeAttempt p reason ok startedAt lastError s) (fun _ => Reported p)
      (Aborted q p) := by
  have hun : Unreported p s.log := Early.unreported he.entries
  have hsteps : finalizeAttempt p reason ok startedAt lastError s =
      ((if (!ok) = true then safeAddComment p (formatFailureBody reason lastError) else pure ()) s).bind fun _ => (do
        safeTransition p .success p.config.tracker.successState
        let s ← get
        send (.workerExit (attemptExit p reason ok startedAt s.now lastError))) := by
    cases ok <;> rfl
  rw [hsteps]
  refine Res.Sat.bind ?_ ((comment_ends ok _).mono (fun _ h => h) (fun _ _ h => h) ?_)
  · rintro _ s₁ ⟨comment, hc, hs₁⟩
    rw [bind_apply]
    refine Res.Sat.bind ?_ (success_ends.mono (fun _ h => h) (fun _ _ h => h) ?_)
    · rintro _ s₂ ⟨transition, ht, hs₂⟩
      have hlog : (s₂.record (.posted (.workerExit (attemptExit p reason ok startedAt s₂.now lastError)))).log =
          s.log ++ (comment ++ (transition ++
            [.posted (.workerExit (attemptExit p reason ok startedAt s₂.now lastError))])) := by
        unfold Attempt.record
        simp only [hs₂, hs₁, List.append_assoc]
      exact ⟨⟨s.log, comment, transition, _, he, hok, rfl, rfl, hc, ht⟩, hlog⟩
    · rintro e s₂ ⟨hq, transition, ht, hs₂⟩
      refine ⟨hq, ?_⟩
      rw [hs₂, hs₁]
      exact (hun.append hc.quiet).append ht.quiet
  · rintro e s₁ ⟨hq, comment, hc, hs₁⟩
    refine ⟨hq, ?_⟩
    rw [hs₁]
    exact hun.append hc.quiet

/-- All that the report posts is the exit. -/
theorem Report.posts_eq (r : Report p) :
    ∃ updates : List CodexUpdate, (∀ u ∈ updates, u.issueId = p.issue.id) ∧
      r.log.filterMap Entry.post? = updates.map .codexUpdate ++ [.workerExit r.exit] := by
  obtain ⟨updates, hu, hp⟩ := Early.unreported r.early.entries
  refine ⟨updates, hu, ?_⟩
  have hc : r.comment.filterMap Entry.post? = [] := List.filterMap_eq_nil_iff.2 r.commented.quiet
  have ht : r.transition.filterMap Entry.post? = [] := List.filterMap_eq_nil_iff.2 r.transitioned.quiet
  unfold Report.log
  rw [List.filterMap_append, List.filterMap_append, List.filterMap_append, hp, hc, ht]
  rfl

theorem Entry.Early.early {e : Entry} (h : e.Early p) : e.comments = false ∧ e.transition? .success = none := by
  cases e with
  | posted m => exact ⟨rfl, rfl⟩
  | called r x =>
    cases r with
    | addComment => exact h.elim
    | transitionState t issueId stateName =>
      cases t with
      | start => exact ⟨rfl, rfl⟩
      | success => exact h.elim
    | _ => exact ⟨rfl, rfl⟩

/-- Neither the comment nor the transition ends a turn or starts the ticket. -/
theorem CommentOf.plain {ok : Bool} {log : List Entry} (h : CommentOf p ok log) :
    ∀ e ∈ log, e.streams = false ∧ e.transition? .start = none ∧ e.transition? .success = none := by
  unfold CommentOf at h
  split at h
  · simp [h]
  · obtain ⟨body, x, rfl⟩ := h
    simp [Entry.streams, Entry.transition?]

theorem SuccessOf.plain {log : List Entry} (h : SuccessOf p log) :
    (∀ e ∈ log, e.streams = false ∧ e.transition? .start = none ∧ e.comments = false) ∧
      log.filterMap (Entry.transition? .success) =
        p.config.tracker.successState.toList.map fun stateName => (p.issue.id, stateName) := by
  unfold SuccessOf at h
  cases hs : p.config.tracker.successState with
  | none =>
    simp only [hs] at h
    simp [h]
  | some stateName =>
    simp only [hs] at h
    obtain ⟨x, rfl⟩ := h
    simp [Entry.streams, Entry.transition?, Entry.comments]

section Report

variable (r : Report p)
include r

/-- What follows the steps of the attempt. -/
theorem Report.after : ∀ e ∈ r.comment ++ (r.transition ++ [.posted (.workerExit r.exit)]),
    e.streams = false ∧ e.transition? .start = none := by
  intro e he
  rcases List.mem_append.1 he with he | he
  · exact ⟨(r.commented.plain e he).1, (r.commented.plain e he).2.1⟩
  · rcases List.mem_append.1 he with he | he
    · exact ⟨(r.transitioned.plain.1 e he).1, (r.transitioned.plain.1 e he).2.1⟩
    · rw [List.mem_singleton.1 he]
      exact ⟨rfl, rfl⟩

theorem Report.ok_streams : r.exit.ok = true ↔ ∃ e ∈ r.log, e.streams = true := by
  unfold Report.log
  constructor
  · intro h
    rw [r.ok_iff, List.any_eq_true] at h
    obtain ⟨e, he, hs⟩ := h
    exact ⟨e, List.mem_append_left _ he, hs⟩
  · rintro ⟨e, he, hs⟩
    rcases List.mem_append.1 he with he | he
    · rw [r.ok_iff]
      exact List.any_eq_true.2 ⟨e, he, hs⟩
    · rw [(r.after e he).1] at hs
      cases hs

theorem Report.successes : r.log.filterMap (Entry.transition? .success) =
    p.config.tracker.successState.toList.map fun stateName => (p.issue.id, stateName) := by
  have hb : r.before.filterMap (Entry.transition? .success) = [] :=
    List.filterMap_eq_nil_iff.2 fun e he => (r.early.entries e he).early.2
  have hc : r.comment.filterMap (Entry.transition? .success) = [] :=
    List.filterMap_eq_nil_iff.2 fun e he => (r.commented.plain e he).2.2
  unfold Report.log
  rw [List.filterMap_append, List.filterMap_append, List.filterMap_append, hb, hc, r.transitioned.plain.2]
  exact List.append_nil _

/-- The comment on a failure is the only one, and no transition to the success state goes before it. -/
theorem Report.one_comment (h : r.exit.ok = false) : ∃ l₁ e l₂, r.log = l₁ ++ e :: l₂ ∧ e.comments = true ∧
    (∀ e' ∈ l₁ ++ l₂, e'.comments = false) ∧ ∀ e' ∈ l₁, e'.transition? .success = none := by
  obtain ⟨body, x, hc⟩ : ∃ body x, r.comment = [.called (.addComment p.issue.id body) x] := by
    have hc := r.commented
    unfold CommentOf at hc
    rw [h] at hc
    exact hc
  refine ⟨r.before, .called (.addComment p.issue.id body) x, r.transition ++ [.posted (.workerExit r.exit)], ?_, rfl,
    ?_, ?_⟩
  · unfold Report.log
    rw [hc]
    rfl
  · intro e he
    rcases List.mem_append.1 he with he | he
    · exact (r.early.entries e he).early.1
    · rcases List.mem_append.1 he with he | he
      · exact (r.transitioned.plain.1 e he).2.2
      · rw [List.mem_singleton.1 he]
        rfl
  · exact fun e he => (r.early.entries e he).early.2

theorem Report.starts {l₁ l₂ : List Entry} {e : Entry} (he : r.log = l₁ ++ e :: l₂)
    (hs : (e.transition? .start).isSome = true) : ∃ e' ∈ l₁, e'.opens = true := by
  have hlate : StartsLate false r.log :=
    startsLate_append.2 ⟨r.early.starts, .of_none fun e he => (r.after e he).2⟩
  rw [he] at hlate
  have ho := hlate.opened hs
  rw [Bool.false_or] at ho
  exact List.any_eq_true.1 ho

end Report

end Finalize

/-! ## The way to the report -/

/-- Before the report, and no turn came to its end. -/
def Unstreamed (p : AttemptParams) (log : List Entry) : Prop := Early p log ∧ log.any Entry.streams = false

/-- How the body of the outer `try` ends by an exception: if its handler catches it, nothing was reported before. -/
def Broken (q : Exn → Prop) (p : AttemptParams) (e : Exn) (s : Attempt) : Prop :=
  q e ∧ Unreported p s.log ∧ (e.isException = true → Unstreamed p s.log)

section Steps

variable {q : Exn → Prop} {p : AttemptParams} {s : Attempt} {log log' : List Entry} {e : Exn}

theorem Unstreamed.extend (h : Unstreamed p log) (hx : Extends log log') : Unstreamed p log' :=
  ⟨h.1.extend hx, (any_streams_extend hx).trans h.2⟩

theorem Unstreamed.broken (h : Unstreamed p s.log) (he : q e) : Broken q p e s :=
  ⟨he, Early.unreported h.1.entries, fun _ => h⟩

theorem Aborted.broken (h : Aborted q p e s) : Broken q p e s := by
  refine ⟨h.1.1, h.2, fun he => ?_⟩
  rw [h.1.2] at he
  cases he

/-- A report of a failure. -/
theorem fail_ends {reason : Str} {startedAt : Instant} {lastError : Option Str} (h : Unstreamed p s.log) :
    Ends q (finalizeAttempt p reason false startedAt lastError s) (fun _ => Reported p)
      (Broken q p) :=
  (finalizeAttempt_ends h.1 h.2.symm).mono (fun _ h => h) (fun _ _ h => h) fun _ _ h => h.broken

/-- A step that says nothing about the attempt. -/
theorem step_ends {r : AttemptReq} {f : AttemptSig.Ans r → Worker Unit} {Q : Unit → Attempt → Prop}
    {X : Exn → Attempt → Prop} (h : Unstreamed p s.log) (hr : ∀ x, (Entry.called r x).Neutral)
    (hf : ∀ x s', (∀ e, raised r x = some e → q e) → Unstreamed p s'.log → Ends q (f x s') Q X) :
    Ends q ((call r s).bind f) Q X := by
  refine call_ends fun x s' hx hcall => hf x s' hx (h.extend ?_)
  rw [hcall.log]
  exact .one (hr x)

theorem onException_ends {t : Worker Unit} {Q : Unit → Attempt → Prop} (he : q e) (h : Unstreamed p s.log)
    (ht : Ends q (t s) Q (Broken q p)) : Ends q (onException e t s) Q (Broken q p) := by
  unfold onException
  by_cases hc : e.isException = true
  · rw [if_pos hc]
    exact ht
  · rw [if_neg hc]
    exact h.broken he

/-- The turn hands its updates on before it ends, and only a turn that returns is streamed. -/
theorem streamTurn_ends {session : Session} {renderedPrompt : Str} {X : Exn → Attempt → Prop}
    (h : Unstreamed p s.log) :
    Ends q (streamTurn p session renderedPrompt s) (fun outcome s' => Early p s'.log ∧
      s'.log.any Entry.streams = outcome.result.toBool ∧ ∀ e, outcome.result = .error e → q e) X := by
  refine ⟨trivial, ?_⟩
  rintro _ ⟨events, result⟩ ⟨now, rfl⟩ ha
  have hpost : ∀ e ∈ events.map fun event => Entry.posted (.codexUpdate ⟨p.issue.id, event⟩),
      e.Early p ∧ e.streams = false ∧ e.transition? .start = none := by
    intro e he
    obtain ⟨event, -, rfl⟩ := List.mem_map.1 he
    exact ⟨rfl, rfl, rfl⟩
  have hearly : Early p (s.log ++ events.map fun event => Entry.posted (.codexUpdate ⟨p.issue.id, event⟩)) :=
    h.1.append (fun e he => (hpost e he).1) (.of_none fun e he => (hpost e he).2.2)
  have hnone : (events.map fun event => Entry.posted (.codexUpdate ⟨p.issue.id, event⟩)).any Entry.streams = false := by
    rw [List.any_eq_false]
    intro e he
    simp [(hpost e he).2.1]
  refine ⟨?_, ?_, fun e he => ?_⟩
  · show Early p ((s.log ++ List.map _ (List.map _ events)) ++ [_])
    rw [List.map_map]
    refine hearly.append (fun e he => ?_) (.of_none fun e he => ?_)
    · rw [List.mem_singleton.1 he]
      trivial
    · rw [List.mem_singleton.1 he]
      rfl
  · show ((s.log ++ List.map _ (List.map _ events)) ++ [_]).any Entry.streams = _
    rw [List.map_map, List.any_append, List.any_append, h.2]
    show (false || (events.map fun event => Entry.posted (.codexUpdate ⟨p.issue.id, event⟩)).any Entry.streams ||
      List.any [_] Entry.streams) = _
    rw [hnone]
    cases result <;> rfl
  · subst he
    exact ha e rfl

theorem runSingleTurn_ends {session : Session} {renderedPrompt : Str} (h : Unstreamed p s.log) :
    Ends q (runSingleTurn p session renderedPrompt s) (fun r s' => Early p s'.log ∧ r.2.1 = s'.log.any Entry.streams)
      (fun e s' => q e ∧ Unstreamed p s'.log) := by
  unfold runSingleTurn
  rw [bind_apply]
  refine Res.Sat.bind ?_ (streamTurn_ends h)
  rintro ⟨events, result⟩ s' ⟨he, hs, hq⟩
  cases result with
  | ok r => exact ⟨he, hs.symm⟩
  | error e =>
    obtain ⟨cls, msg⟩ := e
    cases cls with
    | turnFailed | turnCancelled | turnTimeout | portExit => exact ⟨he, hs.symm⟩
    | _ => exact ⟨hq _ rfl, he, hs⟩

/-- The transition to the start state, with the session open. -/
theorem start_ends (h : Unstreamed p s.log) (ho : s.log.any Entry.opens = true) :
    Ends q (safeTransition p .start p.config.tracker.startState s) (fun _ s' => Unstreamed p s'.log)
      (Broken q p) := by
  unfold safeTransition
  cases p.config.tracker.startState with
  | none => exact h
  | some stateName =>
    have hstart : ∀ {s' : Attempt}, (∃ x, s'.log = s.log ++ [.called (.transitionState .start p.issue.id stateName) x]) →
        Unstreamed p s'.log := by
      rintro s' ⟨x, hx⟩
      rw [hx]
      refine ⟨h.1.append (fun e he => ?_) ⟨fun _ => ho, trivial⟩, ?_⟩
      · rw [List.mem_singleton.1 he]
        trivial
      · rw [List.any_append, h.2]
        rfl
    refine (suppress_ends _).mono (fun _ h => h) ?_ ?_
    · rintro _ s' ⟨x, hx, -⟩
      exact hstart ⟨x, hx.log⟩
    · rintro e s' ⟨he, x, hx, -⟩
      exact (hstart ⟨x, hx.log⟩).broken he.1

theorem runSession_ends (hp : StopsQuietly q p.stopSession) {startedAt : Instant} {workspacePath renderedPrompt : Str}
    {session : Session} (h : Unstreamed p s.log) (ho : s.log.any Entry.opens = true) :
    Ends q (runSession p startedAt workspacePath renderedPrompt session s) (fun _ => Reported p)
      (Broken q p) := by
  unfold runSession
  rw [bind_apply]
  refine Res.Sat.bind (fun _ s₁ h₁ => ?_) (start_ends h ho)
  rw [bind_apply, finallyDo_apply]
  have hturn : Ends q ((runSingleTurn p session renderedPrompt s₁).finallyDo do
      tryExcept Exn.isException (p.stopSession session) fun _ => pure ()
      runAfterRunBestEffort p workspacePath)
      (fun r s' => Early p s'.log ∧ r.2.1 = s'.log.any Entry.streams) (Broken q p) := by
    refine Res.Sat.finallyDo ?_ ?_ (runSingleTurn_ends h₁)
    · rintro r s₂ ⟨he, hr⟩
      refine (cleanup_ends hp session workspacePath).mono (fun _ h => h) ?_ ?_
      · intro _ s₃ hx
        exact ⟨he.extend hx, hr.trans (any_streams_extend hx).symm⟩
      · rintro e s₃ ⟨hq, hx⟩
        exact Aborted.broken ⟨hq, (Early.unreported he.entries).extend hx⟩
    · rintro e s₂ ⟨hq, hu⟩
      refine (cleanup_ends hp session workspacePath).mono (fun _ h => h) ?_ ?_
      · intro _ s₃ hx
        exact (hu.extend hx).broken hq
      · rintro e' s₃ ⟨hq', hx⟩
        exact (hu.extend hx).broken hq'.1
  refine Res.Sat.bind ?_ hturn
  rintro ⟨reason, ok, lastError⟩ s₂ ⟨he, hr⟩
  exact (finalizeAttempt_ends he hr).mono (fun _ h => h) (fun _ _ h => h) fun _ _ h => h.broken

theorem openSession_ends (hp : StopsQuietly q p.stopSession) {startedAt : Instant}
    {workspacePath renderedPrompt : Str} (h : Unstreamed p s.log) :
    Ends q (openSession p startedAt workspacePath renderedPrompt s) (fun _ => Reported p)
      (Broken q p) := by
  unfold openSession
  rw [bind_apply]
  refine call_ends fun x s₁ hx hcall => ?_
  have h₁ : Unstreamed p s₁.log := by
    rw [hcall.log]
    refine ⟨h.1.append (fun e he => ?_) (.of_none fun e he => ?_), ?_⟩
    · rw [List.mem_singleton.1 he]
      trivial
    · rw [List.mem_singleton.1 he]
      rfl
    · rw [List.any_append, h.2]
      rfl
  cases x with
  | ok session =>
    refine runSession_ends hp h₁ ?_
    rw [hcall.log, List.any_append]
    simp [Entry.opens]
  | error e =>
    by_cases hc : e.isCodexError = true
    · simp only [hc, if_true]
      rw [bind_apply]
      refine Res.Sat.bind (fun _ s₂ hext => fail_ends (h₁.extend hext)) ?_
      refine (runAfterRunBestEffort_ends workspacePath).mono (fun _ h => h) (fun _ _ h => h) ?_
      rintro e' s₂ ⟨hq, hext⟩
      exact (h₁.extend hext).broken hq.1
    · simp only [hc]
      exact h₁.broken (hx e rfl)

theorem prepareRun_ends (hp : StopsQuietly q p.stopSession) {startedAt : Instant}
    {workspacePath renderedPrompt : Str} (h : Unstreamed p s.log) :
    Ends q (prepareRun p startedAt workspacePath renderedPrompt s) (fun _ => Reported p)
      (Broken q p) := by
  unfold prepareRun
  cases script? p.config.hooks.beforeRun with
  | none => exact openSession_ends hp h
  | some script =>
    refine step_ends h (fun _ => trivial) fun x s₁ hx h₁ => ?_
    cases x with
    | error e => exact h₁.broken (hx e rfl)
    | ok result =>
      by_cases hr : result.ok = true
      · simp only [hr, if_true]
        exact openSession_ends hp h₁
      · simp only [hr]
        exact fail_ends h₁

theorem obtainClient_ends (hp : StopsQuietly q p.stopSession) {startedAt : Instant}
    {workspacePath renderedPrompt : Str} (h : Unstreamed p s.log) :
    Ends q (obtainClient p startedAt workspacePath renderedPrompt s) (fun _ => Reported p)
      (Broken q p) := by
  unfold obtainClient
  by_cases hf : p.hasCodexClientFactory = true
  · simp only [hf, if_true]
    refine step_ends h (fun _ => trivial) fun x s₁ hx h₁ => ?_
    match x with
    | .error e => exact onException_ends (hx e rfl) h₁ (fail_ends h₁)
    | .ok none => exact fail_ends h₁
    | .ok (some ()) => exact prepareRun_ends hp h₁
  · by_cases hc : p.hasCodexClient = true
    · simp only [hf, hc, if_true]
      exact prepareRun_ends hp h
    · simp only [hf, hc]
      exact fail_ends h

theorem attemptSteps_ends (hp : StopsQuietly q p.stopSession)
    (hrender : ∀ e, p.renderPrompt p.promptTemplate p.issue p.attempt = .error e → q e) {startedAt : Instant}
    (h : Unstreamed p s.log) :
    Ends q (attemptSteps p startedAt s) (fun _ => Reported p) (Broken q p) := by
  unfold attemptSteps
  cases hx : p.renderPrompt p.promptTemplate p.issue p.attempt with
  | error e =>
    by_cases hc : e.cls = .promptError
    · simp only [hc, if_true]
      exact fail_ends h
    · simp only [hc, if_false]
      exact h.broken (hrender e hx)
  | ok renderedPrompt =>
    refine step_ends h (fun _ => trivial) fun x s₁ hx h₁ => ?_
    cases x with
    | error e => exact onException_ends (hx e rfl) h₁ (fail_ends h₁)
    | ok ensureResult => exact obtainClient_ends hp h₁

/-- An attempt reports, or something other than an `Exception` ends it and it posts no exit. -/
theorem runAgentAttempt_ends (hp : StopsQuietly q p.stopSession)
    (hrender : ∀ e, p.renderPrompt p.promptTemplate p.issue p.attempt = .error e → q e)
    (hclient : p.hasCodexClient || p.hasCodexClientFactory) (h : Unstreamed p s.log) :
    Ends q (runAgentAttempt p s) (fun _ => Reported p) (Aborted q p) := by
  have hc : (!p.hasCodexClient && !p.hasCodexClientFactory) = false := by
    rw [← Bool.not_or, hclient]
    rfl
  unfold runAgentAttempt
  simp only [hc, Bool.false_eq_true, if_false]
  rw [bind_apply, get_apply, Res.bind_ret, tryExcept_apply]
  refine Res.Sat.tryExcept ?_ ?_ (attemptSteps_ends hp hrender h)
  · intro e s' he hb
    have hu := hb.2.2 he
    exact finalizeAttempt_ends hu.1 hu.2.symm
  · intro e s' he hb
    exact ⟨⟨hb.1, he⟩, hb.2.1⟩

end Steps

/-- An attempt with a client that is not cancelled returns, with one exit that comes after all its updates, says whether
a turn was streamed, follows one comment if not, and follows one transition to the success state if there is one. -/
theorem attempt_reported {p : AttemptParams} (hclient : p.hasCodexClient || p.hasCodexClientFactory)
    (hstop : p.stopSession = anyStopSession ∨ p.stopSession = CodexClient.stopSession)
    (hrender : ∀ e, p.renderPrompt p.promptTemplate p.issue p.attempt = .error e → e.isException = true)
    {s s' : Attempt} (hs : s.log = []) {o : Except Exn Unit}
    (hr : Runs (outcomes fun e => e.isException = true) (runAgentAttempt p s) o s') :
    o = .ok () ∧ ∃ exit : WorkerExit, exit.issueId = p.issue.id ∧
      (∃ updates : List CodexUpdate, (∀ u ∈ updates, u.issueId = p.issue.id) ∧
        s'.posts = updates.map .codexUpdate ++ [.workerExit exit]) ∧
      (exit.ok = true ↔ ∃ e ∈ s'.log, e.streams = true) ∧
      (exit.ok = false → ∃ l₁ e l₂, s'.log = l₁ ++ e :: l₂ ∧ e.comments = true ∧
        (∀ e' ∈ l₁ ++ l₂, e'.comments = false) ∧ ∀ e' ∈ l₁, e'.transition? .success = none) ∧
      s'.log.filterMap (Entry.transition? .success) =
        p.config.tracker.successState.toList.map (fun stateName => (p.issue.id, stateName)) ∧
      ∀ l₁ e l₂, s'.log = l₁ ++ e :: l₂ → (e.transition? .start).isSome = true → ∃ e' ∈ l₁, e'.opens = true := by
  have hquiet : StopsQuietly (fun e => e.isException = true) p.stopSession := by
    rcases hstop with h | h <;> rw [h]
    · exact anyStopSession_quiet
    · exact CodexClient.stopSession_quiet
  have hstart : Unstreamed p s.log := by
    rw [hs]
    exact ⟨⟨by simp, trivial⟩, rfl⟩
  have hpost := (runAgentAttempt_ends hquiet hrender hclient hstart).runs hr
  cases o with
  | error e =>
    obtain ⟨⟨he, hn⟩, -⟩ := hpost
    rw [he] at hn
    cases hn
  | ok u =>
    obtain ⟨r, hlog⟩ := hpost
    unfold Attempt.posts
    rw [hlog]
    exact ⟨rfl, r.exit, r.issueId, r.posts_eq, r.ok_streams, r.one_comment, r.successes,
      fun _ _ _ he hs => r.starts he hs⟩

section Sample

/-- The answers of an attempt whose turn fails. -/
def turnFails : AttemptAnswers := { turn := .error ⟨.turnFailed, py "boom"⟩ }

theorem attempt_reported_sample : ∃ exit : WorkerExit, exit.ok = false ∧
    ((runAgentAttempt sampleParams sampleAttempt).exec turnFails.reply).2.posts.getLast? = some (.workerExit exit) := by
  have hno : ∀ r e, raised r (turnFails.reply r) = some e → e.isException = true := by
    intro r e he
    cases r with
    | runHook hook => cases hook <;> cases he; rfl
    | streamTurn => cases he; rfl
    | _ => cases he
  have hrun := runs_exec (P := outcomes fun e => e.isException = true) (o := turnFails.reply) (fun s => ⟨s.now, rfl⟩)
    (fun _ r => hno r) (runAgentAttempt sampleParams sampleAttempt)
  have hrender : ∀ e, sampleParams.renderPrompt sampleParams.promptTemplate sampleParams.issue sampleParams.attempt =
      .error e → e.isException = true := by
    intro e he
    simp [sampleParams] at he
  obtain ⟨-, exit, -, ⟨updates, -, hposts⟩, hok, -⟩ := attempt_reported rfl (.inr rfl) hrender rfl hrun
  have hstreams : ((runAgentAttempt sampleParams sampleAttempt).exec turnFails.reply).2.log.any Entry.streams = false := by
    decide +kernel
  refine ⟨exit, ?_, ?_⟩
  · rw [Bool.eq_false_iff]
    intro h
    obtain ⟨e, he, hs⟩ := hok.1 h
    exact List.any_eq_false.1 hstreams e he hs
  · rw [hposts, List.getLast?_append]
    rfl

end Sample

end RiverGang
