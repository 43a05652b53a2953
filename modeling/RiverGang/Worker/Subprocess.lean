import RiverGang.Orchestrator.Clarification
import RiverGang.Worker.Report

/-!
# The process of a client

A client of the factory comes with a process, which `stop_session` ends by `aclose`. Its callers are an attempt and the
analysis of the gate, `CodexClarificationGate.analyze` of `orchestrator/clarification.py`, which works on a client of its
own.

* `process_closed`: a process that was launched is closed at the end if and only if every call on the way to `aclose`
  went well enough: the `before_run` hook succeeded, the session started, and neither the transition to the start state
  nor the wait for the exit was cancelled.
* `process_leaked`: so it is not where the hook fails, the session does not start or the wait is cancelled.
-/

namespace RiverGang

open Py Coop Task

/-! ## The analysis -/

/-- A comment in the prompt; `idx` counts from one. -/
def promptComment (comment : Comment) (idx : Nat) : Str :=
  py "Comment " ++ decimal idx ++ py " (" ++ (comment.userName.filter (· ≠ [])).getD (py "unknown") ++ py "):\n" ++
    comment.body

/-- The numbers count the requests for clarification too, which are left out. -/
def commentsText (comments : List Comment) : Str :=
  let text := join (py "\n\n") ((comments.zipIdx 1).filterMap fun (comment, idx) =>
    if isClarificationComment comment then none else some (promptComment comment idx))
  if text = [] then py "No user comments yet." else text

def buildClarificationPrompt (issue : Issue) (comments : List Comment) : Str :=
  py "You are the river-gang pre-implementation clarification gate.

Analyze the Linear issue text AND the repository codebase available in the current
workspace before any implementation starts.

Decide whether there is enough information to implement the task safely. There is
enough information only when the final expected result is concrete and the
relevant edge cases are either specified in the issue/comments or can be
unambiguously inferred from the codebase.

If the final result is unclear, or any important edge-case decision is unclear,
return questions for the operator. Do not modify files. Do not create commits.
Do not open PRs. Do not transition Linear state. Return JSON only.

JSON schema:
\x7b
  \"sufficient\": true | false,
  \"questions\": [\"question for Linear comment\", ...],
  \"rationale\": \"short reason\"
\x7d

Issue:
Identifier: " ++ issue.identifier ++ py "\nTitle: " ++ issue.title ++ py "\nDescription:\n" ++
    issue.description.getD [] ++ py "\n\nExisting user comments:\n" ++ commentsText comments ++ py "\n"

/-- `analyze`, where `parse` is `parse_clarification_decision_payload` and the client one of the factory. -/
def CodexClarificationGate.analyze (parse : Payload → Except Exn ClarificationDecision) (issue : Issue)
    (comments : List Comment) (workspacePath : Str) (config : EffectiveConfig) : Worker ClarificationDecision := do
  match ← call (.codexClientFactory workspacePath config) with
  | .error exc => raise exc
  | .ok none => raise ⟨.other, py "'NoneType' object has no attribute 'start_session'"⟩
  | .ok (some ()) =>
    modify fun s => { s with stopped := false }
    let prompt := buildClarificationPrompt issue comments
    match ← call (.startSession workspacePath prompt issue (py "never") (py "read-only") config.codex.readTimeoutMs
        config.tracker.kind) with
    -- no session, so `finally` stops none
    | .error exc => raise exc
    | .ok session =>
      finallyDo (do
        match (← call (.streamTurn session prompt config.codex.turnTimeoutMs true)).result with
        | .error exc => raise exc
        | .ok result => ofExcept (parse result.payload)) (CodexClient.stopSession session)

/-! ## What became of the process -/

namespace Entry

/-- A process was launched. -/
def launches : Entry → Bool
  | .called (.codexClientFactory ..) (.ok (some ())) => true
  | _ => false

/-- `aclose` was called. -/
def closes : Entry → Bool
  | .called .aclose _ => true
  | _ => false

/-- A call that does not keep the caller from `aclose`: some have to return, others just must not be cancelled. -/
def kept : Entry → Bool
  | .called (.runHook .beforeRun ..) (.ok result) => result.ok
  | .called (.runHook .beforeRun ..) (.error _) => false
  | .called (.startSession ..) (.error _) => false
  | .called (.transitionState .start ..) (.error exc) => exc.isException
  | .called (.waitForExit _) (.error exc) => exc.isException
  | _ => true

/-- What plays no part in it. -/
structure Plain (e : Entry) : Prop where
  launches : e.launches = false
  closes : e.closes = false
  kept : e.kept = true

end Entry

/-- A launched process is closed just where every call was kept. -/
def Disposed (log : List Entry) : Prop :=
  log.any Entry.launches = true → (log.any Entry.closes = true ↔ ∀ e ∈ log, e.kept = true)

/-- On the way to `aclose`. -/
structure Open (s : Attempt) : Prop where
  stopped : s.stopped = false
  unclosed : s.log.any Entry.closes = false
  kept : ∀ e ∈ s.log, e.kept = true

section Process

variable {s s' : Attempt} {log : List Entry} {e : Entry}

theorem Disposed.plain (h : Disposed log) (he : e.Plain) : Disposed (log ++ [e]) := by
  intro hl
  simp only [List.any_append, List.any_cons, List.any_nil, he.launches, he.closes, Bool.or_false] at hl ⊢
  rw [h hl]
  constructor
  · intro hk e' hm
    rcases List.mem_append.1 hm with hm | hm
    · exact hk e' hm
    · rw [List.mem_singleton.1 hm]
      exact he.kept
  · exact fun hk e' hm => hk e' (List.mem_append_left _ hm)

theorem Open.plain (h : Open s) (hs : s'.stopped = s.stopped) (hlog : s'.log = s.log ++ [e])
    (hc : e.closes = false) (hk : e.kept = true) : Open s' := by
  refine ⟨hs.trans h.stopped, ?_, fun e' hm => ?_⟩
  · rw [hlog, List.any_append, h.unclosed]
    simp [hc]
  · rw [hlog] at hm
    rcases List.mem_append.1 hm with hm | hm
    · exact h.kept e' hm
    · rw [List.mem_singleton.1 hm]
      exact hk

/-- A call that was not kept. -/
theorem Open.lost (h : Open s) (hlog : s'.log = s.log ++ [e]) (hc : e.closes = false) (hk : e.kept = false) :
    Disposed s'.log := by
  intro _
  have hm : e ∈ s'.log := by
    rw [hlog]
    exact List.mem_append_right _ (List.mem_singleton_self e)
  constructor
  · intro hx
    rw [hlog, List.any_append, h.unclosed] at hx
    simp [hc] at hx
  · intro hall
    rw [hall e hm] at hk
    cases hk

theorem Open.closed (h : Open s) (hlog : s'.log = s.log ++ [e]) (hc : e.closes = true) (hk : e.kept = true) :
    Disposed s'.log := by
  intro _
  constructor
  · intro _ e' hm
    rw [hlog] at hm
    rcases List.mem_append.1 hm with hm | hm
    · exact h.kept e' hm
    · rw [List.mem_singleton.1 hm]
      exact hk
  · intro _
    rw [hlog, List.any_append]
    simp [hc]

end Process

/-! ## Once the fate of the process is settled -/

/-- It ends, one way or the other, with the process accounted for. -/
abbrev Disposes {α : Type} (t : Res AttemptSig Exn Attempt α) : Prop :=
  Ends (fun _ => True) t (fun _ s' => Disposed s'.log) (fun _ s' => Disposed s'.log)

section Settled

variable {p : AttemptParams} {s : Attempt}

theorem suppress_disposes {r : AttemptReq} (h : Disposed s.log) (hr : ∀ x, (Entry.called r x).Plain) :
    Disposes (suppress r s) := by
  refine (suppress_ends r).mono (fun _ h => h) ?_ ?_
  · rintro _ s' ⟨x, hx, -⟩
    rw [hx.log]
    exact h.plain (hr x)
  · rintro e s' ⟨-, x, hx, -⟩
    rw [hx.log]
    exact h.plain (hr x)

theorem runAfterRunBestEffort_disposes (workspacePath : Str) (h : Disposed s.log) :
    Disposes (runAfterRunBestEffort p workspacePath s) := by
  unfold runAfterRunBestEffort
  cases script? p.config.hooks.afterRun with
  | none => exact h
  | some script => exact suppress_disposes h fun _ => ⟨rfl, rfl, rfl⟩

theorem safeTransition_success_disposes {stateName : Option Str} (h : Disposed s.log) :
    Disposes (safeTransition p .success stateName s) := by
  cases stateName with
  | none => exact h
  | some stateName => exact suppress_disposes h fun _ => ⟨rfl, rfl, rfl⟩

theorem finalizeAttempt_disposes {reason : Str} {ok : Bool} {startedAt : Instant} {lastError : Option Str}
    (h : Disposed s.log) : Disposes (finalizeAttempt p reason ok startedAt lastError s) := by
  have hrest : ∀ (u : Unit) s', Disposed s'.log → Disposes ((do
      safeTransition p .success p.config.tracker.successState
      let s ← get
      send (.workerExit (attemptExit p reason ok startedAt s.now lastError)) : Worker Unit) s') := by
    intro _ s' hs'
    rw [bind_apply]
    exact Res.Sat.bind (fun _ s'' hs'' => hs''.plain ⟨rfl, rfl, rfl⟩) (safeTransition_success_disposes hs')
  cases ok with
  | true => exact hrest () s h
  | false => exact Res.Sat.bind hrest (suppress_disposes h fun _ => ⟨rfl, rfl, rfl⟩)

end Settled

/-! ## Before that -/

section Unsettled

variable {p : AttemptParams} {s : Attempt}

/-- `stop_session` is the last chance. -/
theorem stopSession_disposes (h : Open s) (session : Session) : Disposes (CodexClient.stopSession session s) := by
  unfold CodexClient.stopSession
  rw [bind_apply, get_apply, Res.bind_ret, h.stopped]
  simp only [Bool.false_eq_true, if_false]
  rw [bind_apply, modify_apply, Res.bind_ret, bind_apply]
  refine Res.Sat.bind ?_ ((suppress_ends (.waitForExit 5000)).mono (fun _ h => h) (fun _ _ h => h) ?_)
  · rintro _ s₁ ⟨x, hx, hk⟩
    have hkept : (Entry.called (.waitForExit 5000) x).kept = true := by
      cases x with
      | ok exited => rfl
      | error e => exact hk e rfl
    have h₁ : Open { s₁ with stopped := false } := h.plain h.stopped.symm hx.log rfl hkept
    refine (suppress_ends .aclose).mono (fun _ h => h) ?_ ?_
    · rintro _ s₂ ⟨y, hy, -⟩
      exact h₁.closed hy.log rfl rfl
    · rintro e s₂ ⟨-, y, hy, -⟩
      exact h₁.closed hy.log rfl rfl
  · rintro e s₁ ⟨⟨-, he⟩, x, hx, hr⟩
    refine h.lost hx.log rfl ?_
    cases x with
    | ok exited => cases hr
    | error e' =>
      cases hr
      exact he

/-- The turn of an attempt. -/
theorem runSingleTurn_open {session : Session} {renderedPrompt : Str} (h : Open s) :
    Ends (fun _ => True) (runSingleTurn p session renderedPrompt s) (fun _ => Open) (fun _ => Open) := by
  unfold runSingleTurn streamTurn
  rw [bind_apply]
  refine ⟨trivial, ?_⟩
  rintro _ outcome ⟨now, rfl⟩ -
  have hopen : Open ((Attempt.postAll { s with now := now }
      (outcome.events.map fun event => .codexUpdate ⟨p.issue.id, event⟩)).record
        (.called (.streamTurn session renderedPrompt p.config.codex.turnTimeoutMs true) outcome)) := by
    refine ⟨h.stopped, ?_, fun e he => ?_⟩
    · show ((s.log ++ List.map _ (List.map _ outcome.events)) ++ [_]).any Entry.closes = false
      rw [List.any_append, List.any_append, h.unclosed, List.map_map]
      have hpost : List.any (List.map (Entry.posted ∘ fun event => .codexUpdate ⟨p.issue.id, event⟩) outcome.events)
          Entry.closes = false := by
        rw [List.any_map, List.any_eq_false]
        exact fun _ _ => Bool.false_ne_true
      rw [hpost]
      rfl
    · rcases List.mem_append.1 he with he | he
      · rcases List.mem_append.1 he with he | he
        · exact h.kept e he
        · obtain ⟨m, -, rfl⟩ := List.mem_map.1 he
          rfl
      · rw [List.mem_singleton.1 he]
        rfl
  obtain ⟨events, result⟩ := outcome
  cases result with
  | ok r => exact hopen
  | error e =>
    obtain ⟨cls, msg⟩ := e
    cases cls <;> exact hopen

/-- The transition to the start state may be cancelled, and then nobody stops the session. -/
theorem start_open (h : Open s) :
    Ends (fun _ => True) (safeTransition p .start p.config.tracker.startState s) (fun _ => Open)
      (fun _ s' => Disposed s'.log) := by
  unfold safeTransition
  cases p.config.tracker.startState with
  | none => exact h
  | some stateName =>
    refine (suppress_ends _).mono (fun _ h => h) ?_ ?_
    · rintro _ s' ⟨x, hx, hk⟩
      refine h.plain hx.stopped hx.log rfl ?_
      cases x with
      | ok u => rfl
      | error e => exact hk e rfl
    · rintro e s' ⟨⟨-, he⟩, x, hx, hr⟩
      refine h.lost hx.log rfl ?_
      cases x with
      | ok u => cases hr
      | error e' =>
        cases hr
        exact he

theorem runSession_disposes (hp : p.stopSession = CodexClient.stopSession) {startedAt : Instant}
    {workspacePath renderedPrompt : Str} {session : Session} (h : Open s) :
    Disposes (runSession p startedAt workspacePath renderedPrompt session s) := by
  unfold runSession
  rw [bind_apply]
  refine Res.Sat.bind (fun _ s₁ h₁ => ?_) (start_open h)
  rw [bind_apply, finallyDo_apply]
  have hclean : ∀ s₂, Open s₂ → Disposes ((tryExcept Exn.isException (p.stopSession session) (fun _ => pure ()) >>= fun _ =>
      runAfterRunBestEffort p workspacePath) s₂) := by
    intro s₂ h₂
    rw [bind_apply, tryExcept_apply, hp]
    refine Res.Sat.bind (fun _ s₃ h₃ => runAfterRunBestEffort_disposes workspacePath h₃) ?_
    exact Res.Sat.tryExcept (fun _ _ _ h₃ => h₃) (fun _ _ _ h₃ => h₃) (stopSession_disposes h₂ session)
  refine Res.Sat.bind (Q := fun _ s' => Disposed s'.log) ?_ ?_
  · rintro ⟨reason, ok, lastError⟩ s₂ h₂
    exact finalizeAttempt_disposes h₂
  · exact Res.Sat.finallyDo (fun _ s₂ h₂ => hclean s₂ h₂) (fun _ s₂ h₂ => hclean s₂ h₂) (runSingleTurn_open h₁)

theorem openSession_disposes (hp : p.stopSession = CodexClient.stopSession) {startedAt : Instant}
    {workspacePath renderedPrompt : Str} (h : Open s) :
    Disposes (openSession p startedAt workspacePath renderedPrompt s) := by
  unfold openSession
  rw [bind_apply]
  refine call_ends fun x s₁ _ hcall => ?_
  cases x with
  | ok session => exact runSession_disposes hp (h.plain hcall.stopped hcall.log rfl rfl)
  | error e =>
    have h₁ : Disposed s₁.log := h.lost hcall.log rfl rfl
    by_cases hc : e.isCodexError = true
    · simp only [hc, if_true]
      rw [bind_apply]
      exact Res.Sat.bind (fun _ s₂ h₂ => finalizeAttempt_disposes h₂) (runAfterRunBestEffort_disposes workspacePath h₁)
    · simp only [hc]
      exact h₁

theorem prepareRun_disposes (hp : p.stopSession = CodexClient.stopSession) {startedAt : Instant}
    {workspacePath renderedPrompt : Str} (h : Open s) :
    Disposes (prepareRun p startedAt workspacePath renderedPrompt s) := by
  unfold prepareRun
  cases script? p.config.hooks.beforeRun with
  | none => exact openSession_disposes hp h
  | some script =>
    refine call_ends fun x s₁ _ hcall => ?_
    cases x with
    | error e =>
      have h₁ : Disposed s₁.log := h.lost hcall.log rfl rfl
      exact h₁
    | ok result =>
      by_cases hr : result.ok = true
      · simp only [hr, if_true]
        exact openSession_disposes hp (h.plain hcall.stopped hcall.log rfl hr)
      · simp only [hr, Bool.false_eq_true, if_false]
        exact finalizeAttempt_disposes (h.lost hcall.log rfl (Bool.eq_false_iff.2 hr))

/-- Nothing was launched before. -/
structure Unlaunched (log : List Entry) : Prop where
  unlaunched : log.any Entry.launches = false
  unclosed : log.any Entry.closes = false
  kept : ∀ e ∈ log, e.kept = true

theorem Unlaunched.plain {log : List Entry} {e : Entry} (h : Unlaunched log) (he : e.Plain) : Unlaunched (log ++ [e]) := by
  refine ⟨?_, ?_, fun e' hm => ?_⟩
  · rw [List.any_append, h.unlaunched]
    simp [he.launches]
  · rw [List.any_append, h.unclosed]
    simp [he.closes]
  · rcases List.mem_append.1 hm with hm | hm
    · exact h.kept e' hm
    · rw [List.mem_singleton.1 hm]
      exact he.kept

theorem Unlaunched.disposed {log : List Entry} (h : Unlaunched log) : Disposed log := by
  intro hl
  rw [h.unlaunched] at hl
  cases hl

/-- With a launched client. -/
theorem Unlaunched.opened {r : AttemptReq} {x : AttemptSig.Ans r} {s' : Attempt} (h : Unlaunched s.log)
    (hcall : s.Called r x s') (hc : (Entry.called r x).closes = false) (hk : (Entry.called r x).kept = true) :
    Open { s' with stopped := false } :=
  have h₀ : Open { s with stopped := false } := ⟨rfl, h.unclosed, h.kept⟩
  h₀.plain rfl hcall.log hc hk

theorem obtainClient_disposes (hf : p.hasCodexClientFactory = true) (hp : p.stopSession = CodexClient.stopSession)
    {startedAt : Instant} {workspacePath renderedPrompt : Str} (h : Unlaunched s.log) :
    Disposes (obtainClient p startedAt workspacePath renderedPrompt s) := by
  unfold obtainClient
  simp only [hf, if_true]
  refine call_ends fun x s₁ _ hcall => ?_
  match x with
  | .error e =>
    have h₁ : Disposed s₁.log := by
      rw [hcall.log]
      exact h.disposed.plain ⟨rfl, rfl, rfl⟩
    dsimp only
    unfold onException
    by_cases hc : e.isException = true
    · rw [if_pos hc]
      exact finalizeAttempt_disposes h₁
    · rw [if_neg hc]
      exact h₁
  | .ok none =>
    have h₁ : Disposed s₁.log := by
      rw [hcall.log]
      exact h.disposed.plain ⟨rfl, rfl, rfl⟩
    exact finalizeAttempt_disposes h₁
  | .ok (some ()) => exact prepareRun_disposes hp (h.opened hcall rfl rfl)

theorem attemptSteps_disposes (hf : p.hasCodexClientFactory = true) (hp : p.stopSession = CodexClient.stopSession)
    {startedAt : Instant} (h : Unlaunched s.log) : Disposes (attemptSteps p startedAt s) := by
  unfold attemptSteps
  cases p.renderPrompt p.promptTemplate p.issue p.attempt with
  | error e =>
    by_cases hc : e.cls = .promptError
    · simp only [hc, if_true]
      exact finalizeAttempt_disposes h.disposed
    · simp only [hc, if_false]
      exact h.disposed
  | ok renderedPrompt =>
    refine call_ends fun x s₁ _ hcall => ?_
    have h₁ : Unlaunched s₁.log := by
      rw [hcall.log]
      exact h.plain ⟨rfl, rfl, rfl⟩
    cases x with
    | error e =>
      dsimp only
      unfold onException
      by_cases hc : e.isException = true
      · rw [if_pos hc]
        exact finalizeAttempt_disposes h₁.disposed
      · rw [if_neg hc]
        exact h₁.disposed
    | ok ensureResult => exact obtainClient_disposes hf hp h₁

theorem runAgentAttempt_disposes (hf : p.hasCodexClientFactory = true) (hp : p.stopSession = CodexClient.stopSession)
    (h : Unlaunched s.log) : Disposes (runAgentAttempt p s) := by
  unfold runAgentAttempt
  simp only [hf, Bool.not_true, Bool.and_false, Bool.false_eq_true, if_false]
  rw [bind_apply, get_apply, Res.bind_ret, tryExcept_apply]
  exact Res.Sat.tryExcept (fun _ _ _ hs => finalizeAttempt_disposes hs) (fun _ _ _ hs => hs)
    (attemptSteps_disposes hf hp h)

/-- The `finally` of the analysis stops a session that there is, and there is none until it started. -/
theorem analyze_disposes {parse : Payload → Except Exn ClarificationDecision} {issue : Issue} {comments : List Comment}
    {workspacePath : Str} {config : EffectiveConfig} (h : Unlaunched s.log) :
    Disposes (CodexClarificationGate.analyze parse issue comments workspacePath config s) := by
  unfold CodexClarificationGate.analyze
  rw [bind_apply]
  refine call_ends fun x s₁ _ hcall => ?_
  match x with
  | .error e =>
    have h₁ : Disposed s₁.log := by
      rw [hcall.log]
      exact h.disposed.plain ⟨rfl, rfl, rfl⟩
    exact h₁
  | .ok none =>
    have h₁ : Disposed s₁.log := by
      rw [hcall.log]
      exact h.disposed.plain ⟨rfl, rfl, rfl⟩
    exact h₁
  | .ok (some ()) =>
    have h₁ := h.opened hcall rfl rfl
    refine call_ends fun x s₂ _ hcall => ?_
    cases x with
    | error e =>
      have h₂ : Disposed s₂.log := h₁.lost hcall.log rfl rfl
      exact h₂
    | ok session =>
      refine Res.Sat.finallyDo (Q := fun _ => Open) (X := fun _ => Open) (fun _ s₃ h₃ => stopSession_disposes h₃ session)
        (fun _ s₃ h₃ => stopSession_disposes h₃ session) ?_
      rw [bind_apply]
      refine call_ends fun outcome s₃ _ hcall' => ?_
      have h₃ : Open s₃ := (h₁.plain hcall.stopped hcall.log rfl rfl).plain hcall'.stopped hcall'.log rfl rfl
      obtain ⟨events, result⟩ := outcome
      cases result with
      | error e => exact h₃
      | ok result =>
        show Res.Sat _ _ _ _ (ofExcept (parse result.payload) s₃)
        cases parse result.payload with
        | error e => exact h₃
        | ok decision => exact h₃

end Unsettled

/-- The tasks that work on a client of their own, as `startup.py` wires them. -/
inductive Launcher : {α : Type} → Worker α → Prop
  | attempt {p : AttemptParams} : p.hasCodexClientFactory = true → p.stopSession = CodexClient.stopSession →
      Launcher (runAgentAttempt p)
  | analysis (parse : Payload → Except Exn ClarificationDecision) (issue : Issue) (comments : List Comment)
      (workspacePath : Str) (config : EffectiveConfig) :
      Launcher (CodexClarificationGate.analyze parse issue comments workspacePath config)

theorem Launcher.disposes {α : Type} {task : Worker α} (h : Launcher task) {s : Attempt} (hs : Unlaunched s.log) :
    Disposes (task s) := by
  cases h with
  | attempt hf hp => exact runAgentAttempt_disposes hf hp hs
  | analysis => exact analyze_disposes hs

/-- A launched process is closed at the end, of an attempt as of an analysis, if and only if every call was kept: the
`before_run` hook succeeded, the session started, and neither the transition to the start state nor the wait for the
exit was cancelled. -/
theorem process_closed {α : Type} {task : Worker α} (h : Launcher task) {s s' : Attempt} (hs : s.log = [])
    {o : Except Exn α} (hr : Runs (outcomes fun _ => True) (task s) o s') (hl : s'.log.any Entry.launches = true) :
    s'.log.any Entry.closes = true ↔ ∀ e ∈ s'.log, e.kept = true := by
  have hstart : Unlaunched s.log := by
    rw [hs]
    exact ⟨rfl, rfl, by simp⟩
  have hd := (h.disposes hstart).runs hr
  cases o with
  | ok a => exact hd hl
  | error e => exact hd hl

section Sample

/-- The analysis of the issue of an attempt. -/
def sampleAnalysis : Worker ClarificationDecision :=
  CodexClarificationGate.analyze (fun _ => .ok ⟨true, [], none⟩) (sampleIssue "a") [] (py "/tmp/ws/a") sampleConfig

theorem process_closed_sample :
    ((runAgentAttempt sampleParams sampleAttempt).exec (AttemptAnswers.reply {})).2.log.any Entry.closes = true ∧
    ((sampleAnalysis sampleAttempt).exec (AttemptAnswers.reply {})).2.log.any Entry.closes = true := by
  have hrun : ∀ {α : Type} (t : Res AttemptSig Exn Attempt α), Runs (outcomes fun _ => True) t
      (t.exec (AttemptAnswers.reply {})).1 (t.exec (AttemptAnswers.reply {})).2 :=
    fun t => runs_exec (P := outcomes fun _ => True) (fun s => ⟨s.now, rfl⟩) (fun _ _ _ _ => trivial) t
  constructor
  · have hl : ((runAgentAttempt sampleParams sampleAttempt).exec (AttemptAnswers.reply {})).2.log.any Entry.launches =
        true := by decide +kernel
    have hk : ∀ e ∈ ((runAgentAttempt sampleParams sampleAttempt).exec (AttemptAnswers.reply {})).2.log,
        e.kept = true := by decide +kernel
    exact (process_closed (.attempt rfl rfl) rfl (hrun (runAgentAttempt sampleParams sampleAttempt)) hl).2 hk
  · have hl : ((sampleAnalysis sampleAttempt).exec (AttemptAnswers.reply {})).2.log.any Entry.launches = true := by
      decide +kernel
    have hk : ∀ e ∈ ((sampleAnalysis sampleAttempt).exec (AttemptAnswers.reply {})).2.log, e.kept = true := by
      decide +kernel
    exact (process_closed (.analysis ..) rfl (hrun (sampleAnalysis sampleAttempt)) hl).2 hk

/-- An attempt with a `before_run` hook. -/
def hookParams : AttemptParams :=
  { sampleParams with
    config := { sampleParams.config with hooks := { sampleParams.config.hooks with beforeRun := some (py "make") } } }

/-- The process that was launched is not closed. -/
def Attempt.leaks (s : Attempt) : Bool := s.log.any Entry.launches && !s.log.any Entry.closes

theorem process_leaked :
    ((runAgentAttempt hookParams sampleAttempt).exec
      (AttemptAnswers.reply { beforeRun := .ok ⟨some 2, 10, false, false⟩ })).2.leaks = true ∧
    ((runAgentAttempt sampleParams sampleAttempt).exec
      (AttemptAnswers.reply { session := .error ⟨.codexError, py "handshake timeout"⟩ })).2.leaks = true ∧
    ((runAgentAttempt sampleParams sampleAttempt).exec
      (AttemptAnswers.reply { exited := .error .cancelled })).2.leaks = true ∧
    ((sampleAnalysis sampleAttempt).exec
      (AttemptAnswers.reply { session := .error ⟨.codexError, py "handshake timeout"⟩ })).2.leaks = true ∧
    ((sampleAnalysis sampleAttempt).exec (AttemptAnswers.reply { exited := .error .cancelled })).2.leaks = true := by
  decide +kernel

end Sample

end RiverGang
