import RiverGang.Codex.Replies
import RiverGang.Worker.Report

/-!
# The session of an attempt

An attempt asks its client for a session and then for one turn on it (`attempt_calls`), and the client puts its requests
on the wire (`Served.leaves`). Together they say what one attempt submits.

* `prompt_submitted_once`: the prompt goes out once at most exactly when the turn of `stream_turn` cannot be sent.
* `prompt_submitted_twice`: so it goes out twice where all goes well.
-/

namespace RiverGang

open Py Coop Task

/-! ## What an attempt asks of its client -/

instance decideOutcome {α : Type} [DecidableEq α] : DecidableEq (Except Exn α)
  | .ok a, .ok b => decidable_of_iff (a = b) (by simp)
  | .error e, .error f => decidable_of_iff (e = f) (by simp)
  | .ok _, .error _ => isFalse (by simp)
  | .error _, .ok _ => isFalse (by simp)

/-- A call that puts something on the wire, and what it came to; nobody looks at the result of a turn. -/
inductive ClientCall
  | startSession (a : SessionArgs) (o : Except Exn Session)
  | streamTurn (session : Session) (prompt : Str) (turnTimeoutMs : Int) (isFirstTurn : Bool) (o : Except Exn Unit)
  deriving DecidableEq

def Entry.clientCall? : Entry → Option ClientCall
  | .called (.startSession workspace prompt _ approvalPolicy sandboxPolicy readTimeoutMs _) o =>
    some (.startSession ⟨workspace, prompt, approvalPolicy, sandboxPolicy, readTimeoutMs⟩ o)
  | .called (.streamTurn session prompt turnTimeoutMs isFirstTurn) outcome =>
    some (.streamTurn session prompt turnTimeoutMs isFirstTurn (outcome.result.map fun _ => ()))
  | _ => none

def clientCalls (log : List Entry) : List ClientCall := log.filterMap Entry.clientCall?

/-- The policy that is announced to Codex. -/
def announcedPolicy (config : EffectiveConfig) : Str := (config.codex.approvalPolicy.filter (· ≠ [])).getD (py "never")

/-- What `start_session` is called with. -/
def sessionArgs (config : EffectiveConfig) (workspacePath renderedPrompt : Str) : SessionArgs :=
  ⟨workspacePath, renderedPrompt, announcedPolicy config,
    (config.codex.turnSandboxPolicy.filter (· ≠ [])).getD (py "workspace-write"), config.codex.readTimeoutMs⟩

/-- The calls of an attempt, as far as it gets. -/
inductive AttemptCalls (config : EffectiveConfig) (renderedPrompt : Str) : List ClientCall → Prop
  | unopened : AttemptCalls config renderedPrompt []
  | asked {workspacePath : Str} {o : Except Exn Session} :
      AttemptCalls config renderedPrompt [.startSession (sessionArgs config workspacePath renderedPrompt) o]
  | streamed {workspacePath : Str} {session : Session} {o : Except Exn Unit} :
      AttemptCalls config renderedPrompt [.startSession (sessionArgs config workspacePath renderedPrompt) (.ok session),
        .streamTurn session renderedPrompt config.codex.turnTimeoutMs true o]

section Attempts

variable {p : AttemptParams} {s : Attempt} {P : List ClientCall → Prop} {α β : Type}

/-- An entry of another kind. -/
theorem clientCalls_concat {log : List Entry} {e : Entry} (h : e.clientCall? = none) :
    clientCalls (log ++ [e]) = clientCalls log := by
  rw [clientCalls, List.filterMap_append, List.filterMap_cons_none h, List.filterMap_nil, List.append_nil]
  rfl

theorem Extends.clientCalls {log log' : List Entry} (h : Extends log log') :
    RiverGang.clientCalls log' = RiverGang.clientCalls log := by
  obtain ⟨l, rfl, hl⟩ := h
  have hnone : l.filterMap Entry.clientCall? = [] := by
    refine List.filterMap_eq_nil_iff.2 fun e he => ?_
    have hneutral := hl e he
    cases e with
    | posted m => rfl
    | called r x => cases r <;> first | rfl | exact hneutral.elim
  rw [RiverGang.clientCalls, List.filterMap_append, hnone, List.append_nil]
  rfl

/-- A part of an attempt after which the calls meet `P`, however it ends. -/
abbrev Asks (P : List ClientCall → Prop) (t : Res AttemptSig Exn Attempt α) : Prop :=
  Ends (fun _ => True) t (fun _ s' => P (clientCalls s'.log)) (fun _ s' => P (clientCalls s'.log))

theorem Asks.bind {t : Res AttemptSig Exn Attempt α} {f : α → Worker β} (h : Asks P t)
    (hf : ∀ a s', P (clientCalls s'.log) → Asks P (f a s')) : Asks P (t.bind f) :=
  Res.Sat.bind hf h

theorem suppress_asks {r : AttemptReq} (h : P (clientCalls s.log)) (hr : ∀ x, (Entry.called r x).clientCall? = none) :
    Asks P (suppress r s) := by
  have hcalled {x : AttemptSig.Ans r} {s' : Attempt} (hs : s.Called r x s') : P (clientCalls s'.log) := by
    rw [hs.log, clientCalls_concat (hr x)]
    exact h
  refine (suppress_ends r).mono (fun _ h => h) ?_ ?_
  · rintro _ s' ⟨x, hx, -⟩
    exact hcalled hx
  · rintro e s' ⟨-, x, hx, -⟩
    exact hcalled hx

theorem safeTransition_asks {t : Transition} {stateName : Option Str} (h : P (clientCalls s.log)) :
    Asks P (safeTransition p t stateName s) := by
  cases stateName with
  | none => exact h
  | some stateName => exact suppress_asks h fun _ => rfl

theorem runAfterRunBestEffort_asks (workspacePath : Str) (h : P (clientCalls s.log)) :
    Asks P (runAfterRunBestEffort p workspacePath s) :=
  (runAfterRunBestEffort_ends workspacePath).mono (fun _ h => h) (fun _ s' hs => by rw [hs.clientCalls]; exact h)
    fun _ s' hs => by rw [hs.2.clientCalls]; exact h

theorem finalizeAttempt_asks {reason : Str} {ok : Bool} {startedAt : Instant} {lastError : Option Str}
    (h : P (clientCalls s.log)) : Asks P (finalizeAttempt p reason ok startedAt lastError s) := by
  have hrest : ∀ (u : Unit) s', P (clientCalls s'.log) → Asks P ((do
      safeTransition p .success p.config.tracker.successState
      let s ← get
      send (.workerExit (attemptExit p reason ok startedAt s.now lastError)) : Worker Unit) s') := by
    intro _ s' hs'
    rw [bind_apply]
    refine (safeTransition_asks hs').bind fun _ s'' hs'' => ?_
    show P (clientCalls (s''.log ++ [_]))
    rw [clientCalls_concat rfl]
    exact hs''
  cases ok with
  | true => exact hrest () s h
  | false => exact (suppress_asks h fun _ => rfl).bind hrest

/-- The turn adds its own call. -/
theorem runSingleTurn_asks {session : Session} {renderedPrompt : Str}
    (h : ∀ o, P (clientCalls s.log ++ [.streamTurn session renderedPrompt p.config.codex.turnTimeoutMs true o])) :
    Asks P (runSingleTurn p session renderedPrompt s) := by
  unfold runSingleTurn streamTurn
  rw [bind_apply]
  refine ⟨trivial, ?_⟩
  rintro _ ⟨events, result⟩ ⟨now, rfl⟩ -
  have hcalls : P (clientCalls ((Attempt.postAll { s with now := now }
      (events.map fun event => .codexUpdate ⟨p.issue.id, event⟩)).record
        (.called (.streamTurn session renderedPrompt p.config.codex.turnTimeoutMs true) ⟨events, result⟩)).log) := by
    show P (clientCalls ((s.log ++ List.map _ (List.map _ events)) ++ [_]))
    have hposts : List.filterMap Entry.clientCall?
        (List.map Entry.posted (List.map (fun event => Message.codexUpdate ⟨p.issue.id, event⟩) events)) = [] := by
      rw [List.map_map]
      exact List.filterMap_eq_nil_iff.2 fun e he => by
        obtain ⟨m, -, rfl⟩ := List.mem_map.1 he
        rfl
    rw [clientCalls, List.filterMap_append, List.filterMap_append, hposts, List.append_nil]
    exact h _
  cases result with
  | ok r => exact hcalls
  | error e =>
    obtain ⟨cls, msg⟩ := e
    cases cls <;> exact hcalls

theorem runSession_asks (hp : StopsQuietly (fun _ => True) p.stopSession) {startedAt : Instant}
    {workspacePath renderedPrompt : Str} {session : Session} {l : List ClientCall} (hl : clientCalls s.log = l)
    (h : P l) (hturn : ∀ o, P (l ++ [.streamTurn session renderedPrompt p.config.codex.turnTimeoutMs true o])) :
    Asks P (runSession p startedAt workspacePath renderedPrompt session s) := by
  unfold runSession
  rw [bind_apply]
  refine Res.Sat.bind (Q := fun _ s' => clientCalls s'.log = l) (fun _ s₁ h₁ => ?_)
    ((safeTransition_asks (P := (· = l)) hl).mono (fun _ h => h) (fun _ _ h => h) fun _ _ h' => by rw [h']; exact h)
  rw [bind_apply, finallyDo_apply]
  have hclean : ∀ s₂, P (clientCalls s₂.log) →
      Asks P ((tryExcept Exn.isException (p.stopSession session) (fun _ => pure ()) >>=
      fun _ => runAfterRunBestEffort p workspacePath) s₂) :=
    fun s₂ h₂ => (cleanup_ends hp session workspacePath).mono (fun _ h => h)
      (fun _ s' hs => by rw [hs.clientCalls]; exact h₂) fun _ s' hs => by rw [hs.2.clientCalls]; exact h₂
  refine Asks.bind (Res.Sat.finallyDo (fun _ s₂ h₂ => hclean s₂ h₂) (fun _ s₂ h₂ => hclean s₂ h₂)
    (runSingleTurn_asks (by rw [h₁]; exact hturn))) ?_
  rintro ⟨reason, ok, lastError⟩ s₂ h₂
  exact finalizeAttempt_asks h₂

variable {renderedPrompt : Str}

theorem openSession_asks (hp : StopsQuietly (fun _ => True) p.stopSession) {startedAt : Instant} {workspacePath : Str}
    (h : clientCalls s.log = []) :
    Asks (AttemptCalls p.config renderedPrompt) (openSession p startedAt workspacePath renderedPrompt s) := by
  unfold openSession
  rw [bind_apply]
  refine call_ends fun x s₁ _ hcall => ?_
  have hcalls : clientCalls s₁.log = [.startSession (sessionArgs p.config workspacePath renderedPrompt) x] := by
    rw [hcall.log, clientCalls, List.filterMap_append]
    exact congrArg (· ++ _) h
  cases x with
  | ok session => exact runSession_asks hp hcalls .asked fun o => .streamed
  | error e =>
    have h₁ : AttemptCalls p.config renderedPrompt (clientCalls s₁.log) := by
      rw [hcalls]
      exact .asked
    by_cases hc : e.isCodexError = true
    · simp only [hc, if_true]
      rw [bind_apply]
      exact (runAfterRunBestEffort_asks workspacePath h₁).bind fun _ s₂ h₂ => finalizeAttempt_asks h₂
    · simp only [hc]
      exact h₁

theorem prepareRun_asks (hp : StopsQuietly (fun _ => True) p.stopSession) {startedAt : Instant} {workspacePath : Str}
    (h : clientCalls s.log = []) :
    Asks (AttemptCalls p.config renderedPrompt) (prepareRun p startedAt workspacePath renderedPrompt s) := by
  unfold prepareRun
  cases script? p.config.hooks.beforeRun with
  | none => exact openSession_asks hp h
  | some script =>
    refine call_ends fun x s₁ _ hcall => ?_
    have h₁ : clientCalls s₁.log = [] := by rw [hcall.log, clientCalls_concat rfl, h]
    have hnone : AttemptCalls p.config renderedPrompt (clientCalls s₁.log) := by
      rw [h₁]
      exact .unopened
    cases x with
    | error e => exact hnone
    | ok result =>
      by_cases hr : result.ok = true
      · simp only [hr, if_true]
        exact openSession_asks hp h₁
      · simp only [hr, Bool.false_eq_true, if_false]
        exact finalizeAttempt_asks hnone

theorem obtainClient_asks (hp : StopsQuietly (fun _ => True) p.stopSession) {startedAt : Instant} {workspacePath : Str}
    (h : clientCalls s.log = []) :
    Asks (AttemptCalls p.config renderedPrompt) (obtainClient p startedAt workspacePath renderedPrompt s) := by
  have hnone {s' : Attempt} (hs : clientCalls s'.log = []) : AttemptCalls p.config renderedPrompt (clientCalls s'.log) := by
    rw [hs]
    exact .unopened
  unfold obtainClient
  by_cases hf : p.hasCodexClientFactory = true
  · simp only [hf, if_true]
    refine call_ends fun x s₁ _ hcall => ?_
    have h₁ : clientCalls s₁.log = [] := by rw [hcall.log, clientCalls_concat rfl, h]
    match x with
    | .error e =>
      dsimp only
      unfold onException
      by_cases hc : e.isException = true
      · rw [if_pos hc]
        exact finalizeAttempt_asks (hnone h₁)
      · rw [if_neg hc]
        exact hnone h₁
    | .ok none => exact finalizeAttempt_asks (hnone h₁)
    | .ok (some ()) => exact prepareRun_asks hp h₁
  · simp only [hf, Bool.false_eq_true, if_false]
    by_cases hc : p.hasCodexClient = true
    · simp only [hc, if_true]
      exact prepareRun_asks hp h
    · simp only [hc, Bool.false_eq_true, if_false]
      exact finalizeAttempt_asks (hnone h)

/-- What an attempt asks of its client, if its prompt can be rendered at all. -/
def Asked (p : AttemptParams) (calls : List ClientCall) : Prop :=
  calls = [] ∨ ∃ renderedPrompt, p.renderPrompt p.promptTemplate p.issue p.attempt = .ok renderedPrompt ∧
    AttemptCalls p.config renderedPrompt calls

theorem attemptSteps_asks (hp : StopsQuietly (fun _ => True) p.stopSession) {startedAt : Instant}
    (h : clientCalls s.log = []) : Asks (Asked p) (attemptSteps p startedAt s) := by
  unfold attemptSteps
  cases hx : p.renderPrompt p.promptTemplate p.issue p.attempt with
  | error e =>
    have hnone : Asked p (clientCalls s.log) := .inl h
    by_cases hc : e.cls = .promptError
    · simp only [hc, if_true]
      exact finalizeAttempt_asks hnone
    · simp only [hc]
      exact hnone
  | ok renderedPrompt =>
    refine call_ends fun x s₁ _ hcall => ?_
    have h₁ : clientCalls s₁.log = [] := by rw [hcall.log, clientCalls_concat rfl, h]
    cases x with
    | error e =>
      dsimp only
      unfold onException
      by_cases hc : e.isException = true
      · rw [if_pos hc]
        exact finalizeAttempt_asks (.inl h₁)
      · rw [if_neg hc]
        exact .inl h₁
    | ok result =>
      exact (obtainClient_asks hp h₁).mono (fun _ h => h) (fun _ _ hs => .inr ⟨renderedPrompt, hx, hs⟩)
        fun _ _ hs => .inr ⟨renderedPrompt, hx, hs⟩

theorem runAgentAttempt_asks (hp : StopsQuietly (fun _ => True) p.stopSession) (h : clientCalls s.log = []) :
    Asks (Asked p) (runAgentAttempt p s) := by
  unfold runAgentAttempt
  split
  · exact .inl h
  · rw [bind_apply, get_apply, Res.bind_ret, tryExcept_apply]
    exact Res.Sat.tryExcept (fun e s' _ hs => finalizeAttempt_asks hs) (fun e s' _ hs => hs) (attemptSteps_asks hp h)

/-- In every run of an attempt, cancelled or not: one session at most, and then one turn on it at most, with the same
prompt. -/
theorem attempt_calls (hp : p.stopSession = CodexClient.stopSession) (hs : s.log = []) {s' : Attempt} {o : Except Exn Unit}
    (hr : Runs (outcomes fun _ => True) (runAgentAttempt p s) o s') : Asked p (clientCalls s'.log) := by
  have hquiet : StopsQuietly (fun _ => True) p.stopSession := by
    rw [hp]
    exact CodexClient.stopSession_quiet
  have hpost := (runAgentAttempt_asks hquiet (by rw [hs]; rfl)).runs hr
  cases o <;> exact hpost

end Attempts

/-! ## What the client puts on the wire -/

/-- The frames of its own that a call leaves, made in the state `c`. -/
def ClientCall.Leaves (cp : ClientParams) (c : Client) : ClientCall → List WireEntry → Prop
  | .startSession a o, seg => ∃ threadId, ownWrites seg <+: handshakeFrames cp a c.nextId threadId ∧
      ∀ session, o = .ok session → ownWrites seg = handshakeFrames cp a c.nextId threadId
  | .streamTurn session prompt turnTimeoutMs _ _, seg =>
      (CanSend c turnTimeoutMs → ownWrites seg = [buildTurnStartRequest c.nextId session.threadId prompt]) ∧
        (¬CanSend c turnTimeoutMs → ownWrites seg = [])

/-- A `stream_turn` that is called in time, and while stdin is open. -/
def ClientCall.Sends (c : Client) : ClientCall → Prop
  | .streamTurn _ _ turnTimeoutMs _ _ => CanSend c turnTimeoutMs
  | .startSession .. => False

section Frames

variable {cp : ClientParams} {c : Client} {seg : List WireEntry}

/-- The prompt that a `turn/start` request carries. -/
def submittedPrompt? (frame : Payload) : Option Str :=
  if method? frame = some METHOD_TURN_START then
    match (Json.get? frame (py "params")).bind Json.obj? with
    | some params =>
      match Json.get? params (py "input") with
      | some (.arr (.obj item :: _)) => (Json.get? item (py "text")).bind Json.str?
      | _ => none
    | none => none
  else none

/-- How often the prompt was submitted. -/
def submissions (prompt : Str) (log : List WireEntry) : Nat :=
  (ownWrites log).countP fun frame => submittedPrompt? frame = some prompt

theorem submittedPrompt_turn (id : Int) (threadId prompt : Str) :
    submittedPrompt? (buildTurnStartRequest id threadId prompt) = some prompt := rfl

theorem submissions_handshake (cp : ClientParams) (a : SessionArgs) (n : Int) (threadId : Str) :
    (handshakeFrames cp a n threadId).countP (fun frame => submittedPrompt? frame = some a.prompt) = 1 := by
  have hnone : submittedPrompt? (buildInitializeRequest n cp.clientVersion) = none ∧ submittedPrompt? INITIALIZED = none ∧
      submittedPrompt? (buildThreadStartRequest (n + 1) a.workspace a.approvalPolicy a.sandboxPolicy) = none :=
    ⟨rfl, rfl, rfl⟩
  simp [handshakeFrames, hnone, submittedPrompt_turn]

namespace ClientCall.Leaves

/-- A handshake submits its prompt once, or not yet. -/
theorem startSession_submissions {a : SessionArgs} {o : Except Exn Session}
    (h : (ClientCall.startSession a o).Leaves cp c seg) :
    submissions a.prompt seg ≤ 1 ∧ ∀ session, o = .ok session → submissions a.prompt seg = 1 := by
  obtain ⟨threadId, hpre, hall⟩ := h
  refine ⟨?_, fun session he => ?_⟩
  · rw [submissions, ← submissions_handshake cp a c.nextId threadId]
    exact hpre.sublist.countP_le
  · rw [submissions, hall session he, submissions_handshake]

/-- A turn submits its prompt where it can be sent. -/
theorem streamTurn_submissions {session : Session} {prompt : Str} {turnTimeoutMs : Int} {isFirstTurn : Bool}
    {o : Except Exn Unit} (h : (ClientCall.streamTurn session prompt turnTimeoutMs isFirstTurn o).Leaves cp c seg) :
    submissions prompt seg = 0 ↔ ¬CanSend c turnTimeoutMs := by
  refine ⟨fun hzero hc => ?_, fun hc => ?_⟩
  · rw [submissions, h.1 hc] at hzero
    simp [submittedPrompt_turn] at hzero
  · rw [submissions, h.2 hc]
    rfl

end ClientCall.Leaves

theorem submissions_append (prompt : Str) (l l' : List WireEntry) :
    submissions prompt (l ++ l') = submissions prompt l + submissions prompt l' := by
  simp [submissions]

end Frames

section

variable [Builtins]

/-- A client that serves calls, each with the state in which it is made. -/
inductive Served (W : Wire) (cp : ClientParams) (c₀ : Client) : List (ClientCall × Client) → Client → Prop
  | start : Served W cp c₀ [] c₀
  | rely {calls : List (ClientCall × Client)} {c c' : Client} : Served W cp c₀ calls c → W.proto.rely c c' →
      Served W cp c₀ calls c'
  | startSession {calls : List (ClientCall × Client)} {c c' : Client} {fuel : Nat} {a : SessionArgs}
      {o : Except Failure Session} : Served W cp c₀ calls c → Runs W.proto (startSession cp fuel a c) o c' →
      Served W cp c₀ (calls ++ [(.startSession a (o.mapError Failure.toExn), c)]) c'
  | streamTurn {calls : List (ClientCall × Client)} {c c' : Client} {fuel : Nat} {session : Session} {prompt : Str}
      {turnTimeoutMs : Int} {isFirstTurn : Bool} {o : Except Failure TurnResult} : Served W cp c₀ calls c →
      Runs W.proto (CodexClient.streamTurn cp fuel session prompt turnTimeoutMs isFirstTurn c) o c' →
      Served W cp c₀ (calls ++ [(.streamTurn session prompt turnTimeoutMs isFirstTurn
        ((o.mapError Failure.toExn).map fun _ => ()), c)]) c'

variable {W : Wire} {cp : ClientParams} {c₀ c c' : Client} {seg : List WireEntry}

/-- A session that is opened has put the whole handshake on the wire. -/
theorem Opened.ownWrites {a : SessionArgs} {n : Int} {threadId turnId : Str} (h : Opened cp a n seg threadId turnId) :
    RiverGang.ownWrites seg = handshakeFrames cp a n threadId := by
  obtain ⟨seg₁, seg₂, seg₃, r₁, r₂, r₃, rfl, h₁, h₂, h₃, -, -⟩ := h
  rw [ownWrites_append, ownWrites_append, ownWrites_append, h₁.ownWrites rfl, h₂.ownWrites rfl, h₃.ownWrites rfl]
  rfl

theorem startSession_leaves {fuel : Nat} {a : SessionArgs} {o : Except Failure Session}
    (h : Runs W.proto (startSession cp fuel a c) o c') :
    ∃ seg, c'.log = c.log ++ seg ∧ (ClientCall.startSession a (o.mapError Failure.toExn)).Leaves cp c seg := by
  obtain ⟨seg, k, hs, hh⟩ := startSession_trace h
  cases o with
  | error f =>
    obtain ⟨threadId, l, hl, hframes, -⟩ := hh.frames
    exact ⟨seg, hs.log, threadId, hl.trans hframes, fun session he => by cases he⟩
  | ok session =>
    have hwrites := (Handshake.session hh).ownWrites
    exact ⟨seg, hs.log, session.threadId, by rw [hwrites], fun _ _ => hwrites⟩

omit [Builtins] in
theorem BrokenOff.own {fuel : Nat} {q : List WireEntry} {f : Failure} (h : BrokenOff W cp fuel q c seg f) :
    ∀ e ∈ seg, e.own? = none := by
  have htail : Tail cp True seg := h.tail fun _ _ => trivial
  exact htail.own

/-- Of a turn only the request is the client's own. -/
theorem TurnTrace.ownWrites {fuel : Nat} {requestId : Int} {request : Payload} {o : Except Failure TurnResult}
    (h : TurnTrace W cp fuel c request requestId seg o) (hm : (Json.get? request (py "method")).isSome) (hne : seg ≠ []) :
    RiverGang.ownWrites seg = [request] := by
  have hown {l : List WireEntry} (hl : ∀ e ∈ l, e.own? = none) : RiverGang.ownWrites (.wrote request :: l) = [request] := by
    rw [← List.singleton_append, ownWrites_append, ownWrites_eq_nil hl]
    simp [RiverGang.ownWrites, WireEntry.own?, hm]
  have happend {l l' : List WireEntry} (hl : ∀ e ∈ l, e.own? = none) (hl' : ∀ e ∈ l', e.own? = none) :
      ∀ e ∈ l ++ l', e.own? = none := fun e he => (List.mem_append.1 he).elim (hl e) (hl' e)
  have hframe (raw : Payload) : ∀ e ∈ [WireEntry.frame raw], e.own? = none := by simp [WireEntry.own?]
  cases h with
  | unsent => exact absurd rfl hne
  | sent => exact hown (by simp)
  | unanswered hq hb => exact hown (happend hq.own hb.own)
  | refused hq => exact hown (happend hq.own (hframe _))
  | acked hq => exact hown (happend hq.own (hframe _))
  | stopped hq _ _ ht hb => exact hown (happend (happend hq.own (hframe _)) (happend ht.own hb.own))
  | decided hq _ _ ht hround => exact hown (happend (happend hq.own (hframe _)) (happend ht.own hround.own))

theorem streamTurn_leaves {fuel : Nat} {session : Session} {prompt : Str} {turnTimeoutMs : Int} {isFirstTurn : Bool}
    {o : Except Failure TurnResult}
    (h : Runs W.proto (CodexClient.streamTurn cp fuel session prompt turnTimeoutMs isFirstTurn c) o c') :
    ∃ seg, c'.log = c.log ++ seg ∧
      (ClientCall.streamTurn session prompt turnTimeoutMs isFirstTurn
        ((o.mapError Failure.toExn).map fun _ => ())).Leaves cp c seg := by
  obtain ⟨seg, k, ⟨hs, hsent⟩, ht⟩ := streamTurn_trace h
  refine ⟨seg, hs.log, fun hc => ?_, fun hc => ?_⟩
  · have hne := hsent.2 hc
    cases ht with
    | overflow => exact absurd rfl hne
    | noTime => exact absurd rfl hne
    | cut => exact absurd rfl hne
    | timedOut _ _ ht => exact ht.ownWrites rfl hne
    | ran _ _ _ ht => exact ht.ownWrites rfl hne
  · have hnil : seg = [] := Classical.byContradiction fun hne => hc (hsent.1 hne)
    rw [hnil]
    rfl

theorem Served.leaves {calls : List (ClientCall × Client)} (h : Served W cp c₀ calls c) :
    ∃ segs, c.log = c₀.log ++ segs.flatten ∧ List.Forall₂ (fun call seg => call.1.Leaves cp call.2 seg) calls segs := by
  induction h with
  | start => exact ⟨[], by simp, .nil⟩
  | rely _ hr ih =>
    obtain ⟨segs, hlog, hsegs⟩ := ih
    exact ⟨segs, by rw [hr.1.log, hlog], hsegs⟩
  | startSession _ hrun ih =>
    obtain ⟨segs, hlog, hsegs⟩ := ih
    obtain ⟨seg, hseg, hleaves⟩ := startSession_leaves hrun
    exact ⟨segs ++ [seg], by simp [hseg, hlog], List.rel_append hsegs (.cons hleaves .nil)⟩
  | streamTurn _ hrun ih =>
    obtain ⟨segs, hlog, hsegs⟩ := ih
    obtain ⟨seg, hseg, hleaves⟩ := streamTurn_leaves hrun
    exact ⟨segs ++ [seg], by simp [hseg, hlog], List.rel_append hsegs (.cons hleaves .nil)⟩

theorem Served.life {calls : List (ClientCall × Client)} {now : Instant} (h : Served W cp (.new now) calls c) :
    Life W cp c := by
  induction h with
  | start => exact .new now
  | rely _ hr ih => exact .rely ih hr
  | startSession _ hrun ih => exact .startSession ih hrun
  | streamTurn _ hrun ih => exact .streamTurn ih hrun

/-! ## The prompt of an attempt -/

/-- Whatever the subprocess sends, and however the attempt ends: the rendered prompt is submitted once at most exactly
when no `stream_turn` of the attempt can be sent. -/
theorem prompt_submitted_once {p : AttemptParams} (hstop : p.stopSession = CodexClient.stopSession) {s s' : Attempt}
    (hs : s.log = []) {o : Except Exn Unit} (hr : Runs (outcomes fun _ => True) (runAgentAttempt p s) o s')
    {calls : List (ClientCall × Client)} (hc : Served .any cp c₀ calls c)
    (hcalls : calls.map Prod.fst = clientCalls s'.log) :
    ∃ seg, c.log = c₀.log ++ seg ∧
      ∀ renderedPrompt, p.renderPrompt p.promptTemplate p.issue p.attempt = .ok renderedPrompt →
        (submissions renderedPrompt seg ≤ 1 ↔ ∀ call ∈ calls, ¬call.1.Sends call.2) := by
  obtain ⟨segs, hlog, hsegs⟩ := hc.leaves
  refine ⟨segs.flatten, hlog, fun renderedPrompt hprompt => ?_⟩
  have hasked := attempt_calls hstop hs hr
  rw [← hcalls] at hasked
  rcases hasked with hnil | ⟨prompt, hp, hasked⟩
  · rw [List.map_eq_nil_iff] at hnil
    subst hnil
    cases hsegs
    simp [submissions, ownWrites]
  · rw [hprompt] at hp
    cases hp
    generalize hl : calls.map Prod.fst = l at hasked
    cases hasked with
    | unopened =>
      rw [List.map_eq_nil_iff] at hl
      subst hl
      cases hsegs
      simp [submissions, ownWrites]
    | asked =>
      obtain ⟨⟨call, c₁⟩, rfl, rfl⟩ := List.map_eq_singleton_iff.1 hl
      cases hsegs with
      | cons hseg hrest =>
        cases hrest
        have hone := (ClientCall.Leaves.startSession_submissions hseg).1
        refine iff_of_true ?_ (by simp [ClientCall.Sends])
        rw [List.flatten_cons, List.flatten_nil, List.append_nil]
        exact hone
    | streamed =>
      obtain ⟨⟨call₁, c₁⟩, rest, rfl, rfl, hl₂⟩ := List.map_eq_cons_iff.1 hl
      obtain ⟨⟨call₂, c₂⟩, rfl, rfl⟩ := List.map_eq_singleton_iff.1 hl₂
      cases hsegs with
      | @cons _ seg₁ _ _ hseg₁ hrest =>
        cases hrest with
        | @cons _ seg₂ _ _ hseg₂ hnil =>
          cases hnil
          have hone : submissions renderedPrompt seg₁ = 1 := (ClientCall.Leaves.startSession_submissions hseg₁).2 _ rfl
          have hturn := ClientCall.Leaves.streamTurn_submissions hseg₂
          have hcount : submissions renderedPrompt [seg₁, seg₂].flatten ≤ 1 ↔ submissions renderedPrompt seg₂ = 0 := by
            rw [List.flatten_cons, List.flatten_cons, List.flatten_nil, List.append_nil, submissions_append, hone]
            omega
          rw [hcount, hturn]
          simp [ClientCall.Sends]

end

section Sample

attribute [local instance] sampleBuiltins

/-- The calls of an attempt whose session is opened, and whose turn comes to `o`. -/
def sampleCalls (o : Except Exn Unit) : List ClientCall :=
  [.startSession sampleSessionArgs (.ok sampleSession), .streamTurn sampleSession (py "do it") 3600000 true o]

/-- Such an attempt. -/
def sampleRun (turn : Except Exn TurnResult) : Except Exn Unit × Attempt :=
  (runAgentAttempt sampleParams sampleAttempt).exec ({ session := .ok sampleSession, turn := turn } : AttemptAnswers).reply

theorem sampleRun_runs (turn : Except Exn TurnResult) :
    Runs (outcomes fun _ => True) (runAgentAttempt sampleParams sampleAttempt) (sampleRun turn).1 (sampleRun turn).2 :=
  runs_exec (P := outcomes fun _ => True) (fun s => ⟨s.now, rfl⟩) (fun _ _ _ _ => trivial) _

/-- The client of such an attempt. -/
theorem sampleServed {c₁ c₂ : Client} {o : Except Failure TurnResult}
    (hopen : Runs Wire.any.proto (startSession sampleClientParams 9 sampleSessionArgs sampleClient) (.ok sampleSession) c₁)
    {c₁' : Client} (hr : Wire.any.proto.rely c₁ c₁')
    (hstream : Runs Wire.any.proto (CodexClient.streamTurn sampleClientParams 9 sampleSession (py "do it") 3600000 true c₁')
      o c₂) :
    Served .any sampleClientParams sampleClient
      [(.startSession sampleSessionArgs (.ok sampleSession), sampleClient),
        (.streamTurn sampleSession (py "do it") 3600000 true ((o.mapError Failure.toExn).map fun _ => ()), c₁')] c₂ :=
  .streamTurn (.rely (.startSession .start hopen) hr) hstream

/-- An attempt where all goes well submits its prompt in `start_session`, and again in `stream_turn`. -/
theorem prompt_submitted_twice : ∃ (s' : Attempt) (calls : List (ClientCall × Client)) (c : Client),
    Runs (outcomes fun _ => True) (runAgentAttempt sampleParams sampleAttempt) (.ok ()) s' ∧
    Served .any sampleClientParams sampleClient calls c ∧ calls.map Prod.fst = clientCalls s'.log ∧
    submissions (py "do it") c.log = 2 := by
  have hrun := sampleRun_runs (.ok ⟨py "turn", py "turn/completed", []⟩)
  have hcalls : (sampleRun (.ok ⟨py "turn", py "turn/completed", []⟩)).1 = .ok () ∧
      clientCalls (sampleRun (.ok ⟨py "turn", py "turn/completed", []⟩)).2.log = sampleCalls (.ok ()) := by decide +kernel
  have hopen := sampleOpened_runs (W := .any) [sampleAck, sampleCompleted] (fun _ _ => trivial)
    (fun _ => trivial) (by decide +kernel)
  have hstream := sampleStream_runs (W := .any) [sampleAck, sampleCompleted] (fun _ _ => trivial)
    (fun _ => trivial) (sampleOpened [sampleAck, sampleCompleted])
  have hread : (sampleStream [sampleAck, sampleCompleted] (sampleOpened [sampleAck, sampleCompleted])).1.isOk = true ∧
      submissions (py "do it") (sampleStream [sampleAck, sampleCompleted]
        (sampleOpened [sampleAck, sampleCompleted])).2.log = 2 := by decide +kernel
  generalize sampleRun (.ok ⟨py "turn", py "turn/completed", []⟩) = x at hrun hcalls
  generalize sampleOpened [sampleAck, sampleCompleted] = c₁ at hopen hstream hread
  generalize sampleStream [sampleAck, sampleCompleted] c₁ = y at hstream hread
  obtain ⟨o, s'⟩ := x
  obtain ⟨o', c₂⟩ := y
  obtain ⟨rfl, hcalls⟩ := hcalls
  cases o' with
  | error f => cases hread.1
  | ok r =>
    refine ⟨s', _, c₂, hrun, sampleServed hopen (Wire.proto_refl _ _) hstream, ?_, hread.2⟩
    rw [hcalls]
    rfl

/-- A client whose stdin was closed meanwhile. -/
def closeStdin (c : Client) : Client := { c with stdinOpen := false }

theorem closeStdin_rely (c : Client) : Wire.any.proto.rely c (closeStdin c) :=
  ⟨⟨rfl, rfl, rfl, Int.le_refl _, by simp [closeStdin], rfl⟩, fun h => absurd trivial h⟩

/-- Where stdin was closed meanwhile, the turn is not sent. -/
theorem prompt_submitted_once_sample : ∃ (s' : Attempt) (calls : List (ClientCall × Client)) (c : Client),
    Runs (outcomes fun _ => True) (runAgentAttempt sampleParams sampleAttempt) (.ok ()) s' ∧
    Served .any sampleClientParams sampleClient calls c ∧ calls.map Prod.fst = clientCalls s'.log ∧
    calls.length = 2 ∧ submissions (py "do it") c.log ≤ 1 := by
  have hrun := sampleRun_runs (.error ⟨.portExit, py "subprocess stdin is unavailable"⟩)
  have hcalls : (sampleRun (.error ⟨.portExit, py "subprocess stdin is unavailable"⟩)).1 = .ok () ∧
      clientCalls (sampleRun (.error ⟨.portExit, py "subprocess stdin is unavailable"⟩)).2.log =
        sampleCalls (.error ⟨.portExit, py "subprocess stdin is unavailable"⟩) := by decide +kernel
  have hopen := sampleOpened_runs (W := .any) [] (fun _ _ => trivial) (fun _ => trivial) (by decide +kernel)
  have hstream := sampleStream_runs (W := .any) [] (fun _ _ => trivial) (fun _ => trivial)
    (closeStdin (sampleOpened []))
  have hraised : ((sampleStream [] (closeStdin (sampleOpened []))).1.mapError Failure.toExn).map (fun _ => ()) =
      .error ⟨.portExit, py "subprocess stdin is unavailable"⟩ := by decide +kernel
  generalize sampleRun (.error ⟨.portExit, py "subprocess stdin is unavailable"⟩) = x at hrun hcalls
  generalize sampleOpened [] = c₁ at hopen hstream hraised
  generalize sampleStream [] (closeStdin c₁) = y at hstream hraised
  obtain ⟨o, s'⟩ := x
  obtain ⟨rfl, hcalls⟩ := hcalls
  have hserved := sampleServed hopen (closeStdin_rely c₁) hstream
  rw [hraised] at hserved
  obtain ⟨seg, hlog, hiff⟩ := prompt_submitted_once rfl rfl hrun hserved hcalls.symm
  refine ⟨s', _, y.2, hrun, hserved, hcalls.symm, rfl, ?_⟩
  rw [hlog]
  refine (hiff (py "do it") rfl).2 fun call hcall => ?_
  simp only [List.mem_cons, List.not_mem_nil, or_false] at hcall
  rcases hcall with rfl | rfl
  · exact fun h => h
  · rintro ⟨-, -, ho⟩
    cases ho

end Sample

end RiverGang
