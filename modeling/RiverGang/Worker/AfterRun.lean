import RiverGang.Worker.Report

/-!
# The hook after a run

Once an attempt has asked for a session, the `after_run` hook is run on three ways: after the session, after a session
that a `CodexError` kept from opening — and not at all where `start_session` raises any other exception, which goes by
all of it to the outer handler. `Ended` lists the three, by their landmarks in the log; `attempt_ends` holds it against
the code, and `after_run_once` says which attempts run the hook as they should.
-/

namespace RiverGang

open Py Coop Task

/-! ## Landmarks -/

/-- What an attempt did, as far as it matters here. -/
inductive Landmark
  /-- `start_session` -/
  | session (o : Except Exn Session)
  /-- a call of `stop_session`'s -/
  | stop
  | afterRun (script : Str)
  /-- `WorkerExit` is posted -/
  | exit

def Entry.landmark? : Entry → Option Landmark
  | .called (.startSession ..) o => some (.session o)
  | .called (.stopSession _) _ => some .stop
  | .called (.waitForExit _) _ => some .stop
  | .called .aclose _ => some .stop
  | .called (.runHook .afterRun script _ _) _ => some (.afterRun script)
  | .posted (.workerExit _) => some .exit
  | _ => none

/-- The landmarks of a log, in their order. -/
def landmarks (log : List Entry) : List Landmark := log.filterMap Entry.landmark?

theorem landmarks_append (log log' : List Entry) : landmarks (log ++ log') = landmarks log ++ landmarks log' :=
  List.filterMap_append

theorem landmarks_single (e : Entry) : landmarks [e] = e.landmark?.toList := by
  unfold landmarks
  cases h : e.landmark? with
  | none => rw [List.filterMap_cons_none h]; rfl
  | some m => rw [List.filterMap_cons_some h]; rfl

theorem Attempt.Called.landmarks {s s' : Attempt} {r : AttemptReq} {x : AttemptSig.Ans r} (h : s.Called r x s') :
    RiverGang.landmarks s'.log = RiverGang.landmarks s.log ++ (Entry.called r x).landmark?.toList := by
  rw [h.log, landmarks_append, landmarks_single]

/-- Nothing is raised but exceptions: nobody cancels the attempt. -/
abbrev uncancelled : Proto AttemptSig Attempt := outcomes fun e => e.isException = true

/-! ## `stop_session` -/

/-- Only landmarks of `stop_session` were added. -/
def Stopping (s s' : Attempt) : Prop :=
  ∃ stops, (∀ m ∈ stops, m = Landmark.stop) ∧ landmarks s'.log = landmarks s.log ++ stops

theorem Stopping.refl (s : Attempt) : Stopping s s := ⟨[], by simp, (List.append_nil _).symm⟩

theorem Stopping.trans (s s' s'' : Attempt) (h : Stopping s s') (h' : Stopping s' s'') : Stopping s s'' := by
  obtain ⟨stops, hall, hs⟩ := h
  obtain ⟨stops', hall', hs'⟩ := h'
  refine ⟨stops ++ stops', fun m hm => ?_, by rw [hs', hs, List.append_assoc]⟩
  rcases List.mem_append.1 hm with hm | hm
  · exact hall m hm
  · exact hall' m hm

theorem call_stopping {r : AttemptReq} (hr : ∀ x, (Entry.called r x).landmark? = some .stop) :
    Keeps uncancelled Stopping (call r) := by
  refine Keeps.bind Stopping.trans (keeps_request (P := uncancelled) (fun s s' hs => ?_) r) fun x =>
    Keeps.bind Stopping.trans (keeps_modify fun s => ⟨[.stop], by simp, ?_⟩) fun _ => keeps_pure Stopping.refl x
  · obtain ⟨now, rfl⟩ := hs
    exact Stopping.refl s
  · show landmarks (s.log ++ [_]) = _
    rw [landmarks_append, landmarks_single, hr]
    rfl

theorem suppress_stopping {r : AttemptReq} (hr : ∀ x, (Entry.called r x).landmark? = some .stop) :
    Keeps uncancelled Stopping (suppress r) := by
  refine Keeps.bind Stopping.trans (call_stopping hr) fun x => ?_
  cases raised r x with
  | none => exact keeps_pure Stopping.refl ()
  | some e =>
    dsimp only
    unfold onException
    split
    · exact keeps_pure Stopping.refl ()
    · exact keeps_raise Stopping.refl e

theorem anyStopSession_stopping (session : Session) : Keeps uncancelled Stopping (anyStopSession session) := by
  refine Keeps.bind Stopping.trans (call_stopping fun _ => rfl) fun x => ?_
  cases x with
  | ok u => exact keeps_pure Stopping.refl ()
  | error e => exact keeps_raise Stopping.refl e

theorem CodexClient.stopSession_stopping (session : Session) :
    Keeps uncancelled Stopping (CodexClient.stopSession session) := by
  refine Keeps.get_bind Stopping.trans Stopping.refl fun s => ?_
  split
  · exact keeps_pure Stopping.refl ()
  · exact Keeps.bind Stopping.trans (keeps_modify fun s => .refl s) fun _ =>
      Keeps.bind Stopping.trans (suppress_stopping fun _ => rfl) fun _ => suppress_stopping fun _ => rfl

/-- What is asked of a client's `stop_session`: it raises nothing but exceptions, and leaves its own landmarks. -/
def StopsAlone (stopSession : Session → Worker Unit) : Prop :=
  StopsQuietly (fun e => e.isException = true) stopSession ∧ ∀ session, Keeps uncancelled Stopping (stopSession session)

/-- The landmarks that some call of `stop_session` leaves. -/
def Stops (p : AttemptParams) (session : Session) (stops : List Landmark) : Prop :=
  ∃ (s s' : Attempt) (o : Except Exn Unit), Runs uncancelled (p.stopSession session s) o s' ∧
    landmarks s'.log = landmarks s.log ++ stops

/-! ## The ends of an attempt -/

/-- The hook is run exactly once, after `stop_session` where there is a session to stop, and before the exit. -/
def AfterRunOnce (p : AttemptParams) (script : Str) (o : Except Exn Session) (l : List Landmark) : Prop :=
  ∃ stops, l = .session o :: (stops ++ [.afterRun script, .exit]) ∧ (∀ m ∈ stops, m = .stop) ∧
    ∀ session, o = .ok session → Stops p session stops

/-- How an attempt ends: before `start_session` is called, after it with the hook, or after it without. -/
inductive Ended (p : AttemptParams) (script : Str) : List Landmark → Prop
  | unopened : Ended p script [.exit]
  | closed {o : Except Exn Session} {l : List Landmark} : (∀ e, o = .error e → e.isCodexError = true) →
      AfterRunOnce p script o l → Ended p script l
  | skipped {e : Exn} : e.isCodexError = false → Ended p script [.session (.error e), .exit]

/-- How it breaks: with the exit still to come. -/
def Breaks (p : AttemptParams) (script : Str) (l : List Landmark) : Prop := Ended p script (l ++ [.exit])

/-- What is known of the landmarks where a part of an attempt returns, and where it raises an exception. -/
abbrev Reaches {α : Type} (Q X : List Landmark → Prop) (t : Res AttemptSig Exn Attempt α) : Prop :=
  Ends (fun e => e.isException = true) t (fun _ s' => Q (landmarks s'.log))
    (fun e s' => e.isException = true ∧ X (landmarks s'.log))

section Steps

variable {p : AttemptParams} {s : Attempt} {script workspacePath renderedPrompt : Str} {startedAt : Instant}
  {session : Session} {Q X : List Landmark → Prop}

theorem call_reaches {r : AttemptReq} {α : Type} {f : AttemptSig.Ans r → Worker α}
    (hf : ∀ x s', (∀ e, raised r x = some e → e.isException = true) →
      landmarks s'.log = landmarks s.log ++ (Entry.called r x).landmark?.toList → Reaches Q X (f x s')) :
    Reaches Q X ((call r s).bind f) := call_ends fun x s' hx hcall => hf x s' hx hcall.landmarks

theorem suppress_reaches {r : AttemptReq} {m : Option Landmark} (hr : ∀ x, (Entry.called r x).landmark? = m)
    (h : Q (landmarks s.log ++ m.toList)) : Reaches Q X (suppress r s) := by
  refine (suppress_ends r).mono (fun _ h => h) ?_ ?_
  · rintro _ s' ⟨x, hx, -⟩
    rw [hx.landmarks, hr]
    exact h
  · rintro e s' ⟨⟨he, hn⟩, -⟩
    rw [he] at hn
    cases hn

theorem safeTransition_reaches {t : Transition} {stateName : Option Str} (h : Q (landmarks s.log)) :
    Reaches Q X (safeTransition p t stateName s) := by
  cases stateName with
  | none => exact h
  | some stateName => exact suppress_reaches (m := none) (fun _ => rfl) (by simpa using h)

theorem finalizeAttempt_reaches {reason : Str} {ok : Bool} {lastError : Option Str}
    (h : Q (landmarks s.log ++ [.exit])) : Reaches Q X (finalizeAttempt p reason ok startedAt lastError s) := by
  have hrest : ∀ (u : Unit) s', landmarks s'.log = landmarks s.log → Reaches Q X ((do
      safeTransition p .success p.config.tracker.successState
      let s ← get
      send (.workerExit (attemptExit p reason ok startedAt s.now lastError)) : Worker Unit) s') := by
    intro _ s' hs'
    rw [bind_apply]
    refine Res.Sat.bind (fun _ s'' hs'' => ?_) (safeTransition_reaches (Q := (· = landmarks s.log)) hs')
    show Q (landmarks (s''.log ++ [_]))
    rw [landmarks_append, hs'']
    exact h
  cases ok with
  | true => exact hrest () s rfl
  | false =>
    exact Res.Sat.bind hrest (suppress_reaches (Q := (· = landmarks s.log)) (m := none) (fun _ => rfl) (by simp))

theorem runAfterRunBestEffort_reaches (hscript : script? p.config.hooks.afterRun = some script)
    (h : Q (landmarks s.log ++ [.afterRun script])) : Reaches Q X (runAfterRunBestEffort p workspacePath s) := by
  unfold runAfterRunBestEffort
  rw [hscript]
  exact suppress_reaches (m := some (.afterRun script)) (fun _ => rfl) h

/-- The `finally` of a session: whatever `stop_session` raises, the hook is run. -/
theorem cleanup_reaches (hstop : StopsAlone p.stopSession)
    (hscript : script? p.config.hooks.afterRun = some script)
    (h : ∀ stops, (∀ m ∈ stops, m = .stop) → Stops p session stops →
      Q (landmarks s.log ++ stops ++ [.afterRun script])) :
    Reaches Q X ((tryExcept Exn.isException (p.stopSession session) (fun _ => pure ()) >>= fun _ =>
      runAfterRunBestEffort p workspacePath) s) := by
  have hafter {s' : Attempt} (hs : ∃ stops, (∀ m ∈ stops, m = .stop) ∧ Stops p session stops ∧
      landmarks s'.log = landmarks s.log ++ stops) : Reaches Q X (runAfterRunBestEffort p workspacePath s') := by
    obtain ⟨stops, hall, hstops, hlog⟩ := hs
    refine runAfterRunBestEffort_reaches hscript ?_
    rw [hlog]
    exact h stops hall hstops
  -- what any run of it leaves
  have hruns : Ends (fun e => e.isException = true) (p.stopSession session s)
      (fun _ s' => ∃ stops, (∀ m ∈ stops, m = .stop) ∧ Stops p session stops ∧
        landmarks s'.log = landmarks s.log ++ stops)
      (fun e s' => e.isException = true ∧ ∃ stops, (∀ m ∈ stops, m = .stop) ∧ Stops p session stops ∧
        landmarks s'.log = landmarks s.log ++ stops) := by
    refine Res.Sat.of_runs fun o s' hr => ?_
    obtain ⟨stops, hall, hlog⟩ := (hstop.2 session).runs hr
    have hquiet := (hstop.1 session s).runs hr
    cases o with
    | ok u => exact ⟨stops, hall, ⟨s, s', .ok u, hr, hlog⟩, hlog⟩
    | error e => exact ⟨hquiet.1, stops, hall, ⟨s, s', .error e, hr, hlog⟩, hlog⟩
  rw [bind_apply, tryExcept_apply]
  refine Res.Sat.bind (fun _ s' => hafter) (Res.Sat.tryExcept (fun e s' _ hs => hs.2) (fun e s' he hs => ?_) hruns)
  rw [hs.1] at he
  cases he

/-- The turn leaves no landmarks, however it ends. -/
theorem runSingleTurn_reaches (hQ : Q (landmarks s.log)) (hX : X (landmarks s.log)) :
    Reaches Q X (runSingleTurn p session renderedPrompt s) := by
  unfold runSingleTurn streamTurn
  rw [bind_apply]
  refine ⟨trivial, ?_⟩
  rintro _ ⟨events, result⟩ ⟨now, rfl⟩ ha
  have hnone : landmarks ((Attempt.postAll { s with now := now }
      (events.map fun event => .codexUpdate ⟨p.issue.id, event⟩)).record
        (.called (.streamTurn session renderedPrompt p.config.codex.turnTimeoutMs true) ⟨events, result⟩)).log =
      landmarks s.log := by
    show landmarks ((s.log ++ List.map _ (List.map _ events)) ++ [_]) = _
    have hposts : landmarks (List.map Entry.posted
        (List.map (fun event => Message.codexUpdate ⟨p.issue.id, event⟩) events)) = [] := by
      rw [List.map_map]
      refine List.filterMap_eq_nil_iff.2 fun e he => ?_
      obtain ⟨m, -, rfl⟩ := List.mem_map.1 he
      rfl
    rw [landmarks_append, landmarks_append, hposts, List.append_nil, landmarks_single]
    exact List.append_nil _
  rw [← hnone] at hQ hX
  cases result with
  | ok r => exact hQ
  | error e =>
    have he : e.isException = true := ha e rfl
    obtain ⟨cls, msg⟩ := e
    cases cls <;> first | exact hQ | exact ⟨he, hX⟩

/-- Once the session is open. -/
theorem runSession_reaches (hstop : StopsAlone p.stopSession) (hscript : script? p.config.hooks.afterRun = some script)
    (hs : landmarks s.log = [.session (.ok session)]) :
    Reaches (Ended p script) (Breaks p script) (runSession p startedAt workspacePath renderedPrompt session s) := by
  -- the hook was run, and only the exit is to come
  have hclosed : ∀ stops, (∀ m ∈ stops, m = .stop) → Stops p session stops →
      Breaks p script ([.session (.ok session)] ++ stops ++ [.afterRun script]) := by
    intro stops hall hstops
    refine .closed (o := .ok session) (fun e he => by cases he) ⟨stops, by simp, hall, fun session' he => ?_⟩
    cases he
    exact hstops
  unfold runSession
  rw [bind_apply]
  refine Res.Sat.bind (fun _ s₁ h₁ => ?_) (safeTransition_reaches (Q := (· = [.session (.ok session)])) hs)
  rw [bind_apply, finallyDo_apply]
  have hclean : ∀ s₂, landmarks s₂.log = [.session (.ok session)] → Reaches (Breaks p script) (Breaks p script)
      ((tryExcept Exn.isException (p.stopSession session) (fun _ => pure ()) >>= fun _ =>
        runAfterRunBestEffort p workspacePath) s₂) :=
    fun s₂ h₂ => cleanup_reaches hstop hscript (by rw [h₂]; exact hclosed)
  refine Res.Sat.bind (Q := fun _ s₂ => Breaks p script (landmarks s₂.log)) (fun r s₂ h₂ => ?_) (Res.Sat.finallyDo
    (fun _ s₂ h₂ => hclean s₂ h₂) (fun e s₂ h₂ => ?_)
    (runSingleTurn_reaches (Q := (· = [.session (.ok session)])) (X := (· = [.session (.ok session)])) h₁ h₁))
  · exact finalizeAttempt_reaches h₂
  · exact (hclean s₂ h₂.2).mono (fun _ h => h) (fun _ _ h => ⟨h₂.1, h⟩) fun _ _ h => h

theorem openSession_reaches (hstop : StopsAlone p.stopSession) (hscript : script? p.config.hooks.afterRun = some script)
    (hs : landmarks s.log = []) :
    Reaches (Ended p script) (Breaks p script) (openSession p startedAt workspacePath renderedPrompt s) := by
  unfold openSession
  rw [bind_apply]
  refine call_reaches fun x s₁ hx h₁ => ?_
  have hasked : landmarks s₁.log = [.session x] := by rw [h₁, hs]; rfl
  cases x with
  | ok session => exact runSession_reaches hstop hscript hasked
  | error e =>
    by_cases hc : e.isCodexError = true
    · simp only [hc, if_true]
      rw [bind_apply]
      refine Res.Sat.bind (fun _ s₂ h₂ => finalizeAttempt_reaches h₂)
        (runAfterRunBestEffort_reaches (Q := Breaks p script) hscript ?_)
      rw [hasked]
      refine .closed (o := .error e) (fun e' he' => ?_) ⟨[], rfl, by simp, fun session he' => by cases he'⟩
      cases he'
      exact hc
    · simp only [hc]
      refine ⟨hx e rfl, ?_⟩
      show Ended p script (landmarks s₁.log ++ [.exit])
      rw [hasked]
      exact .skipped (Bool.eq_false_iff.2 hc)

/-- Before `start_session` is called. -/
theorem unopened_breaks (hs : landmarks s.log = []) : Breaks p script (landmarks s.log) := by
  rw [hs]
  exact .unopened

theorem fail_reaches {reason : Str} {lastError : Option Str} (hs : landmarks s.log = []) :
    Reaches (Ended p script) X (finalizeAttempt p reason false startedAt lastError s) :=
  finalizeAttempt_reaches (unopened_breaks hs)

/-- A step that leaves no landmark. -/
theorem step_reaches {r : AttemptReq} {f : AttemptSig.Ans r → Worker Unit} (hs : landmarks s.log = [])
    (hr : ∀ x, (Entry.called r x).landmark? = none)
    (hf : ∀ x s', (∀ e, raised r x = some e → e.isException = true) → landmarks s'.log = [] →
      Reaches Q X (f x s')) : Reaches Q X ((call r s).bind f) :=
  call_reaches fun x s' hx h' => hf x s' hx (by rw [h', hs, hr]; rfl)

theorem prepareRun_reaches (hstop : StopsAlone p.stopSession) (hscript : script? p.config.hooks.afterRun = some script)
    (hs : landmarks s.log = []) :
    Reaches (Ended p script) (Breaks p script) (prepareRun p startedAt workspacePath renderedPrompt s) := by
  unfold prepareRun
  cases script? p.config.hooks.beforeRun with
  | none => exact openSession_reaches hstop hscript hs
  | some _ =>
    refine step_reaches hs (fun _ => rfl) fun x s₁ hx h₁ => ?_
    cases x with
    | error e => exact ⟨hx e rfl, unopened_breaks h₁⟩
    | ok result =>
      by_cases hr : result.ok = true
      · simp only [hr, if_true]
        exact openSession_reaches hstop hscript h₁
      · simp only [hr]
        exact fail_reaches h₁

theorem onException_reaches {e : Exn} {t : Worker Unit} (he : e.isException = true) (ht : Reaches Q X (t s)) :
    Reaches Q X (onException e t s) := by
  unfold onException
  rw [if_pos he]
  exact ht

theorem obtainClient_reaches (hstop : StopsAlone p.stopSession) (hscript : script? p.config.hooks.afterRun = some script)
    (hs : landmarks s.log = []) :
    Reaches (Ended p script) (Breaks p script) (obtainClient p startedAt workspacePath renderedPrompt s) := by
  unfold obtainClient
  by_cases hf : p.hasCodexClientFactory = true
  · simp only [hf, if_true]
    refine step_reaches hs (fun _ => rfl) fun x s₁ hx h₁ => ?_
    match x with
    | .error e => exact onException_reaches (hx e rfl) (fail_reaches h₁)
    | .ok none => exact fail_reaches h₁
    | .ok (some ()) => exact prepareRun_reaches hstop hscript h₁
  · by_cases hc : p.hasCodexClient = true
    · simp only [hf, hc, if_true]
      exact prepareRun_reaches hstop hscript hs
    · simp only [hf, hc]
      exact fail_reaches hs

theorem attemptSteps_reaches (hstop : StopsAlone p.stopSession) (hscript : script? p.config.hooks.afterRun = some script)
    (hs : landmarks s.log = []) :
    Ends (fun e => e.isException = true) (attemptSteps p startedAt s) (fun _ s' => Ended p script (landmarks s'.log))
      (fun e s' => Breaks p script (landmarks s'.log) ∧ (e.isException = false → landmarks s'.log = [])) := by
  have hreaches {t : Res AttemptSig Exn Attempt Unit} (h : Reaches (Ended p script) (Breaks p script) t) :
      Ends (fun e => e.isException = true) t (fun _ s' => Ended p script (landmarks s'.log))
        (fun e s' => Breaks p script (landmarks s'.log) ∧ (e.isException = false → landmarks s'.log = [])) := by
    refine h.mono (fun _ h => h) (fun _ _ h => h) fun e s' hx => ⟨hx.2, fun hn => ?_⟩
    rw [hx.1] at hn
    cases hn
  unfold attemptSteps
  cases p.renderPrompt p.promptTemplate p.issue p.attempt with
  | error e =>
    by_cases hc : e.cls = .promptError
    · simp only [hc, if_true]
      exact hreaches (fail_reaches hs)
    · simp only [hc, if_false]
      exact ⟨unopened_breaks hs, fun _ => hs⟩
  | ok renderedPrompt =>
    refine hreaches (step_reaches hs (fun _ => rfl) fun x s₁ hx h₁ => ?_)
    cases x with
    | error e => exact onException_reaches (hx e rfl) (fail_reaches h₁)
    | ok ensureResult => exact obtainClient_reaches hstop hscript h₁

/-- An attempt comes to one of its ends, or `start_session` is not called at all. -/
theorem attempt_ends (hstop : StopsAlone p.stopSession) (hscript : script? p.config.hooks.afterRun = some script)
    (hs : landmarks s.log = []) :
    Ends (fun e => e.isException = true) (runAgentAttempt p s) (fun _ s' => Ended p script (landmarks s'.log))
      (fun _ s' => landmarks s'.log = []) := by
  unfold runAgentAttempt
  split
  · exact hs
  · rw [bind_apply, get_apply, Res.bind_ret, tryExcept_apply]
    refine Res.Sat.tryExcept (fun e s' _ hx => ?_) (fun e s' he hx => hx.2 he) (attemptSteps_reaches hstop hscript hs)
    exact (finalizeAttempt_reaches (X := fun _ => False) hx.1).mono (fun _ h => h) (fun _ _ h => h) fun _ _ h => h.2.elim

/-- In every attempt that is not cancelled, that asks for a session and has a hook to run after it: the hook is run
exactly once, after `stop_session` and before the exit, if and only if `start_session` raises no exception that is no
`CodexError`. -/
theorem after_run_once (hstop : p.stopSession = anyStopSession ∨ p.stopSession = CodexClient.stopSession)
    (hscript : script? p.config.hooks.afterRun = some script) (hs : s.log = []) {s' : Attempt} {o : Except Exn Unit}
    (hr : Runs uncancelled (runAgentAttempt p s) o s') {x : Except Exn Session}
    (hasked : .session x ∈ landmarks s'.log) :
    AfterRunOnce p script x (landmarks s'.log) ↔ ∀ e, x = .error e → e.isCodexError = true := by
  have halone : StopsAlone p.stopSession := by
    rcases hstop with h | h <;> rw [h]
    · exact ⟨anyStopSession_quiet, anyStopSession_stopping⟩
    · exact ⟨CodexClient.stopSession_quiet, CodexClient.stopSession_stopping⟩
  have hpost := (attempt_ends halone hscript (by rw [hs]; rfl)).runs hr
  cases o with
  | error e =>
    have hnone : landmarks s'.log = [] := hpost
    rw [hnone] at hasked
    cases hasked
  | ok u =>
    have hended : Ended p script (landmarks s'.log) := hpost
    generalize landmarks s'.log = l at hended hasked
    cases hended with
    | unopened => simp at hasked
    | @closed o' _ hcodex honce =>
      obtain ⟨stops, rfl, hall, hstops⟩ := honce
      have hx : x = o' := by
        rcases List.mem_cons.1 hasked with h | h
        · cases h
          rfl
        · rcases List.mem_append.1 h with h | h
          · cases hall _ h
          · simp at h
      rw [hx]
      exact iff_of_true ⟨stops, rfl, hall, hstops⟩ hcodex
    | @skipped e he =>
      have hx : x = .error e := by simpa using hasked
      rw [hx]
      refine iff_of_false ?_ fun h => ?_
      · rintro ⟨stops, hl, -⟩
        cases stops <;> simp at hl
      · rw [h e rfl] at he
        cases he

end Steps

section Sample

def Landmark.opens : Landmark → Bool
  | .session (.ok _) => true
  | _ => false

theorem Landmark.opens_eq {l : List Landmark} (h : l.any Landmark.opens = true) :
    ∃ session, Landmark.session (.ok session) ∈ l := by
  obtain ⟨m, hm, ho⟩ := List.any_eq_true.1 h
  cases m with
  | session x =>
    cases x with
    | ok session => exact ⟨session, hm⟩
    | error e => cases ho
  | _ => cases ho

/-- Answers without a cancellation. -/
theorem runs_uncancelled (a : AttemptAnswers) (ha : ∀ r e, raised r (a.reply r) = some e → e.isException = true) :
    Runs uncancelled (runAgentAttempt sampleParams sampleAttempt)
      ((runAgentAttempt sampleParams sampleAttempt).exec a.reply).1
      ((runAgentAttempt sampleParams sampleAttempt).exec a.reply).2 :=
  runs_exec (P := uncancelled) (fun s => ⟨s.now, rfl⟩) (fun _ r => ha r) _

theorem after_run_once_sample : ∃ (s' : Attempt) (session : Session),
    AfterRunOnce sampleParams (py "make clean") (.ok session) (landmarks s'.log) := by
  have hrun := runs_uncancelled turnFails fun r e he => by
    cases r with
    | runHook hook => cases hook <;> cases he; rfl
    | streamTurn => cases he; rfl
    | _ => cases he
  have hopen : (landmarks ((runAgentAttempt sampleParams sampleAttempt).exec turnFails.reply).2.log).any
      Landmark.opens = true := by decide +kernel
  obtain ⟨session, hasked⟩ := Landmark.opens_eq hopen
  exact ⟨_, session, (after_run_once (.inr rfl) rfl rfl hrun hasked).2 fun e he => by cases he⟩

/-- The answers of an attempt whose `start_session` raises a `ValueError`. -/
def sessionFails : AttemptAnswers :=
  { session := .error ⟨.valueError, py "invalid literal for int() with base 10: 'x'"⟩ }

def Landmark.fails : Landmark → Bool
  | .session (.error e) => e.isException
  | _ => false

def Landmark.runs : Landmark → Bool
  | .afterRun _ => true
  | _ => false

/-- It ends, and the hook is not run. -/
theorem after_run_skipped : ∃ s' : Attempt, Runs uncancelled (runAgentAttempt sampleParams sampleAttempt) (.ok ()) s' ∧
    script? sampleParams.config.hooks.afterRun = some (py "make clean") ∧
    (∃ e, e.isException = true ∧ Landmark.session (.error e) ∈ landmarks s'.log) ∧
    ∀ script, Landmark.afterRun script ∉ landmarks s'.log := by
  have hrun := runs_uncancelled sessionFails fun r e he => by
    cases r with
    | runHook hook => cases hook <;> cases he; rfl
    | startSession => cases he; rfl
    | _ => cases he
  have hlog : let run := (runAgentAttempt sampleParams sampleAttempt).exec sessionFails.reply
      run.1.toBool = true ∧ (landmarks run.2.log).any Landmark.fails = true ∧
        (landmarks run.2.log).any Landmark.runs = false := by
    decide +kernel
  generalize (runAgentAttempt sampleParams sampleAttempt).exec sessionFails.reply = run at hrun hlog
  obtain ⟨o, s'⟩ := run
  obtain ⟨hok, hfails, hruns⟩ := hlog
  cases o with
  | error e => cases hok
  | ok u =>
    refine ⟨s', hrun, rfl, ?_, fun script hmem => List.any_eq_false.1 hruns _ hmem rfl⟩
    obtain ⟨m, hm, hf⟩ := List.any_eq_true.1 hfails
    cases m with
    | session x =>
      cases x with
      | ok session => cases hf
      | error e => exact ⟨e, hf, hm⟩
    | _ => cases hf

end Sample

end RiverGang
