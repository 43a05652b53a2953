import RiverGang.Orchestrator.Steps

/-!
# Evaluations of the clarification gate

What one evaluation of the gate can come to, whatever the tracker, the workspace manager and the model answer:
`Evaluated` lists its paths, each with its calls, its outcome and the waiting entries that it leaves, and every run of the
gate takes one of them (`gate_evaluated`). What is said of evaluations is read off that list.
-/

namespace RiverGang

open Py Coop Task

abbrev WaitEntries := Dict Str ClarificationWaitEntry

/-- A call that raises ends an evaluation: it refuses, or the exception is none that the gate catches. -/
def refusal (exc : Exn) : Except Exn Bool := if exc.isException then .ok false else .error exc

/-- An entry, if there is one, may be polled. -/
def Due (waiting : Option ClarificationWaitEntry) (now : Instant) : Prop := ∀ entry ∈ waiting, entry.nextPollAt ≤ now

/-- The comments came, and say something new. -/
structure News (waiting : Option ClarificationWaitEntry) (now : Instant) (issue : Issue) (comments : List Comment)
    (inputFingerprint : Str) : Prop where
  due : Due waiting now
  fingerprint : fingerprintClarificationInputs issue comments = .ok inputFingerprint
  new : ∀ entry ∈ waiting, noNewInput entry inputFingerprint (nonClarificationCommentIds comments) = false

/-- An entry as a poll without news leaves it. -/
def ClarificationWaitEntry.postponed (entry : ClarificationWaitEntry) (now : Instant) : ClarificationWaitEntry :=
  { entry with nextPollAt := nextClarificationPollAt now }

/-- The entry of an issue that was found unclear. -/
def unclearEntry (issue : Issue) (comments : List Comment) (now : Instant) (inputFingerprint questionFingerprint : Str) :
    ClarificationWaitEntry where
  issueId := issue.id
  identifier := issue.identifier
  lastSeenCommentIds := nonClarificationCommentIds comments
  lastQuestionFingerprint := some questionFingerprint
  nextPollAt := nextClarificationPollAt now
  lastInputFingerprint := some inputFingerprint

/-- The calls up to the comments, the workspace and the decision. -/
def fetched (issue : Issue) (comments : List Comment) : List OrchSig.Call := [⟨.fetchComments issue, .ok comments⟩]

def ensured (issue : Issue) (comments : List Comment) (result : EnsureResult) : List OrchSig.Call :=
  fetched issue comments ++ [⟨.ensureForIssue issue.identifier, .ok result⟩]

def analyzed (issue : Issue) (comments : List Comment) (result : EnsureResult) (config : EffectiveConfig)
    (decision : ClarificationDecision) : List OrchSig.Call :=
  ensured issue comments result ++ [⟨.analyze issue comments result.path config, .ok decision⟩]

/-- The paths of an evaluation from the entries `d`: its calls, its outcome and the entries that it leaves. -/
inductive Evaluated (issue : Issue) (now : Instant) (config : EffectiveConfig) (d : WaitEntries) :
    List OrchSig.Call → Except Exn Bool → WaitEntries → Prop
  | early {entry : ClarificationWaitEntry} : d.get? issue.id = some entry → now < entry.nextPollAt →
      Evaluated issue now config d [] (.ok false) d
  | fetchFailed {exc : Exn} : Due (d.get? issue.id) now →
      Evaluated issue now config d [⟨.fetchComments issue, .error exc⟩] (refusal exc) d
  | badInput {comments : List Comment} {e : Exn} : Due (d.get? issue.id) now →
      fingerprintClarificationInputs issue comments = .error e →
      Evaluated issue now config d (fetched issue comments) (.error e) d
  | noNews {entry : ClarificationWaitEntry} {comments : List Comment} {fingerprint : Str} :
      d.get? issue.id = some entry → entry.nextPollAt ≤ now →
      fingerprintClarificationInputs issue comments = .ok fingerprint →
      noNewInput entry fingerprint (nonClarificationCommentIds comments) = true →
      Evaluated issue now config d (fetched issue comments) (.ok false) (d.insert issue.id (entry.postponed now))
  | ensureFailed {comments : List Comment} {fingerprint : Str} {exc : Exn} :
      News (d.get? issue.id) now issue comments fingerprint →
      Evaluated issue now config d (fetched issue comments ++ [⟨.ensureForIssue issue.identifier, .error exc⟩])
        (refusal exc) d
  | analyzeFailed {comments : List Comment} {fingerprint : Str} {result : EnsureResult} {exc : Exn} :
      News (d.get? issue.id) now issue comments fingerprint →
      Evaluated issue now config d (ensured issue comments result ++
        [⟨.analyze issue comments result.path config, .error exc⟩]) (refusal exc) d
  | sufficient {comments : List Comment} {fingerprint : Str} {result : EnsureResult} {decision : ClarificationDecision} :
      News (d.get? issue.id) now issue comments fingerprint → decision.sufficient = true →
      Evaluated issue now config d (analyzed issue comments result config decision) (.ok true) (d.erase issue.id)
  | badQuestions {comments : List Comment} {fingerprint : Str} {result : EnsureResult}
      {decision : ClarificationDecision} {e : Exn} :
      News (d.get? issue.id) now issue comments fingerprint → decision.sufficient = false →
      fingerprintQuestions decision.questions = .error e →
      Evaluated issue now config d (analyzed issue comments result config decision) (.error e) d
  | sameQuestions {comments : List Comment} {fingerprint questionFingerprint : Str} {result : EnsureResult}
      {decision : ClarificationDecision} :
      News (d.get? issue.id) now issue comments fingerprint → decision.sufficient = false →
      fingerprintQuestions decision.questions = .ok questionFingerprint →
      (d.get? issue.id).bind (·.lastQuestionFingerprint) = some questionFingerprint →
      Evaluated issue now config d (analyzed issue comments result config decision) (.ok false)
        (d.insert issue.id (unclearEntry issue comments now fingerprint questionFingerprint))
  | commentFailed {comments : List Comment} {fingerprint questionFingerprint : Str} {result : EnsureResult}
      {decision : ClarificationDecision} {exc : Exn} :
      News (d.get? issue.id) now issue comments fingerprint → decision.sufficient = false →
      fingerprintQuestions decision.questions = .ok questionFingerprint →
      (d.get? issue.id).bind (·.lastQuestionFingerprint) ≠ some questionFingerprint →
      Evaluated issue now config d (analyzed issue comments result config decision ++
        [⟨.addComment issue.id (formatClarificationComment decision), .error exc⟩]) (refusal exc) d
  | commented {comments : List Comment} {fingerprint questionFingerprint : Str} {result : EnsureResult}
      {decision : ClarificationDecision} :
      News (d.get? issue.id) now issue comments fingerprint → decision.sufficient = false →
      fingerprintQuestions decision.questions = .ok questionFingerprint →
      (d.get? issue.id).bind (·.lastQuestionFingerprint) ≠ some questionFingerprint →
      Evaluated issue now config d (analyzed issue comments result config decision ++
        [⟨.addComment issue.id (formatClarificationComment decision), .ok ()⟩]) (.ok false)
        (d.insert issue.id (unclearEntry issue comments now fingerprint questionFingerprint))

/-! ## What an evaluation calls -/

/-- The comment that a call posts, and on which issue. -/
def postOf : OrchReq → Option (Str × Str)
  | .addComment issueId body => some (issueId, body)
  | _ => none

def posted (calls : List OrchSig.Call) : List (Str × Str) := calls.filterMap fun c => postOf c.1

def OrchReq.isAnalyze : OrchReq → Bool
  | .analyze .. => true
  | _ => false

/-- How often the model is asked. -/
def analyses (calls : List OrchSig.Call) : Nat := calls.countP fun c => c.1.isAnalyze

/-- The answer was that the issue is unclear, and there are questions to put. -/
def Unclear (issue : Issue) (comments : List Comment) (calls : List OrchSig.Call) (questionFingerprint : Str) : Prop :=
  ∃ path config decision, ⟨.analyze issue comments path config, .ok decision⟩ ∈ calls ∧ decision.sufficient = false ∧
    fingerprintQuestions decision.questions = .ok questionFingerprint

theorem mem_fetched {issue : Issue} {comments : List Comment} :
    (⟨.fetchComments issue, .ok comments⟩ : OrchSig.Call) ∈ fetched issue comments := List.mem_singleton.2 rfl

theorem mem_analyzed {issue : Issue} {comments : List Comment} {result : EnsureResult} {config : EffectiveConfig}
    {decision : ClarificationDecision} : (⟨.analyze issue comments result.path config, .ok decision⟩ : OrchSig.Call) ∈
      analyzed issue comments result config decision := List.mem_append_right _ (List.mem_singleton.2 rfl)

theorem fetched_subset_analyzed {issue : Issue} {comments : List Comment} {result : EnsureResult}
    {config : EffectiveConfig} {decision : ClarificationDecision} :
    fetched issue comments ⊆ analyzed issue comments result config decision :=
  fun _ hc => List.mem_append_left _ (List.mem_append_left _ hc)

namespace Evaluated

variable {issue : Issue} {now : Instant} {config : EffectiveConfig} {d d' : WaitEntries} {calls : List OrchSig.Call}
  {o : Except Exn Bool}

/-- A permission is the model's, given the issue and its comments. -/
theorem of_allowed (h : Evaluated issue now config d calls (.ok true) d') : ∃ comments path decision,
    ⟨.fetchComments issue, .ok comments⟩ ∈ calls ∧ ⟨.analyze issue comments path config, .ok decision⟩ ∈ calls ∧
      decision.sufficient = true ∧ d' = d.erase issue.id := by
  generalize ho : (Except.ok true : Except Exn Bool) = o at h
  cases h with
  | sufficient hn hd => exact ⟨_, _, _, fetched_subset_analyzed mem_fetched, mem_analyzed, hd, rfl⟩
  | early | badInput | noNews | badQuestions | sameQuestions | commented => cases ho
  | fetchFailed | ensureFailed | analyzeFailed | commentFailed =>
    unfold refusal at ho
    split at ho <;> cases ho

/-- A call that fails is the last one. -/
theorem of_failed (h : Evaluated issue now config d calls o d') {c : OrchSig.Call} (hc : c ∈ calls) {exc : Exn}
    (hf : failure c.1 c.2 = some exc) : o = refusal exc ∧ d' = d := by
  cases h <;> simp only [analyzed, ensured, fetched, List.mem_append, List.mem_singleton, List.not_mem_nil, or_assoc] at hc
  case fetchFailed =>
    subst hc
    cases hf
    exact ⟨rfl, rfl⟩
  case badInput | noNews =>
    subst hc
    cases hf
  case ensureFailed =>
    rcases hc with rfl | rfl <;> cases hf
    exact ⟨rfl, rfl⟩
  case analyzeFailed =>
    rcases hc with rfl | rfl | rfl <;> cases hf
    exact ⟨rfl, rfl⟩
  case sufficient | badQuestions | sameQuestions => rcases hc with rfl | rfl | rfl <;> cases hf
  case commentFailed =>
    rcases hc with rfl | rfl | rfl | rfl <;> cases hf
    exact ⟨rfl, rfl⟩
  case commented => rcases hc with rfl | rfl | rfl | rfl <;> cases hf

/-- Before its time, an entry is left alone. -/
theorem of_early (h : Evaluated issue now config d calls o d') {entry : ClarificationWaitEntry}
    (he : d.get? issue.id = some entry) (hn : now < entry.nextPollAt) : calls = [] ∧ o = .ok false ∧ d' = d := by
  have hdue : ¬ Due (d.get? issue.id) now := fun hd => absurd (hd entry he) (Int.not_le.2 hn)
  cases h with
  | early => exact ⟨rfl, rfl, rfl⟩
  | fetchFailed h | badInput h => exact absurd h hdue
  | noNews he' hn' =>
    rw [he] at he'
    cases he'
    exact absurd hn' (Int.not_le.2 hn)
  | ensureFailed h | analyzeFailed h | sufficient h | badQuestions h | sameQuestions h | commentFailed h | commented h =>
    exact absurd h.due hdue

/-- After it, the comments are fetched first. -/
theorem fetch_first (h : Evaluated issue now config d calls o d') (hdue : Due (d.get? issue.id) now) :
    ∃ x rest, calls = ⟨.fetchComments issue, x⟩ :: rest := by
  cases h with
  | early he hn => exact absurd (hdue _ he) (Int.not_le.2 hn)
  | fetchFailed | badInput | noNews | ensureFailed | analyzeFailed | sufficient | badQuestions | sameQuestions |
    commentFailed | commented => exact ⟨_, _, rfl⟩

/-- What is posted are the model's questions, if they are others than before. -/
theorem posted_eq (h : Evaluated issue now config d calls o d') : posted calls = [] ∨
    ∃ comments path decision questionFingerprint,
      ⟨.analyze issue comments path config, .ok decision⟩ ∈ calls ∧ decision.sufficient = false ∧
      fingerprintQuestions decision.questions = .ok questionFingerprint ∧
      (d.get? issue.id).bind (·.lastQuestionFingerprint) ≠ some questionFingerprint ∧
      posted calls = [(issue.id, formatClarificationComment decision)] := by
  cases h with
  | early | fetchFailed | badInput | noNews | ensureFailed | analyzeFailed | sufficient | badQuestions | sameQuestions =>
    exact .inl rfl
  | commentFailed _ hd hq hne | commented _ hd hq hne =>
    exact .inr ⟨_, _, _, _, List.mem_append_left _ mem_analyzed, hd, hq, hne, rfl⟩

/-- The entries of the other issues stay. -/
theorem get?_of_ne (h : Evaluated issue now config d calls o d') {i : Str} (hi : i ≠ issue.id) :
    d'.get? i = d.get? i := by
  cases h with
  | early | fetchFailed | badInput | ensureFailed | analyzeFailed | badQuestions | commentFailed => rfl
  | noNews | sameQuestions | commented => exact Dict.get?_insert_of_ne _ _ hi.symm
  | sufficient => exact Dict.get?_erase_of_ne _ hi.symm

/-- What raises: a call, with an exception that the gate does not catch, or the encoding of what was read. -/
theorem of_raised {e : Exn} (h : Evaluated issue now config d calls (.error e) d') : d' = d ∧
    ((∃ c ∈ calls, failure c.1 c.2 = some e ∧ e.isException = false) ∨
      (∃ comments, ⟨.fetchComments issue, .ok comments⟩ ∈ calls ∧ ¬ EncodableInputs issue comments) ∨
      ∃ comments path decision, ⟨.analyze issue comments path config, .ok decision⟩ ∈ calls ∧
        ¬ ∀ q ∈ normalizedQuestions decision.questions, Utf8Encodable q) := by
  have href : ∀ {exc}, .error e = refusal exc → exc = e ∧ e.isException = false := by
    intro exc hr
    unfold refusal at hr
    split at hr <;> cases hr
    rename_i hx
    exact ⟨rfl, by simpa using hx⟩
  generalize ho : (Except.error e : Except Exn Bool) = o at h
  cases h with
  | early | noNews | sufficient | sameQuestions | commented => cases ho
  | fetchFailed =>
    obtain ⟨rfl, hx⟩ := href ho
    exact ⟨rfl, .inl ⟨_, List.mem_singleton.2 rfl, rfl, hx⟩⟩
  | ensureFailed | analyzeFailed | commentFailed =>
    obtain ⟨rfl, hx⟩ := href ho
    exact ⟨rfl, .inl ⟨_, List.mem_append_right _ (List.mem_singleton.2 rfl), rfl, hx⟩⟩
  | badInput _ hf =>
    refine ⟨rfl, .inr (.inl ⟨_, mem_fetched, fun hen => ?_⟩)⟩
    obtain ⟨fp, hok⟩ := fingerprintClarificationInputs_ok_iff.2 hen
    rw [hf] at hok
    cases hok
  | badQuestions _ _ hq =>
    refine ⟨rfl, .inr (.inr ⟨_, _, _, mem_analyzed, fun hen => ?_⟩)⟩
    obtain ⟨fp, hok⟩ := fingerprintQuestions_ok_iff.2 hen
    rw [hq] at hok
    cases hok

/-- An analysis is of the comments just fetched, and only on news. -/
theorem news_of_analyze (h : Evaluated issue now config d calls o d') {issue' : Issue} {comments : List Comment}
    {path : Str} {config' : EffectiveConfig} {x : Except Exn ClarificationDecision}
    (hc : ⟨.analyze issue' comments path config', x⟩ ∈ calls) :
    ∃ fingerprint, News (d.get? issue.id) now issue comments fingerprint := by
  cases h <;> simp only [analyzed, ensured, fetched, List.mem_append, List.mem_singleton, List.not_mem_nil, Sigma.mk.injEq,
    reduceCtorEq, false_and, or_false, false_or, OrchReq.analyze.injEq] at hc
  case analyzeFailed hn | sufficient hn _ | badQuestions hn _ _ | sameQuestions hn _ _ _ | commentFailed hn _ _ _ |
      commented hn _ _ _ =>
    obtain ⟨⟨-, rfl, -, -⟩, -⟩ := hc
    exact ⟨_, hn⟩

/-- News get as far as the workspace, and with it to an analysis. -/
theorem analyze_of_news (h : Evaluated issue now config d calls o d') {comments : List Comment} {fingerprint : Str}
    (hc : ⟨.fetchComments issue, .ok comments⟩ ∈ calls) (hn : News (d.get? issue.id) now issue comments fingerprint)
    (he : ∀ exc, ⟨.ensureForIssue issue.identifier, .error exc⟩ ∉ calls) :
    ∃ path x, ⟨.analyze issue comments path config, x⟩ ∈ calls := by
  -- the comments are fetched once, so these are the ones that the rest is about
  have hmem : (issue, comments) ∈ calls.filterMap fun c => commentsOf c.1 c.2 := List.mem_filterMap.2 ⟨_, hc, rfl⟩
  cases h with
  | early | fetchFailed => exact absurd hmem List.not_mem_nil
  | badInput _ hf =>
    cases List.mem_singleton.1 hmem
    rw [hn.fingerprint] at hf
    cases hf
  | noNews he' _ hf hnews =>
    cases List.mem_singleton.1 hmem
    rw [hn.fingerprint] at hf
    cases hf
    rw [hn.new _ he'] at hnews
    cases hnews
  | ensureFailed => exact absurd (List.mem_append_right _ (List.mem_singleton.2 rfl)) (he _)
  | analyzeFailed =>
    cases List.mem_singleton.1 hmem
    exact ⟨_, _, List.mem_append_right _ (List.mem_singleton.2 rfl)⟩
  | sufficient | badQuestions | sameQuestions =>
    cases List.mem_singleton.1 hmem
    exact ⟨_, _, mem_analyzed⟩
  | commentFailed | commented =>
    cases List.mem_singleton.1 hmem
    exact ⟨_, _, List.mem_append_left _ mem_analyzed⟩

/-- The model is asked once at most. -/
theorem analyses_le_one (h : Evaluated issue now config d calls o d') : analyses calls ≤ 1 := by
  cases h with
  | early | fetchFailed | badInput | noNews | ensureFailed => exact Nat.zero_le 1
  | analyzeFailed | sufficient | badQuestions | sameQuestions | commentFailed | commented => exact Nat.le_refl 1

/-- Without news the model is not asked, and nothing is posted; the entry is the old one, or put off. -/
theorem of_no_news (h : Evaluated issue now config d calls o d')
    (hno : ∀ comments fingerprint, ⟨.fetchComments issue, .ok comments⟩ ∈ calls →
      ¬ News (d.get? issue.id) now issue comments fingerprint) :
    analyses calls = 0 ∧ posted calls = [] ∧ (d'.get? issue.id = d.get? issue.id ∨
      ∃ entry, d.get? issue.id = some entry ∧ d'.get? issue.id = some (entry.postponed now)) := by
  cases h with
  | early | fetchFailed | badInput => exact ⟨rfl, rfl, .inl rfl⟩
  | noNews he => exact ⟨rfl, rfl, .inr ⟨_, he, Dict.get?_insert_self ..⟩⟩
  | ensureFailed hn => exact absurd hn (hno _ _ (List.mem_append_left _ mem_fetched))
  | analyzeFailed hn => exact absurd hn (hno _ _ (List.mem_append_left _ (List.mem_append_left _ mem_fetched)))
  | sufficient hn | badQuestions hn | sameQuestions hn =>
    exact absurd hn (hno _ _ (fetched_subset_analyzed mem_fetched))
  | commentFailed hn | commented hn =>
    exact absurd hn (hno _ _ (List.mem_append_left _ (fetched_subset_analyzed mem_fetched)))

/-- An entry that was not there is made from what was fetched. -/
theorem created (h : Evaluated issue now config d calls o d') (hn : d.get? issue.id = none)
    {entry : ClarificationWaitEntry} (he : d'.get? issue.id = some entry) :
    ∃ comments fingerprint questionFingerprint, ⟨.fetchComments issue, .ok comments⟩ ∈ calls ∧
      fingerprintClarificationInputs issue comments = .ok fingerprint ∧
      entry = unclearEntry issue comments now fingerprint questionFingerprint := by
  cases h with
  | early | fetchFailed | badInput | ensureFailed | analyzeFailed | badQuestions | commentFailed =>
    cases hn.symm.trans he
  | noNews he' => cases hn.symm.trans he'
  | sufficient => cases (Dict.get?_erase_self ..).symm.trans he
  | sameQuestions hn' =>
    cases (Dict.get?_insert_self ..).symm.trans he
    exact ⟨_, _, _, fetched_subset_analyzed mem_fetched, hn'.fingerprint, rfl⟩
  | commented hn' =>
    cases (Dict.get?_insert_self ..).symm.trans he
    exact ⟨_, _, _, List.mem_append_left _ (fetched_subset_analyzed mem_fetched), hn'.fingerprint, rfl⟩

/-- The entry after an evaluation that posts nothing: one that notes an unclear issue, or else the old one, put off
perhaps, or none. -/
theorem entry_cases (h : Evaluated issue now config d calls o d') (hp : posted calls = []) :
    (∃ comments fingerprint questionFingerprint, ⟨.fetchComments issue, .ok comments⟩ ∈ calls ∧
      News (d.get? issue.id) now issue comments fingerprint ∧ Unclear issue comments calls questionFingerprint ∧
      d'.get? issue.id = some (unclearEntry issue comments now fingerprint questionFingerprint)) ∨
    (∀ comments questionFingerprint, ¬ Unclear issue comments calls questionFingerprint) ∧
      (d'.get? issue.id = d.get? issue.id ∨ d'.get? issue.id = none ∨
        ∃ entry, d.get? issue.id = some entry ∧ d'.get? issue.id = some (entry.postponed now)) := by
  cases h with
  | early | fetchFailed | badInput | ensureFailed =>
    refine .inr ⟨fun comments q ⟨path, config, decision, hc, _⟩ => ?_, .inl rfl⟩
    simp [fetched] at hc
  | noNews he =>
    refine .inr ⟨fun comments q ⟨path, config, decision, hc, _⟩ => ?_, .inr (.inr ⟨_, he, Dict.get?_insert_self ..⟩)⟩
    simp [fetched] at hc
  | analyzeFailed =>
    refine .inr ⟨fun comments q ⟨path, config, decision, hc, _⟩ => ?_, .inl rfl⟩
    simp [ensured, fetched] at hc
  | sufficient _ hd =>
    refine .inr ⟨fun comments q ⟨path, config, decision, hc, hd', _⟩ => ?_, .inr (.inl (Dict.get?_erase_self ..))⟩
    simp [analyzed, ensured, fetched] at hc
    obtain ⟨-, rfl⟩ := hc
    rw [hd] at hd'
    cases hd'
  | badQuestions _ _ hq =>
    refine .inr ⟨fun comments q ⟨path, config, decision, hc, _, hq'⟩ => ?_, .inl rfl⟩
    simp [analyzed, ensured, fetched] at hc
    obtain ⟨-, rfl⟩ := hc
    rw [hq] at hq'
    cases hq'
  | sameQuestions hn hd hq =>
    exact .inl ⟨_, _, _, fetched_subset_analyzed mem_fetched, hn, ⟨_, _, _, mem_analyzed, hd, hq⟩,
      Dict.get?_insert_self ..⟩
  | commentFailed | commented => cases hp

end Evaluated

/-! ## Every run of the gate -/

section Runs

variable [Unicode] {D : OrchDiscipline} {m : Message} {w : World}

/-- A part of the gate, whose runs are as `L` says. -/
abbrev Takes (D : OrchDiscipline) (m : Message) (t : Res OrchSig Exn World Bool)
    (L : List OrchSig.Call → Except Exn Bool → World → Prop) : Prop := t.Logs (orchestrator.proto D m) L

/-- While a call is out the world moves on, but not what the gate works on. -/
theorem takes_request {L : List OrchSig.Call → Except Exn Bool → World → Prop} {r : OrchReq}
    {f : OrchSig.Ans r → Orch Bool}
    (hf : ∀ x v, w.EventFrame v → Takes D m (f x v) fun calls o w' => L (⟨r, x⟩ :: calls) o w') :
    Takes D m ((Task.request (S := OrchSig) r w).bind f) L :=
  Res.logs_request_bind.2 fun v x hr _ => hf x v (drift_frame hr)

theorem takes_onException {L : List OrchSig.Call → Except Exn Bool → World → Prop} {exc : Exn}
    (h : L [] (refusal exc) w) : Takes D m (onException exc (pure false) w) L := by
  unfold onException
  unfold refusal at h
  cases hx : exc.isException with
  | true =>
    rw [hx] at h
    exact h
  | false =>
    rw [hx] at h
    exact h

/-- **The gate takes one of these paths.** -/
theorem gate_takes (D : OrchDiscipline) (m : Message) (issue : Issue) (w : World) :
    Takes D m (clarificationGateAllowsDispatch issue w) fun calls o w' =>
      Evaluated issue w.now w.config w.state.clarificationWaiting calls o w'.state.clarificationWaiting := by
  unfold clarificationGateAllowsDispatch
  simp only [bind_apply, get_apply, Res.bind_ret]
  generalize hwait : w.state.clarificationWaiting.get? issue.id = waiting
  split
  · rename_i hearly
    obtain ⟨entry, rfl, hn⟩ := (Option.any_eq_true _ _).1 hearly
    exact .early hwait (of_decide_eq_true hn)
  rename_i hearly
  have hdue : Due waiting w.now := by
    intro entry he
    by_contra hn
    exact hearly ((Option.any_eq_true _ _).2 ⟨entry, he, decide_eq_true (Int.not_le.1 hn)⟩)
  refine takes_request fun x w₁ h₁ => ?_
  cases x with
  | error exc =>
    refine takes_onException ?_
    rw [h₁.state]
    exact .fetchFailed (by rwa [hwait])
  | ok comments =>
  cases hf : fingerprintClarificationInputs issue comments with
  | error e =>
    simp only [hf, ofExcept_error, bind_apply, raise_apply, Res.bind_raise]
    change Evaluated _ _ _ _ _ _ _
    rw [h₁.state]
    exact .badInput (by rwa [hwait]) hf
  | ok fingerprint =>
  simp only [hf, ofExcept_ok, bind_apply, pure_apply, Res.bind_ret]
  cases hq : waiting.filter fun entry => noNewInput entry fingerprint (nonClarificationCommentIds comments) with
  | some entry =>
    obtain ⟨he, hnews⟩ := Option.filter_eq_some_iff.1 hq
    change Evaluated _ _ _ _ _ _ (w₁.state.clarificationWaiting.insert issue.id (entry.postponed w.now))
    rw [h₁.state]
    exact .noNews (hwait.trans he) (hdue entry he) hf hnews
  | none =>
  have hnews : News waiting w.now issue comments fingerprint :=
    ⟨hdue, hf, fun entry he => by simpa using Option.filter_eq_none_iff.1 hq entry he⟩
  refine takes_request fun x w₂ h₂ => ?_
  have h₂ := h₁.trans h₂
  cases x with
  | error exc =>
    refine takes_onException ?_
    rw [h₂.state]
    exact .ensureFailed (by rwa [hwait])
  | ok result =>
  simp only [bind_apply, get_apply, Res.bind_ret]
  refine takes_request fun x w₃ h₃ => ?_
  have h₃ := h₂.trans h₃
  rw [h₂.config]
  cases x with
  | error exc =>
    refine takes_onException ?_
    rw [h₃.state]
    exact .analyzeFailed (by rwa [hwait])
  | ok decision =>
  cases hd : decision.sufficient with
  | true =>
    simp only [if_true, bind_apply, modify_apply, Res.bind_ret, hd, pure_apply]
    change Evaluated _ _ _ _ _ _ (w₃.state.clarificationWaiting.erase issue.id)
    rw [h₃.state]
    exact .sufficient (by rwa [hwait]) hd
  | false =>
  cases hqs : fingerprintQuestions decision.questions with
  | error e =>
    simp only [hd, hqs, Bool.false_eq_true, if_false, ofExcept_error, bind_apply, raise_apply, Res.bind_raise]
    change Evaluated _ _ _ _ _ _ _
    rw [h₃.state]
    exact .badQuestions (by rwa [hwait]) hd hqs
  | ok questionFingerprint =>
  simp only [hd, hqs, Bool.false_eq_true, if_false, ofExcept_ok, bind_apply, pure_apply, Res.bind_ret]
  split
  · rename_i hsame
    change Evaluated _ _ _ _ _ _ (w₃.state.clarificationWaiting.insert issue.id
      (unclearEntry issue comments w.now fingerprint questionFingerprint))
    rw [h₃.state]
    exact .sameQuestions (by rwa [hwait]) hd hqs (by rwa [hwait])
  rename_i hsame
  refine takes_request fun x w₄ h₄ => ?_
  have h₄ := h₃.trans h₄
  cases x with
  | error exc =>
    refine takes_onException ?_
    rw [h₄.state]
    exact .commentFailed (by rwa [hwait]) hd hqs (by rwa [hwait])
  | ok u =>
    change Evaluated _ _ _ _ _ _ (w₄.state.clarificationWaiting.insert issue.id
      (unclearEntry issue comments w.now fingerprint questionFingerprint))
    rw [h₄.state]
    exact .commented (by rwa [hwait]) hd hqs (by rwa [hwait])

/-- A run of the gate. -/
theorem gate_evaluated {issue : Issue} {w w' : World} {calls : List OrchSig.Call} {o : Except Exn Bool}
    (h : Logged (orchestrator.proto D m) (clarificationGateAllowsDispatch issue w) calls o w') :
    Evaluated issue w.now w.config w.state.clarificationWaiting calls o w'.state.clarificationWaiting :=
  (gate_takes D m issue w).logged h

/-- **The gate fails closed.** It lets an issue pass only on a sufficient analysis of it and of the comments just
fetched, and then drops its entry; a call that fails makes it refuse and leaves the entries as they are; an entry that is
not due costs no call; at most one comment is posted, and only with questions that are not the recorded ones; no other
entry changes. What it does not catch leaves the entries as they are too. -/
theorem gate_fails_closed {issue : Issue} {w w' : World} {calls : List OrchSig.Call} {o : Except Exn Bool}
    (h : Logged (orchestrator.proto D m) (clarificationGateAllowsDispatch issue w) calls o w') :
    (o = .ok true → ∃ comments path decision, ⟨.fetchComments issue, .ok comments⟩ ∈ calls ∧
      ⟨.analyze issue comments path w.config, .ok decision⟩ ∈ calls ∧ decision.sufficient = true ∧
      issue.id ∉ w'.state.clarificationWaiting) ∧
    (∀ c ∈ calls, ∀ exc, failure c.1 c.2 = some exc → (exc.isException = true → o = .ok false) ∧
      w'.state.clarificationWaiting = w.state.clarificationWaiting) ∧
    (∀ entry, w.state.clarificationWaiting.get? issue.id = some entry → w.now < entry.nextPollAt →
      calls = [] ∧ o = .ok false ∧ w'.state.clarificationWaiting = w.state.clarificationWaiting) ∧
    (posted calls = [] ∨ ∃ comments path decision questionFingerprint,
      ⟨.analyze issue comments path w.config, .ok decision⟩ ∈ calls ∧ decision.sufficient = false ∧
      fingerprintQuestions decision.questions = .ok questionFingerprint ∧
      (w.state.clarificationWaiting.get? issue.id).bind (·.lastQuestionFingerprint) ≠ some questionFingerprint ∧
      posted calls = [(issue.id, formatClarificationComment decision)]) ∧
    (∀ i, i ≠ issue.id → w'.state.clarificationWaiting.get? i = w.state.clarificationWaiting.get? i) ∧
    ∀ e, o = .error e → w'.state.clarificationWaiting = w.state.clarificationWaiting ∧
      ((∃ c ∈ calls, failure c.1 c.2 = some e ∧ e.isException = false) ∨
        (∃ comments, ⟨.fetchComments issue, .ok comments⟩ ∈ calls ∧ ¬ EncodableInputs issue comments) ∨
        ∃ comments path decision, ⟨.analyze issue comments path w.config, .ok decision⟩ ∈ calls ∧
          ¬ ∀ q ∈ normalizedQuestions decision.questions, Utf8Encodable q) := by
  have hev := gate_evaluated h
  refine ⟨fun ho => ?_, fun c hc exc hf => ?_, fun entry he hn => hev.of_early he hn, hev.posted_eq,
    fun i hi => hev.get?_of_ne hi, fun e ho => ?_⟩
  · subst ho
    obtain ⟨comments, path, decision, hc, ha, hd, hw⟩ := hev.of_allowed
    refine ⟨comments, path, decision, hc, ha, hd, ?_⟩
    rw [hw, Dict.mem_erase]
    exact fun hi => hi.1 rfl
  · obtain ⟨ho, hw⟩ := hev.of_failed hc hf
    exact ⟨fun hx => by rw [ho, refusal, if_pos hx], hw⟩
  · subst ho
    exact hev.of_raised

end Runs

section Sample

attribute [local instance] asciiTables

/-- The gate lets the sample issue pass, and the theorem says why. -/
theorem gate_fails_closed_sample : ∃ calls w', Logged (orchestrator.proto .free .pollTick)
    (clarificationGateAllowsDispatch (sampleIssue "a") sampleWorld) calls (.ok true) w' ∧
    ∃ comments path decision, ⟨.analyze (sampleIssue "a") comments path sampleConfig, .ok decision⟩ ∈ calls ∧
      decision.sufficient = true := by
  have hl := logged_execLogged (P := orchestrator.proto .free .pollTick) (o := fun _ => Answers.reply {})
    (fun _ => .refl) (fun _ _ => trivial) (clarificationGateAllowsDispatch (sampleIssue "a") sampleWorld)
  have ho : ((clarificationGateAllowsDispatch (sampleIssue "a") sampleWorld).execLogged
      fun _ => Answers.reply {}).2.1.toOption = some true := by decide +kernel
  generalize ((clarificationGateAllowsDispatch (sampleIssue "a") sampleWorld).execLogged
    fun _ => Answers.reply {}) = run at hl ho
  obtain ⟨calls, o, w'⟩ := run
  cases o with
  | error e => cases ho
  | ok b =>
    cases ho
    obtain ⟨comments, path, decision, -, ha, hd, -⟩ := (gate_fails_closed hl).1 rfl
    exact ⟨calls, w', hl, comments, path, decision, ha, hd⟩

end Sample

end RiverGang
