import RiverGang.Orchestrator.Fingerprint

/-!
# A waiting issue and its own feedback

The comment that the gate posts comes back with the next fetch, and moves the date of the issue's last update. The marker
keeps the comment out of the fingerprint; the date is in it. So an issue whose users write nothing is analyzed again
whenever its date, or its identifier, has moved (`feedback_loop`), and is left in peace as long as they have not
(`quiet_without_input`).
-/

namespace RiverGang

open Py Coop Task

/-- An evaluation of the gate, as it happened. -/
structure Evaluation where
  issue : Issue
  before : World
  calls : List OrchSig.Call
  outcome : Except Exn Bool
  after : World

/-- What the fingerprint reads of an issue that is not its users' input. -/
abbrev Stamp := Str × Option DateTime

namespace Evaluation

variable (e : Evaluation)

/-- The entry that it starts from. -/
def entry : Option ClarificationWaitEntry := e.before.state.clarificationWaiting.get? e.issue.id

/-- The entry that it leaves. -/
def left : Option ClarificationWaitEntry := e.after.state.clarificationWaiting.get? e.issue.id

def stamp : Stamp := (e.issue.identifier, e.issue.updatedAt)

/-- The users' input is `u`, as far as it is looked at. -/
def Reads (u : UserInput) : Prop :=
  ∀ comments, ⟨.fetchComments e.issue, .ok comments⟩ ∈ e.calls → userInput e.issue comments = u

/-- It finds the issue unclear, with questions of this fingerprint. -/
def Asks (questionFingerprint : Str) : Prop := ∃ comments, Unclear e.issue comments e.calls questionFingerprint

/-- If it finds the issue unclear, it is with the questions that were asked. -/
def SameQuestions : Prop :=
  ∀ questionFingerprint, e.Asks questionFingerprint → e.entry.bind (·.lastQuestionFingerprint) = some questionFingerprint

/-- If the entry is due, the stamp is `s`. -/
def Unmoved (s : Stamp) : Prop := Due e.entry e.before.now → e.stamp = s

end Evaluation

/-- The stamp moves at most once, and then brings no other questions. -/
inductive MovesOnce : Stamp → List Evaluation → Prop
  | unmoved {s : Stamp} {es : List Evaluation} : (∀ e ∈ es, e.Unmoved s) → MovesOnce s es
  | moved {s : Stamp} {es es' : List Evaluation} {e : Evaluation} : (∀ e ∈ es, e.Unmoved s) → e.SameQuestions →
      ((∃ q, e.Asks q) → ∀ e' ∈ es', e'.Unmoved e.stamp) → ((¬ ∃ q, e.Asks q) → ∀ e' ∈ es', e'.Unmoved s) →
      MovesOnce s (es ++ e :: es')

/-- The entry was made from the input `u` under the stamp `s`. -/
def MadeFrom (i : Str) (u : UserInput) (s : Stamp) (entry : ClarificationWaitEntry) : Prop :=
  ∃ fingerprint, entry.lastInputFingerprint = some fingerprint ∧ ∀ issue comments, issue.id = i →
    (issue.identifier, issue.updatedAt) = s → userInput issue comments = u →
    fingerprintClarificationInputs issue comments = .ok fingerprint

theorem MadeFrom.of_fingerprint {issue : Issue} {comments : List Comment} {fingerprint : Str}
    {entry : ClarificationWaitEntry} (hf : fingerprintClarificationInputs issue comments = .ok fingerprint)
    (he : entry.lastInputFingerprint = some fingerprint) :
    MadeFrom issue.id (userInput issue comments) (issue.identifier, issue.updatedAt) entry := by
  refine ⟨fingerprint, he, fun issue' comments' hid hs hu => ?_⟩
  rw [← hf]
  exact fingerprint_congr hid (congrArg Prod.fst hs) (congrArg Prod.snd hs) hu

/-- The same input under the same stamp is no news. -/
theorem MadeFrom.no_news {i : Str} {u : UserInput} {s : Stamp} {entry : ClarificationWaitEntry} (h : MadeFrom i u s entry)
    {issue : Issue} {comments : List Comment} {now : Instant} {fingerprint : Str} (hid : issue.id = i)
    (hs : (issue.identifier, issue.updatedAt) = s) (hu : userInput issue comments = u) :
    ¬ News (some entry) now issue comments fingerprint := by
  obtain ⟨fingerprint', hl, hf⟩ := h
  intro hn
  have heq := hf issue comments hid hs hu
  rw [hn.fingerprint] at heq
  cases heq
  have hnew := hn.new entry rfl
  simp [noNewInput, hl] at hnew

section Runs

variable [Unicode]

/-- It is a run of the gate. -/
def Evaluation.Genuine (e : Evaluation) : Prop := ∃ D m,
  Logged (orchestrator.proto D m) (clarificationGateAllowsDispatch e.issue e.before) e.calls e.outcome e.after

/-- Evaluations of the issue `i` one after the other, from an entry on and as long as there is one. What else happens to
the world between them is left open. -/
inductive Waits (i : Str) : Option ClarificationWaitEntry → List Evaluation → Prop
  | nil (entry : Option ClarificationWaitEntry) : Waits i entry []
  | cons {entry : ClarificationWaitEntry} {e : Evaluation} {es : List Evaluation} : e.Genuine → e.issue.id = i →
      e.entry = some entry → Waits i e.left es → Waits i (some entry) (e :: es)

theorem Evaluation.Genuine.evaluated {e : Evaluation} (h : e.Genuine) : Evaluated e.issue e.before.now e.before.config
    e.before.state.clarificationWaiting e.calls e.outcome e.after.state.clarificationWaiting := by
  obtain ⟨D, m, h⟩ := h
  exact gate_evaluated h

variable {i : Str} {u : UserInput} {s : Stamp} {entry : ClarificationWaitEntry} {e : Evaluation}

/-- **A step without a new stamp** is quiet, and leaves the entry as it was, or puts it off. -/
theorem step_unmoved (hg : e.Genuine) (hi : e.issue.id = i) (he : e.entry = some entry) (hr : e.Reads u)
    (hm : MadeFrom i u s entry) (hu : e.Unmoved s) :
    analyses e.calls = 0 ∧ posted e.calls = [] ∧ ∃ entry', e.left = some entry' ∧ MadeFrom i u s entry' := by
  have hev := hg.evaluated
  obtain ⟨ha, hp, hleft⟩ := hev.of_no_news fun comments fingerprint hc hn => by
    have hdue : Due e.entry e.before.now := hn.due
    change News e.entry e.before.now e.issue comments fingerprint at hn
    rw [he] at hn
    exact hm.no_news hi (hu hdue) (hr comments hc) hn
  refine ⟨ha, hp, ?_⟩
  rcases hleft with hleft | ⟨entry', he', hleft⟩
  · exact ⟨entry, hleft.trans he, hm⟩
  · cases he.symm.trans he'
    exact ⟨entry.postponed e.before.now, hleft, hm⟩

/-- **Any step** asks the model once at most; it posts nothing if the questions are the same, and the entry that it
leaves, if any, is made from the input under its stamp if it asks, and else as before. -/
theorem step_moved (hg : e.Genuine) (hi : e.issue.id = i) (he : e.entry = some entry) (hr : e.Reads u)
    (hm : MadeFrom i u s entry) (hs : e.SameQuestions) : analyses e.calls ≤ 1 ∧ posted e.calls = [] ∧
      ∀ entry', e.left = some entry' → ((∃ q, e.Asks q) → MadeFrom i u e.stamp entry') ∧
        ((¬ ∃ q, e.Asks q) → MadeFrom i u s entry') := by
  have hev := hg.evaluated
  have hp : posted e.calls = [] := by
    rcases hev.posted_eq with hp | ⟨comments, path, decision, q, hc, hd, hq, hne, -⟩
    · exact hp
    · exact absurd (hs q ⟨comments, path, _, decision, hc, hd, hq⟩) hne
  refine ⟨hev.analyses_le_one, hp, fun entry' hl => ?_⟩
  rcases hev.entry_cases hp with ⟨comments, fingerprint, q, hc, hn, hask, hleft⟩ | ⟨hask, hleft⟩
  · cases hl.symm.trans hleft
    refine ⟨fun _ => ?_, fun hno => absurd ⟨q, comments, hask⟩ hno⟩
    rw [← hi, ← hr comments hc]
    exact .of_fingerprint hn.fingerprint rfl
  · refine ⟨fun ⟨q, comments, hq⟩ => absurd hq (hask comments q), fun _ => ?_⟩
    rcases hleft with hleft | hleft | ⟨entry'', he'', hleft⟩
    · cases hl.symm.trans (hleft.trans he)
      exact hm
    · cases hl.symm.trans hleft
    · cases hl.symm.trans hleft
      cases he.symm.trans he''
      exact hm

/-- **The run without a new stamp** is quiet, and leaves an entry that is made from the same. -/
theorem run_unmoved {es rest : List Evaluation} (hm : MadeFrom i u s entry) (hw : Waits i (some entry) (es ++ rest))
    (hr : ∀ e ∈ es, e.Reads u) (hu : ∀ e ∈ es, e.Unmoved s) :
    (∀ e ∈ es, analyses e.calls = 0 ∧ posted e.calls = []) ∧
      ∃ entry', MadeFrom i u s entry' ∧ Waits i (some entry') rest := by
  induction es generalizing entry with
  | nil => exact ⟨fun _ h => absurd h List.not_mem_nil, entry, hm, hw⟩
  | cons e es ih =>
    cases hw with
    | cons hg hi he hw =>
      obtain ⟨ha, hp, entry', hl, hm'⟩ := step_unmoved hg hi he (hr e List.mem_cons_self) hm (hu e List.mem_cons_self)
      rw [hl] at hw
      obtain ⟨hes, hrest⟩ := ih hm' hw (fun e he => hr e (List.mem_cons_of_mem _ he))
        fun e he => hu e (List.mem_cons_of_mem _ he)
      refine ⟨fun e' he' => ?_, hrest⟩
      rcases List.mem_cons.1 he' with rfl | he'
      · exact ⟨ha, hp⟩
      · exact hes e' he'

omit [Unicode] in
/-- The model is asked in no evaluation of a list. -/
theorem analyses_eq_zero : ∀ {es : List Evaluation}, (∀ e ∈ es, analyses e.calls = 0) →
    analyses (es.flatMap (·.calls)) = 0
  | [], _ => rfl
  | e :: es, h => by
    have ih : analyses (es.flatMap (·.calls)) = 0 := analyses_eq_zero fun e he => h e (List.mem_cons_of_mem _ he)
    have he : analyses e.calls = 0 := h e List.mem_cons_self
    unfold analyses at *
    rw [List.flatMap_cons, List.countP_append, ih, he]

/-- The entry that the first evaluation of an issue makes. -/
theorem madeFrom_first (hg : e.Genuine) (hr : e.Reads u) (hn : e.entry = none) (hl : e.left = some entry) :
    MadeFrom e.issue.id u e.stamp entry := by
  have hev := hg.evaluated
  have hn : e.before.state.clarificationWaiting.get? e.issue.id = none := hn
  have hl : e.after.state.clarificationWaiting.get? e.issue.id = some entry := hl
  obtain ⟨comments, fingerprint, q, hc, hf, hentry⟩ := hev.created hn hl
  subst hentry
  rw [← hr comments hc]
  exact .of_fingerprint hf rfl

/-- **Quiet without input.** After the entry was made, and as long as the issue waits and its users write nothing, the
model is asked once at most and no comment is posted, if the stamp moves at most once and then brings no other
questions. -/
theorem quiet_without_input {e₀ : Evaluation} {es : List Evaluation} (hg : e₀.Genuine) (hn : e₀.entry = none)
    (hl : e₀.left = some entry) (hw : Waits e₀.issue.id (some entry) es) (hr : ∀ e ∈ e₀ :: es, e.Reads u)
    (hm : MovesOnce e₀.stamp es) : analyses (es.flatMap (·.calls)) ≤ 1 ∧ ∀ e ∈ es, posted e.calls = [] := by
  have hmade : MadeFrom e₀.issue.id u e₀.stamp entry := madeFrom_first hg (hr _ List.mem_cons_self) hn hl
  have hr : ∀ e ∈ es, e.Reads u := fun e he => hr e (List.mem_cons_of_mem _ he)
  cases hm with
  | unmoved hu =>
    rw [← List.append_nil es] at hw
    obtain ⟨hes, -⟩ := run_unmoved hmade hw hr hu
    rw [analyses_eq_zero fun e he => (hes e he).1]
    exact ⟨Nat.zero_le 1, fun e he => (hes e he).2⟩
  | @moved es es' e hu hq hasks hnot =>
    obtain ⟨hes, entry', hmade', hw⟩ := run_unmoved hmade hw (fun e he => hr e (List.mem_append_left _ he)) hu
    cases hw with
    | cons hg hi he hw =>
      have hr' : ∀ e' ∈ es', e'.Reads u := fun e' he' => hr e' (List.mem_append_right _ (List.mem_cons_of_mem _ he'))
      obtain ⟨hone, hp, hleft⟩ := step_moved hg hi he (hr e (List.mem_append_right _ List.mem_cons_self)) hmade' hq
      -- what comes after it is quiet again, under the stamp that the entry is made from now
      have hrest : ∀ e' ∈ es', analyses e'.calls = 0 ∧ posted e'.calls = [] := by
        cases hl' : e.left with
        | none =>
          rw [hl'] at hw
          cases hw
          exact fun _ h => absurd h List.not_mem_nil
        | some entry'' =>
          rw [hl', ← List.append_nil es'] at hw
          by_cases hask : ∃ q, e.Asks q
          · exact (run_unmoved ((hleft entry'' hl').1 hask) hw hr' (hasks hask)).1
          · exact (run_unmoved ((hleft entry'' hl').2 hask) hw hr' (hnot hask)).1
      refine ⟨?_, fun e' he' => ?_⟩
      · have hbefore : analyses (es.flatMap (·.calls)) = 0 := analyses_eq_zero fun e he => (hes e he).1
        have hafter : analyses (es'.flatMap (·.calls)) = 0 := analyses_eq_zero fun e he => (hrest e he).1
        unfold analyses at *
        rw [List.flatMap_append, List.countP_append, List.flatMap_cons, List.countP_append, hbefore, hafter]
        omega
      · rcases List.mem_append.1 he' with he' | he'
        · exact (hes e' he').2
        · rcases List.mem_cons.1 he' with rfl | he'
          · exact hp
          · exact (hrest e' he').2

end Runs

section Sample

attribute [local instance] asciiTables

/-- Every call is answered: with these comments, and with this question. -/
def sampleReply (comments : List Comment) (question : String) : (r : OrchReq) → OrchSig.Ans r
  | .fetchComments _ => .ok comments
  | .analyze .. => .ok ⟨false, [py question], none⟩
  | r => Answers.reply {} r

/-- The evaluation with these answers. -/
def evaluate (issue : Issue) (w : World) (comments : List Comment) (question : String) : Evaluation :=
  let run := (clarificationGateAllowsDispatch issue w).execLogged fun _ => sampleReply comments question
  ⟨issue, w, run.1, run.2.1, run.2.2⟩

theorem evaluate_genuine (issue : Issue) (w : World) (comments : List Comment) (question : String) :
    (evaluate issue w comments question).Genuine :=
  ⟨.free, .pollTick, logged_execLogged (P := orchestrator.proto .free .pollTick) (fun _ => .refl) (fun _ _ => trivial) _⟩

theorem evaluate_reads {issue : Issue} {w : World} {comments : List Comment} {question : String} {u : UserInput}
    (hu : userInput issue comments = u) : (evaluate issue w comments question).Reads u := by
  intro comments' hc
  obtain ⟨-, hx⟩ := answer_of_execLogged hc
  cases hx
  exact hu

/-- The gate's own comment, as it comes back. -/
def markerComment : Comment := ⟨py "c1", CLARIFICATION_COMMENT_MARKER, none, none, none, none⟩

/-- The sample issue, last updated on a day. -/
def sampleUpdated (day : Int) : Issue := { sampleIssue "a" with updatedAt := some ⟨day * 86400000000, some 0⟩ }

/-- The next evaluation, when the entry is due. -/
def Evaluation.next (e : Evaluation) (issue : Issue) (question : String) : Evaluation :=
  evaluate issue { e.after with now := e.after.now + 300000000 } [markerComment] question

section Next

variable {e : Evaluation} {issue : Issue} {question : String}

theorem next_reads {u : UserInput} (hu : userInput issue [markerComment] = u) : (e.next issue question).Reads u :=
  evaluate_reads hu

theorem next_stamp : (e.next issue question).stamp = (issue.identifier, issue.updatedAt) := rfl

theorem waits_next {i : Str} {entry : ClarificationWaitEntry} {es : List Evaluation} (he : e.issue.id = i)
    (hi : issue.id = i) (hl : e.left = some entry) (hw : Waits i (e.next issue question).left es) :
    Waits i (some entry) (e.next issue question :: es) := by
  refine .cons (evaluate_genuine ..) hi ?_ hw
  rw [← hl]
  exact congrArg e.after.state.clarificationWaiting.get? (hi.trans he.symm)

end Next

def sampleFirst : Evaluation := evaluate (sampleUpdated 1) sampleWorld [] "q1"

theorem sampleFirst_genuine : sampleFirst.Genuine := evaluate_genuine ..

theorem sampleFirst_entry : sampleFirst.entry = none := rfl

theorem sampleFirst_reads : sampleFirst.Reads (userInput (sampleUpdated 1) []) := evaluate_reads rfl

theorem sampleFirst_left : ∃ entry, sampleFirst.left = some entry :=
  Option.isSome_iff_exists.1 (by decide +kernel)

theorem sampleUpdated_input (day : Int) :
    userInput (sampleUpdated day) [markerComment] = userInput (sampleUpdated 1) [] := by
  have hm : isClarificationComment markerComment = true := by decide +kernel
  simp [userInput, userComments, sampleUpdated, hm]

/-- An evaluation that leaves an entry made from another input has found the issue unclear. -/
theorem asks_of_left {e : Evaluation} (hg : e.Genuine) (hp : posted e.calls = []) (hl : e.left.isSome = true)
    (hne : e.left.bind (·.lastInputFingerprint) ≠ e.entry.bind (·.lastInputFingerprint)) : ∃ q, e.Asks q := by
  rcases hg.evaluated.entry_cases hp with ⟨comments, -, q, -, -, hask, -⟩ | ⟨-, hleft | hleft | ⟨entry, he, hleft⟩⟩
  · exact ⟨q, comments, hask⟩
  · exact absurd (by rw [Evaluation.left, hleft, Evaluation.entry]) hne
  · rw [Evaluation.left, hleft] at hl
    cases hl
  · refine absurd ?_ hne
    rw [Evaluation.left, hleft, Evaluation.entry, he]
    rfl

/-- A question that the entry has is no other. -/
theorem next_sameQuestions {e : Evaluation} {issue : Issue} {question : String}
    (hq : (fingerprintQuestions [py question]).toOption = (e.next issue question).entry.bind (·.lastQuestionFingerprint)) :
    (e.next issue question).SameQuestions := by
  rintro q ⟨comments, path, config, decision, hcall, -, hd⟩
  obtain ⟨-, hx⟩ := answer_of_execLogged hcall
  cases hx
  rw [← hq, show fingerprintQuestions [py question] = .ok q from hd]
  rfl

def sampleSecond : Evaluation := sampleFirst.next (sampleUpdated 1) "q1"

/-- Its date has moved. -/
def sampleThird : Evaluation := sampleSecond.next (sampleUpdated 2) "q1"

def sampleFourth : Evaluation := sampleThird.next (sampleUpdated 2) "q2"

/-- The comment comes back, the date moves once, which brings the same question, and then no more. -/
theorem quiet_without_input_sample : analyses sampleThird.calls = 1 ∧
    analyses ([sampleSecond, sampleThird, sampleFourth].flatMap (·.calls)) ≤ 1 ∧
    ∀ e ∈ [sampleSecond, sampleThird, sampleFourth], posted e.calls = [] := by
  have hthird : analyses sampleThird.calls = 1 ∧ posted sampleThird.calls = [] ∧ sampleSecond.left.isSome = true ∧
      sampleThird.left.isSome = true ∧
      sampleThird.left.bind (·.lastInputFingerprint) ≠ sampleThird.entry.bind (·.lastInputFingerprint) ∧
      (fingerprintQuestions [py "q1"]).toOption = sampleThird.entry.bind (·.lastQuestionFingerprint) := by decide +kernel
  obtain ⟨hasked, hposted, hsecond, hleft, hother, hquestion⟩ := hthird
  obtain ⟨entry₁, hl₁⟩ := sampleFirst_left
  obtain ⟨entry₂, hl₂⟩ := Option.isSome_iff_exists.1 hsecond
  obtain ⟨entry₃, hl₃⟩ := Option.isSome_iff_exists.1 hleft
  have hw : Waits (py "a") (some entry₁) [sampleSecond, sampleThird, sampleFourth] :=
    waits_next rfl rfl hl₁ (hl₂ ▸ waits_next rfl rfl hl₂ (hl₃ ▸ waits_next rfl rfl hl₃ (.nil _)))
  have hr : ∀ e ∈ [sampleFirst, sampleSecond, sampleThird, sampleFourth], e.Reads (userInput (sampleUpdated 1) []) := by
    intro e he
    simp only [List.mem_cons, List.not_mem_nil, or_false] at he
    rcases he with rfl | rfl | rfl | rfl
    · exact sampleFirst_reads
    · exact next_reads (sampleUpdated_input 1)
    · exact next_reads (sampleUpdated_input 2)
    · exact next_reads (sampleUpdated_input 2)
  have hunmoved : ∀ e ∈ [sampleSecond], e.Unmoved sampleFirst.stamp := by
    intro e he _
    cases List.mem_singleton.1 he
    exact next_stamp
  have hstays : ∀ e ∈ [sampleFourth], e.Unmoved sampleThird.stamp := by
    intro e he _
    cases List.mem_singleton.1 he
    exact next_stamp.trans next_stamp.symm
  have hasks : ∃ q, sampleThird.Asks q := asks_of_left (evaluate_genuine ..) hposted hleft hother
  exact ⟨hasked, quiet_without_input sampleFirst_genuine sampleFirst_entry hl₁ hw hr
    (.moved hunmoved (next_sameQuestions hquestion) (fun _ => hstays) fun hno => absurd hasks hno)⟩

/-- **The feedback loop.** Nobody but the gate writes anything; the date of the last update moves twice, and the model
is asked twice more and another comment is posted. -/
theorem feedback_loop : ∃ (e₀ e₁ e₂ : Evaluation) (entry : ClarificationWaitEntry) (u : UserInput),
    e₀.Genuine ∧ e₀.entry = none ∧ e₀.left = some entry ∧ Waits e₀.issue.id (some entry) [e₁, e₂] ∧
    (∀ e ∈ [e₀, e₁, e₂], e.Reads u) ∧ analyses ([e₁, e₂].flatMap (·.calls)) = 2 ∧ posted e₁.calls ≠ [] := by
  obtain ⟨entry, hl⟩ := sampleFirst_left
  have hl₁ : ∃ entry, (sampleFirst.next (sampleUpdated 2) "q2").left = some entry :=
    Option.isSome_iff_exists.1 (by decide +kernel)
  obtain ⟨entry₁, hl₁⟩ := hl₁
  refine ⟨sampleFirst, sampleFirst.next (sampleUpdated 2) "q2",
    (sampleFirst.next (sampleUpdated 2) "q2").next (sampleUpdated 3) "q2", entry, userInput (sampleUpdated 1) [],
    sampleFirst_genuine, sampleFirst_entry, hl, ?_, fun e he => ?_, by decide +kernel, by decide +kernel⟩
  · have hw : Waits (py "a") (some entry₁) [(sampleFirst.next (sampleUpdated 2) "q2").next (sampleUpdated 3) "q2"] :=
      waits_next rfl rfl hl₁ (.nil _)
    rw [← hl₁] at hw
    exact waits_next rfl rfl hl hw
  · simp only [List.mem_cons, List.not_mem_nil, or_false] at he
    rcases he with rfl | rfl | rfl
    · exact sampleFirst_reads
    · exact next_reads (sampleUpdated_input 2)
    · exact next_reads (sampleUpdated_input 3)

end Sample

end RiverGang
