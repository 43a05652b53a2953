import RiverGang.Lib.Encoding
import RiverGang.Orchestrator.Evaluation

/-!
# What wakes a waiting issue

The input fingerprint is a digest of a flat text: the fields of the issue and of the users' comments, joined by NUL. What
the users wrote is read back from that text, so that another input has another fingerprint, unless two texts collide
under SHA-256 (`fingerprint_inj`). There is a fingerprint only where there are no lone surrogates, and only there does
a change wake the issue.

* `input_wakes_iff`: exactly what the gate does about a changed input.
* `surrogate_unnoticed`: a changed title that never gets to the model.
-/

namespace RiverGang

open Py Coop Task

/-! ## The input of the users -/

/-- A comment, as far as the gate looks at it. -/
structure UserComment where
  id : Str
  body : Str
  createdAt : Option DateTime
  updatedAt : Option DateTime
  deriving DecidableEq

/-- What users can answer questions with. -/
structure UserInput where
  title : Str
  description : Str
  comments : List UserComment
  deriving DecidableEq

/-- The comments without the marker, in order. -/
def userComments (comments : List Comment) : List UserComment :=
  (comments.filter fun c => !isClarificationComment c).map fun c => ⟨c.id, c.body, c.createdAt, c.updatedAt⟩

def userInput (issue : Issue) (comments : List Comment) : UserInput where
  title := issue.title
  description := issue.description.getD []
  comments := userComments comments

namespace UserComment

def parts (c : UserComment) : List Str := [c.id, c.body, isoformatOrEmpty c.createdAt, isoformatOrEmpty c.updatedAt]

/-- Texts without NUL, and dates that Python has. -/
structure Plain (c : UserComment) : Prop where
  id : 0 ∉ c.id
  body : 0 ∉ c.body
  createdAt : ∀ d ∈ c.createdAt, d.Valid
  updatedAt : ∀ d ∈ c.updatedAt, d.Valid

end UserComment

/-- Texts without NUL, and dates that Python has. -/
structure PlainInput (issue : Issue) (comments : List Comment) : Prop where
  id : 0 ∉ issue.id
  identifier : 0 ∉ issue.identifier
  title : 0 ∉ issue.title
  description : 0 ∉ issue.description.getD []
  updatedAt : ∀ d ∈ issue.updatedAt, d.Valid
  comments : ∀ c ∈ userComments comments, c.Plain

/-- The text that the fingerprint is the digest of. -/
def inputText (issue : Issue) (comments : List Comment) : Str := join [0] (inputParts issue comments)

/-- Two texts of one digest. -/
def Collide (s t : Str) : Prop :=
  ∃ b b', encodeUtf8 s = .ok b ∧ encodeUtf8 t = .ok b' ∧ b ≠ b' ∧ Sha256.hexdigest b = Sha256.hexdigest b'

/-! ## Reading it back -/

theorem isoformatOrEmpty_inj {d d' : Option DateTime} (h : ∀ x ∈ d, x.Valid) (h' : ∀ x ∈ d', x.Valid)
    (he : isoformatOrEmpty d = isoformatOrEmpty d') : d = d' := by
  cases d with
  | none =>
    cases d' with
    | none => rfl
    | some x' => exact absurd he.symm x'.isoformat_ne_nil
  | some x =>
    cases d' with
    | none => exact absurd he x.isoformat_ne_nil
    | some x' => rw [DateTime.isoformat_inj (h x rfl) (h' x' rfl) he]

theorem nul_not_mem_isoformatOrEmpty (d : Option DateTime) : (0 : CodePoint) ∉ isoformatOrEmpty d := by
  cases d with
  | none => exact List.not_mem_nil
  | some d => exact d.nul_not_mem_isoformat

theorem UserComment.parts_inj {c c' : UserComment} (h : c.Plain) (h' : c'.Plain) (he : c.parts = c'.parts) : c = c' := by
  unfold UserComment.parts at he
  simp only [List.cons.injEq, and_true] at he
  obtain ⟨hid, hbody, hcreated, hupdated⟩ := he
  have hc := isoformatOrEmpty_inj h.createdAt h'.createdAt hcreated
  have hu := isoformatOrEmpty_inj h.updatedAt h'.updatedAt hupdated
  cases c
  cases c'
  simp_all

theorem inputParts_eq (issue : Issue) (comments : List Comment) : inputParts issue comments =
    [issue.id, issue.identifier, issue.title, issue.description.getD [], isoformatOrEmpty issue.updatedAt] ++
      (userComments comments).flatMap UserComment.parts := by
  unfold inputParts userComments
  rw [List.flatMap_map]
  rfl

theorem PlainInput.nul_not_mem {issue : Issue} {comments : List Comment} (h : PlainInput issue comments) :
    ∀ s ∈ inputParts issue comments, (0 : CodePoint) ∉ s := by
  rw [inputParts_eq]
  intro s hs
  rcases List.mem_append.1 hs with hs | hs
  · simp only [List.mem_cons, List.not_mem_nil, or_false] at hs
    rcases hs with rfl | rfl | rfl | rfl | rfl
    · exact h.id
    · exact h.identifier
    · exact h.title
    · exact h.description
    · exact nul_not_mem_isoformatOrEmpty _
  · obtain ⟨c, hc, hs⟩ := List.mem_flatMap.1 hs
    have hp := h.comments c hc
    simp only [UserComment.parts, List.mem_cons, List.not_mem_nil, or_false] at hs
    rcases hs with rfl | rfl | rfl | rfl
    · exact hp.id
    · exact hp.body
    · exact nul_not_mem_isoformatOrEmpty _
    · exact nul_not_mem_isoformatOrEmpty _

/-- What the text is read back to. -/
theorem inputText_inj {i i' : Issue} {c c' : List Comment} (h : PlainInput i c) (h' : PlainInput i' c')
    (he : inputText i c = inputText i' c') :
    i.identifier = i'.identifier ∧ i.updatedAt = i'.updatedAt ∧ userInput i c = userInput i' c' := by
  have hparts : inputParts i c = inputParts i' c' :=
    join_inj h.nul_not_mem h'.nul_not_mem (by rw [inputParts_eq]; nofun) (by rw [inputParts_eq]; nofun) he
  rw [inputParts_eq, inputParts_eq] at hparts
  simp only [List.cons_append, List.nil_append, List.cons.injEq] at hparts
  obtain ⟨-, hident, htitle, hdesc, hupd, hcomments⟩ := hparts
  have hu : userComments c = userComments c' := flatMap_inj (n := 4) (by omega) (fun _ => rfl)
    (fun x hx y hy hxy => UserComment.parts_inj (h.comments x hx) (h'.comments y hy) hxy) hcomments
  refine ⟨hident, isoformatOrEmpty_inj h.updatedAt h'.updatedAt hupd, ?_⟩
  unfold userInput
  rw [htitle, hdesc, hu]

theorem sha256Text_eq_ok {text digest : Str} (h : sha256Text text = .ok digest) :
    ∃ b, encodeUtf8 text = .ok b ∧ digest = Sha256.hexdigest b := by
  unfold sha256Text liftPy at h
  cases he : encodeUtf8 text with
  | error e =>
    rw [he] at h
    cases h
  | ok b =>
    rw [he] at h
    cases h
    exact ⟨b, rfl, rfl⟩

/-- **Fingerprints tell inputs apart**, unless the texts collide. -/
theorem fingerprint_inj {i i' : Issue} {c c' : List Comment} {digest : Str} (h : PlainInput i c) (h' : PlainInput i' c')
    (hsha : ¬ Collide (inputText i c) (inputText i' c')) (hd : fingerprintClarificationInputs i c = .ok digest)
    (hd' : fingerprintClarificationInputs i' c' = .ok digest) :
    i.identifier = i'.identifier ∧ i.updatedAt = i'.updatedAt ∧ userInput i c = userInput i' c' := by
  obtain ⟨b, hb, rfl⟩ := sha256Text_eq_ok hd
  obtain ⟨b', hb', he⟩ := sha256Text_eq_ok hd'
  have hbb : b = b' := by
    by_contra hne
    exact hsha ⟨b, b', hb, hb', hne, he⟩
  subst hbb
  exact inputText_inj h h' (encodeUtf8_inj hb hb')

/-- The gate's own comments do not count, nor does anything else that the text leaves out. -/
theorem fingerprint_congr {i i' : Issue} {c c' : List Comment} (hid : i.id = i'.id) (hident : i.identifier = i'.identifier)
    (hupd : i.updatedAt = i'.updatedAt) (hu : userInput i c = userInput i' c') :
    fingerprintClarificationInputs i c = fingerprintClarificationInputs i' c' := by
  have htitle : i.title = i'.title := congrArg UserInput.title hu
  have hdesc : i.description.getD [] = i'.description.getD [] := congrArg UserInput.description hu
  have hcomments : userComments c = userComments c' := congrArg UserInput.comments hu
  unfold fingerprintClarificationInputs
  rw [inputParts_eq, inputParts_eq, hid, hident, htitle, hdesc, hupd, hcomments]

/-! ## Waking up -/

section Wakes

variable [Unicode]

/-- **A changed input wakes the issue** exactly if what is read has no lone surrogate: the two fingerprints exist and
differ; and a gate that polls in time, and gets the comments and the workspace, asks the model again. Comments with the
marker make no difference. -/
theorem input_wakes_iff {i i' : Issue} {c c' : List Comment} (h : PlainInput i c) (h' : PlainInput i' c')
    (hsha : ¬ Collide (inputText i c) (inputText i' c')) (hne : userInput i c ≠ userInput i' c') :
    ((∃ digest digest', fingerprintClarificationInputs i c = .ok digest ∧
        fingerprintClarificationInputs i' c' = .ok digest' ∧ digest ≠ digest') ↔
      EncodableInputs i c ∧ EncodableInputs i' c') ∧
    (∀ (D : OrchDiscipline) (m : Message) (w w' : World) (calls : List OrchSig.Call) (o : Except Exn Bool)
      (entry : ClarificationWaitEntry) (digest : Str),
      Logged (orchestrator.proto D m) (clarificationGateAllowsDispatch i' w) calls o w' →
      w.state.clarificationWaiting.get? i'.id = some entry → entry.nextPollAt ≤ w.now →
      fingerprintClarificationInputs i c = .ok digest → entry.lastInputFingerprint = some digest →
      ⟨.fetchComments i', .ok c'⟩ ∈ calls → (∀ exc, ⟨.ensureForIssue i'.identifier, .error exc⟩ ∉ calls) →
      ((∃ path x, ⟨.analyze i' c' path w.config, x⟩ ∈ calls) ↔ EncodableInputs i' c')) ∧
    ∀ (j : Issue) (marked marked' : List Comment), userComments marked = userComments marked' →
      fingerprintClarificationInputs j marked = fingerprintClarificationInputs j marked' := by
  refine ⟨⟨?_, ?_⟩, ?_, fun j marked marked' hm => ?_⟩
  · rintro ⟨digest, digest', hd, hd', -⟩
    exact ⟨fingerprintClarificationInputs_ok_iff.1 ⟨_, hd⟩, fingerprintClarificationInputs_ok_iff.1 ⟨_, hd'⟩⟩
  · rintro ⟨hen, hen'⟩
    obtain ⟨digest, hd⟩ := fingerprintClarificationInputs_ok_iff.2 hen
    obtain ⟨digest', hd'⟩ := fingerprintClarificationInputs_ok_iff.2 hen'
    refine ⟨digest, digest', hd, hd', fun heq => hne ?_⟩
    subst heq
    exact (fingerprint_inj h h' hsha hd hd').2.2
  · intro D m w w' calls o entry digest hl he hdue hd hlast hf hens
    have hev := gate_evaluated hl
    constructor
    · rintro ⟨path, x, hc⟩
      obtain ⟨fingerprint, hn⟩ := hev.news_of_analyze hc
      exact fingerprintClarificationInputs_ok_iff.1 ⟨_, hn.fingerprint⟩
    · intro hen
      obtain ⟨digest', hd'⟩ := fingerprintClarificationInputs_ok_iff.2 hen
      refine hev.analyze_of_news hf ⟨fun entry' he' => ?_, hd', fun entry' he' => ?_⟩ hens
      · rw [he] at he'
        cases he'
        exact hdue
      · rw [he] at he'
        cases he'
        have hdiff : digest' ≠ digest := fun heq => hne (fingerprint_inj h h' hsha hd (heq ▸ hd')).2.2
        simp only [noNewInput, hlast, beq_eq_false_iff_ne]
        exact hdiff
  · exact fingerprint_congr rfl rfl rfl (by unfold userInput; rw [hm])

end Wakes

section Sample

attribute [local instance] asciiTables

/-- The sample issue under a title. -/
def sampleTitled (title : Str) : Issue := { sampleIssue "a" with title := title }

theorem sampleTitled_plain {title : Str} (h : 0 ∉ title) : PlainInput (sampleTitled title) [] where
  id := show (0 : CodePoint) ∉ py "a" by decide
  identifier := show (0 : CodePoint) ∉ py "a" by decide
  title := h
  description := List.not_mem_nil
  updatedAt := nofun
  comments := nofun

/-- The entry of the sample issue, asked about under a title. -/
def sampleEntry (title : Str) : ClarificationWaitEntry where
  issueId := py "a"
  identifier := py "a"
  lastSeenCommentIds := ∅
  lastQuestionFingerprint := none
  nextPollAt := sampleWorld.now
  lastInputFingerprint := (fingerprintClarificationInputs (sampleTitled title) []).toOption

def sampleWaiting (title : Str) : World := sampleWorld.onState (·.setWaiting (py "a") (sampleEntry title))

/-- An evaluation in which every call is answered, and there are no comments. -/
def sampleEvaluation (issue : Issue) (w : World) : List OrchSig.Call × Except Exn Bool × World :=
  (clarificationGateAllowsDispatch issue w).execLogged fun _ => Answers.reply {}

theorem sampleEvaluation_logged (issue : Issue) (w : World) : Logged (orchestrator.proto .free .pollTick)
    (clarificationGateAllowsDispatch issue w) (sampleEvaluation issue w).1 (sampleEvaluation issue w).2.1
      (sampleEvaluation issue w).2.2 :=
  logged_execLogged (P := orchestrator.proto .free .pollTick) (fun _ => .refl) (fun _ _ => trivial) _

theorem sampleEvaluation_fetches {s t : Str} :
    ⟨.fetchComments (sampleTitled t), .ok []⟩ ∈ (sampleEvaluation (sampleTitled t) (sampleWaiting s)).1 := by
  have hev := gate_evaluated (sampleEvaluation_logged (sampleTitled t) (sampleWaiting s))
  obtain ⟨x, rest, hcalls⟩ := hev.fetch_first fun entry he => by
    cases (Dict.get?_insert_self _ _ _).symm.trans he
    exact Int.le_refl _
  have hmem : ⟨.fetchComments (sampleTitled t), x⟩ ∈
      (sampleEvaluation (sampleTitled t) (sampleWaiting s)).1 := hcalls ▸ List.mem_cons_self
  obtain ⟨-, rfl⟩ := answer_of_execLogged hmem
  exact hmem

theorem not_collide {s t : Str} (h : (sha256Text s).toOption ≠ (sha256Text t).toOption) : ¬ Collide s t := by
  rintro ⟨b, b', hb, hb', -, hd⟩
  have hs : sha256Text s = .ok (Sha256.hexdigest b) := by unfold sha256Text liftPy; rw [hb]; rfl
  have ht : sha256Text t = .ok (Sha256.hexdigest b') := by unfold sha256Text liftPy; rw [hb']; rfl
  rw [hs, ht, hd] at h
  exact h rfl

/-- A new title, and the issue is analyzed again. -/
theorem input_wakes_sample : ∃ calls o w', Logged (orchestrator.proto .free .pollTick)
    (clarificationGateAllowsDispatch (sampleTitled (py "new")) (sampleWaiting (py "old"))) calls o w' ∧
    ∃ path x, ⟨.analyze (sampleTitled (py "new")) [] path sampleConfig, x⟩ ∈ calls := by
  have hen : ∀ {title}, Utf8Encodable title → EncodableInputs (sampleTitled title) [] := fun h =>
    ⟨⟨encodable_py "a", encodable_py "a", h, encodable_nil⟩, nofun⟩
  obtain ⟨digest, hd⟩ := fingerprintClarificationInputs_ok_iff.2 (hen (encodable_py "old"))
  have hl := sampleEvaluation_logged (sampleTitled (py "new")) (sampleWaiting (py "old"))
  refine ⟨_, _, _, hl, ?_⟩
  refine ((input_wakes_iff (i := sampleTitled (py "old")) (c := []) (sampleTitled_plain (by decide))
    (sampleTitled_plain (by decide)) (not_collide (by decide +kernel)) (by decide)).2.1 _ _ _ _ _ _
    (sampleEntry (py "old")) digest hl (Dict.get?_insert_self _ _ _) (Int.le_refl _) hd ?_ sampleEvaluation_fetches
    fun exc hc => ?_).2 (hen (encodable_py "new"))
  · change (fingerprintClarificationInputs (sampleTitled (py "old")) []).toOption = some digest
    rw [hd]
    rfl
  · obtain ⟨-, hx⟩ := answer_of_execLogged hc
    cases hx

/-- **A change that goes unnoticed.** The new title has a lone surrogate: it has no fingerprint, and the evaluation
raises without asking the model. -/
theorem surrogate_unnoticed :
    let i := sampleTitled (py "old")
    let i' := sampleTitled [0xD800]
    PlainInput i [] ∧ PlainInput i' [] ∧ i'.id = i.id ∧ i'.identifier = i.identifier ∧
    ¬ Collide (inputText i []) (inputText i' []) ∧ userInput i [] ≠ userInput i' [] ∧
    (¬ ∃ digest digest', fingerprintClarificationInputs i [] = .ok digest ∧
      fingerprintClarificationInputs i' [] = .ok digest' ∧ digest ≠ digest') ∧
    ∃ calls e w', Logged (orchestrator.proto .free .pollTick)
        (clarificationGateAllowsDispatch i' (sampleWaiting (py "old"))) calls (.error e) w' ∧
      (⟨.fetchComments i', .ok []⟩ : OrchSig.Call) ∈ calls ∧ ∀ path config x, ⟨.analyze i' [] path config, x⟩ ∉ calls := by
  have hlone : isSurrogate 0xD800 = true := by decide
  have hbad : ¬ EncodableInputs (sampleTitled [0xD800]) [] := fun h =>
    Bool.eq_false_iff.1 (h.1.2.2.1 0xD800 List.mem_cons_self) hlone
  have hnone : ∀ digest, fingerprintClarificationInputs (sampleTitled [0xD800]) [] ≠ .ok digest := fun digest hd =>
    hbad (fingerprintClarificationInputs_ok_iff.1 ⟨digest, hd⟩)
  refine ⟨sampleTitled_plain (by decide), sampleTitled_plain (by decide +kernel), rfl, rfl, ?_, by decide,
    fun ⟨_, digest, _, hd, _⟩ => hnone digest hd, ?_⟩
  · rintro ⟨b, b', -, hb', -, -⟩
    exact hnone (Sha256.hexdigest b') (by
      unfold fingerprintClarificationInputs sha256Text liftPy
      rw [show join [0] (inputParts (sampleTitled [0xD800]) []) = inputText (sampleTitled [0xD800]) [] from rfl, hb']
      rfl)
  have hl := sampleEvaluation_logged (sampleTitled [0xD800]) (sampleWaiting (py "old"))
  have hf := sampleEvaluation_fetches (s := py "old") (t := [0xD800])
  have ho : (sampleEvaluation (sampleTitled [0xD800]) (sampleWaiting (py "old"))).2.1.toOption = none := by decide +kernel
  generalize sampleEvaluation (sampleTitled [0xD800]) (sampleWaiting (py "old")) = run at hl hf ho
  obtain ⟨calls, o, w'⟩ := run
  cases o with
  | ok b => cases ho
  | error e =>
    refine ⟨calls, e, w', hl, hf, fun path config x hc => ?_⟩
    obtain ⟨fingerprint, hn⟩ := (gate_evaluated hl).news_of_analyze hc
    exact hnone fingerprint hn.fingerprint

end Sample

end RiverGang
