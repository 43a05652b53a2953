import RiverGang.Lib.Sha256
import RiverGang.Orchestrator.World

/-!
# The clarification gate's data

`orchestrator/clarification.py`, what the orchestrator uses of it: the fingerprints and the comment text.

A fingerprint is a digest of UTF-8 text, so it exists exactly for texts without lone surrogates
(`fingerprintClarificationInputs_ok_iff`, `fingerprintQuestions_ok_iff`).
-/

namespace RiverGang

open Py Coop

def CLARIFICATION_POLL_INTERVAL_MS : Int := 300000

def CLARIFICATION_COMMENT_MARKER : Str := py "<!-- river-gang clarification request -->"

def isClarificationComment (comment : Comment) : Bool := contains CLARIFICATION_COMMENT_MARKER comment.body

def nonClarificationCommentIds (comments : List Comment) : Finset Str :=
  ((comments.filter fun c => !isClarificationComment c).map (·.id)).toFinset

/-- `d.isoformat() if d is not None else ""` -/
def isoformatOrEmpty (d : Option DateTime) : Str := d.elim [] DateTime.isoformat

/-- The texts that the input fingerprint is taken of. -/
def inputParts (issue : Issue) (comments : List Comment) : List Str :=
  [issue.id, issue.identifier, issue.title, issue.description.getD [], isoformatOrEmpty issue.updatedAt] ++
    (comments.filter fun c => !isClarificationComment c).flatMap fun c =>
      [c.id, c.body, isoformatOrEmpty c.createdAt, isoformatOrEmpty c.updatedAt]

/-- `sha256(text.encode("utf-8")).hexdigest()` -/
def sha256Text (text : Str) : Except Exn Str := (liftPy (encodeUtf8 text)).map Sha256.hexdigest

def fingerprintClarificationInputs (issue : Issue) (comments : List Comment) : Except Exn Str :=
  sha256Text (join [0] (inputParts issue comments))

/-- The questions that are not blank, stripped. -/
def normalizedQuestions (questions : List Str) : List Str := (questions.map strip).filter (· ≠ [])

def fingerprintQuestions (questions : List Str) : Except Exn Str :=
  sha256Text (join (py "\n") (normalizedQuestions questions))

/-- As far as `datetime` goes: in its last five minutes the source raises `OverflowError`. -/
def nextClarificationPollAt (now : Instant) : Instant := now + CLARIFICATION_POLL_INTERVAL_MS * 1000

def formatClarificationComment (decision : ClarificationDecision) : Str :=
  let questions := normalizedQuestions decision.questions
  let questions :=
    if questions = [] then [py "Please clarify the expected final result and important edge cases."] else questions
  let rendered := join (py "\n") (questions.zipIdx.map fun q => decimal (q.2 + 1) ++ py ". " ++ q.1)
  let rationale :=
    match decision.rationale with
    | some (c :: cs) => py "\n\nReason: " ++ c :: cs
    | _ => []
  CLARIFICATION_COMMENT_MARKER ++ py "\n\n" ++ py "Before implementation, river-gang needs clarification:\n\n" ++
    rendered ++ rationale

/-! ## What has a fingerprint -/

theorem sha256Text_ok_iff {text : Str} : (∃ d, sha256Text text = .ok d) ↔ Utf8Encodable text := by
  rw [← encodeUtf8_ok_iff]
  unfold sha256Text liftPy
  cases encodeUtf8 text <;> simp [Except.map, Except.mapError]

/-- An issue and the users' comments, without lone surrogates in what the fingerprint reads. -/
def EncodableInputs (issue : Issue) (comments : List Comment) : Prop :=
  (Utf8Encodable issue.id ∧ Utf8Encodable issue.identifier ∧ Utf8Encodable issue.title ∧
  Utf8Encodable (issue.description.getD [])) ∧
    ∀ c ∈ comments, isClarificationComment c = false → Utf8Encodable c.id ∧ Utf8Encodable c.body

theorem encodable_isoformatOrEmpty (d : Option DateTime) : Utf8Encodable (isoformatOrEmpty d) := by
  cases d with
  | none => exact encodable_nil
  | some d => exact d.encodable_isoformat

theorem encodable_inputParts {issue : Issue} {comments : List Comment} :
    (∀ s ∈ inputParts issue comments, Utf8Encodable s) ↔ EncodableInputs issue comments := by
  unfold inputParts EncodableInputs
  constructor
  · intro h
    refine ⟨⟨h _ (by simp), h _ (by simp), h _ (by simp), h _ (by simp)⟩, fun c hc hn => ?_⟩
    have hm : c ∈ comments.filter fun c => !isClarificationComment c := by simp [hc, hn]
    exact ⟨h _ (List.mem_append_right _ (List.mem_flatMap.2 ⟨c, hm, by simp⟩)),
      h _ (List.mem_append_right _ (List.mem_flatMap.2 ⟨c, hm, by simp⟩))⟩
  · rintro ⟨⟨h1, h2, h3, h4⟩, hc⟩ s hs
    rcases List.mem_append.1 hs with hs | hs
    · have h5 := encodable_isoformatOrEmpty issue.updatedAt
      simp only [List.mem_cons, List.not_mem_nil, or_false] at hs
      rcases hs with rfl | rfl | rfl | rfl | rfl <;> assumption
    · obtain ⟨c, hm, hs⟩ := List.mem_flatMap.1 hs
      obtain ⟨hm, hn⟩ := List.mem_filter.1 hm
      obtain ⟨h1, h2⟩ := hc c hm (by simpa using hn)
      have h3 := encodable_isoformatOrEmpty c.createdAt
      have h4 := encodable_isoformatOrEmpty c.updatedAt
      simp only [List.mem_cons, List.not_mem_nil, or_false] at hs
      rcases hs with rfl | rfl | rfl | rfl <;> assumption

theorem encodable_join_iff {sep : Str} (hs : Utf8Encodable sep) {l : List Str} :
    Utf8Encodable (join sep l) ↔ ∀ s ∈ l, Utf8Encodable s :=
  ⟨encodable_of_join, encodable_join hs⟩

theorem fingerprintClarificationInputs_ok_iff {issue : Issue} {comments : List Comment} :
    (∃ d, fingerprintClarificationInputs issue comments = .ok d) ↔ EncodableInputs issue comments := by
  unfold fingerprintClarificationInputs
  rw [sha256Text_ok_iff, encodable_join_iff (by simp [Utf8Encodable, isSurrogate]), encodable_inputParts]

theorem fingerprintQuestions_ok_iff {questions : List Str} :
    (∃ d, fingerprintQuestions questions = .ok d) ↔ ∀ q ∈ normalizedQuestions questions, Utf8Encodable q := by
  unfold fingerprintQuestions
  rw [sha256Text_ok_iff, encodable_join_iff (encodable_py "\n")]

end RiverGang
