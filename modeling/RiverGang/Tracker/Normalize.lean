import RiverGang.Tracker.Client
import RiverGang.Tracker.Issue

/-!
# Normalization

`tracker/issue.py` and `tracker/comment.py`: from a node of a response to an `Issue` or a `Comment`. The required fields
have to be there as non-empty strings; of the others, what is absent or of another type is `None`, or nothing.
-/

namespace RiverGang

open Py

/-- The part of `datetime` that the parsers use. -/
class Datetime where
  /-- `datetime.fromisoformat`; `none` is its `ValueError`. -/
  fromisoformat : Str → Option DateTime

/-- `IssueMissingRequiredField` -/
def missingRequiredField (what : Str) : Exn := ⟨.linearError, what⟩

/-- `_require_str`, of an issue or a comment. -/
def requireStr (kind : Str) (payload : Payload) (key : Str) : Except Exn Str :=
  match nonEmptyStr payload key with
  | some value => .ok value
  | none => .error (missingRequiredField (kind ++ py " payload missing REQUIRED field '" ++ key ++ py "'"))

/-- `_require_state_name` -/
def requireStateName (payload : Payload) : Except Exn Str :=
  match objectAt payload (py "state") with
  | none => .error (missingRequiredField (py "issue payload missing REQUIRED field 'state'"))
  | some stateObj =>
    match nonEmptyStr stateObj (py "name") with
    | none => .error (missingRequiredField (py "issue payload missing REQUIRED field 'state.name'"))
    | some name => .ok name

/-- `_coerce_priority`: a `bool` is no priority. -/
def coercePriority : Option Json → Option Int
  | some (.int n) => some n
  | _ => none

/-- The nodes of a connection that are objects; `[]` if there are none. -/
def nodesAt (payload : Payload) (key : Str) : List Payload :=
  match (objectAt payload key).bind fun obj => Json.get? obj (py "nodes") with
  | some (.arr nodes) => nodes.filterMap Json.obj?
  | _ => []

/-- `_extract_labels` -/
def extractLabels [Unicode] (payload : Payload) : List Str :=
  (nodesAt payload (py "labels")).filterMap fun node => (nonEmptyStr node (py "name")).map lower

/-- `_extract_state_name` -/
def extractStateName (payload : Payload) : Option Str :=
  (objectAt payload (py "state")).bind fun stateObj => nonEmptyStr stateObj (py "name")

/-- `node.get("type") == "blocks"` -/
def isBlocks (node : Payload) : Bool := ((Json.get? node (py "type")).bind Json.str?) == some (py "blocks")

/-- `_extract_blockers` -/
def extractBlockers (payload : Payload) : List BlockerRef :=
  ((nodesAt payload (py "inverseRelations")).filter isBlocks).filterMap fun node =>
    (objectAt node (py "issue")).map fun blockerIssue =>
      ⟨nonEmptyStr blockerIssue (py "id"), nonEmptyStr blockerIssue (py "identifier"), extractStateName blockerIssue⟩

section Dates

variable [Datetime]

/-- `_parse_iso8601(payload.get(key))` -/
def parseIso8601 (payload : Payload) (key : Str) : Option DateTime :=
  (nonEmptyStr payload key).bind fun value =>
    Datetime.fromisoformat (if value.getLast? = some 90 then replaceChar 90 (py "+00:00") value else value)

def parseIssue [Unicode] (payload : Payload) : Except Exn Issue := do
  let issueId ← requireStr (py "issue") payload (py "id")
  let identifier ← requireStr (py "issue") payload (py "identifier")
  let title ← requireStr (py "issue") payload (py "title")
  let state ← requireStateName payload
  pure
    { id := issueId
      identifier := identifier
      title := title
      state := state
      description := nonEmptyStr payload (py "description")
      priority := coercePriority (Json.get? payload (py "priority"))
      branchName := nonEmptyStr payload (py "branchName")
      url := nonEmptyStr payload (py "url")
      labels := extractLabels payload
      blockedBy := extractBlockers payload
      createdAt := parseIso8601 payload (py "createdAt")
      updatedAt := parseIso8601 payload (py "updatedAt") }

/-- `_extract_user_name`: the first of the two names that is one. -/
def extractUserName (payload : Payload) : Option Str :=
  (objectAt payload (py "user")).bind fun user =>
    (nonEmptyStr user (py "displayName")).or (nonEmptyStr user (py "name"))

def parseComment (payload : Payload) : Except Exn Comment := do
  let id ← requireStr (py "comment") payload (py "id")
  let body ← requireStr (py "comment") payload (py "body")
  pure
    { id := id
      body := body
      createdAt := parseIso8601 payload (py "createdAt")
      updatedAt := parseIso8601 payload (py "updatedAt")
      userId := (objectAt payload (py "user")).bind fun user => nonEmptyStr user (py "id")
      userName := extractUserName payload }

end Dates

/-! ## Errors -/

/-- `except LinearError` -/
def Exn.isLinearError (e : Exn) : Bool := e.cls == .linearError || e.cls == .linearStateNotFound

theorem requireStr_error {kind key : Str} {payload : Payload} {e : Exn} (h : requireStr kind payload key = .error e) :
    e.isLinearError = true := by
  unfold requireStr at h
  split at h
  · cases h
  · cases h
    rfl

theorem requireStateName_error {payload : Payload} {e : Exn} (h : requireStateName payload = .error e) :
    e.isLinearError = true := by
  unfold requireStateName at h
  split at h
  · cases h
    rfl
  · split at h
    · cases h
      rfl
    · cases h

/-- A bind that fails fails in one of its parts. -/
theorem error_of_bind {ε α β : Type} {x : Except ε α} {f : α → Except ε β} {e : ε} (h : (x >>= f) = .error e) :
    x = .error e ∨ ∃ a, x = .ok a ∧ f a = .error e := by
  cases x with
  | error e' =>
    cases h
    exact .inl rfl
  | ok a => exact .inr ⟨a, rfl, h⟩

/-- What a parser cannot read is an error of the tracker. -/
theorem parseIssue_error [Datetime] [Unicode] {payload : Payload} {e : Exn} (h : parseIssue payload = .error e) :
    e.isLinearError = true := by
  unfold parseIssue at h
  rcases error_of_bind h with h | ⟨_, -, h⟩
  · exact requireStr_error h
  rcases error_of_bind h with h | ⟨_, -, h⟩
  · exact requireStr_error h
  rcases error_of_bind h with h | ⟨_, -, h⟩
  · exact requireStr_error h
  rcases error_of_bind h with h | ⟨_, -, h⟩
  · exact requireStateName_error h
  · cases h

theorem parseComment_error [Datetime] {payload : Payload} {e : Exn} (h : parseComment payload = .error e) :
    e.isLinearError = true := by
  unfold parseComment at h
  rcases error_of_bind h with h | ⟨_, -, h⟩
  · exact requireStr_error h
  rcases error_of_bind h with h | ⟨_, -, h⟩
  · exact requireStr_error h
  · cases h

/-! ## What was parsed -/

/-- A bind that succeeds succeeds in both parts. -/
theorem ok_of_bind {ε α β : Type} {x : Except ε α} {f : α → Except ε β} {b : β} (h : (x >>= f) = .ok b) :
    ∃ a, x = .ok a ∧ f a = .ok b := by
  cases x with
  | error e => cases h
  | ok a => exact ⟨a, rfl, h⟩

theorem requireStr_ok {kind key value : Str} {payload : Payload} (h : requireStr kind payload key = .ok value) :
    nonEmptyStr payload key = some value := by
  unfold requireStr at h
  split at h
  · rename_i v hv
    cases h
    exact hv
  · cases h

theorem requireStateName_ok {payload : Payload} {name : Str} (h : requireStateName payload = .ok name) :
    extractStateName payload = some name := by
  unfold requireStateName at h
  split at h
  · cases h
  · rename_i stateObj hs
    split at h
    · cases h
    · rename_i v hv
      cases h
      rw [extractStateName, hs, Option.bind_some, hv]

/-- A parsed issue has the required fields of its node, and of the others what there is. -/
theorem parseIssue_ok [Datetime] [Unicode] {payload : Payload} {issue : Issue} (h : parseIssue payload = .ok issue) :
    nonEmptyStr payload (py "id") = some issue.id ∧ nonEmptyStr payload (py "identifier") = some issue.identifier ∧
    nonEmptyStr payload (py "title") = some issue.title ∧ extractStateName payload = some issue.state ∧
    issue.description = nonEmptyStr payload (py "description") ∧
    issue.priority = coercePriority (Json.get? payload (py "priority")) ∧
    issue.branchName = nonEmptyStr payload (py "branchName") ∧ issue.url = nonEmptyStr payload (py "url") ∧
    issue.labels = extractLabels payload ∧ issue.blockedBy = extractBlockers payload ∧
    issue.createdAt = parseIso8601 payload (py "createdAt") ∧ issue.updatedAt = parseIso8601 payload (py "updatedAt") := by
  unfold parseIssue at h
  obtain ⟨id, hid, h⟩ := ok_of_bind h
  obtain ⟨identifier, hidentifier, h⟩ := ok_of_bind h
  obtain ⟨title, htitle, h⟩ := ok_of_bind h
  obtain ⟨state, hstate, h⟩ := ok_of_bind h
  cases h
  exact ⟨requireStr_ok hid, requireStr_ok hidentifier, requireStr_ok htitle, requireStateName_ok hstate, rfl, rfl, rfl,
    rfl, rfl, rfl, rfl, rfl⟩

end RiverGang
