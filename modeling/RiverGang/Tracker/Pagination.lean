import Mathlib.Data.List.Forall2
import RiverGang.Lib.Pager
import RiverGang.Tracker.Normalize

/-!
# Pagination

The reads of `tracker/client.py`: two loops over the pages of a connection, one of issues and one of comments.

* `pagination_complete`: whatever the answers are, a loop returns the parsed nodes of all pages up to the first without a
  next one, or raises an error of the tracker (or what the transport raised), with the requests that belong to them.
* `pagination_stops_iff`: nothing bounds the number of pages. Against a server that always says that there is another
  page, a loop ends exactly if it comes to a page that it cannot read.
-/

open Py

namespace RiverGang

/-! ## Documents -/

def CANDIDATES_PAGE_SIZE : Int := 50
def STATE_REFRESH_PAGE_SIZE : Int := 50
def TERMINAL_FETCH_PAGE_SIZE : Int := 50
def COMMENTS_PAGE_SIZE : Int := 50

def CANDIDATES_QUERY : Str :=
  py "query Candidates($projectSlug: String!, $activeStates: [String!]!, $first: Int!, $after: String) \x7b\n" ++
    py "  issues(\n    first: $first\n    after: $after\n    filter: \x7b\n" ++
    py "      project: \x7b slugId: \x7b eq: $projectSlug \x7d \x7d\n" ++
    py "      state: \x7b name: \x7b in: $activeStates \x7d \x7d\n    \x7d\n  ) \x7b\n    nodes \x7b\n" ++
    py "      id\n      identifier\n      title\n      description\n      priority\n" ++
    py "      state \x7b name \x7d\n      branchName\n      url\n" ++
    py "      labels \x7b nodes \x7b name \x7d \x7d\n      inverseRelations \x7b\n        nodes \x7b\n" ++
    py "          type\n          issue \x7b\n            id\n            identifier\n" ++
    py "            state \x7b name \x7d\n          \x7d\n        \x7d\n      \x7d\n      createdAt\n" ++
    py "      updatedAt\n    \x7d\n    pageInfo \x7b\n      hasNextPage\n      endCursor\n    \x7d\n  \x7d\n" ++
    py "\x7d"

def STATE_REFRESH_QUERY : Str :=
  py "query StateRefresh($issueIds: [ID!]!, $first: Int!, $after: String) \x7b\n  issues(\n" ++
    py "    first: $first\n    after: $after\n    filter: \x7b\n      id: \x7b in: $issueIds \x7d\n" ++
    py "    \x7d\n  ) \x7b\n    nodes \x7b\n      id\n      identifier\n      title\n" ++
    py "      state \x7b name \x7d\n    \x7d\n    pageInfo \x7b\n      hasNextPage\n      endCursor\n" ++
    py "    \x7d\n  \x7d\n\x7d"

def TERMINAL_FETCH_QUERY : Str :=
  py "query TerminalFetch($projectSlug: String!, $stateNames: [String!]!, $first: Int!, $after: String) \x7b\n" ++
    py "  issues(\n    first: $first\n    after: $after\n    filter: \x7b\n" ++
    py "      project: \x7b slugId: \x7b eq: $projectSlug \x7d \x7d\n" ++
    py "      state: \x7b name: \x7b in: $stateNames \x7d \x7d\n    \x7d\n  ) \x7b\n    nodes \x7b\n" ++
    py "      id\n      identifier\n      title\n      description\n      priority\n" ++
    py "      state \x7b name \x7d\n      branchName\n      url\n" ++
    py "      labels \x7b nodes \x7b name \x7d \x7d\n      inverseRelations \x7b\n        nodes \x7b\n" ++
    py "          type\n          issue \x7b\n            id\n            identifier\n" ++
    py "            state \x7b name \x7d\n          \x7d\n        \x7d\n      \x7d\n      createdAt\n" ++
    py "      updatedAt\n    \x7d\n    pageInfo \x7b\n      hasNextPage\n      endCursor\n    \x7d\n  \x7d\n" ++
    py "\x7d"

def ISSUE_COMMENTS_QUERY : Str :=
  py "query IssueComments($id: String!, $first: Int!, $after: String) \x7b\n  issue(id: $id) \x7b\n" ++
    py "    comments(first: $first, after: $after) \x7b\n      nodes \x7b\n        id\n        body\n" ++
    py "        createdAt\n        updatedAt\n        user \x7b\n          id\n          name\n" ++
    py "          displayName\n        \x7d\n      \x7d\n      pageInfo \x7b\n        hasNextPage\n" ++
    py "        endCursor\n      \x7d\n    \x7d\n  \x7d\n\x7d"

/-! ## Envelopes -/

/-- `_require_connection` -/
def requireConnection (data : Payload) (key : Str) : Except Exn Payload :=
  match objectAt data key with
  | some connection => .ok connection
  | none => .error (unknownPayload (py "GraphQL response missing '" ++ key ++ py "' connection object"))

def requireNode (node : Json) : Except Exn Payload :=
  match node.obj? with
  | some node => .ok node
  | none => .error (unknownPayload (py "connection node must be an object, got " ++ node.typeName))

/-- `_require_nodes` -/
def requireNodes (connection : Payload) : Except Exn (List Payload) :=
  match Json.get? connection (py "nodes") with
  | some (.arr nodes) => nodes.mapM requireNode
  | _ => .error (unknownPayload (py "connection 'nodes' must be a list"))

/-- `_require_page_info` -/
def requirePageInfo (connection : Payload) : Except Exn Payload :=
  match objectAt connection (py "pageInfo") with
  | some pageInfo => .ok pageInfo
  | none => .error (unknownPayload (py "connection missing 'pageInfo' object"))

section Loops

variable [Builtins]

/-- `bool(page_info.get("hasNextPage"))` -/
def hasNextPage (pageInfo : Payload) : Bool := ((Json.get? pageInfo (py "hasNextPage")).getD .null).truthy

/-- What a round of a loop reads off a connection: the parsed nodes, and the cursor of the next page. -/
def readConnection {ν : Type} (parse : Payload → Except Exn ν) (missingEndCursor : Str) (connection : Payload) :
    Except Exn (List ν × Option Str) := do
  let nodes ← requireNodes connection
  let results ← nodes.mapM parse
  let pageInfo ← requirePageInfo connection
  if hasNextPage pageInfo then
    match nonEmptyStr pageInfo (py "endCursor") with
    | some endCursor => pure (results, some endCursor)
    | none => .error ⟨.linearError, missingEndCursor⟩
  else pure (results, none)

variable [Datetime]

def readIssues [Unicode] (data : Payload) : Except Exn (List Issue × Option Str) := do
  let connection ← requireConnection data (py "issues")
  readConnection parseIssue (py "Linear returned hasNextPage=true with missing/empty endCursor") connection

def readComments (data : Payload) : Except Exn (List Comment × Option Str) := do
  match objectAt data (py "issue") with
  | none => .error (unknownPayload (py "IssueComments response missing 'issue' object"))
  | some issue =>
    let connection ← requireConnection issue (py "comments")
    readConnection parseComment (py "Linear returned comments.hasNextPage=true with missing/empty endCursor") connection

/-! ## The loops -/

/-- A call of `transport.execute`. -/
structure PageRequest where
  query : Str
  vars : Payload

/-- `{**base_variables, "first": page_size, "after": cursor}` -/
def pageVars (base : Payload) (pageSize : Int) (cursor : Option Str) : Payload :=
  base ++ [(py "first", .int pageSize), (py "after", cursor.elim .null .str)]

/-- `_paginate_issues` -/
def paginateIssues [Unicode] (query : Str) (base : Payload) (pageSize : Int) :
    Pager PageRequest (Except Exn Payload) Exn Issue Str where
  request cursor := ⟨query, pageVars base pageSize cursor⟩
  page answer := answer.bind readIssues

def fetchComments (issueId : Str) : Pager PageRequest (Except Exn Payload) Exn Comment Str where
  request cursor := ⟨ISSUE_COMMENTS_QUERY, pageVars [(py "id", .str issueId)] COMMENTS_PAGE_SIZE cursor⟩
  page answer := answer.bind readComments

/-- A read that is not made for an empty list. -/
def fetchUnlessEmpty [Unicode] (l : List Str) (query : Str) (base : Payload) (pageSize : Int)
    (script : List (Except Exn Payload)) : List PageRequest × Option (Except Exn (List Issue)) :=
  if l = [] then ([], some (.ok [])) else (paginateIssues query base pageSize).play [] none script

def fetchCandidateIssues [Unicode] (projectSlug : Str) (activeStates : List Str) :
    List (Except Exn Payload) → List PageRequest × Option (Except Exn (List Issue)) :=
  fetchUnlessEmpty activeStates CANDIDATES_QUERY
    [(py "projectSlug", .str projectSlug), (py "activeStates", .arr (activeStates.map .str))] CANDIDATES_PAGE_SIZE

def fetchIssueStatesByIds [Unicode] (issueIds : List Str) :
    List (Except Exn Payload) → List PageRequest × Option (Except Exn (List Issue)) :=
  fetchUnlessEmpty issueIds STATE_REFRESH_QUERY [(py "issueIds", .arr (issueIds.map .str))] STATE_REFRESH_PAGE_SIZE

def fetchIssuesByStates [Unicode] (projectSlug : Str) (stateNames : List Str) :
    List (Except Exn Payload) → List PageRequest × Option (Except Exn (List Issue)) :=
  fetchUnlessEmpty stateNames TERMINAL_FETCH_QUERY
    [(py "projectSlug", .str projectSlug), (py "stateNames", .arr (stateNames.map .str))] TERMINAL_FETCH_PAGE_SIZE

end Loops

/-! ## Pages -/

section Pages

variable {ν : Type} {parse : Payload → Except Exn ν}

theorem mapM_ok_iff {α β : Type} {f : α → Except Exn β} : ∀ {l : List α} {r : List β},
    l.mapM f = .ok r ↔ List.Forall₂ (fun a b => f a = .ok b) l r
  | [], r => by
    rw [List.mapM_nil, List.forall₂_nil_left_iff]
    exact ⟨fun h => by cases h; rfl, fun h => by rw [h]; rfl⟩
  | a :: l, r => by
    rw [List.mapM_cons]
    constructor
    · intro h
      obtain ⟨b, hb, h⟩ := ok_of_bind h
      obtain ⟨r', hr', h⟩ := ok_of_bind h
      cases h
      exact .cons hb (mapM_ok_iff.1 hr')
    · intro h
      cases h with
      | @cons _ b _ r' hb h =>
        rw [hb, mapM_ok_iff.2 h]
        rfl

theorem mapM_error {α β : Type} {f : α → Except Exn β} {e : Exn} : ∀ {l : List α}, l.mapM f = .error e →
    ∃ a ∈ l, f a = .error e
  | [], h => by cases h
  | a :: l, h => by
    rw [List.mapM_cons] at h
    rcases error_of_bind h with h | ⟨b, -, h⟩
    · exact ⟨a, by simp, h⟩
    rcases error_of_bind h with h | ⟨r, -, h⟩
    · obtain ⟨a', ha', he⟩ := mapM_error h
      exact ⟨a', by simp [ha'], he⟩
    · cases h

/-- A connection is a page: a list of objects that can all be parsed, and its page info. -/
def IsPage (parse : Payload → Except Exn ν) (connection : Payload) (results : List ν) (pageInfo : Payload) : Prop :=
  ∃ nodes, Json.get? connection (py "nodes") = some (.arr (nodes.map .obj)) ∧
    List.Forall₂ (fun node result => parse node = .ok result) nodes results ∧
    objectAt connection (py "pageInfo") = some pageInfo

theorem mem_parsed {nodes : List Payload} {results : List ν}
    (h : List.Forall₂ (fun node result => parse node = .ok result) nodes results) {result : ν} (hr : result ∈ results) :
    ∃ node ∈ nodes, parse node = .ok result := by
  induction h with
  | nil => cases hr
  | @cons node result' nodes results hp _ ih =>
    rcases List.mem_cons.1 hr with rfl | hr
    · exact ⟨node, by simp, hp⟩
    · obtain ⟨node', hm, hp'⟩ := ih hr
      exact ⟨node', by simp [hm], hp'⟩

theorem requireNodes_ok_iff {connection : Payload} {nodes : List Payload} : requireNodes connection = .ok nodes ↔
    Json.get? connection (py "nodes") = some (.arr (nodes.map .obj)) := by
  have hnode : ∀ {a : Json} {b : Payload}, requireNode a = .ok b ↔ a = .obj b := by
    intro a b
    cases a <;> simp [requireNode, Json.obj?]
  have hnodes : ∀ {l : List Json}, List.Forall₂ (fun a b => requireNode a = .ok b) l nodes ↔ l = nodes.map .obj := by
    intro l
    simp only [hnode]
    rw [← List.forall₂_eq_eq_eq, List.forall₂_map_right_iff]
  unfold requireNodes
  cases hn : Json.get? connection (py "nodes") with
  | none => simp
  | some value =>
    cases value with
    | arr l => simp only [mapM_ok_iff, hnodes, Option.some.injEq, Json.arr.injEq]
    | null | bool | int | float | str | obj => simp

variable [Builtins]

/-- What a connection is read as. -/
theorem readConnection_ok_iff {missing : Str} {connection : Payload} {results : List ν} {next : Option Str} :
    readConnection parse missing connection = .ok (results, next) ↔ ∃ pageInfo, IsPage parse connection results pageInfo ∧
      (next = none ∧ hasNextPage pageInfo = false ∨
        next.isSome ∧ hasNextPage pageInfo = true ∧ nonEmptyStr pageInfo (py "endCursor") = next) := by
  constructor
  · intro h
    unfold readConnection at h
    obtain ⟨nodes, hn, h⟩ := ok_of_bind h
    obtain ⟨rs, hr, h⟩ := ok_of_bind h
    obtain ⟨info, hi, h⟩ := ok_of_bind h
    have hinfo : objectAt connection (py "pageInfo") = some info := by
      unfold requirePageInfo at hi
      split at hi
      · rename_i v hv
        cases hi
        exact hv
      · cases hi
    have hpage : IsPage parse connection rs info := ⟨nodes, requireNodes_ok_iff.1 hn, mapM_ok_iff.1 hr, hinfo⟩
    cases hmore : hasNextPage info with
    | false =>
      rw [hmore] at h
      cases h
      exact ⟨info, hpage, .inl ⟨rfl, hmore⟩⟩
    | true =>
      rw [hmore, if_pos rfl] at h
      split at h
      · rename_i cursor hc
        cases h
        exact ⟨info, hpage, .inr ⟨rfl, hmore, hc⟩⟩
      · cases h
  · rintro ⟨info, ⟨nodes, hn, hr, hi⟩, h⟩
    simp only [readConnection, requirePageInfo, requireNodes_ok_iff.2 hn, mapM_ok_iff.2 hr, hi, Bind.bind, Except.bind]
    rcases h with ⟨rfl, hmore⟩ | ⟨hsome, hmore, hc⟩
    · rw [hmore]
      rfl
    · obtain ⟨cursor, rfl⟩ := Option.isSome_iff_exists.1 hsome
      rw [hmore, if_pos rfl, hc]
      rfl

omit [Builtins] in
theorem requireNodes_error {connection : Payload} {e : Exn} (h : requireNodes connection = .error e) :
    e.isLinearError = true := by
  unfold requireNodes at h
  split at h
  · obtain ⟨node, -, h⟩ := mapM_error h
    unfold requireNode at h
    split at h
    · cases h
    · cases h
      rfl
  · cases h
    rfl

theorem readConnection_error (hp : ∀ {node e}, parse node = .error e → e.isLinearError = true) {missing : Str}
    {connection : Payload} {e : Exn} (h : readConnection parse missing connection = .error e) :
    e.isLinearError = true := by
  unfold readConnection at h
  rcases error_of_bind h with h | ⟨nodes, -, h⟩
  · exact requireNodes_error h
  rcases error_of_bind h with h | ⟨results, -, h⟩
  · obtain ⟨node, -, h⟩ := mapM_error h
    exact hp h
  rcases error_of_bind h with h | ⟨info, -, h⟩
  · unfold requirePageInfo at h
    split at h
    · cases h
    · cases h
      rfl
  · split at h
    · split at h
      · cases h
      · cases h
        rfl
    · cases h

end Pages

/-! ## Runs of a loop -/

def issuesConnection (data : Payload) : Option Payload := objectAt data (py "issues")

def commentsConnection (data : Payload) : Option Payload :=
  (objectAt data (py "issue")).bind fun issue => objectAt issue (py "comments")

section Runs

variable {ν : Type} (connectionOf : Payload → Option Payload) (parse : Payload → Except Exn ν)

/-- An answer is a page of the connection, with these parsed nodes and this page info. -/
def AnswersPage (answer : Except Exn Payload) (results : List ν) (pageInfo : Payload) : Prop :=
  ∃ data connection, answer = .ok data ∧ connectionOf data = some connection ∧
    IsPage parse connection results pageInfo

variable [Builtins]

/-- An answer is a page that says that there is another one, at a cursor. -/
def AnswersMore (turn : Except Exn Payload × List ν × Str) : Prop :=
  ∃ pageInfo, AnswersPage connectionOf parse turn.1 turn.2.1 pageInfo ∧ hasNextPage pageInfo = true ∧
    nonEmptyStr pageInfo (py "endCursor") = some turn.2.2

/-- An answer is a last page. -/
def AnswersLast (answer : Except Exn Payload) (results : List ν) : Prop :=
  ∃ pageInfo, AnswersPage connectionOf parse answer results pageInfo ∧ hasNextPage pageInfo = false

/-- A complete or failed read, for the answers of the transport: the pages that were read, the requests, and the outcome.
The first request is for no cursor, and each other one for that of the page before it. -/
inductive Reads (request : Option Str → PageRequest) (script : List (Except Exn Payload)) :
    List PageRequest × Option (Except Exn (List ν)) → Prop
  /-- all answers are pages with a next one, which it waits for -/
  | waits (turns : List (Except Exn Payload × List ν × Str)) : (∀ t ∈ turns, AnswersMore connectionOf parse t) →
      script = turns.map Prod.fst →
      Reads request script (request none :: turns.map fun t => request (some t.2.2), none)
  /-- the first answer that is no page, or one whose next page has no cursor -/
  | raises (turns : List (Except Exn Payload × List ν × Str)) (answer : Except Exn Payload)
      (rest : List (Except Exn Payload)) (e : Exn) : (∀ t ∈ turns, AnswersMore connectionOf parse t) →
      script = turns.map Prod.fst ++ answer :: rest → (∀ results cursor, ¬ AnswersMore connectionOf parse
        (answer, results, cursor)) → (∀ results, ¬ AnswersLast connectionOf parse answer results) →
      (e.isLinearError = true ∨ answer = .error e) →
      Reads request script (request none :: turns.map fun t => request (some t.2.2), some (.error e))
  /-- the first page that has no next one -/
  | returns (turns : List (Except Exn Payload × List ν × Str)) (answer : Except Exn Payload)
      (rest : List (Except Exn Payload)) (results : List ν) : (∀ t ∈ turns, AnswersMore connectionOf parse t) →
      script = turns.map Prod.fst ++ answer :: rest → AnswersLast connectionOf parse answer results →
      Reads request script (request none :: turns.map fun t => request (some t.2.2),
        some (.ok (turns.flatMap (fun t => t.2.1) ++ results)))

/-- A pager reads the pages of a connection. -/
structure Paginates (P : Pager PageRequest (Except Exn Payload) Exn ν Str) : Prop where
  more : ∀ {answer results cursor},
    P.page answer = .ok (results, some cursor) ↔ AnswersMore connectionOf parse (answer, results, cursor)
  last : ∀ {answer results}, P.page answer = .ok (results, none) ↔ AnswersLast connectionOf parse answer results
  error : ∀ {answer e}, P.page answer = .error e → e.isLinearError = true ∨ answer = .error e

variable {connectionOf parse}

/-- Read off a connection, that is what it does. -/
theorem paginates_of_read (missing : Str) {P : Pager PageRequest (Except Exn Payload) Exn ν Str}
    {read : Payload → Except Exn (List ν × Option Str)} (hP : ∀ answer, P.page answer = answer.bind read)
    (hread : ∀ data, (∃ connection, connectionOf data = some connection ∧
        read data = readConnection parse missing connection) ∨
      connectionOf data = none ∧ ∃ e, read data = .error e ∧ e.isLinearError = true)
    (hparse : ∀ {node e}, parse node = .error e → e.isLinearError = true) : Paginates connectionOf parse P := by
  have hok : ∀ {answer results next}, P.page answer = .ok (results, next) ↔ ∃ data connection, answer = .ok data ∧
      connectionOf data = some connection ∧ readConnection parse missing connection = .ok (results, next) := by
    intro answer results next
    rw [hP]
    cases answer with
    | error e => simp [Except.bind]
    | ok data =>
      rcases hread data with ⟨connection, hc, hr⟩ | ⟨hc, e, hr, -⟩
      · simp [Except.bind, hc, hr]
      · simp [Except.bind, hc, hr]
  refine ⟨?_, ?_, ?_⟩
  · intro answer results cursor
    rw [hok]
    constructor
    · rintro ⟨data, connection, hd, hc, hr⟩
      obtain ⟨info, hpage, ⟨hnone, -⟩ | ⟨-, hmore, hcursor⟩⟩ := readConnection_ok_iff.1 hr
      · cases hnone
      · exact ⟨info, ⟨data, connection, hd, hc, hpage⟩, hmore, hcursor⟩
    · rintro ⟨info, ⟨data, connection, hd, hc, hpage⟩, hmore, hcursor⟩
      exact ⟨data, connection, hd, hc, readConnection_ok_iff.2 ⟨info, hpage, .inr ⟨rfl, hmore, hcursor⟩⟩⟩
  · intro answer results
    rw [hok]
    constructor
    · rintro ⟨data, connection, hd, hc, hr⟩
      obtain ⟨info, hpage, ⟨-, hmore⟩ | ⟨hsome, -⟩⟩ := readConnection_ok_iff.1 hr
      · exact ⟨info, ⟨data, connection, hd, hc, hpage⟩, hmore⟩
      · cases hsome
    · rintro ⟨info, ⟨data, connection, hd, hc, hpage⟩, hmore⟩
      exact ⟨data, connection, hd, hc, readConnection_ok_iff.2 ⟨info, hpage, .inl ⟨rfl, hmore⟩⟩⟩
  · intro answer e h
    rw [hP] at h
    cases answer with
    | error e' =>
      cases h
      exact .inr rfl
    | ok data =>
      refine .inl ?_
      have hr : read data = .error e := h
      rcases hread data with ⟨connection, -, h⟩ | ⟨-, e', h, he⟩
      · exact readConnection_error hparse (h ▸ hr)
      · rw [h] at hr
        cases hr
        exact he

/-- What a run of such a loop is. -/
theorem Paginates.reads {P : Pager PageRequest (Except Exn Payload) Exn ν Str} (h : Paginates connectionOf parse P)
    (script : List (Except Exn Payload)) : Reads connectionOf parse P.request script (P.play [] none script) := by
  obtain ⟨turns, hturns, hcases⟩ := P.play_cases script [] none
  have hmore : ∀ t ∈ turns, AnswersMore connectionOf parse t := fun t ht => h.more.1 (hturns t ht)
  rcases hcases with ⟨hs, hp⟩ | ⟨answer, rest, e, hs, ha, hp⟩ | ⟨answer, rest, results, hs, ha, hp⟩
  · rw [hp]
    exact .waits turns hmore hs
  · rw [hp]
    refine .raises turns answer rest e hmore hs (fun results cursor hm => ?_) (fun results hl => ?_) (h.error ha)
    · rw [h.more.2 hm] at ha
      cases ha
    · rw [h.last.2 hl] at ha
      cases ha
  · rw [hp]
    exact .returns turns answer rest results hmore hs (h.last.1 ha)

end Runs

/-! ## The two loops -/

section Both

variable [Builtins] [Datetime] [Unicode]

theorem paginates_issues (query : Str) (base : Payload) (pageSize : Int) :
    Paginates issuesConnection parseIssue (paginateIssues query base pageSize) := by
  refine paginates_of_read (py "Linear returned hasNextPage=true with missing/empty endCursor") (fun _ => rfl)
    (fun data => ?_) parseIssue_error
  unfold readIssues requireConnection issuesConnection
  cases objectAt data (py "issues") with
  | some connection => exact .inl ⟨connection, rfl, rfl⟩
  | none => exact .inr ⟨rfl, _, rfl, rfl⟩

omit [Unicode] in
theorem paginates_comments (issueId : Str) : Paginates commentsConnection parseComment (fetchComments issueId) := by
  refine paginates_of_read (py "Linear returned comments.hasNextPage=true with missing/empty endCursor") (fun _ => rfl)
    (fun data => ?_) parseComment_error
  unfold readComments requireConnection commentsConnection
  cases objectAt data (py "issue") with
  | none => exact .inr ⟨rfl, _, rfl, rfl⟩
  | some issue =>
    cases hc : objectAt issue (py "comments") with
    | some connection => exact .inl ⟨connection, hc, by simp [hc, Bind.bind, Except.bind]⟩
    | none => exact .inr ⟨hc, _, by simp [hc, Bind.bind, Except.bind]; rfl, rfl⟩

omit [Builtins] in
/-- What a page gives is parsed from a node of its answer. -/
theorem AnswersPage.parsed {answer : Except Exn Payload} {results : List Issue} {pageInfo : Payload} {issue : Issue}
    (h : AnswersPage issuesConnection parseIssue answer results pageInfo) (hi : issue ∈ results) :
    ∃ data, answer = .ok data ∧ ∃ node ∈ nodesAt data (py "issues"), parseIssue node = .ok issue := by
  obtain ⟨data, connection, hd, hc, nodes, hn, hr, -⟩ := h
  have hnodes : nodesAt data (py "issues") = nodes := by
    rw [nodesAt, show objectAt data (py "issues") = some connection from hc, Option.bind_some, hn]
    simp only [List.filterMap_map]
    exact List.filterMap_some
  obtain ⟨node, hm, hp⟩ := mem_parsed hr hi
  exact ⟨data, hd, node, hnodes ▸ hm, hp⟩

/-- What a read returns is parsed from nodes of the answers. -/
theorem fetched_parsed {l : List Str} {query : Str} {base : Payload} {pageSize : Int} {script : List (Except Exn Payload)}
    {all : List Issue} {issue : Issue} (h : (fetchUnlessEmpty l query base pageSize script).2 = some (.ok all))
    (hi : issue ∈ all) : ∃ data, .ok data ∈ script ∧ ∃ node ∈ nodesAt data (py "issues"), parseIssue node = .ok issue := by
  unfold fetchUnlessEmpty at h
  split at h
  · cases h
    simp at hi
  have hr := (paginates_issues query base pageSize).reads script
  generalize (paginateIssues query base pageSize).play [] none script = run at hr h
  cases hr with
  | waits => cases h
  | raises => cases h
  | returns turns answer rest results hmore hs hlast =>
    cases h
    rcases List.mem_append.1 hi with hi | hi
    · obtain ⟨t, ht, hi⟩ := List.mem_flatMap.1 hi
      obtain ⟨info, hpage, -⟩ := hmore t ht
      obtain ⟨data, hd, node⟩ := hpage.parsed hi
      exact ⟨data, by rw [hs, ← hd]; exact List.mem_append_left _ (List.mem_map_of_mem ht), node⟩
    · obtain ⟨info, hpage, -⟩ := hlast
      obtain ⟨data, hd, node⟩ := hpage.parsed hi
      exact ⟨data, by simp [hs, hd], node⟩

/-- **Complete or an error**, for every query, every page size and all answers of the transport. -/
theorem pagination_complete (query : Str) (base : Payload) (pageSize : Int) (issueId : Str)
    (script : List (Except Exn Payload)) :
    Reads issuesConnection parseIssue (fun cursor => ⟨query, pageVars base pageSize cursor⟩) script
      ((paginateIssues query base pageSize).play [] none script) ∧
    Reads commentsConnection parseComment
      (fun cursor => ⟨ISSUE_COMMENTS_QUERY, pageVars [(py "id", .str issueId)] COMMENTS_PAGE_SIZE cursor⟩) script
      ((fetchComments issueId).play [] none script) :=
  ⟨(paginates_issues query base pageSize).reads script, (paginates_comments issueId).reads script⟩

end Both

/-! ## A page without `hasNextPage` -/

section Sample

@[reducible] def sampleDates : Datetime where
  fromisoformat _ := none

def sampleNode (id : Str) : Payload :=
  [(py "id", .str id), (py "identifier", .str id), (py "title", .str (py "t")), (py "body", .str (py "b")),
    (py "state", .obj [(py "name", .str (py "Todo"))])]

def sampleConnection (nodes : List Payload) (pageInfo : Payload) : Json :=
  .obj [(py "nodes", .arr (nodes.map .obj)), (py "pageInfo", .obj pageInfo)]

/-- A page of issues that is a page of comments too. -/
def samplePage (nodes : List Payload) (pageInfo : Payload) : Payload :=
  [(py "issues", sampleConnection nodes pageInfo), (py "issue", .obj [(py "comments", sampleConnection nodes pageInfo)])]

attribute [local instance] asciiTables sampleBuiltins sampleDates

/-- A page whose `pageInfo` does not say whether there is another one is the last one for both loops: the second page of
the script, with the other node, is never asked for. -/
theorem unsaid_hasNextPage_ends :
    Json.get? ([] : Payload) (py "hasNextPage") = none ∧
    (((paginateIssues STATE_REFRESH_QUERY [] 50).play [] none
      [.ok (samplePage [sampleNode (py "a")] []),
        .ok (samplePage [sampleNode (py "b")] [(py "hasNextPage", .bool false)])]).2.bind Except.toOption).map
      (List.map Issue.id) = some [py "a"] ∧
    (((fetchComments (py "i")).play [] none
      [.ok (samplePage [sampleNode (py "a")] []),
        .ok (samplePage [sampleNode (py "b")] [(py "hasNextPage", .bool false)])]).2.bind Except.toOption).map
      (List.map Comment.id) = some [py "a"] := by
  decide +kernel

end Sample

/-! ## A server that always says that there is another page -/

section Endless

variable (connectionOf : Payload → Option Payload) (server : List PageRequest → Payload)

/-- Every answer is a connection whose `hasNextPage` is true. -/
def AlwaysMore : Prop := ∀ requests, ∃ connection pageInfo, connectionOf (server requests) = some connection ∧
  objectAt connection (py "pageInfo") = some pageInfo ∧ Json.get? pageInfo (py "hasNextPage") = some (.bool true)

variable [Builtins]

/-- After `n` answers of the server: the requests, and the outcome if there is one. -/
def after {ν : Type} (P : Pager PageRequest (Except Exn Payload) Exn ν Str) (n : Nat) :
    List PageRequest × Option (Except Exn (List ν)) := P.against (fun requests => .ok (server requests)) n

/-- How a loop ends against the server: only by an error of the tracker, exactly if it comes to an answer that is no
readable page with a cursor; and until then every answer makes it send another request. -/
structure EndsByError {ν : Type} (parse : Payload → Except Exn ν)
    (P : Pager PageRequest (Except Exn Payload) Exn ν Str) : Prop where
  ends_iff : (∃ n, (after server P n).2.isSome) ↔
    ∃ n, ∀ results cursor, ¬ AnswersMore connectionOf parse (.ok (server (after server P n).1), results, cursor)
  outcome : ∀ {n r}, (after server P n).2 = some r → ∃ e, r = .error e ∧ e.isLinearError = true
  goes_on : ∀ {n}, (after server P n).2 = none → (after server P n).1.length = n + 1

variable {connectionOf server}

theorem Paginates.endsByError {ν : Type} {parse : Payload → Except Exn ν}
    {P : Pager PageRequest (Except Exn Payload) Exn ν Str} (h : Paginates connectionOf parse P)
    (hserver : AlwaysMore connectionOf server) : EndsByError connectionOf server parse P where
  ends_iff := by
    simp only [Option.isSome_iff_ne_none, after, Pager.stops_iff, Ne, h.more]
    rfl
  outcome {n r} hr := by
    cases r with
    | ok all =>
      -- a last page says that there is no other one
      obtain ⟨m, -, final, hl⟩ := Pager.returned_last hr
      obtain ⟨info, ⟨data, connection, hd, hc, -, -, -, hi⟩, hmore⟩ := h.last.1 hl
      obtain ⟨connection', info', hc', hi', htrue⟩ := hserver (P.against (fun requests => .ok (server requests)) m).1
      cases hd
      rw [hc] at hc'
      cases hc'
      rw [hi] at hi'
      cases hi'
      rw [hasNextPage, htrue] at hmore
      cases hmore
    | error e =>
      obtain ⟨m, -, he⟩ := Pager.raised_error hr
      refine ⟨e, rfl, (h.error he).resolve_right fun h => ?_⟩
      cases h
  goes_on h := Pager.length_requests h

end Endless

/-- **No end of its own**: only an answer that a loop cannot read ends it. -/
theorem pagination_stops_iff [Builtins] [Datetime] [Unicode] (query : Str) (base : Payload) (pageSize : Int)
    (issueId : Str) (server : List PageRequest → Payload) :
    (AlwaysMore issuesConnection server →
      EndsByError issuesConnection server parseIssue (paginateIssues query base pageSize)) ∧
    (AlwaysMore commentsConnection server →
      EndsByError commentsConnection server parseComment (fetchComments issueId)) :=
  ⟨(paginates_issues query base pageSize).endsByError, (paginates_comments issueId).endsByError⟩

section Stuck

attribute [local instance] asciiTables sampleBuiltins sampleDates

/-- A server that always gives the same cursor, so from the second request on the one that it was asked for. -/
def stuckServer (_ : List PageRequest) : Payload :=
  samplePage [] [(py "hasNextPage", .bool true), (py "endCursor", .str (py "c"))]

theorem stuckServer_more : AlwaysMore issuesConnection stuckServer ∧ AlwaysMore commentsConnection stuckServer :=
  ⟨fun _ => ⟨_, _, rfl, rfl, rfl⟩, fun _ => ⟨_, _, rfl, rfl, rfl⟩⟩

theorem pagination_stops_iff_stuck :
    EndsByError issuesConnection stuckServer parseIssue (paginateIssues STATE_REFRESH_QUERY [] 50) ∧
    EndsByError commentsConnection stuckServer parseComment (fetchComments (py "i")) :=
  ⟨(pagination_stops_iff STATE_REFRESH_QUERY [] 50 (py "i") stuckServer).1 stuckServer_more.1,
    (pagination_stops_iff STATE_REFRESH_QUERY [] 50 (py "i") stuckServer).2 stuckServer_more.2⟩

/-- Both loops ask that server for one more page after every answer. -/
theorem stuckServer_endless :
    AlwaysMore issuesConnection stuckServer ∧ AlwaysMore commentsConnection stuckServer ∧
    (∀ n, (after stuckServer (paginateIssues STATE_REFRESH_QUERY [] 50) n).2 = none ∧
      (after stuckServer (paginateIssues STATE_REFRESH_QUERY [] 50) n).1.length = n + 1) ∧
    ∀ n, (after stuckServer (fetchComments (py "i")) n).2 = none ∧
      (after stuckServer (fetchComments (py "i")) n).1.length = n + 1 := by
  have hissues : ∀ n, (after stuckServer (paginateIssues STATE_REFRESH_QUERY [] 50) n).2 = none :=
    fun n => Pager.waits_iff.2 fun _ _ => ⟨[], py "c", rfl⟩
  have hcomments : ∀ n, (after stuckServer (fetchComments (py "i")) n).2 = none :=
    fun n => Pager.waits_iff.2 fun _ _ => ⟨[], py "c", rfl⟩
  exact ⟨stuckServer_more.1, stuckServer_more.2, fun n => ⟨hissues n, Pager.length_requests (hissues n)⟩,
    fun n => ⟨hcomments n, Pager.length_requests (hcomments n)⟩⟩

end Stuck

end RiverGang
