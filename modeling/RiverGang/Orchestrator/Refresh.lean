import RiverGang.Orchestrator.Handover
import RiverGang.Orchestrator.Stalls
import RiverGang.Tracker.Pagination

/-!
# The refresh of the running issues

A tick asks for the running issues by `STATE_REFRESH_QUERY`, whose nodes have four fields. `parse_issue` reads what a node
does not have as absent, and `_reconcile` replaces the whole issue of an entry by what was parsed.

* `reconcile_refreshed`: the entry of an issue that is still active has the refreshed issue after the reconciliation.
* `refresh_keeps_iff`: the other fields of the issue survive exactly if there was nothing in them.
-/

namespace RiverGang

open Py Coop Task

/-! ## The projection -/

/-- A node of `STATE_REFRESH_QUERY`. -/
def Projected (node : Payload) : Prop :=
  ∀ p ∈ node, p.1 ∈ [py "id", py "identifier", py "title", py "state"]

theorem Projected.get? {node : Payload} (h : Projected node) {key : Str}
    (hk : key ∉ [py "id", py "identifier", py "title", py "state"]) : Json.get? node key = none := by
  rw [Json.get?, Option.map_eq_none_iff, List.find?_eq_none]
  intro p hp
  rw [decide_eq_true_eq]
  rintro rfl
  exact hk (h p (List.mem_reverse.1 hp))

/-- An issue with nothing in the fields that the projection does not carry. -/
structure Bare (issue : Issue) : Prop where
  description : issue.description = none
  priority : issue.priority = none
  branchName : issue.branchName = none
  url : issue.url = none
  labels : issue.labels = []
  blockedBy : issue.blockedBy = []
  createdAt : issue.createdAt = none
  updatedAt : issue.updatedAt = none

/-- What is parsed of such a node is bare. -/
theorem bare_of_projected [Datetime] [Unicode] {node : Payload} {issue : Issue} (h : Projected node)
    (hp : parseIssue node = .ok issue) : Bare issue := by
  have hstr : ∀ {key}, key ∉ [py "id", py "identifier", py "title", py "state"] → nonEmptyStr node key = none := by
    intro key hk
    rw [nonEmptyStr, h.get? hk]
    rfl
  have hnodes : ∀ {key}, key ∉ [py "id", py "identifier", py "title", py "state"] → nodesAt node key = [] := by
    intro key hk
    rw [nodesAt, objectAt, h.get? hk]
    rfl
  have hdate : ∀ {key}, key ∉ [py "id", py "identifier", py "title", py "state"] → parseIso8601 node key = none := by
    intro key hk
    rw [parseIso8601, hstr hk]
    rfl
  obtain ⟨-, -, -, -, hdescription, hpriority, hbranch, hurl, hlabels, hblockers, hcreated, hupdated⟩ := parseIssue_ok hp
  exact
    { description := hdescription.trans (hstr (by decide +kernel))
      priority := by rw [hpriority, h.get? (by decide +kernel)]; rfl
      branchName := hbranch.trans (hstr (by decide +kernel))
      url := hurl.trans (hstr (by decide +kernel))
      labels := by rw [hlabels, extractLabels, hnodes (by decide +kernel)]; rfl
      blockedBy := by rw [hblockers, extractBlockers, hnodes (by decide +kernel)]; rfl
      createdAt := hcreated.trans (hdate (by decide +kernel))
      updatedAt := hupdated.trans (hdate (by decide +kernel)) }

/-! ## The reconciliation -/

section Service

variable [Unicode] {D : OrchDiscipline} {i : Str} {entry : RunningEntry} {r : Issue} {P : Proto OrchSig World}
  {X : Exn → World → Prop} {v w w' : World}

omit [Unicode] in
/-- The refreshes of one entry, if there are any, all with the same issue. -/
theorem forEach_refreshEntry {l : List (Str × Issue)} (hv : v.state.running.get? i = some entry)
    (hl : ∀ p ∈ l, p.1 = i → p.2 = r) :
    (forEach l (fun p => withEntry p.1 fun w entry => w.refreshEntry p.1 entry p.2) v).Sat P (fun _ => True)
      (fun _ v' => ∃ issue, v'.state.running.get? i = some { entry with issue := issue } ∧
        (i ∈ l.map Prod.fst → issue = r)) X := by
  refine Res.Sat.forEach_past (J := fun past (u : World) => ∃ issue,
    u.state.running.get? i = some { entry with issue := issue } ∧ (i ∈ past.map Prod.fst → issue = r)) (p := [])
    (fun before p after hsplit u hu => ?_) ⟨entry.issue, hv, by simp⟩
  obtain ⟨issue, he, hpast⟩ := hu
  have hp : p ∈ l := by simp [hsplit]
  cases hget : u.state.running.get? p.1 with
  | none =>
    rw [withEntry_none hget]
    refine ⟨issue, he, fun hi => hpast ?_⟩
    rw [List.map_append, List.mem_append] at hi
    refine hi.resolve_right fun hi => ?_
    rw [List.map_singleton, List.mem_singleton] at hi
    rw [hi, hget] at he
    cases he
  | some entry' =>
    rw [withEntry_some hget]
    by_cases hi : p.1 = i
    · rw [hi, he] at hget
      cases hget
      refine ⟨p.2, ?_, fun _ => hl p hp hi⟩
      rw [hi]
      exact Dict.get?_insert_self ..
    · refine ⟨issue, ?_, fun hm => hpast ?_⟩
      · exact (Dict.get?_insert_of_ne _ _ hi).trans he
      · rw [List.map_append, List.mem_append] at hm
        refine hm.resolve_right fun hm => hi ?_
        rw [List.map_singleton, List.mem_singleton] at hm
        exact hm.symm

omit [Unicode] in
/-- Terminations leave the state alone. -/
theorem forEach_terminate {ids : List Str} {f : World → RunningEntry → World}
    (hf : ∀ (u : World) entry, (f u entry).state = u.state) :
    (forEach ids (fun issueId => withEntry issueId f) v).Sat P (fun _ => True) (fun _ v' => v'.state = v.state) X := by
  refine Res.Sat.forEach (J := fun u : World => u.state = v.state) (fun issueId _ u hu => ?_) rfl
  exact withEntry_sat hu fun entry _ => (hf u entry).trans hu

/-- **What a refresh does** to the entry of an issue that is still active: its issue is the refreshed one. -/
theorem reconcile_refreshed {ids : List Str} {refreshed : List Issue} {o : Except Exn Unit}
    (hl : Logged (orchestrator.proto D .pollTick) (reconcile w) [⟨.fetchIssueStatesByIds ids, .ok refreshed⟩] o w')
    (hrun : w.state.running.get? i = some entry) (hr : refreshedById refreshed i = some r)
    (hactive : w.config.tracker.Works r.state) : w'.state.running.get? i = some { entry with issue := r } := by
  have hreap : w.stallsReaped.state = w.state ∧ w.stallsReaped.config = w.config := by
    rw [World.stallsReaped, World.reapAll_eq]
    exact ⟨rfl, rfl⟩
  rw [reconcile_eq] at hl
  unfold refreshRunning at hl
  simp only [bind_apply, get_apply, Res.bind_ret] at hl
  split at hl
  · cases hl
  cases hl with
  | @await _ _ u _ _ _ _ _ hrel _ hk =>
    have hf := drift_frame hrel
    have hstate : u.state = w.state := hf.state.trans hreap.1
    have hconfig : u.config = w.config := hf.config.trans hreap.2
    -- the issue is among the snapshots, and there is no other snapshot for it
    have hsnapshot : ∀ j r', (j, r') ∈ (reconcileRunningWithTracker u.state refreshed u.config.tracker.terminalStates
        u.config.tracker.activeStates).updateSnapshot ↔ j ∈ u.state.running ∧
          classify refreshed u.config.tracker.terminalStates u.config.tracker.activeStates j = .updateSnapshot r' :=
      fun _ _ => mem_updateSnapshot_iff
    have hclass : classify refreshed u.config.tracker.terminalStates u.config.tracker.activeStates i =
        .updateSnapshot r := (classify_eq_updateSnapshot_iff hr).2 (hconfig ▸ hactive)
    have hmem := (hsnapshot i r).2 ⟨hstate ▸ Dict.mem_of_get? hrun, hclass⟩
    have hruns := hk.runs
    simp only [bind_apply, get_apply, Res.bind_ret] at hruns
    refine Res.Sat.ends (I := fun _ => True) (G := fun v => v.state.running.get? i = some { entry with issue := r }) ?_
      hruns
    refine Res.Sat.bind (fun _ v hv => ?_) (forEach_terminate fun _ _ => rfl)
    refine Res.Sat.bind (fun _ v' hv' => ?_) (forEach_terminate fun _ _ => rfl)
    refine (forEach_refreshEntry (r := r) (by rw [hv', hv, hstate]; exact hrun) fun p hp hi => ?_).mono
      (fun _ => id) (fun _ v'' h => ?_) fun _ _ => id
    · have h := ((hsnapshot p.1 p.2).1 hp).2
      rw [hi, hclass] at h
      cases h
      rfl
    · obtain ⟨issue, he, hissue⟩ := h
      rw [he, hissue (List.mem_map_of_mem hmem)]

/-- The refreshed fields are those of the response, and the others those from before. -/
structure Refreshes (r before issue : Issue) : Prop where
  id : issue.id = r.id
  identifier : issue.identifier = r.identifier
  title : issue.title = r.title
  state : issue.state = r.state
  description : issue.description = before.description
  priority : issue.priority = before.priority
  branchName : issue.branchName = before.branchName
  url : issue.url = before.url
  labels : issue.labels = before.labels
  blockedBy : issue.blockedBy = before.blockedBy
  createdAt : issue.createdAt = before.createdAt
  updatedAt : issue.updatedAt = before.updatedAt

omit [Unicode] in
/-- A bare issue refreshes only bare ones. -/
theorem refreshes_iff_bare {before : Issue} (h : Bare r) : Refreshes r before r ↔ Bare before := by
  constructor
  · rintro ⟨-, -, -, -, hdescription, hpriority, hbranch, hurl, hlabels, hblockers, hcreated, hupdated⟩
    exact ⟨hdescription ▸ h.description, hpriority ▸ h.priority, hbranch ▸ h.branchName, hurl ▸ h.url,
      hlabels ▸ h.labels, hblockers ▸ h.blockedBy, hcreated ▸ h.createdAt, hupdated ▸ h.updatedAt⟩
  · intro hb
    exact ⟨rfl, rfl, rfl, rfl, h.description.trans hb.description.symm, h.priority.trans hb.priority.symm,
      h.branchName.trans hb.branchName.symm, h.url.trans hb.url.symm, h.labels.trans hb.labels.symm,
      h.blockedBy.trans hb.blockedBy.symm, h.createdAt.trans hb.createdAt.symm, h.updatedAt.trans hb.updatedAt.symm⟩

/-- **What a refresh keeps.** For every running entry and every response in which its issue is still active, read page by
page from nodes of the projection: after the reconciliation, whatever else happened meanwhile, the issue of the entry has
the refreshed fields and keeps the others exactly if there was nothing in them. -/
theorem refresh_keeps_iff [Builtins] [Datetime] {ids : List Str} {script : List (Except Exn Payload)}
    {refreshed : List Issue} {o : Except Exn Unit}
    (hprojected : ∀ data, .ok data ∈ script → ∀ node ∈ nodesAt data (py "issues"), Projected node)
    (hread : (fetchIssueStatesByIds ids script).2 = some (.ok refreshed))
    (hl : Logged (orchestrator.proto D .pollTick) (reconcile w) [⟨.fetchIssueStatesByIds ids, .ok refreshed⟩] o w')
    (hrun : w.state.running.get? i = some entry) (hr : refreshedById refreshed i = some r)
    (hactive : w.config.tracker.Works r.state) :
    (∃ entry', w'.state.running.get? i = some entry' ∧ Refreshes r entry.issue entry'.issue) ↔ Bare entry.issue := by
  have hmem : r ∈ refreshed := List.mem_reverse.1 (List.mem_of_find?_eq_some hr)
  obtain ⟨data, hd, node, hnode, hparse⟩ := fetched_parsed hread hmem
  have hbare : Bare r := bare_of_projected (hprojected data hd node hnode) hparse
  rw [reconcile_refreshed hl hrun hr hactive, ← refreshes_iff_bare hbare]
  constructor
  · rintro ⟨entry', he, h⟩
    cases he
    exact h
  · exact fun h => ⟨_, rfl, h⟩

end Service

/-! ## A refresh of an issue with a description -/

section Sample

attribute [local instance] asciiTables sampleBuiltins sampleDates

/-- The node of an issue in `STATE_REFRESH_QUERY`. -/
def refreshNode (id : String) : Payload :=
  [(py "id", .str (py id)), (py "identifier", .str (py id)), (py "title", .str (py "title")),
    (py "state", .obj [(py "name", .str (py "Todo"))])]

/-- The response to it: one page with one issue. -/
def refreshScript : List (Except Exn Payload) :=
  [.ok (samplePage [refreshNode "a"] [(py "hasNextPage", .bool false)])]

theorem refreshScript_projected :
    ∀ data, .ok data ∈ refreshScript → ∀ node ∈ nodesAt data (py "issues"), Projected node := by
  intro data hd node hnode
  cases List.mem_singleton.1 hd
  have hnodes : nodesAt (samplePage [refreshNode "a"] [(py "hasNextPage", .bool false)]) (py "issues") =
      [refreshNode "a"] := rfl
  rw [hnodes, List.mem_singleton] at hnode
  rw [hnode]
  unfold Projected
  decide +kernel

theorem refreshScript_read : (fetchIssueStatesByIds [py "a"] refreshScript).2 = some (.ok [sampleIssue "a"]) := rfl

/-- A service with one issue running. -/
def refreshWorld (issue : Issue) : World :=
  sampleWorld.onState (·.addRunning (freshEntry 0 issue 1 sampleWorld.now))

/-- The reconciliation in which that issue is refreshed. -/
def refreshRun (issue : Issue) : List OrchSig.Call × Except Exn Unit × World :=
  (reconcile (refreshWorld issue)).execLogged fun _ => Answers.reply { states := .ok [sampleIssue "a"] }

def describedIssue : Issue := { sampleIssue "a" with description := some (py "steps") }

theorem refreshRun_logged (issue : Issue) : Logged (orchestrator.proto .free .pollTick) (reconcile (refreshWorld issue))
    (refreshRun issue).1 (refreshRun issue).2.1 (refreshRun issue).2.2 :=
  logged_execLogged (P := orchestrator.proto .free .pollTick) (fun _ => .refl) (fun _ _ => trivial) _

theorem refresh_keeps_iff_sample : ∃ entry', (refreshRun (sampleIssue "a")).2.2.state.running.get? (py "a") = some entry' ∧
    Refreshes (sampleIssue "a") (sampleIssue "a") entry'.issue :=
  have hrun : (refreshWorld (sampleIssue "a")).state.running.get? (py "a") =
      some (freshEntry 0 (sampleIssue "a") 1 sampleWorld.now) := rfl
  (refresh_keeps_iff (o := .ok ()) refreshScript_projected refreshScript_read (refreshRun_logged (sampleIssue "a")) hrun rfl
    (by unfold TrackerConfig.Works; decide +kernel)).2 ⟨rfl, rfl, rfl, rfl, rfl, rfl, rfl, rfl⟩

/-- **Lost**: the description of a running issue, which is still active with the same title, is gone. -/
theorem refresh_drops_description :
    (fetchIssueStatesByIds [py "a"] refreshScript).2 = some (.ok [sampleIssue "a"]) ∧
    Logged (orchestrator.proto .free .pollTick) (reconcile (refreshWorld describedIssue))
      [⟨.fetchIssueStatesByIds [py "a"], .ok [sampleIssue "a"]⟩] (.ok ()) (refreshRun describedIssue).2.2 ∧
    ((refreshWorld describedIssue).state.running.get? (py "a")).map (·.issue.description) = some (some (py "steps")) ∧
    ((refreshRun describedIssue).2.2.state.running.get? (py "a")).map (·.issue.description) = some none :=
  ⟨refreshScript_read, refreshRun_logged describedIssue, by decide +kernel, by decide +kernel⟩

end Sample

end RiverGang
