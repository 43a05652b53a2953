import RiverGang.Lib.Pool
import RiverGang.Tracker.Client

/-!
# State ids of the issue's own team

Any number of calls of `transition_state` on one client, one after the other or at once, for issues of any teams. The
tracker answers truly about the team of an issue and its states, or it fails.

* `transitions_of_own_team`: as long as no call looks in the cache where the first team that has a state of the name is
  another one than the issue's, every mutation uses the id that the issue's own team has for the name, and where it has none
  the call raises `LinearStateNotFound`.
* `transition_of_other_team`: after an issue of one team, an issue of another is moved to the state of the first.
-/

namespace RiverGang

open Py Coop Task

/-! ## The tracker -/

/-- The team of each issue, and the ids of the states of each team by their lowered names. -/
structure Teams where
  team : Str → Str
  states : Str → Dict Str Str

structure TransitionCall where
  issueId : Str
  stateName : Str

/-- The exception that an answer is. -/
def transportFailure : (r : LinearReq) → LinearSig.Ans r → Option Exn
  | .acquire, .error e => some e
  | .execute .., .error e => some e
  | _, _ => none

/-- The issue that was asked about, and the data of the response. -/
def statesOf : (r : LinearReq) → LinearSig.Ans r → Option (Json × Payload)
  | .execute .statesForIssue vars, .ok data => (Json.get? vars (py "id")).map fun i => (i, data)
  | _, _ => none

/-- The answer gives the lock. -/
def grantsLock : (r : LinearReq) → LinearSig.Ans r → Bool
  | .acquire, .ok () => true
  | _, _ => false

section Service

variable [Unicode] (T : Teams)

/-- The id that the issue's own team has for the name. -/
def Teams.stateId (issueId stateName : Str) : Option Str := (T.states (T.team issueId)).get? (lower stateName)

/-- A tracker that answers truly, or fails by one of `faults`, with responses that cannot be read among them; and a lock
that is given to one call at a time. -/
def trueTracker (faults : Exn → Prop) : Pool.Limits LinearSig LinearClient TransitionCall where
  start _ _ := True
  answer _ s r x := (grantsLock r x = true → s.locked = false) ∧ (∀ e, transportFailure r x = some e → faults e) ∧
    ∀ i data, statesOf r x = some (.str i, data) →
      parseStatesForIssue data = .ok (T.team i, T.states (T.team i)) ∨
        ∃ e, parseStatesForIssue data = .error e ∧ faults e

/-- The first cached team that has a state of the requested name, if there is one, is the issue's own. -/
def OwnFirst (call : TransitionCall) (s : LinearClient) : Prop :=
  ∀ p ∈ firstTeamWith s.stateIdCache (lower call.stateName), p.1 = T.team call.issueId

/-- The same, where no call looks in the cache but with its own team first: when it is made, and when it gets the lock. -/
def ownTeamFirst (faults : Exn → Prop) : Pool.Limits LinearSig LinearClient TransitionCall where
  start s call := OwnFirst T call s
  answer call s r x := (trueTracker T faults).answer call s r x ∧ (grantsLock r x = true → OwnFirst T call s)

/-- What is cached and what was sent is true. -/
structure LinearClient.Truthful (s : LinearClient) : Prop where
  cache : ∀ teamId states, s.stateIdCache.get? teamId = some states → states = T.states teamId
  sent : ∀ u ∈ s.sent, T.stateId u.issueId u.stateName = some u.stateId

omit [Unicode] in
/-- The loop finds what the first team with the name has. -/
theorem cachedId_eq (cache : Dict Str (Dict Str Str)) (target : Str) :
    cachedId cache target = (firstTeamWith cache target).bind fun p => p.2.get? target := by
  have hlist : ∀ l : List (Str × Dict Str Str), (l.map Prod.snd).findSome? (fun teamStates => teamStates.get? target) =
      (l.find? fun p => (p.2.get? target).isSome).bind fun p => p.2.get? target := by
    intro l
    induction l with
    | nil => rfl
    | cons p l ih =>
      rw [List.map_cons, List.findSome?_cons, List.find?_cons]
      cases h : p.2.get? target with
      | none => simpa [h] using ih
      | some id => simp [h]
  exact hlist cache.entries

variable {T} {call : TransitionCall} {s : LinearClient} {faults : Exn → Prop}

/-- What a call finds in the cache is the id that it should have. -/
theorem LinearClient.Truthful.cachedId (h : s.Truthful T) (ho : OwnFirst T call s) {id : Str}
    (hc : cachedId s.stateIdCache (lower call.stateName) = some id) : T.stateId call.issueId call.stateName = some id := by
  rw [cachedId_eq] at hc
  obtain ⟨p, hp, hid⟩ := Option.bind_eq_some_iff.1 hc
  have hteam := ho p hp
  have hstates := h.cache p.1 p.2 (Dict.mem_entries.1 (List.mem_of_find?_eq_some hp))
  unfold Teams.stateId
  rw [← hteam, ← hstates]
  exact hid

theorem LinearClient.Truthful.of_same {s' : LinearClient} (h : s.Truthful T)
    (hc : s'.stateIdCache = s.stateIdCache) (hs : s'.sent = s.sent) : s'.Truthful T :=
  ⟨by rw [hc]; exact h.cache, by rw [hs]; exact h.sent⟩

/-! ## One call -/

/-- The protocol of a call among others. -/
abbrev transitionProto (T : Teams) (faults : Exn → Prop) (call : TransitionCall) : Proto LinearSig LinearClient :=
  Pool.proto (ownTeamFirst T faults) (LinearClient.Truthful T) call

/-- The lock comes with a cache that can be looked in. -/
theorem acquire_sat (h : s.Truthful T) (ho : OwnFirst T call s) :
    (Linear.acquire s).Sat (transitionProto T faults call) (LinearClient.Truthful T)
      (fun _ s => s.Truthful T ∧ OwnFirst T call s) (fun e s => s.Truthful T ∧ faults e) := by
  unfold Linear.acquire Linear.granted
  simp only [bind_apply, get_apply, Res.bind_ret]
  split
  · simp only [bind_apply, modify_apply, Res.bind_ret]
    refine Res.sat_request_bind.2 ⟨h.of_same rfl rfl, fun s' x hs' ha => ?_⟩
    obtain ⟨⟨-, hfail, -⟩, hown⟩ := ha
    cases x with
    | error e => exact ⟨hs'.of_same rfl rfl, hfail e rfl⟩
    | ok u => exact ⟨hs'.of_same rfl rfl, hown rfl⟩
  · exact ⟨h.of_same rfl rfl, ho⟩

/-- What a call can come by while it has the lock: the id that it should have, or the true states of its team. -/
def Found (T : Teams) (call : TransitionCall) : Str ⊕ Str × Dict Str Str → Prop
  | .inl id => T.stateId call.issueId call.stateName = some id
  | .inr team => team = (T.team call.issueId, T.states (T.team call.issueId))

/-- With the lock: the right id from the cache, or the true states of the issue's team, which are cached then. -/
theorem lookupLocked_sat (h : s.Truthful T) (ho : OwnFirst T call s) :
    (lookupLocked call.issueId (lower call.stateName) s).Sat (transitionProto T faults call) (LinearClient.Truthful T)
      (fun found s => s.Truthful T ∧ Found T call found)
      (fun e s => s.Truthful T ∧ faults e) := by
  unfold lookupLocked Linear.execute Linear.answer
  simp only [bind_apply, get_apply, Res.bind_ret]
  cases hc : RiverGang.cachedId s.stateIdCache (lower call.stateName) with
  | some id => exact ⟨h, h.cachedId ho hc⟩
  | none =>
    simp only [bind_apply]
    refine Res.sat_request_bind.2 ⟨h, fun s' x hs' ha => ?_⟩
    obtain ⟨⟨-, hfail, htrue⟩, -⟩ := ha
    cases x with
    | error e => exact ⟨hs', hfail e rfl⟩
    | ok data =>
      simp only [ofExcept_ok, pure_apply, Res.bind_ret, bind_apply]
      rcases htrue call.issueId data rfl with hp | ⟨e, hp, hf⟩
      · rw [hp]
        refine ⟨⟨fun teamId states hg => ?_, hs'.sent⟩, rfl⟩
        rcases Dict.eq_or_of_get?_insert hg with ⟨heq, rfl⟩ | hg
        · exact congrArg T.states heq
        · exact hs'.cache teamId states hg
      · rw [hp]
        exact ⟨hs', hf⟩

/-- The lock is given back whatever happened. -/
theorem released_sat (h : s.Truthful T) (ho : OwnFirst T call s) :
    (finallyDo (lookupLocked call.issueId (lower call.stateName)) Linear.release s).Sat (transitionProto T faults call)
      (LinearClient.Truthful T) (fun found s => s.Truthful T ∧ Found T call found)
      (fun e s => s.Truthful T ∧ faults e) := by
  rw [finallyDo_apply]
  refine Res.Sat.finallyDo (fun found s' h' => ?_) (fun e s' h' => ?_) (lookupLocked_sat h ho)
  · exact ⟨h'.1.of_same rfl rfl, h'.2⟩
  · exact ⟨h'.1.of_same rfl rfl, h'.2⟩

variable [Builtins]

/-- How a call may end without an id: by an exception of the lock or the transport, or because the team has none. -/
def Unresolved (T : Teams) (faults : Exn → Prop) (call : TransitionCall) (e : Exn) : Prop :=
  faults e ∨ T.stateId call.issueId call.stateName = none ∧ e = stateNotFound call.stateName (T.team call.issueId)

theorem resolveStateId_sat (h : s.Truthful T) (ho : OwnFirst T call s) :
    (resolveStateId call.issueId call.stateName s).Sat (transitionProto T faults call) (LinearClient.Truthful T)
      (fun id s => s.Truthful T ∧ T.stateId call.issueId call.stateName = some id)
      (fun e s => s.Truthful T ∧ Unresolved T faults call e) := by
  unfold resolveStateId
  simp only [bind_apply, get_apply, Res.bind_ret]
  cases hc : RiverGang.cachedId s.stateIdCache (lower call.stateName) with
  | some id => exact ⟨h, h.cachedId ho hc⟩
  | none =>
    simp only [bind_apply]
    refine Res.Sat.bind (fun _ s₁ h₁ => ?_)
      ((acquire_sat h ho).mono (fun _ h => h) (fun _ _ h => h) fun _ _ he => ⟨he.1, .inl he.2⟩)
    refine Res.Sat.bind (fun found s₂ h₂ => ?_)
      ((released_sat h₁.1 h₁.2).mono (fun _ h => h) (fun _ _ h => h) fun _ _ he => ⟨he.1, .inl he.2⟩)
    obtain ⟨hs₂, hfound⟩ := h₂
    cases found with
    | inl id => exact ⟨hs₂, hfound⟩
    | inr team =>
      subst hfound
      dsimp only
      cases hid : (T.states (T.team call.issueId)).get? (lower call.stateName) with
      | some id => exact ⟨hs₂, hid⟩
      | none => exact ⟨hs₂, .inr ⟨hid, rfl⟩⟩

/-- `transition_state` for a call. -/
def transition (call : TransitionCall) : Linear Unit := transitionState call.issueId call.stateName

/-- **One call.** It sends the id of the issue's own team; if the team has none it ends by an exception. -/
theorem transition_sound (h : s.Truthful T) (ho : OwnFirst T call s) :
    Pool.Sound (ownTeamFirst T faults) (LinearClient.Truthful T)
      (fun call o => T.stateId call.issueId call.stateName = none → ∃ e, o = .error e ∧ Unresolved T faults call e) call
      (transition call s) := by
  unfold transition transitionState
  simp only [bind_apply]
  refine Res.Sat.bind (fun id s₁ h₁ => ?_)
    ((resolveStateId_sat h ho).mono (fun _ h => h) (fun _ _ h => h) fun e _ he => ⟨he.1, fun _ => ⟨e, rfl, he.2⟩⟩)
  obtain ⟨hs₁, hid⟩ := h₁
  -- from here on the team is known to have the state
  have hsome : ∀ {P : Prop}, T.stateId call.issueId call.stateName = none → P := fun hn => by
    rw [hid] at hn
    cases hn
  have hsent : LinearClient.Truthful T { s₁ with sent := s₁.sent ++ [⟨call.issueId, call.stateName, id⟩] } := by
    refine ⟨hs₁.cache, fun u hu => ?_⟩
    rcases List.mem_append.1 hu with hu | hu
    · exact hs₁.sent u hu
    · rw [List.mem_singleton.1 hu]
      exact hid
  unfold Linear.execute Linear.answer
  simp only [bind_apply, modify_apply, Res.bind_ret]
  refine Res.sat_request_bind.2 ⟨hsent, fun s' x hs' _ => ?_⟩
  cases x with
  | error e => exact ⟨hs', hsome⟩
  | ok data =>
    simp only [ofExcept_ok, pure_apply, Res.bind_ret]
    cases objectAt data (py "issueUpdate") with
    | none => exact ⟨hs', hsome⟩
    | some result =>
      dsimp only
      split
      · exact ⟨hs', hsome⟩
      · exact ⟨hs', hsome⟩

/-! ## All calls -/

/-- A client that has sent and cached nothing. -/
def LinearClient.fresh : LinearClient := ⟨∅, false, 0, []⟩

/-- **State ids of the issue's own team.** As long as no call looks in the cache where another team comes first with the
name, every mutation that was sent has the id that the team of its issue has for the name that was asked for; and a call
for a name that the team does not have has ended, if it has, by `LinearStateNotFound` or by a failure of the tracker. -/
theorem transitions_of_own_team {T : Teams} {faults : Exn → Prop}
    {c : Pool.Conf LinearSig Exn LinearClient TransitionCall Unit}
    (h : Pool.Reach transition (ownTeamFirst T faults) (fun s => s = .fresh) c) :
    (∀ u ∈ c.state.sent, T.stateId u.issueId u.stateName = some u.stateId) ∧
    ∀ p ∈ c.finished, T.stateId p.1.issueId p.1.stateName = none →
      ∃ e, p.2 = .error e ∧ Unresolved T faults p.1 e := by
  have hr := h.rule (J := LinearClient.Truthful T)
    (Z := fun call o => T.stateId call.issueId call.stateName = none → ∃ e, o = .error e ∧ Unresolved T faults call e)
    (fun s hs => ?_) (fun call s hs ho => transition_sound hs ho)
  · exact ⟨hr.1.sent, hr.2⟩
  · subst hs
    exact ⟨fun teamId states hg => by simp [LinearClient.fresh] at hg, fun u hu => by cases hu⟩

end Service

/-! ## Two teams -/

section Sample

attribute [local instance] asciiTables sampleBuiltins

def sampleStateId (teamId : Str) : Str := if teamId = py "B" then py "b-review" else py "a-review"

/-- Two teams with a state of one name; the issue "b" belongs to the second. -/
def sampleTeams : Teams where
  team issueId := if issueId = py "b" then py "B" else py "A"
  states teamId := (∅ : Dict Str Str).insert (py "in review") (sampleStateId teamId)

/-- The data of the response about a team. -/
def sampleStates (teamId : Str) : Payload :=
  let node : Json := .obj [(py "id", .str (sampleStateId teamId)), (py "name", .str (py "In Review"))]
  let states : Json := .obj [(py "nodes", .arr [node])]
  [(py "issue", .obj [(py "team", .obj [(py "id", .str teamId), (py "states", states)])])]

/-- The tracker of these teams. Who waits for the lock is cancelled; in the runs below nobody does. -/
def sampleServe : (r : LinearReq) → LinearSig.Ans r
  | .acquire => .error .cancelled
  | .execute .statesForIssue vars =>
    .ok (sampleStates (sampleTeams.team (((Json.get? vars (py "id")).bind Json.str?).getD [])))
  | .execute .issueUpdateState _ => .ok [(py "issueUpdate", .obj [(py "success", .bool true)])]

theorem sampleStates_true (issueId : Str) : parseStatesForIssue (sampleStates (sampleTeams.team issueId)) =
    .ok (sampleTeams.team issueId, sampleTeams.states (sampleTeams.team issueId)) := by
  by_cases h : issueId = py "b"
  · subst h
    rfl
  · have ht : sampleTeams.team issueId = py "A" := if_neg h
    rw [ht]
    rfl

/-- It answers truly, fails only where it cancels, and gives nobody the lock. -/
theorem sampleServe_true (call : TransitionCall) (s : LinearClient) (r : LinearReq) :
    (trueTracker sampleTeams (· = .cancelled)).answer call s r (sampleServe r) ∧
      grantsLock r (sampleServe r) = false := by
  have hgrants : grantsLock r (sampleServe r) = false := by cases r <;> rfl
  have hfails : ∀ e, transportFailure r (sampleServe r) = some e → e = .cancelled := by
    intro e h
    cases r with
    | acquire => cases h; rfl
    | execute query vars => cases query <;> cases h
  refine ⟨⟨fun h => ?_, hfails, fun i data h => .inl ?_⟩, hgrants⟩
  · rw [hgrants] at h
    cases h
  · cases r with
    | acquire => cases h
    | execute query vars =>
      cases query with
      | issueUpdateState => cases h
      | statesForIssue =>
        obtain ⟨j, hj, heq⟩ := Option.map_eq_some_iff.1 h
        cases heq
        have hi : ((Json.get? vars (py "id")).bind Json.str?).getD [] = i := by rw [hj]; rfl
        rw [hi]
        exact sampleStates_true i

/-- The same tracker; who waits for the lock gets it. -/
def sampleGrant : (r : LinearReq) → LinearSig.Ans r
  | .acquire => .ok ()
  | .execute query vars => sampleServe (.execute query vars)

def ownsFirst (call : TransitionCall) (s : LinearClient) : Bool :=
  (firstTeamWith s.stateIdCache (lower call.stateName)).all fun p => p.1 = sampleTeams.team call.issueId

theorem ownFirst_of_ownsFirst {call : TransitionCall} {s : LinearClient} (h : ownsFirst call s = true) :
    OwnFirst sampleTeams call s := fun p hp => of_decide_eq_true ((Option.all_eq_true _ _).1 h p hp)

abbrev SampleConf := Pool.Conf LinearSig Exn LinearClient TransitionCall Unit

/-- Where a step looks in the cache the own team comes first, and the lock is given when it is free. -/
def orderly (c : SampleConf) : Pool.Label LinearSig TransitionCall → Bool
  | .start call => ownsFirst call c.state
  | .resume i _ => c.waiting[i]?.all fun t =>
      match t.req with
      | .acquire => ownsFirst t.call c.state && !c.state.locked
      | .execute .. => true

def runOrderly : SampleConf → List (Pool.Label LinearSig TransitionCall) → Option SampleConf
  | c, [] => some c
  | c, l :: ls => if orderly c l then (Pool.step transition c l).bind fun c' => runOrderly c' ls else none

theorem allows_of_orderly {c : SampleConf} {l : Pool.Label LinearSig TransitionCall} (ho : orderly c l = true)
    (ha : ∀ i o, l = .resume i o → o = sampleGrant) : (ownTeamFirst sampleTeams (· = .cancelled)).Allows c l := by
  cases l with
  | start call => exact ownFirst_of_ownsFirst ho
  | resume i o =>
    intro t ht
    rw [ha i o rfl]
    have hreq := (Option.all_eq_true _ _).1 ho t ht
    obtain ⟨call, r, rest⟩ := t
    cases r with
    | acquire =>
      obtain ⟨hfirst, hfree⟩ := Bool.and_eq_true_iff.1 hreq
      exact ⟨⟨fun _ => by simpa using hfree, by rintro e ⟨⟩, by rintro i data ⟨⟩⟩, fun _ => ownFirst_of_ownsFirst hfirst⟩
    | execute query vars =>
      obtain ⟨htrue, hgrants⟩ := sampleServe_true call c.state (.execute query vars)
      exact ⟨htrue, fun h => absurd h (hgrants ▸ Bool.false_ne_true)⟩

theorem reach_runOrderly : ∀ {ls : List (Pool.Label LinearSig TransitionCall)} {c c' : SampleConf},
    Pool.Reach transition (ownTeamFirst sampleTeams (· = .cancelled)) (fun s => s = .fresh) c →
    (∀ l ∈ ls, ∀ i o, l = .resume i o → o = sampleGrant) → runOrderly c ls = some c' →
    Pool.Reach transition (ownTeamFirst sampleTeams (· = .cancelled)) (fun s => s = .fresh) c'
  | [], _, _, h, _, hr => by cases hr; exact h
  | l :: ls, c, c', h, ha, hr => by
    rw [runOrderly, Option.ite_none_right_eq_some] at hr
    obtain ⟨ho, hr⟩ := hr
    obtain ⟨c₁, hs, hr⟩ := Option.bind_eq_some_iff.1 hr
    exact reach_runOrderly (.step h (allows_of_orderly ho (ha l List.mem_cons_self)) hs)
      (fun l' hl' => ha l' (List.mem_cons_of_mem _ hl')) hr

/-- Two calls at once for the issue "b", of which the second waits for the lock; one for the issue "a" and a name that
its team does not have; and another for "b" when both teams are cached. -/
def sampleTransitions : List (Pool.Label LinearSig TransitionCall) :=
  [.start ⟨py "b", py "In Review"⟩, .start ⟨py "b", py "In Review"⟩, .resume 0 sampleGrant, .resume 0 sampleGrant,
    .resume 0 sampleGrant, .resume 0 sampleGrant, .start ⟨py "a", py "Done"⟩, .resume 0 sampleGrant,
    .start ⟨py "b", py "In Review"⟩, .resume 0 sampleGrant]

theorem transitions_of_own_team_sample : ∃ c : SampleConf,
    Pool.Reach transition (ownTeamFirst sampleTeams (· = .cancelled)) (fun s => s = .fresh) c ∧
    c.state.sent = List.replicate 3 ⟨py "b", py "In Review", py "b-review"⟩ ∧
    c.state.stateIdCache.keys = [py "B", py "A"] ∧
    (∀ u ∈ c.state.sent, sampleTeams.stateId u.issueId u.stateName = some u.stateId) ∧
    ∃ e, (⟨py "a", py "Done"⟩, .error e) ∈ c.finished ∧ Unresolved sampleTeams (· = .cancelled) ⟨py "a", py "Done"⟩ e := by
  have hrun : ((runOrderly ⟨.fresh, [], []⟩ sampleTransitions).map fun c => decide (
      c.state.sent = List.replicate 3 ⟨py "b", py "In Review", py "b-review"⟩ ∧
      c.state.stateIdCache.keys = [py "B", py "A"] ∧
      (py "a", py "Done") ∈ c.finished.map fun p => (p.1.issueId, p.1.stateName))) = some true := by decide +kernel
  obtain ⟨c, hc, hd⟩ := Option.map_eq_some_iff.1 hrun
  obtain ⟨hsent, hcached, hdone⟩ := of_decide_eq_true hd
  have hr : Pool.Reach transition (ownTeamFirst sampleTeams (· = .cancelled)) (fun s => s = .fresh) c := by
    refine reach_runOrderly (.init rfl) (fun l hl i o heq => ?_) hc
    subst heq
    have hi : i = 0 ∧ o = sampleGrant := by simpa [sampleTransitions] using hl
    exact hi.2
  obtain ⟨hown, hmissing⟩ := transitions_of_own_team hr
  obtain ⟨⟨⟨issueId, stateName⟩, o⟩, hp, heq⟩ := List.mem_map.1 hdone
  obtain ⟨rfl, rfl⟩ := Prod.mk.inj heq
  have hnone : sampleTeams.stateId (py "a") (py "Done") = none := by decide +kernel
  obtain ⟨e, rfl, he⟩ := hmissing _ hp hnone
  exact ⟨c, hr, hsent, hcached, hown, e, hp, he⟩

/-- A call on its own: the tracker answers about the states, and to the mutation. -/
def sampleTransition (issueId : Str) : List (Pool.Label LinearSig TransitionCall) :=
  [.start ⟨issueId, py "In Review"⟩, .resume 0 sampleServe, .resume 0 sampleServe]

/-- **A state of another team.** After a transition of an issue of the first team, that of an issue of the second sends
the id of the first team's state of the same name. -/
theorem transition_of_other_team : ∃ c,
    Pool.Reach transition (trueTracker sampleTeams (· = .cancelled)) (fun s => s = .fresh) c ∧
    ⟨py "b", py "In Review", py "a-review"⟩ ∈ c.state.sent ∧
    sampleTeams.stateId (py "b") (py "In Review") = some (py "b-review") := by
  have hrun : ((Pool.run transition ⟨.fresh, [], []⟩
      (sampleTransition (py "a") ++ [.start ⟨py "b", py "In Review"⟩])).map fun c =>
        decide (⟨py "b", py "In Review", py "a-review"⟩ ∈ c.state.sent)) = some true := by decide +kernel
  obtain ⟨c, hc, hd⟩ := Option.map_eq_some_iff.1 hrun
  refine ⟨c, .run (.init rfl) (fun l hl c => ?_) hc, of_decide_eq_true hd, by decide +kernel⟩
  simp only [sampleTransition, List.cons_append, List.nil_append, List.mem_cons, List.not_mem_nil, or_false] at hl
  rcases hl with rfl | rfl | rfl | rfl
  · trivial
  · exact fun t _ => (sampleServe_true t.call c.state t.req).1
  · exact fun t _ => (sampleServe_true t.call c.state t.req).1
  · trivial

end Sample

end RiverGang
