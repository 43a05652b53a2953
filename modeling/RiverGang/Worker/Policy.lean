import RiverGang.Worker.Session

/-!
# The approval policy of an attempt

An attempt announces the policy of its configuration in `thread/start`, and the client of the production factory decides
by a policy of its own, which is `never`.

* `approvals_follow_policy`: its replies keep to the announced policy exactly where that approves too, or no decision is
  asked for.
* `approved_against_policy`: so they do not under any other policy.
-/

namespace RiverGang

open Py Coop Task

/-- The client of `build_default_per_worker_codex_factory`, which gives it no `approval_handler`. -/
def factoryParams (codexAppServerPid : Int) (projectSlug clientVersion : Str) (maxFrameBytes : Int) : ClientParams where
  codexAppServerPid := codexAppServerPid
  approvalPolicy := APPROVAL_POLICY_NEVER
  hasLinearGraphqlTool := projectSlug ≠ []
  registered := []
  clientVersion := clientVersion
  maxFrameBytes := maxFrameBytes

/-- The policy that a `thread/start` request carries. -/
def announcedPolicy? (frame : Payload) : Option Str :=
  if method? frame = some METHOD_THREAD_START then
    ((Json.get? frame (py "params")).bind Json.obj?).bind fun params =>
      (Json.get? params (py "approvalPolicy")).bind Json.str?
  else none

/-- Under a policy that does not approve, no reply does. -/
def Conforming (policy : Str) (log : List WireEntry) : Prop :=
  approves policy = false → ∀ reply, .wrote reply ∈ log → Json.get? reply (py "method") = none → ¬Approving reply

/-- A request for a decision was read that can be replied to. -/
def DecisionAsked (log : List WireEntry) : Prop :=
  ∃ raw, .frame raw ∈ log ∧ DecisionRequest raw ∧ (requestId? raw).isSome

variable {W : Wire} {cp : ClientParams} {c : Client} {seg : List WireEntry}

/-- A call announces a policy only where it starts a session, and then the one that it was given. -/
theorem ClientCall.Leaves.announced {call : ClientCall} (h : call.Leaves cp c seg) {frame : Payload}
    (hf : frame ∈ ownWrites seg) {policy : Str} (hp : announcedPolicy? frame = some policy) :
    ∃ a o, call = .startSession a o ∧ policy = a.approvalPolicy := by
  cases call with
  | startSession a o =>
    obtain ⟨threadId, hpre, -⟩ := h
    refine ⟨a, o, rfl, ?_⟩
    have hmem := hpre.subset hf
    simp only [handshakeFrames, List.mem_cons, List.not_mem_nil, or_false] at hmem
    rcases hmem with rfl | rfl | rfl | rfl
    · cases hp
    · cases hp
    · exact (Option.some.inj hp).symm
    · cases hp
  | streamTurn session prompt turnTimeoutMs isFirstTurn o =>
    by_cases hc : CanSend c turnTimeoutMs
    · rw [h.1 hc, List.mem_singleton] at hf
      subst hf
      cases hp
    · rw [h.2 hc] at hf
      cases hf

/-- An attempt starts its session under the policy of its configuration. -/
theorem Asked.policy {p : AttemptParams} {calls : List ClientCall} (h : Asked p calls) {a : SessionArgs}
    {o : Except Exn Session} (hmem : .startSession a o ∈ calls) : a.approvalPolicy = announcedPolicy p.config := by
  rcases h with rfl | ⟨renderedPrompt, -, h⟩
  · cases hmem
  · cases h with
    | unopened => cases hmem
    | asked =>
      cases List.mem_singleton.1 hmem
      rfl
    | streamed =>
      simp only [List.mem_cons, List.not_mem_nil, or_false, reduceCtorEq] at hmem
      cases hmem
      rfl

section

variable [Builtins]

theorem Served.announced {calls : List (ClientCall × Client)} {now : Instant} (h : Served W cp (.new now) calls c)
    {frame : Payload} (hf : frame ∈ ownWrites c.log) {policy : Str} (hp : announcedPolicy? frame = some policy) :
    ∃ a o, .startSession a o ∈ calls.map Prod.fst ∧ policy = a.approvalPolicy := by
  obtain ⟨segs, hlog, hsegs⟩ := h.leaves
  have hflat : frame ∈ ownWrites segs.flatten := by rwa [hlog] at hf
  clear hlog hf h
  induction hsegs with
  | nil => cases hflat
  | cons hseg _ ih =>
    rw [List.flatten_cons, ownWrites_append, List.mem_append] at hflat
    rcases hflat with hflat | hflat
    · obtain ⟨a, o, hcall, hpolicy⟩ := hseg.announced hflat hp
      exact ⟨a, o, by simp [hcall], hpolicy⟩
    · obtain ⟨a, o, hmem, hpolicy⟩ := ih hflat
      exact ⟨a, o, List.mem_cons_of_mem _ hmem, hpolicy⟩

/-- In every attempt with a client of the production factory: what is announced is the policy of the configuration. The
replies keep to it where it approves, or where no decision is asked for; and, if nothing keeps a reply from being written,
nowhere else. -/
theorem approvals_follow_policy {p : AttemptParams} (hstop : p.stopSession = CodexClient.stopSession) {s s' : Attempt}
    (hs : s.log = []) {o : Except Exn Unit} (hr : Runs (outcomes fun _ => True) (runAgentAttempt p s) o s')
    {pid maxFrameBytes : Int} {projectSlug clientVersion : Str} {now : Instant} {calls : List (ClientCall × Client)}
    (hc : Served W (factoryParams pid projectSlug clientVersion maxFrameBytes) (.new now) calls c)
    (hcalls : calls.map Prod.fst = clientCalls s'.log) :
    (∀ frame ∈ ownWrites c.log, ∀ policy, announcedPolicy? frame = some policy → policy = announcedPolicy p.config) ∧
      (approves (announcedPolicy p.config) = true ∨ ¬DecisionAsked c.log →
        Conforming (announcedPolicy p.config) c.log) ∧
      (¬Fragile W true → (Conforming (announcedPolicy p.config) c.log ↔
        approves (announcedPolicy p.config) = true ∨ ¬DecisionAsked c.log)) := by
  have hsettled := hc.life.settled.1
  have hkept : approves (announcedPolicy p.config) = true ∨ ¬DecisionAsked c.log →
      Conforming (announcedPolicy p.config) c.log := by
    intro hcond hdenies reply hreply hm happroving
    obtain ⟨k, hk⟩ := List.getElem?_of_mem hreply
    obtain ⟨j, raw, -, hj, -, hto⟩ := hsettled.asked k reply hk hm
    have hdecision := ((hto.approving rfl).1 happroving).2
    rcases hcond with happroves | hnone
    · rw [hdenies] at happroves
      cases happroves
    · exact hnone ⟨raw, List.mem_of_getElem? hj, hdecision, hto.answerable⟩
  refine ⟨fun frame hf policy hp => ?_, hkept, fun hsolid => ⟨fun hconform => ?_, hkept⟩⟩
  · obtain ⟨a, o', hmem, rfl⟩ := hc.announced hf hp
    rw [hcalls] at hmem
    exact (attempt_calls hstop hs hr).policy hmem
  · refine Classical.or_iff_not_imp_left.2 fun hdenies ⟨raw, hraw, hdecision, hid⟩ => ?_
    obtain ⟨k, hk⟩ := List.getElem?_of_mem hraw
    obtain ⟨method, -, hmethod⟩ := hdecision.1
    obtain ⟨reply, hreply, hto⟩ := hsettled.answered hsolid k raw hk ⟨by rw [hmethod]; rfl, hid⟩
    exact hconform (Bool.eq_false_iff.2 hdenies) reply (List.mem_of_getElem? hreply) hto.method
      ((hto.approving rfl).2 ⟨rfl, hdecision⟩)

end

section Sample

attribute [local instance] sampleBuiltins

/-- An attempt under another policy. -/
def strictParams : AttemptParams :=
  { sampleParams with config :=
    { sampleParams.config with codex := { sampleParams.config.codex with approvalPolicy := some (py "on-request") } } }

def strictSessionArgs : SessionArgs := { sampleSessionArgs with approvalPolicy := py "on-request" }

def handshakeTimeout : Exn := ⟨.codexError, py "codex initialize did not respond within 5000ms"⟩

/-- It ends where its handshake gets no response. -/
def strictRun : Except Exn Unit × Attempt :=
  (runAgentAttempt strictParams sampleAttempt).exec ({ session := .error handshakeTimeout } : AttemptAnswers).reply

def strictClientParams : ClientParams := factoryParams 42 (py "river") (py "1.0") 10485760

/-- The client meanwhile, with the frames that the subprocess sends. -/
def strictStart (frames : List Payload) : Except Failure Session × Client :=
  (startSession strictClientParams 9 strictSessionArgs sampleClient).execWith (sends frames)

/-- Nobody answers the handshake, whatever else there is. -/
theorem strictServed (frames : List Payload)
    (h : (strictStart frames).1.mapError Failure.toExn = .error handshakeTimeout) :
    Served .accepting strictClientParams sampleClient
      [(.startSession strictSessionArgs (.error handshakeTimeout), sampleClient)] (strictStart frames).2 := by
  rw [← h]
  exact .startSession .start (runs_sends _ (fun _ _ => trivial) (fun _ => trivial) _)

theorem strictRun_runs :
    Runs (outcomes fun _ => True) (runAgentAttempt strictParams sampleAttempt) strictRun.1 strictRun.2 :=
  runs_exec (P := outcomes fun _ => True) (fun s => ⟨s.now, rfl⟩) (fun _ _ _ _ => trivial) _

theorem strictRun_calls :
    clientCalls strictRun.2.log = [.startSession strictSessionArgs (.error handshakeTimeout)] := by decide +kernel

/-- Whether an entry is a reply that approves a command. -/
def WireEntry.isApproval : WireEntry → Bool
  | .wrote reply =>
    (Json.get? reply (py "method")).isNone &&
      (((Json.get? reply (py "result")).bind Json.obj?).bind fun result =>
        (Json.get? result (py "decision")).bind Json.str?) == some (py "approved")
  | _ => false

theorem WireEntry.isApproval_reply {e : WireEntry} (h : e.isApproval = true) :
    ∃ reply, e = .wrote reply ∧ Json.get? reply (py "method") = none ∧ Approving reply := by
  cases e with
  | wrote reply =>
    simp only [isApproval, Bool.and_eq_true, Option.isNone_iff_eq_none, beq_iff_eq, Option.bind_eq_some_iff] at h
    obtain ⟨hm, result, ⟨v, hv, hobj⟩, decision, hdecision, hstr⟩ := h
    cases v <;> cases hobj
    cases decision <;> cases hstr
    exact ⟨reply, rfl, hm, result, hv, .inl hdecision⟩
  | _ => cases h

/-- Codex is told to ask, asks, and is approved of. -/
theorem approved_against_policy : ∃ (s' : Attempt) (calls : List (ClientCall × Client)) (c : Client),
    Runs (outcomes fun _ => True) (runAgentAttempt strictParams sampleAttempt) (.ok ()) s' ∧
    Served .accepting strictClientParams sampleClient calls c ∧ calls.map Prod.fst = clientCalls s'.log ∧
    announcedPolicy strictParams.config = py "on-request" ∧ ¬Conforming (announcedPolicy strictParams.config) c.log := by
  have hserved := strictServed [sampleRequest (.int 7) "execCommandApproval" (.obj [])] (by decide +kernel)
  have happroval : (strictStart [sampleRequest (.int 7) "execCommandApproval" (.obj [])]).2.log.any
      WireEntry.isApproval = true := by decide +kernel
  have hok : strictRun.1 = .ok () := by decide +kernel
  have hrun := strictRun_runs
  rw [hok] at hrun
  generalize (strictStart [sampleRequest (.int 7) "execCommandApproval" (.obj [])]).2 = c at hserved happroval
  refine ⟨_, _, c, hrun, hserved, strictRun_calls.symm, rfl, fun hconform => ?_⟩
  obtain ⟨e, he, hreply⟩ := List.any_eq_true.1 happroval
  obtain ⟨reply, rfl, hm, happroving⟩ := WireEntry.isApproval_reply hreply
  exact hconform (by decide +kernel) reply he hm happroving

/-- Where Codex asks for something else, nothing is approved. -/
theorem approvals_follow_policy_sample : ∃ (s' : Attempt) (calls : List (ClientCall × Client)) (c : Client),
    Runs (outcomes fun _ => True) (runAgentAttempt strictParams sampleAttempt) (.ok ()) s' ∧
    Served .accepting strictClientParams sampleClient calls c ∧ calls.map Prod.fst = clientCalls s'.log ∧
    (framesRead c.log).length = 1 ∧ Conforming (announcedPolicy strictParams.config) c.log := by
  have hserved := strictServed [sampleRequest (.int 7) "item/tool/requestUserInput" .null] (by decide +kernel)
  have hasked : (framesRead (strictStart [sampleRequest (.int 7) "item/tool/requestUserInput" .null]).2.log).map method? =
      [some METHOD_ITEM_TOOL_REQUEST_USER_INPUT] := by decide +kernel
  have hok : strictRun.1 = .ok () := by decide +kernel
  have hrun := strictRun_runs
  rw [hok] at hrun
  generalize (strictStart [sampleRequest (.int 7) "item/tool/requestUserInput" .null]).2 = c at hserved hasked
  obtain ⟨-, hkept, -⟩ := approvals_follow_policy rfl rfl hrun hserved strictRun_calls.symm
  refine ⟨_, _, c, hrun, hserved, strictRun_calls.symm, by simpa using congrArg List.length hasked, hkept (.inr ?_)⟩
  rintro ⟨raw, hraw, ⟨⟨method, hd, hm⟩, -⟩, -⟩
  have hread : raw ∈ framesRead c.log :=
    List.mem_filterMap.2 ⟨.value (.obj raw), List.mem_filterMap.2 ⟨_, hraw, rfl⟩, rfl⟩
  have hmem : method? raw ∈ (framesRead c.log).map method? := List.mem_map_of_mem hread
  rw [hasked, List.mem_singleton, hm, Option.some.injEq] at hmem
  rw [hmem] at hd
  exact absurd hd (by decide)

end Sample

end RiverGang
