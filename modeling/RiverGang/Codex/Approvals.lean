import RiverGang.Codex.Replies

/-!
# Malformed requests for an approval

What the client replies to a request for an approval is decreed by the request and by the policy, in every phase of its
life (`Life.decreed`). Params that are no object are refused, and so nothing is approved; but params that are missing or
null count as `{}` before anyone looks, and the request is decided like any other (`malformed_approval_refused`).
-/

namespace RiverGang

open Py Coop Task

/-- The params are no object. -/
def MalformedParams (raw : Payload) : Prop := ∀ params, Json.get? raw (py "params") ≠ some (.obj params)

/-- The params are missing, or null. -/
def WithoutParams (raw : Payload) : Prop :=
  Json.get? raw (py "params") = none ∨ Json.get? raw (py "params") = some .null

/-- An error, and no result. -/
def Refusal (reply : Payload) : Prop :=
  (Json.get? reply (py "error")).isSome ∧ Json.get? reply (py "result") = none

theorem errorReply_refusal (requestId : Json) (code : Int) (message : Str) :
    Refusal (errorReply requestId code message) := ⟨rfl, rfl⟩

theorem resultReply_not_refusal (requestId : Json) (result : Payload) : ¬Refusal (resultReply requestId result) :=
  fun h => Bool.false_ne_true h.1

/-- What is refused is not approved. -/
theorem Refusal.not_approving {reply : Payload} (h : Refusal reply) : ¬Approving reply := by
  rintro ⟨result, hr, -⟩
  rw [h.2] at hr
  cases hr

/-- Malformed params are an error, but for those that count as none. -/
theorem MalformedParams.requestParams {raw : Payload} (h : MalformedParams raw) :
    (WithoutParams raw ∧ RiverGang.requestParams raw = .ok []) ∨
      (¬WithoutParams raw ∧ ∃ v, RiverGang.requestParams raw = .error v) := by
  unfold RiverGang.requestParams WithoutParams
  cases hp : Json.get? raw (py "params") with
  | none => exact .inl ⟨.inl rfl, rfl⟩
  | some v =>
    cases v with
    | null => exact .inl ⟨.inr rfl, rfl⟩
    | obj params => exact absurd hp (h params)
    | _ => exact .inr ⟨by simp, _, rfl⟩

section

variable [Builtins]

/-- The replies that are settled beforehand: to a request whose params are an error, and to a request for an approval
that the client decides itself. -/
structure Decreed (p : ClientParams) (raw reply : Payload) : Prop where
  refused : ∀ v, requestParams raw = .error v →
    ∃ requestId message, reply = errorReply requestId JSONRPC_INVALID_PARAMS message
  decided : ∀ params method, requestParams raw = .ok params → method? raw = some method → method ∈ APPROVAL_METHODS →
    method ∉ p.registered →
    ∃ requestId result, buildResult p.approvalPolicy method = .ok result ∧ reply = resultReply requestId result

/-- `s'` is `s` with more on the log, where all replies are as decreed. -/
def Leaves (p : ClientParams) (s s' : Client) : Prop := ∃ seg, s'.log = s.log ++ seg ∧ ReplyPairs (Decreed p) seg

variable {W : Wire} {p : ClientParams}

theorem Leaves.of_log {s s' : Client} (h : s'.log = s.log) : Leaves p s s' := ⟨[], by simp [h], .nil⟩

theorem Leaves.refl (s : Client) : Leaves p s s := .of_log rfl

theorem Leaves.trans (s s' s'' : Client) (h : Leaves p s s') (h' : Leaves p s' s'') : Leaves p s s'' := by
  obtain ⟨seg, hlog, hseg⟩ := h
  obtain ⟨seg', hlog', hseg'⟩ := h'
  exact ⟨seg ++ seg', by rw [hlog', hlog, List.append_assoc], hseg.append hseg'⟩

theorem Leaves.after {s s' : Client} {seg : List WireEntry} (h : After W s seg s') (hseg : ReplyPairs (Decreed p) seg) :
    Leaves p s s' := ⟨seg, h.log, hseg⟩

/-! ## Dispatch -/

/-- What is written for a request: nothing, or a reply as decreed. -/
def Answered (p : ClientParams) (raw : Payload) (s s' : Client) : Prop :=
  ∃ seg, s'.log = s.log ++ seg ∧ (seg = [] ∨ ∃ reply, seg = [.wrote reply] ∧ Decreed p raw reply)

theorem Answered.of_unreplied {raw : Payload} {s s' : Client} {seg : List WireEntry} (hs : After W s seg s')
    (h : Unreplied p raw seg) (hd : ∀ reply, Decreed p raw reply) : Answered p raw s s' := by
  rcases h with rfl | ⟨-, rfl⟩ | ⟨reply, rfl, -⟩
  · exact ⟨[], hs.log, .inl rfl⟩
  · exact ⟨[], hs.log, .inl rfl⟩
  · exact ⟨_, hs.log, .inr ⟨reply, rfl, hd reply⟩⟩

theorem writeReply_answers {raw reply : Payload} {s : Client} (h : Decreed p raw reply) :
    Ensures W (fun _ => Answered p raw s) (fun _ => Answered p raw s) (writeReply reply s) := by
  refine writeReply_ensures.mono (fun _ s' hs => ⟨_, hs.log, .inr ⟨reply, rfl, h⟩⟩) fun f s' hx => ?_
  rcases hx.2 with hs | hs
  · exact ⟨[], hs.log, .inl rfl⟩
  · exact ⟨_, hs.log, .inr ⟨reply, rfl, h⟩⟩

theorem dispatchServerRequest_answers {raw : Payload} {method : Str} {s : Client} (hm : method? raw = some method) :
    Ensures W (fun _ => Answered p raw s) (fun _ => Answered p raw s) (dispatchServerRequest p raw method s) := by
  cases hp : requestParams raw with
  | error v =>
    unfold dispatchServerRequest
    cases hid : requestId? raw with
    | none => exact ⟨[], (List.append_nil _).symm, .inl rfl⟩
    | some requestId =>
      simp only [hp]
      exact writeReply_answers ⟨fun _ _ => ⟨_, _, rfl⟩, fun _ _ h => by rw [hp] at h; cases h⟩
  | ok params =>
    by_cases ha : method ∈ APPROVAL_METHODS ∧ method ∉ p.registered
    · obtain ⟨result, hresult⟩ := buildResult_ok p.approvalPolicy ha.1
      unfold dispatchServerRequest
      cases hid : requestId? raw with
      | none => exact ⟨[], (List.append_nil _).symm, .inl rfl⟩
      | some requestId =>
        simp only [hp, approval_handler ha.2 ha.1, hresult]
        refine writeReply_answers ⟨fun v h => (by rw [hp] at h; cases h), fun _ method' _ hm' _ _ => ?_⟩
        rw [hm] at hm'
        cases hm'
        exact ⟨requestId, result, hresult, rfl⟩
    · -- nothing is decreed
      have hd : ∀ reply, Decreed p raw reply := by
        refine fun reply => ⟨fun v h => (by rw [hp] at h; cases h), fun _ method' _ hm' ha' hr => ?_⟩
        rw [hm] at hm'
        cases hm'
        exact absurd ⟨ha', hr⟩ ha
      refine (dispatchServerRequest_ensures hm).mono (fun _ s' hs => ?_) fun f s' hx => ?_
      · obtain ⟨seg, hseg, hrep⟩ := hs
        exact .of_unreplied hseg (.inr hrep) hd
      · obtain ⟨-, seg, hseg, hrep⟩ := hx
        exact .of_unreplied hseg hrep hd

/-! ## The whole client -/

/-- The client leaves replies as decreed. -/
abbrev KeepsDecree {α : Type} (W : Wire) (p : ClientParams) (t : Codex α) : Prop := Keeps W.proto (Leaves p) t

namespace KeepsDecree

theorem ofExcept {α : Type} (x : Except Failure α) : KeepsDecree W p (Task.ofExcept x) := keeps_ofExcept Leaves.refl x

theorem raise {α : Type} (f : Failure) : KeepsDecree W p (Task.raise f : Codex α) := keeps_raise Leaves.refl f

theorem pure {α : Type} (a : α) : KeepsDecree W p (Pure.pure a) := keeps_pure Leaves.refl a

theorem bind {α β : Type} {t : Codex α} {f : α → Codex β} (h : KeepsDecree W p t) (hf : ∀ a, KeepsDecree W p (f a)) :
    KeepsDecree W p (t >>= f) := Keeps.bind Leaves.trans h hf

theorem modify {f : Client → Client} (h : ∀ s, (f s).log = s.log) : KeepsDecree W p (Task.modify f) :=
  keeps_modify fun s => .of_log (h s)

theorem request (r : CodexReq) : KeepsDecree W p (Task.request (S := CodexSig) r) :=
  keeps_request (P := W.proto) (fun _ _ h => Leaves.of_log h.1.log) r

theorem get_bind {α : Type} {f : Client → Codex α} (h : ∀ s, KeepsDecree W p (f s)) : KeepsDecree W p (get >>= f) :=
  Keeps.get_bind Leaves.trans Leaves.refl h

theorem tryExcept {α : Type} {c : Failure → Bool} {t : Codex α} {h : Failure → Codex α} (ht : KeepsDecree W p t)
    (hh : ∀ f, KeepsDecree W p (h f)) : KeepsDecree W p (Task.tryExcept c t h) := Keeps.tryExcept Leaves.trans ht hh

end KeepsDecree

theorem emit_decree (event : Str) (payload : Payload) (usage : Option Payload) :
    KeepsDecree W p (emit p event payload usage) :=
  keeps_modify fun _ => ⟨_, rfl, .single fun reply he => by cases he⟩

theorem allocateId_decree : KeepsDecree W p allocateId :=
  .get_bind fun _ => .bind (.modify fun _ => rfl) fun _ => .pure _

/-- A frame of the client's own is no reply. -/
theorem writeFrame_decree {frame : Payload} (hm : (Json.get? frame (py "method")).isSome) :
    KeepsDecree W p (writeFrame frame) := by
  have hown : ReplyPairs (Decreed p) [.wrote frame] := by
    refine .single fun reply he hn => ?_
    cases he
    rw [hn] at hm
    cases hm
  intro s
  refine writeFrame_ensures.mono (fun _ s' hs => .after hs hown) fun f s' hx => ?_
  rcases hx.2.2 with hs | hs
  · exact .after hs .nil
  · exact .after hs hown

/-- What the rounds of all loops share. -/
theorem round_decree {α : Type} {onNotification : Str → Payload → Codex (Option α)}
    {onOther : Payload → Codex (Option α)} (hn : ∀ method raw, KeepsDecree W p (onNotification method raw))
    (ho : ∀ raw, KeepsDecree W p (onOther raw)) :
    KeepsDecree W p (do
      let raw ← readFrame p
      match frameShape raw with
      | .request method =>
        dispatchServerRequest p raw method
        pure none
      | .notification method => onNotification method raw
      | .other => onOther raw : Codex (Option α)) := by
  have hread (line : LineRead) : ReplyPairs (Decreed p) [.read line] := .single fun reply he => by cases he
  refine fun s => Ensures.bind readFrame_ensures (fun raw s' hs => ?_) fun f s' hx => ?_
  · have hframe : Leaves p s s' := .after hs (hread _)
    cases hshape : frameShape raw with
    | request method =>
      have hanswered {s'' : Client} (h : Answered p raw s' s'') : Leaves p s s'' := by
        obtain ⟨seg, hlog, rfl | ⟨reply, rfl, hd⟩⟩ := h
        · exact ⟨_, by rw [hlog, List.append_nil, hs.log], hread _⟩
        · exact ⟨_, by rw [hlog, hs.log, List.append_assoc]; rfl, .exchange hd⟩
      exact Ensures.bind (dispatchServerRequest_answers (frameShape_request hshape)) (fun _ s'' => hanswered)
        fun f s'' => hanswered
    | notification method => exact (hn method raw).after Leaves.trans hframe
    | other => exact (ho raw).after Leaves.trans hframe
  · rcases hx with ⟨hs, -⟩ | ⟨line, hs, -⟩
    · exact .after hs .nil
    · exact .after hs (hread line)

theorem awaitResponse_decree (fuel : Nat) (expectedId : Int) (onEvent : Bool) :
    KeepsDecree W p (awaitResponse p fuel expectedId onEvent) := by
  refine Keeps.loop Leaves.trans Leaves.refl (round_decree (fun method raw => ?_) fun raw => ?_) fuel
  · cases onEvent
    · exact .pure none
    · exact .bind (emit_decree _ _ _) fun _ => .pure none
  · exact .bind (.ofExcept _) fun response => .pure _

theorem streamLoop_decree (fuel : Nat) (turnId : Str) : KeepsDecree W p (loop .outOfFuel (streamRound p turnId) fuel) :=
  Keeps.loop Leaves.trans Leaves.refl (round_decree (fun _ _ => .bind (emit_decree _ _ _) fun _ => .ofExcept _)
    fun _ => .pure none) fuel

theorem waitFor_decree {α : Type} (timeoutMs : Int) (onTimeout : Failure) {body : Codex α} (h : KeepsDecree W p body) :
    KeepsDecree W p (waitFor timeoutMs onTimeout body) := by
  unfold waitFor
  split
  · exact .raise _
  · split
    · exact .bind (.request _) fun x => .bind (.ofExcept x) fun _ => .raise _
    · exact .tryExcept h fun _ => .raise _

theorem roundTrip_decree {fuel : Nat} {request : Payload} {id readTimeoutMs : Int} {step : Str}
    (hm : (Json.get? request (py "method")).isSome) :
    KeepsDecree W p (roundTrip p fuel request id readTimeoutMs step) := by
  refine .bind (writeFrame_decree hm) fun _ => .bind (.tryExcept (waitFor_decree _ _ (awaitResponse_decree _ _ _))
    fun _ => .raise _) fun response => ?_
  cases response.error with
  | some e => exact .raise _
  | none => exact .pure _

theorem startSession_decree (fuel : Nat) (a : SessionArgs) : KeepsDecree W p (startSession p fuel a) := by
  have hstep {request : Int → Payload} {step : Str} {extract : Payload → Except Failure Str}
      (hm : ∀ id, (Json.get? (request id) (py "method")).isSome) : KeepsDecree W p (do
        let id ← allocateId
        let response ← roundTrip p fuel (request id) id a.readTimeoutMs step
        let result ← ofExcept (resultOf step response)
        ofExcept (extract result) : Codex Str) :=
    .bind allocateId_decree fun id => .bind (roundTrip_decree (hm id)) fun _ => .bind (.ofExcept _) fun _ => .ofExcept _
  refine .bind (.modify fun _ => rfl) fun _ => .bind allocateId_decree fun id => .bind (roundTrip_decree rfl) fun _ =>
    .bind (writeFrame_decree rfl) fun _ => .bind (hstep fun _ => rfl) fun threadId =>
    .bind (hstep fun _ => rfl) fun turnId => .get_bind fun s => .pure _

theorem streamTurn_decree (fuel : Nat) (session : Session) (prompt : Str) (turnTimeoutMs : Int) (isFirstTurn : Bool) :
    KeepsDecree W p (CodexClient.streamTurn p fuel session prompt turnTimeoutMs isFirstTurn) := by
  have hown (id : Int) : (Json.get? (if isFirstTurn then buildTurnStartRequest id session.threadId prompt
      else buildContinuationTurnRequest id session.threadId prompt) (py "method")).isSome := by
    cases isFirstTurn <;> rfl
  refine .bind (.modify fun _ => rfl) fun _ => waitFor_decree _ _ (.bind allocateId_decree fun id =>
    .bind (writeFrame_decree (hown id)) fun _ => .bind (awaitResponse_decree _ _ _) fun ack =>
    .bind (.ofExcept _) fun result => .bind (.ofExcept _) fun turnId => .bind (.ofExcept _) fun verdict => ?_)
  cases verdict with
  | some r => exact .pure r
  | none => exact streamLoop_decree fuel turnId

/-- All replies of a life are as decreed. -/
theorem Life.decreed {s : Client} (h : Life W p s) : ReplyPairs (Decreed p) s.log := by
  have hleaves {s s' : Client} (hs : ReplyPairs (Decreed p) s.log) (h : Leaves p s s') : ReplyPairs (Decreed p) s'.log := by
    obtain ⟨seg, hlog, hseg⟩ := h
    rw [hlog]
    exact hs.append hseg
  induction h with
  | new now => exact .nil
  | rely _ hr ih => exact hleaves ih (.of_log hr.1.log)
  | startSession _ hrun ih => exact hleaves ih ((startSession_decree _ _).runs hrun)
  | streamTurn _ hrun ih => exact hleaves ih ((streamTurn_decree _ _ _ _ _).runs hrun)

/-- Throughout the life of a client, whatever its waits come to and whoever else has registered handlers: the reply to a
request for an approval with malformed params is an error if the params are neither missing nor null, and where the
client decides itself only then. Where every write is accepted, there is such a reply. -/
theorem malformed_approval_refused {s : Client} (h : Life W p s) {k : Nat} {raw : Payload} {method : Str}
    (hraw : s.log[k]? = some (.frame raw)) (hm : method? raw = some method) (ha : method ∈ APPROVAL_METHODS)
    (hmal : MalformedParams raw) :
    (∀ reply, s.log[k + 1]? = some (.wrote reply) → Json.get? reply (py "method") = none →
      (¬WithoutParams raw → Refusal reply) ∧ (method ∉ p.registered → Refusal reply → ¬WithoutParams raw)) ∧
    (¬Fragile W true → (requestId? raw).isSome →
      ∃ reply, s.log[k + 1]? = some (.wrote reply) ∧ Json.get? reply (py "method") = none) := by
  refine ⟨fun reply hk hnone => ?_, fun hf hid => ?_⟩
  · obtain ⟨j, raw', hj, hraw', hd⟩ := h.decreed (k + 1) reply hk hnone
    cases hj
    rw [hraw] at hraw'
    cases hraw'
    rcases hmal.requestParams with ⟨hwithout, hp⟩ | ⟨hwith, v, hp⟩
    · refine ⟨fun hn => absurd hwithout hn, fun hr hrefusal => ?_⟩
      obtain ⟨requestId, result, -, rfl⟩ := hd.decided [] method hp hm ha hr
      exact absurd hrefusal (resultReply_not_refusal requestId result)
    · obtain ⟨requestId, message, rfl⟩ := hd.refused v hp
      exact ⟨fun _ => errorReply_refusal requestId _ message, fun _ _ => hwith⟩
  · obtain ⟨reply, hreply, hto⟩ := h.settled.1.answered hf k raw hraw ⟨by rw [hm]; rfl, hid⟩
    exact ⟨reply, hreply, hto.method⟩

end

/-! ## Params that are null -/

section Sample

attribute [local instance] sampleBuiltins

/-- The method of a request that can be replied to, where its params are no object, and whether they are none. -/
def WireEntry.malformed? : WireEntry → Option (Str × Bool)
  | .read (.value (.obj raw)) =>
    if (requestId? raw).isSome then
      match Json.get? raw (py "params") with
      | none => (method? raw).map (·, true)
      | some .null => (method? raw).map (·, true)
      | some (.obj _) => none
      | some _ => (method? raw).map (·, false)
    else none
  | _ => none

theorem WireEntry.malformed?_some {e : WireEntry} {method : Str} {without : Bool}
    (h : e.malformed? = some (method, without)) : ∃ raw, e = .frame raw ∧ (requestId? raw).isSome ∧
      method? raw = some method ∧ MalformedParams raw ∧ (without = true ↔ WithoutParams raw) := by
  unfold WireEntry.malformed? at h
  split at h
  · rename_i raw
    have hmap : ∀ b, (method? raw).map (·, b) = some (method, without) → method? raw = some method ∧ b = without := by
      simp only [Option.map_eq_some_iff, Prod.mk.injEq]
      rintro b ⟨m, hm, rfl, rfl⟩
      exact ⟨hm, rfl⟩
    split at h
    · rename_i hid
      refine ⟨raw, rfl, hid, ?_⟩
      unfold MalformedParams WithoutParams
      split at h
      · obtain ⟨hm, rfl⟩ := hmap _ h
        simp_all
      · obtain ⟨hm, rfl⟩ := hmap _ h
        simp_all
      · cases h
      · obtain ⟨hm, rfl⟩ := hmap _ h
        simp_all
    · cases h
  · cases h

/-- The decision that a frame carries. -/
def WireEntry.decision? : WireEntry → Option Str
  | .wrote reply =>
    (((Json.get? reply (py "result")).bind Json.obj?).bind fun r => Json.get? r (py "decision")).bind Json.str?
  | _ => none

theorem WireEntry.decision?_approved {e : WireEntry} (h : e.decision? = some (py "approved")) :
    ∃ reply, e = .wrote reply ∧ Approving reply := by
  unfold WireEntry.decision? at h
  split at h
  · rename_i reply
    obtain ⟨v, hv, hstr⟩ := Option.bind_eq_some_iff.1 h
    obtain ⟨result, hobj, hdecision⟩ := Option.bind_eq_some_iff.1 hv
    obtain ⟨w, hw, hresult⟩ := Option.bind_eq_some_iff.1 hobj
    cases w <;> cases hresult
    cases v <;> cases hstr
    exact ⟨reply, rfl, result, hw, .inl hdecision⟩
  · cases h

/-- A client that gets some requests in the midst of its handshake. -/
def sampleAsked (frames : List Payload) : Client :=
  ((startSession sampleClientParams 9 sampleSessionArgs sampleClient).execWith (sends (frames ++ sampleHandshake))).2

theorem sampleAsked_life (frames : List Payload) : Life .accepting sampleClientParams (sampleAsked frames) :=
  .startSession (.new _) (runs_sends (W := .accepting) (frames ++ sampleHandshake) (fun _ _ => trivial) (fun _ => trivial)
    (startSession sampleClientParams 9 sampleSessionArgs sampleClient))

theorem malformed_approval_refused_sample : ∃ s : Client, Life .accepting sampleClientParams s ∧
    ∃ k raw reply, s.log[k]? = some (.frame raw) ∧ method? raw = some METHOD_EXEC_COMMAND_APPROVAL ∧ MalformedParams raw ∧
      s.log[k + 1]? = some (.wrote reply) ∧ Refusal reply := by
  have hlife := sampleAsked_life [sampleRequest (.int 7) "execCommandApproval" (.arr [])]
  have hlog : (sampleAsked [sampleRequest (.int 7) "execCommandApproval" (.arr [])]).log[1]?.bind WireEntry.malformed? =
      some (METHOD_EXEC_COMMAND_APPROVAL, false) := by decide +kernel
  generalize sampleAsked [sampleRequest (.int 7) "execCommandApproval" (.arr [])] = s at hlife hlog
  obtain ⟨e, he, hmal⟩ := Option.bind_eq_some_iff.1 hlog
  obtain ⟨raw, rfl, hid, hm, hmal, hwithout⟩ := WireEntry.malformed?_some hmal
  have hboth := malformed_approval_refused hlife he hm (by decide) hmal
  have hfragile : ¬Fragile .accepting true := by
    rintro (hb | ho | ⟨_, _, hc⟩)
    · exact hb
    · cases ho
    · exact hc
  obtain ⟨reply, hreply, hnone⟩ := hboth.2 hfragile hid
  exact ⟨s, hlife, 1, raw, reply, he, hm, hmal, hreply,
    (hboth.1 reply hreply hnone).1 fun hw => Bool.false_ne_true (hwithout.2 hw)⟩

/-- Under the policy `never`, a request to apply a patch whose params are null is approved. -/
theorem null_params_approved : ∃ s : Client, Life .accepting sampleClientParams s ∧
    ∃ k raw reply, s.log[k]? = some (.frame raw) ∧ (requestId? raw).isSome ∧
      method? raw = some METHOD_APPLY_PATCH_APPROVAL ∧ MalformedParams raw ∧
      s.log[k + 1]? = some (.wrote reply) ∧ Approving reply ∧ ¬Refusal reply := by
  have hlife := sampleAsked_life [sampleRequest (.int 7) "applyPatchApproval" .null]
  have hlog : (sampleAsked [sampleRequest (.int 7) "applyPatchApproval" .null]).log[1]?.bind WireEntry.malformed? =
      some (METHOD_APPLY_PATCH_APPROVAL, true) ∧
      (sampleAsked [sampleRequest (.int 7) "applyPatchApproval" .null]).log[2]?.bind WireEntry.decision? =
        some (py "approved") := by decide +kernel
  generalize sampleAsked [sampleRequest (.int 7) "applyPatchApproval" .null] = s at hlife hlog
  obtain ⟨e, he, hmal⟩ := Option.bind_eq_some_iff.1 hlog.1
  obtain ⟨raw, rfl, hid, hm, hmal, -⟩ := WireEntry.malformed?_some hmal
  obtain ⟨e', he', hdecision⟩ := Option.bind_eq_some_iff.1 hlog.2
  obtain ⟨reply, rfl, happroving⟩ := WireEntry.decision?_approved hdecision
  exact ⟨s, hlife, 1, raw, reply, he, hid, hm, hmal, he', happroving, fun hr => hr.not_approving happroving⟩

end Sample

end RiverGang
