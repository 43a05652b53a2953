import RiverGang.Codex.Rounds

/-!
# The handshake

`start_session` writes its requests one after the other, each only when the response to the one before was read, and
whatever comes between: `Handshake` is the grammar of its trace. `startSession_ensures` holds it against the code, for
every way the waiting may go; what a trace of the grammar looks like is then read off (`Handshake.*`).
-/

namespace RiverGang

open Py Coop Task

/-! ## A request and its response -/

theorem frameShape_other {raw : Payload} : frameShape raw = .other ↔ method? raw = none := by
  unfold frameShape
  cases method? raw with
  | none => simp
  | some m => simp only [reduceCtorEq, iff_false]; split <;> simp

theorem frameShape_isSome {raw : Payload} (h : frameShape raw ≠ .other) : (method? raw).isSome := by
  cases hm : method? raw with
  | none => exact absurd (frameShape_other.2 hm) h
  | some m => rfl

/-- How a wait for a response ends without one; `fragile` says whether a reply may be refused. -/
inductive Tail (p : ClientParams) (fragile : Prop) : List WireEntry → Prop
  | nil : Tail p fragile []
  | line {line : LineRead} {f : Failure} : frameOf p line = .error f → Tail p fragile [.read line]
  | request {raw : Payload} {method : Str} {seg : List WireEntry} : fragile → frameShape raw = .request method →
      Unreplied p raw seg → Tail p fragile (.frame raw :: seg)
  | response {raw : Payload} : frameShape raw = .other → Tail p fragile [.frame raw]

theorem BrokenOff.tail {W : Wire} {p : ClientParams} {fragile : Prop} {seg : List WireEntry}
    {f : Failure} {s' : Client} {fuel : Nat} {q : List WireEntry}
    (hf : ∀ g, W.Stops s' g → fragile) (h : BrokenOff W p fuel q s' seg f) : Tail p fragile seg := by
  rcases h with h | ⟨rfl, -⟩
  · cases h with
    | cut => exact .nil
    | line hline => exact .line hline
    | request hshape hrep hstop => exact .request (hf _ hstop) hshape hrep
  · exact .nil

section

variable [Builtins]

/-- A response that carries a result, to the request `id`. -/
structure SuccessResponse (id : Int) (raw result : Payload) : Prop where
  noMethod : method? raw = none
  id : ∃ v, Json.get? raw (py "id") = some v ∧ v.eqInt id = true
  result : Json.get? raw (py "result") = some (.obj result)
  noError : error? raw = none

/-- A request whose response was not read, or is not good enough. -/
def Attempted (p : ClientParams) (fragile : Prop) (φ : ReadLoop) (request : Payload) (seg : List WireEntry) : Prop :=
  (fragile ∧ seg = []) ∨
    ∃ q tail, seg = .wrote request :: (q ++ tail) ∧ Rounds p φ (fun _ => True) q ∧ Tail p fragile tail

/-- A request, and the response to it. -/
def Exchanged (p : ClientParams) (φ : ReadLoop) (request : Payload) (id : Int) (result : Payload)
    (seg : List WireEntry) : Prop :=
  ∃ q raw, seg = .wrote request :: (q ++ [.frame raw]) ∧ Rounds p φ (fun _ => True) q ∧ SuccessResponse id raw result

variable {W : Wire} {s : Client} {p : ClientParams} {fragile : Prop}

theorem Attempted.mono {fragile' : Prop} {φ : ReadLoop} {request : Payload} {seg : List WireEntry}
    (h : Attempted p fragile φ request seg) (hf : fragile → fragile') : Attempted p fragile' φ request seg := by
  rcases h with ⟨hfr, hseg⟩ | ⟨q, tail, hseg, hq, ht⟩
  · exact .inl ⟨hf hfr, hseg⟩
  · refine .inr ⟨q, tail, hseg, hq, ?_⟩
    cases ht with
    | nil => exact .nil
    | line hline => exact .line hline
    | request hfr hshape hrep => exact .request (hf hfr) hshape hrep
    | response hshape => exact .response hshape

theorem Exchanged.attempted {φ : ReadLoop} {request result : Payload} {id : Int} {seg : List WireEntry}
    (h : Exchanged p φ request id result seg) : Attempted p fragile φ request seg := by
  obtain ⟨q, raw, hseg, hq, hraw⟩ := h
  exact .inr ⟨q, _, hseg, hq, .response (frameShape_other.2 hraw.noMethod)⟩

/-- A response without an error has a result. -/
theorem parseResponse_success {raw : Payload} {id : Int} {response : JsonRpcResponse} (hm : frameShape raw = .other)
    (h : parseResponse raw id = .ok response) (he : response.error = none) :
    ∃ result, response.result = some result ∧ SuccessResponse id raw result := by
  unfold parseResponse at h
  cases hid : Json.get? raw (py "id") with
  | none => simp [hid] at h
  | some v =>
    simp only [hid] at h
    cases hv : v.eqInt id with
    | false => simp [hv] at h
    | true =>
      simp only [hv, Bool.not_true, Bool.false_eq_true, if_false] at h
      split at h
      · cases h
      · cases h
      · -- an error, which is ruled out
        rename_i err _ _
        cases herr : parseError err with
        | error f =>
          rw [herr] at h
          cases h
        | ok err' =>
          rw [herr] at h
          cases h
          cases he
      · cases h
      · rename_i result hr hn
        cases h
        exact ⟨result, rfl, frameShape_other.1 hm, ⟨v, hid, hv⟩, hr, hn⟩
      · cases h

/-! ## A round trip -/

theorem roundTrip_ensures {fuel : Nat} {request : Payload} {id readTimeoutMs : Int} {step : Str} :
    Ensures W
      (fun response s' => ∃ seg result, After W s seg s' ∧ Exchanged p .handshake request id result seg ∧
        response.result = some result)
      (fun _ s' => ∃ seg, After W s seg s' ∧ Attempted p (Fragile W s.stdinOpen) .handshake request seg)
      (roundTrip p fuel request id readTimeoutMs step s) := by
  have hwrote : ∀ {s'}, After W s [.wrote request] s' → ∃ seg, After W s seg s' ∧
      Attempted p (Fragile W s.stdinOpen) .handshake request seg :=
    fun h => ⟨_, h, .inr ⟨[], [], rfl, .nil, .nil⟩⟩
  refine Ensures.bind writeFrame_ensures (fun _ s₁ hs₁ => ?_) fun f s₁ hx => ?_
  · refine Ensures.bind (Q := fun response s' => ∃ q raw, After W s (.wrote request :: (q ++ [.frame raw])) s' ∧
        Rounds p .handshake (fun _ => True) q ∧ frameShape raw = .other ∧ parseResponse raw id = .ok response)
      (X := fun _ s' => ∃ seg, After W s seg s' ∧ Attempted p (Fragile W s.stdinOpen) .handshake request seg)
      ?_ (fun response s' hr => ?_) fun _ _ hx => hx
    · refine Res.Sat.tryExcept
        (X := fun _ s' => ∃ seg, After W s seg s' ∧ Attempted p (Fragile W s.stdinOpen) .handshake request seg)
        (fun f s' _ hx => ?_) (fun f s' _ hx => hx)
        (waitFor_ensures
          (X := fun _ s' => ∃ seg, After W s seg s' ∧ Attempted p (Fragile W s.stdinOpen) .handshake request seg)
          (fun _ _ => ?_) (fun _ msg => hwrote hs₁) (fun s' _ _ hs => hwrote (by simpa using hs₁.trans hs))
          (fun f s' _ _ hs _ _ => hwrote (by simpa using hs₁.trans hs)) (fun s' hx => hx) fun f s' _ hx => hx)
      · exact hx
      · refine (awaitResponse_ensures (φ := .handshake) (by decide)).mono (fun response s' hr => ?_) fun f s' hx => ?_
        · obtain ⟨q, raw, hseg, hq, hshape, hparse⟩ := hr
          exact ⟨q, raw, hs₁.trans hseg, hq, hshape, hparse⟩
        · obtain ⟨q, seg, hseg, hq, hx⟩ := hx
          have hall : After W s (.wrote request :: (q ++ seg)) s' := hs₁.trans hseg
          refine ⟨_, hall, .inr ⟨q, seg, rfl, hq, ?_⟩⟩
          rcases hx with hx | ⟨raw, rfl, hshape, -⟩
          · exact hx.tail fun g => stops_fragile hall
          · exact .response hshape
    · obtain ⟨q, raw, hseg, hq, hshape, hparse⟩ := hr
      cases he : response.error with
      | some e => exact ⟨_, hseg, .inr ⟨q, _, rfl, hq, .response hshape⟩⟩
      | none =>
        obtain ⟨result, hresult, hraw⟩ := parseResponse_success hshape hparse he
        exact ⟨_, result, hseg, ⟨q, raw, rfl, hq, hraw⟩, hresult⟩
  · rcases hx.2.2 with hs | hs
    · exact ⟨[], hs, .inl ⟨stops_fragile hs hx.2.1, rfl⟩⟩
    · exact hwrote hs

/-! ## The grammar -/

/-- The trace of a handshake that starts with the id `n`: how many ids it takes, and what it comes to — the ids of the
thread and of its turn. -/
inductive Handshake (p : ClientParams) (a : SessionArgs) (fragile : Prop) (n : Int) :
    List WireEntry → Int → Except Failure (Str × Str) → Prop
  | begun {seg₁ : List WireEntry} {f : Failure} :
      Attempted p fragile .handshake (buildInitializeRequest n p.clientVersion) seg₁ →
      Handshake p a fragile n seg₁ 1 (.error f)
  | initialized {seg₁ : List WireEntry} {r₁ : Payload} {f : Failure} :
      Exchanged p .handshake (buildInitializeRequest n p.clientVersion) n r₁ seg₁ → fragile →
      Handshake p a fragile n (seg₁ ++ [.wrote INITIALIZED]) 1 (.error f)
  | thread {seg₁ seg₂ : List WireEntry} {r₁ : Payload} {f : Failure} :
      Exchanged p .handshake (buildInitializeRequest n p.clientVersion) n r₁ seg₁ →
      Attempted p fragile .handshake
        (buildThreadStartRequest (n + 1) a.workspace a.approvalPolicy a.sandboxPolicy) seg₂ →
      Handshake p a fragile n (seg₁ ++ [.wrote INITIALIZED] ++ seg₂) 2 (.error f)
  | turn {seg₁ seg₂ seg₃ : List WireEntry} {r₁ r₂ : Payload} {threadId : Str} {f : Failure} :
      Exchanged p .handshake (buildInitializeRequest n p.clientVersion) n r₁ seg₁ →
      Exchanged p .handshake (buildThreadStartRequest (n + 1) a.workspace a.approvalPolicy a.sandboxPolicy) (n + 1) r₂
        seg₂ →
      extractThreadId r₂ = .ok threadId →
      Attempted p fragile .handshake (buildTurnStartRequest (n + 2) threadId a.prompt) seg₃ →
      Handshake p a fragile n (seg₁ ++ [.wrote INITIALIZED] ++ seg₂ ++ seg₃) 3 (.error f)
  | opened {seg₁ seg₂ seg₃ : List WireEntry} {r₁ r₂ r₃ : Payload} {threadId turnId : Str} :
      Exchanged p .handshake (buildInitializeRequest n p.clientVersion) n r₁ seg₁ →
      Exchanged p .handshake (buildThreadStartRequest (n + 1) a.workspace a.approvalPolicy a.sandboxPolicy) (n + 1) r₂
        seg₂ →
      extractThreadId r₂ = .ok threadId →
      Exchanged p .handshake (buildTurnStartRequest (n + 2) threadId a.prompt) (n + 2) r₃ seg₃ →
      extractTurnId r₃ = .ok turnId →
      Handshake p a fragile n (seg₁ ++ [.wrote INITIALIZED] ++ seg₂ ++ seg₃) 3 (.ok (threadId, turnId))

/-- A step of the handshake that takes the id `n + k`: a request, and an id out of its response. -/
theorem step_ensures {fuel : Nat} {a : SessionArgs} {k : Int} {s₁ : Client} {seg : List WireEntry}
    {request : Int → Payload} {step : Str} {extract : Payload → Except Failure Str} (hs : Advance W s k seg s₁) :
    Ensures W
      (fun id s' => ∃ seg' result, Advance W s (k + 1) (seg ++ seg') s' ∧
        Exchanged p .handshake (request (s.nextId + k)) (s.nextId + k) result seg' ∧ extract result = .ok id)
      (fun _ s' => ∃ seg', Advance W s (k + 1) (seg ++ seg') s' ∧
        Attempted p (Fragile W s.stdinOpen) .handshake (request (s.nextId + k)) seg')
      ((do
        let id ← allocateId
        let response ← roundTrip p fuel (request id) id a.readTimeoutMs step
        let result ← ofExcept (resultOf step response)
        ofExcept (extract result) : Codex Str) s₁) := by
  have hid : s₁.nextId = s.nextId + k := hs.nextId
  rw [← hid]
  -- the id is taken, the rest is one round trip
  have hs₂ := hs.allocate
  change Ensures W _ _ ((roundTrip p fuel (request s₁.nextId) s₁.nextId a.readTimeoutMs step
    { s₁ with nextId := s₁.nextId + 1 }).bind _)
  refine Ensures.bind roundTrip_ensures (fun response s' hr => ?_) fun f s' hx => ?_
  · obtain ⟨seg', result, hseg, hex, hresult⟩ := hr
    have hresultOf : resultOf step response = .ok result := by simp [resultOf, hresult]
    rw [bind_apply, hresultOf]
    refine ofExcept_ensures (fun id h => ⟨seg', result, hs₂.after hseg, hex, h⟩)
      fun f _ => ⟨seg', hs₂.after hseg, hex.attempted⟩
  · obtain ⟨seg', hseg, hatt⟩ := hx
    exact ⟨seg', hs₂.after hseg, hatt.mono hs₂.fragile⟩

theorem startSession_ensures {fuel : Nat} {a : SessionArgs} :
    Ensures W
      (fun session s' => ∃ seg k, Advance W s k seg s' ∧
        Handshake p a (Fragile W s.stdinOpen) s.nextId seg k (.ok (session.threadId, session.firstTurnId)))
      (fun f s' => ∃ seg k, Advance W s k seg s' ∧ Handshake p a (Fragile W s.stdinOpen) s.nextId seg k (.error f))
      (startSession p fuel a s) := by
  have hs₁ : Advance W s 1 [] { s with readTimeoutMs := some a.readTimeoutMs, nextId := s.nextId + 1 } :=
    ⟨rfl, id, fun _ => rfl, by simp⟩
  change Ensures W _ _ ((roundTrip p fuel (buildInitializeRequest s.nextId p.clientVersion) s.nextId a.readTimeoutMs
    (py "initialize") { s with readTimeoutMs := some a.readTimeoutMs, nextId := s.nextId + 1 }).bind _)
  refine Ensures.bind roundTrip_ensures (fun response s₂ hr => ?_) fun f s' hx => ?_
  · obtain ⟨seg₁, r₁, hseg₁, hex₁, -⟩ := hr
    have hs₂ := hs₁.after hseg₁
    refine Ensures.bind writeFrame_ensures (fun _ s₃ hw => ?_) fun f s₃ hx => ?_
    · have hs₃ := hs₂.after hw
      refine Ensures.bind (step_ensures hs₃) (fun threadId s₄ ht => ?_) fun f s₄ hx => ?_
      · obtain ⟨seg₂, r₂, hs₄, hex₂, hthread⟩ := ht
        refine Ensures.bind (step_ensures hs₄) (fun turnId s₅ ht => ?_) fun f s₅ hx => ?_
        · obtain ⟨seg₃, r₃, hs₅, hex₃, hturn⟩ := ht
          exact ⟨_, _, hs₅, .opened hex₁ hex₂ hthread hex₃ hturn⟩
        · obtain ⟨seg₃, hs₅, hatt⟩ := hx
          exact ⟨_, _, hs₅, .turn hex₁ hex₂ hthread hatt⟩
      · obtain ⟨seg₂, hs₄, hatt⟩ := hx
        exact ⟨_, _, hs₄, .thread hex₁ hatt⟩
    · have hfragile : Fragile W s.stdinOpen := by
        rcases hx.2.2 with h | h
        · exact hs₂.fragile (stops_fragile h hx.2.1)
        · exact hs₂.fragile (stops_fragile h hx.2.1)
      rcases hx.2.2 with h | h
      · exact ⟨_, _, hs₂.after h, .begun (by simpa using hex₁.attempted)⟩
      · exact ⟨_, _, hs₂.after h, .initialized hex₁ hfragile⟩
  · obtain ⟨seg₁, hseg₁, hatt⟩ := hx
    exact ⟨_, _, hs₁.after hseg₁, .begun (hatt.mono hs₁.fragile)⟩

end

/-- Every run of `start_session` leaves such a trace. -/
theorem startSession_trace [Builtins] {W : Wire} {p : ClientParams} {fuel : Nat} {a : SessionArgs} {s s' : Client}
    {o : Except Failure Session} (h : Runs W.proto (startSession p fuel a s) o s') :
    ∃ seg k, Advance W s k seg s' ∧ Handshake p a (Fragile W s.stdinOpen) s.nextId seg k
      (o.map fun session => (session.threadId, session.firstTurnId)) :=
  startSession_ensures.outcome
    (R := fun o s' => ∃ seg k, Advance W s k seg s' ∧ Handshake p a (Fragile W s.stdinOpen) s.nextId seg k
      (o.map fun session => (session.threadId, session.firstTurnId))) h

/-! ## Reading a handshake -/

theorem Tail.own {p : ClientParams} {fragile : Prop} {tail : List WireEntry} (h : Tail p fragile tail) :
    ∀ e ∈ tail, e.own? = none := by
  cases h with
  | nil => simp
  | line => simp [WireEntry.own?]
  | request _ _ hrep => simpa [WireEntry.own?] using hrep.own
  | response => simp [WireEntry.own?]

section

variable [Builtins] {p : ClientParams} {fragile : Prop} {φ : ReadLoop}

/-- A request that was written is the first entry, and the only one of the client's own. -/
theorem Attempted.shape {request : Payload} {seg : List WireEntry} (h : Attempted p fragile φ request seg) :
    seg = [] ∨ ∃ rest, seg = .wrote request :: rest ∧ ∀ e ∈ rest, e.own? = none := by
  rcases h with ⟨-, rfl⟩ | ⟨q, tail, rfl, hq, ht⟩
  · exact .inl rfl
  · refine .inr ⟨_, rfl, fun e he => ?_⟩
    rcases List.mem_append.1 he with he | he
    · exact hq.own e he
    · exact ht.own e he

theorem Exchanged.ownWrites {request result : Payload} {id : Int} {seg : List WireEntry}
    (h : Exchanged p φ request id result seg) (hm : (Json.get? request (py "method")).isSome) :
    ownWrites seg = [request] := by
  obtain ⟨q, raw, rfl, hq, -⟩ := h
  rw [← List.singleton_append, ownWrites_append, ownWrites_append, ownWrites_eq_nil hq.own]
  simp [RiverGang.ownWrites, WireEntry.own?, hm]

theorem Attempted.ownWrites {request : Payload} {seg : List WireEntry} (h : Attempted p fragile φ request seg) :
    RiverGang.ownWrites seg <+: [request] := by
  rcases h.shape with rfl | ⟨rest, rfl, hrest⟩
  · simp [RiverGang.ownWrites]
  · rw [← List.singleton_append, ownWrites_append, ownWrites_eq_nil hrest]
    cases hm : (Json.get? request (py "method")).isSome <;> simp [RiverGang.ownWrites, WireEntry.own?, hm]

/-- `P` holds throughout when it holds of the request, and of whatever is not of the client's own. -/
theorem Attempted.throughout {P : List WireEntry → WireEntry → Prop} {request : Payload} {seg : List WireEntry}
    (h : Attempted p fragile φ request seg) (hrequest : P [] (.wrote request))
    (hrest : ∀ e, e.own? = none → ∀ before, P before e) : Throughout P seg := by
  rcases h.shape with rfl | ⟨rest, rfl, hown⟩
  · exact .of_forall (by simp)
  · refine Throughout.append (l := [.wrote request]) (fun before e after hsplit => ?_)
      (.of_forall fun e he before => hrest e (hown e he) _)
    cases before with
    | nil =>
      cases hsplit
      exact hrequest
    | cons e' before => simp at hsplit

/-- The frames of a handshake, in order. -/
def handshakeFrames (p : ClientParams) (a : SessionArgs) (n : Int) (threadId : Str) : List Payload :=
  [buildInitializeRequest n p.clientVersion, INITIALIZED,
    buildThreadStartRequest (n + 1) a.workspace a.approvalPolicy a.sandboxPolicy,
    buildTurnStartRequest (n + 2) threadId a.prompt]

/-- A request with an id other than `n` is written only after the request with the id before it, and after a success
response to that one. -/
def Earned (n : Int) (before : List WireEntry) (e : WireEntry) : Prop :=
  ∀ frame id, e.own? = some frame → requestNumber frame = some id → id ≠ n →
    ∃ before' request between raw result after, before = before' ++ .wrote request :: (between ++ .frame raw :: after) ∧
      requestNumber request = some (id - 1) ∧ SuccessResponse (id - 1) raw result

/-- The trace of a session that was opened: all three requests got their response, and its ids are those that the
responses to `thread/start` and `turn/start` carry. -/
def Opened (p : ClientParams) (a : SessionArgs) (n : Int) (seg : List WireEntry) (threadId turnId : Str) : Prop :=
  ∃ seg₁ seg₂ seg₃ r₁ r₂ r₃, seg = seg₁ ++ [.wrote INITIALIZED] ++ seg₂ ++ seg₃ ∧
    Exchanged p .handshake (buildInitializeRequest n p.clientVersion) n r₁ seg₁ ∧
    Exchanged p .handshake (buildThreadStartRequest (n + 1) a.workspace a.approvalPolicy a.sandboxPolicy) (n + 1) r₂
      seg₂ ∧
    Exchanged p .handshake (buildTurnStartRequest (n + 2) threadId a.prompt) (n + 2) r₃ seg₃ ∧
    objectId? (py "thread") r₂ = some threadId ∧ objectId? (py "turn") r₃ = some turnId

theorem Earned.of_none {n : Int} {before : List WireEntry} {e : WireEntry} (h : e.own? = none) : Earned n before e := by
  intro frame id he
  rw [h] at he
  cases he

/-- The first id has nothing to wait for. -/
theorem Earned.of_first {n : Int} {before : List WireEntry} {frame : Payload} (h : requestNumber frame = some n) :
    Earned n before (.wrote frame) := by
  intro frame' id he hid hne
  simp only [WireEntry.own?] at he
  split at he <;> cases he
  rw [h] at hid
  cases hid
  exact absurd rfl hne

/-- The next request after an exchange. -/
theorem Exchanged.earned {request result frame : Payload} {n id : Int} {l seg l' : List WireEntry}
    (h : Exchanged p φ request id result seg) (hr : requestNumber request = some id)
    (hf : requestNumber frame = some (id + 1)) : Earned n (l ++ seg ++ l') (.wrote frame) := by
  intro frame' id' he hid _
  have hframe : frame' = frame := by
    simp only [WireEntry.own?] at he
    split at he <;> cases he
    rfl
  obtain ⟨q, raw, rfl, -, hraw⟩ := h
  rw [hframe, hf] at hid
  cases hid
  refine ⟨l, request, q, raw, result, l', by simp, ?_, ?_⟩
  · rw [hr]
    congr 1
    omega
  · rwa [show id + 1 - 1 = id by omega]

namespace Handshake

variable {a : SessionArgs} {n k : Int} {seg : List WireEntry} {o : Except Failure (Str × Str)}

/-- What the client writes of its own is the handshake as far as it goes. -/
theorem frames (h : Handshake p a fragile n seg k o) :
    ∃ threadId l, RiverGang.ownWrites seg <+: l ∧ l <+: handshakeFrames p a n threadId ∧
      ∀ id ∈ l.filterMap requestNumber, n ≤ id ∧ id < n + k := by
  cases h with
  | begun h₁ =>
    refine ⟨[], _, h₁.ownWrites, ⟨_, rfl⟩, fun id hid => ?_⟩
    obtain rfl : id = n := List.mem_singleton.1 hid
    omega
  | initialized h₁ _ =>
    refine ⟨[], [buildInitializeRequest n p.clientVersion, INITIALIZED], ?_, ⟨_, rfl⟩, fun id hid => ?_⟩
    · rw [ownWrites_append, h₁.ownWrites rfl]
      exact List.prefix_rfl
    · obtain rfl : id = n := List.mem_singleton.1 hid
      omega
  | thread h₁ h₂ =>
    refine ⟨[], [buildInitializeRequest n p.clientVersion, INITIALIZED] ++ [_], ?_, ⟨_, rfl⟩, fun id hid => ?_⟩
    · rw [ownWrites_append, ownWrites_append, h₁.ownWrites rfl]
      exact (List.prefix_append_right_inj _).2 h₂.ownWrites
    · have hid' : id ∈ [n, n + 1] := hid
      simp only [List.mem_cons, List.not_mem_nil, or_false] at hid'
      omega
  | @turn _ _ _ _ _ threadId _ h₁ h₂ _ h₃ =>
    refine ⟨threadId, handshakeFrames p a n threadId, ?_, List.prefix_rfl, fun id hid => ?_⟩
    · rw [ownWrites_append, ownWrites_append, ownWrites_append, h₁.ownWrites rfl, h₂.ownWrites rfl]
      exact (List.prefix_append_right_inj _).2 h₃.ownWrites
    · have hid' : id ∈ [n, n + 1, n + 2] := hid
      simp only [List.mem_cons, List.not_mem_nil, or_false] at hid'
      omega
  | @opened _ _ _ _ _ _ threadId _ h₁ h₂ _ h₃ _ =>
    refine ⟨threadId, handshakeFrames p a n threadId, ?_, List.prefix_rfl, fun id hid => ?_⟩
    · rw [ownWrites_append, ownWrites_append, ownWrites_append, h₁.ownWrites rfl, h₂.ownWrites rfl, h₃.ownWrites rfl]
      exact List.prefix_rfl
    · have hid' : id ∈ [n, n + 1, n + 2] := hid
      simp only [List.mem_cons, List.not_mem_nil, or_false] at hid'
      omega

theorem earned (h : Handshake p a fragile n seg k o) : Throughout (Earned n) seg := by
  have hfirst : ∀ {seg₁}, Attempted p fragile .handshake (buildInitializeRequest n p.clientVersion) seg₁ →
      Throughout (Earned n) seg₁ :=
    fun h₁ => h₁.throughout (.of_first rfl) fun e he before => .of_none he
  have hinitialized : ∀ before, Throughout (fun before' => Earned n (before ++ before')) [.wrote INITIALIZED] := by
    refine fun before => .of_forall fun e he before' frame id hown hid => ?_
    rw [List.mem_singleton.1 he] at hown
    cases hown
    cases hid
  have hnext : ∀ {l seg' m seg'' : List WireEntry} {request result frame : Payload} {id : Int},
      Exchanged p .handshake request id result seg' → requestNumber request = some id →
      requestNumber frame = some (id + 1) → Attempted p fragile .handshake frame seg'' →
      Throughout (fun before => Earned n (l ++ seg' ++ m ++ before)) seg'' :=
    fun hex hr hf hatt => hatt.throughout (by simpa using hex.earned hr hf) fun e he before => .of_none he
  have hturn : ∀ threadId, requestNumber (buildTurnStartRequest (n + 2) threadId a.prompt) = some (n + 1 + 1) := by
    intro threadId
    rw [show n + 1 + 1 = n + 2 by omega]
    rfl
  cases h with
  | begun h₁ => exact hfirst h₁
  | initialized h₁ _ => exact (hfirst h₁.attempted).append (hinitialized _)
  | thread h₁ h₂ =>
    exact ((hfirst h₁.attempted).append (hinitialized _)).append (hnext (l := []) h₁ rfl rfl h₂)
  | @turn seg₁ _ _ _ _ _ _ h₁ h₂ _ h₃ =>
    refine (((hfirst h₁.attempted).append (hinitialized _)).append
      (hnext (l := []) h₁ rfl rfl h₂.attempted)).append ?_
    simpa only [List.append_nil] using hnext (l := seg₁ ++ [.wrote INITIALIZED]) (m := []) h₂ rfl (hturn _) h₃
  | @opened seg₁ _ _ _ _ _ _ _ h₁ h₂ _ h₃ _ =>
    refine (((hfirst h₁.attempted).append (hinitialized _)).append
      (hnext (l := []) h₁ rfl rfl h₂.attempted)).append ?_
    simpa only [List.append_nil] using hnext (l := seg₁ ++ [.wrote INITIALIZED]) (m := []) h₂ rfl (hturn _) h₃.attempted

theorem session {threadId turnId : Str} (h : Handshake p a fragile n seg k (.ok (threadId, turnId))) :
    Opened p a n seg threadId turnId := by
  cases h with
  | opened h₁ h₂ hthread h₃ hturn => exact ⟨_, _, _, _, _, _, rfl, h₁, h₂, h₃, extractId_ok hthread, extractId_ok hturn⟩

end Handshake

/-- Whatever the subprocess sends, and however the waiting goes: the frames that `start_session` writes of its own are
a prefix of the handshake, with consecutive ids that it takes from the client's count; each request after the first comes
after a success response to the one before, which is no notification and no request; and a session has its ids from the
responses to `thread/start` and `turn/start`, after all three were read. -/
theorem handshake_ordered {fuel : Nat} {a : SessionArgs} {s s' : Client} {o : Except Failure Session}
    (h : Runs Wire.any.proto (startSession p fuel a s) o s') :
    ∃ seg, s'.log = s.log ++ seg ∧
      (∃ threadId, RiverGang.ownWrites seg <+: handshakeFrames p a s.nextId threadId) ∧
      requestIds seg <+: [s.nextId, s.nextId + 1, s.nextId + 2] ∧
      (∀ id ∈ requestIds seg, s.nextId ≤ id ∧ id < s'.nextId) ∧
      Throughout (Earned s.nextId) seg ∧
      ∀ session, o = .ok session → Opened p a s.nextId seg session.threadId session.firstTurnId := by
  obtain ⟨seg, k, hs, hh⟩ := startSession_trace h
  obtain ⟨threadId, l, hl, hframes, hids⟩ := hh.frames
  have hpre : requestIds seg <+: l.filterMap requestNumber := hl.filterMap _
  refine ⟨seg, hs.log, ⟨threadId, hl.trans hframes⟩, hpre.trans (hframes.filterMap _), fun id hid => ?_, hh.earned,
    fun session he => ?_⟩
  · rw [hs.nextId]
    exact hids id (hpre.subset hid)
  · rw [he] at hh
    exact Handshake.session hh

end

section Sample

attribute [local instance] sampleBuiltins

/-- A handshake that comes to its end. -/
theorem handshake_ordered_sample : ∃ (session : Session) (s' : Client),
    Runs Wire.any.proto (startSession sampleClientParams 9 sampleSessionArgs sampleClient) (.ok session) s' ∧
    requestIds s'.log = [1, 2, 3] ∧ Opened sampleClientParams sampleSessionArgs 1 s'.log (py "th") (py "t1") := by
  have hrun := runs_sends (W := .any) sampleHandshake (fun _ _ => trivial) (fun _ => trivial)
    (startSession sampleClientParams 9 sampleSessionArgs sampleClient)
  have hids : requestIds
      ((startSession sampleClientParams 9 sampleSessionArgs sampleClient).execWith (sends sampleHandshake)).2.log =
        [1, 2, 3] := by decide +kernel
  have hok : ((startSession sampleClientParams 9 sampleSessionArgs sampleClient).execWith
      (sends sampleHandshake)).1.toOption.map (fun session => (session.threadId, session.firstTurnId)) =
        some (py "th", py "t1") := by decide +kernel
  generalize (startSession sampleClientParams 9 sampleSessionArgs sampleClient).execWith (sends sampleHandshake) = r
    at hrun hids hok
  obtain ⟨o, s'⟩ := r
  cases o with
  | error f => cases hok
  | ok session =>
    obtain ⟨seg, hlog, -, -, -, -, hsession⟩ := handshake_ordered hrun
    have hseg : s'.log = seg := hlog
    have hopened := hsession session rfl
    simp only [Except.toOption, Option.map_some, Option.some.injEq, Prod.mk.injEq] at hok
    rw [hok.1, hok.2, ← hseg] at hopened
    exact ⟨session, s', hrun, hids, hopened⟩

end Sample

end RiverGang
