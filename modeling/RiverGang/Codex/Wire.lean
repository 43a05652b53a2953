import RiverGang.Codex.Client

/-!
# What the client leaves on the wire

A specification of each operation of the client by the entries that it adds to the log. `Wire` says what may happen
while the client waits, `After W s seg s'` that `s'` is `s` with `seg` on the log, and `Ensures` that a task does nothing
else than its two postconditions say, however the waiting goes.

`ReplyTo` is what a reply has to do with its request: `dispatchServerRequest_ensures` writes one, or stops.
-/

namespace RiverGang

open Py Coop Task

/-! ## What may happen -/

/-- What may happen while the client waits. -/
structure Wire where
  /-- a line that is read -/
  line : Client → LineRead → Prop
  /-- how the wait for a line is cut short -/
  cutReading : Client → Failure → Prop
  /-- how another wait is cut short -/
  cutServing : Client → Failure → Prop
  /-- stdin is closed, or breaks -/
  breaks : Prop

namespace Wire

/-- The protocol between a client and what it waits for. -/
def proto (W : Wire) : Proto CodexSig Client where
  rely s s' := Client.Rely s s' ∧ (¬W.breaks → s'.stdinOpen = s.stdinOpen)
  answer s
    | .receive, .ok line => W.line s line
    | .receive, .error f => W.cutReading s f
    | .drain, .ok () => True
    | .drain, .error (.pipe _) => W.breaks
    | .drain, .error f => W.cutServing s f
    | .execute .., .ok _ => True
    | .execute .., .error f => f.isException = true ∨ W.cutServing s f
    | .handle .., .ok _ => True
    | .handle .., .error f => f.isException = true ∨ W.cutServing s f
    | .settle, .ok () => True
    -- the deadline has passed already
    | .settle, .error f => W.cutServing s f ∧ f ≠ .expired

/-- Anything may. -/
def any : Wire := ⟨fun _ _ => True, fun _ _ => True, fun _ _ => True, True⟩

/-- Every write is accepted, and only the wait for a line is cut short. -/
def accepting : Wire := ⟨fun _ _ => True, fun _ _ => True, fun _ _ => False, False⟩

/-- The client's own deadlines cut it short, and nobody else. -/
def uncancelled : Wire := ⟨fun _ _ => True, fun _ f => f = .expired, fun _ f => f = .expired, True⟩

/-- Why a write, a tool or a handler stops the client. -/
def Stops (W : Wire) (s : Client) (f : Failure) : Prop :=
  ((W.breaks ∨ s.stdinOpen = false) ∧ ∃ msg, f = .codex .portExit msg) ∨ W.cutServing s f

theorem proto_refl (W : Wire) (s : Client) : W.proto.rely s s := ⟨.refl s, fun _ => rfl⟩

end Wire

/-- `s'` is `s` with `seg` on the log. -/
structure After (W : Wire) (s : Client) (seg : List WireEntry) (s' : Client) : Prop where
  nextId : s'.nextId = s.nextId
  stdin : s'.stdinOpen = true → s.stdinOpen = true
  kept : ¬W.breaks → s'.stdinOpen = s.stdinOpen
  log : s'.log = s.log ++ seg

namespace After

variable {W : Wire} {s s' s'' : Client} {seg seg' : List WireEntry}

theorem refl (s : Client) : After W s [] s := ⟨rfl, id, fun _ => rfl, by simp⟩

theorem trans (h : After W s seg s') (h' : After W s' seg' s'') : After W s (seg ++ seg') s'' :=
  ⟨h'.nextId.trans h.nextId, fun ho => h.stdin (h'.stdin ho), fun hb => (h'.kept hb).trans (h.kept hb),
    by rw [h'.log, h.log, List.append_assoc]⟩

theorem of_rely (h : W.proto.rely s s') : After W s [] s' :=
  ⟨h.1.nextId, h.1.stdinOpen, h.2, by rw [h.1.log, List.append_nil]⟩

theorem record (e : WireEntry) : After W s [e] (s.record e) := ⟨rfl, id, fun _ => rfl, rfl⟩

theorem rely (h : After W s seg s') (h' : W.proto.rely s' s'') : After W s seg s'' := by
  simpa using h.trans (of_rely h')

theorem add (h : After W s seg s') (e : WireEntry) : After W s (seg ++ [e]) (s'.record e) := h.trans (record e)

end After

/-- Stdin is closed or may be, or something else may cut the client short where it does not read. -/
def Fragile (W : Wire) (stdinOpen : Bool) : Prop := W.breaks ∨ stdinOpen = false ∨ ∃ s f, W.cutServing s f

theorem stops_fragile {W : Wire} {s s' : Client} {seg : List WireEntry} {f : Failure} (hs : After W s seg s')
    (h : W.Stops s' f) : Fragile W s.stdinOpen := by
  rcases h with ⟨hb | ho, -⟩ | hcut
  · exact .inl hb
  · by_cases hb : W.breaks
    · exact .inl hb
    · exact .inr (.inl (by rw [← hs.kept hb, ho]))
  · exact .inr (.inr ⟨_, _, hcut⟩)

/-- `s'` is `s` with `k` ids allocated and `seg` on the log. -/
structure Advance (W : Wire) (s : Client) (k : Int) (seg : List WireEntry) (s' : Client) : Prop where
  nextId : s'.nextId = s.nextId + k
  stdin : s'.stdinOpen = true → s.stdinOpen = true
  kept : ¬W.breaks → s'.stdinOpen = s.stdinOpen
  log : s'.log = s.log ++ seg

theorem Advance.after {W : Wire} {s : Client} {k : Int} {seg seg' : List WireEntry} {s' s'' : Client}
    (h : Advance W s k seg s')
    (h' : After W s' seg' s'') : Advance W s k (seg ++ seg') s'' :=
  ⟨by rw [h'.nextId, h.nextId], fun ho => h.stdin (h'.stdin ho), fun hb => (h'.kept hb).trans (h.kept hb),
    by rw [h'.log, h.log, List.append_assoc]⟩

theorem Advance.allocate {W : Wire} {s : Client} {k : Int} {seg : List WireEntry} {s' : Client} (h : Advance W s k seg s') :
    Advance W s (k + 1) seg { s' with nextId := s'.nextId + 1 } :=
  ⟨by simp only [h.nextId]; omega, h.stdin, h.kept, h.log⟩

theorem Advance.fragile {W : Wire} {s s' : Client} {k : Int} {seg : List WireEntry} (h : Advance W s k seg s')
    (hf : Fragile W s'.stdinOpen) : Fragile W s.stdinOpen := by
  by_cases hb : W.breaks
  · exact .inl hb
  · rwa [h.kept hb] at hf

/-- What a task comes to, whatever may happen meanwhile. -/
abbrev Ensures (W : Wire) {α : Type} (Q : α → Client → Prop) (X : Failure → Client → Prop)
    (t : Res CodexSig Failure Client α) : Prop := t.Sat W.proto (fun _ => True) Q X

section Rules

variable {W : Wire} {α β : Type} {Q : α → Client → Prop} {X : Failure → Client → Prop} {s : Client}

theorem Ensures.mono {Q' : α → Client → Prop} {X' : Failure → Client → Prop} {t : Res CodexSig Failure Client α}
    (h : Ensures W Q X t) (hQ : ∀ a s, Q a s → Q' a s) (hX : ∀ f s, X f s → X' f s) : Ensures W Q' X' t :=
  Res.Sat.mono (fun _ => id) hQ hX h

/-- What follows the first part starts where it ended; its exceptions are those of both. -/
theorem Ensures.bind {R : β → Client → Prop} {X' : Failure → Client → Prop} {t : Res CodexSig Failure Client α}
    {f : α → Codex β} (h : Ensures W Q X t) (hQ : ∀ a s, Q a s → Ensures W R X' (f a s)) (hX : ∀ e s, X e s → X' e s) :
    Ensures W R X' (t.bind f) :=
  Res.Sat.bind hQ (h.mono (fun _ _ => id) hX)

/-- What a task ensures of its outcomes, it does in every run. -/
theorem Ensures.outcome {R : Except Failure α → Client → Prop} {t : Res CodexSig Failure Client α}
    {o : Except Failure α} {s' : Client} (h : Ensures W (fun a => R (.ok a)) (fun f => R (.error f)) t)
    (hr : Runs W.proto t o s') : R o s' := by
  have hpost := Res.Sat.runs h hr
  cases o with
  | ok a => exact hpost
  | error f => exact hpost

theorem ofExcept_ensures {x : Except Failure α} (hq : ∀ a, x = .ok a → Q a s) (hx : ∀ f, x = .error f → X f s) :
    Ensures W Q X ((ofExcept x : Codex α) s) := by
  cases x with
  | ok a => exact hq a rfl
  | error f => exact hx f rfl

end Rules

/-! ## Reading and writing -/

section Frames

variable {W : Wire} {s : Client} {p : ClientParams}

theorem readFrame_ensures :
    Ensures W (fun raw s' => After W s [.read (.value (.obj raw))] s')
      (fun f s' => (After W s [] s' ∧ W.cutReading s' f) ∨
        ∃ line, After W s [.read line] s' ∧ frameOf p line = .error f)
      (readFrame p s) := by
  refine ⟨trivial, fun s' x hr ha => ?_⟩
  cases x with
  | error f => exact .inl ⟨.of_rely hr, ha⟩
  | ok line =>
    have hread : After W s [.read line] (s'.record (.read line)) := (After.of_rely hr).add _
    refine ofExcept_ensures (s := s'.record (.read line)) (fun raw h => ?_) fun f h => .inr ⟨line, hread, h⟩
    have hline : line = .value (.obj raw) := by
      cases line with
      | value v => cases v <;> simp_all [frameOf]
      | eof returncode =>
        simp only [frameOf] at h
        split at h <;> cases h
      | _ => simp [frameOf] at h
    rwa [← hline]

theorem writeFrame_closed {frame : Payload} (ho : s.stdinOpen = false) :
    writeFrame frame s = .raise (.codex .portExit (py "subprocess stdin is unavailable")) s := by
  simp [writeFrame, ho]

theorem writeFrame_open {frame : Payload} (ho : s.stdinOpen = true) :
    Ensures W (fun _ s' => After W s [.wrote frame] s')
      (fun f s' => f.isPipe = false ∧ W.Stops s' f ∧ After W s [.wrote frame] s') (writeFrame frame s) := by
  have hrun : writeFrame frame s = .await .drain (s.record (.wrote frame)) fun x s' => drained x s' := by
    simp [writeFrame, ho]
  rw [hrun]
  refine ⟨trivial, fun s' x hr ha => ?_⟩
  have hwrote : After W s [.wrote frame] s' := (After.record _).rely hr
  cases x with
  | ok u => exact hwrote
  | error f =>
    cases f with
    | pipe msg => exact ⟨rfl, .inl ⟨.inl ha, _, rfl⟩, hwrote⟩
    | _ => exact ⟨rfl, .inr ha, hwrote⟩

theorem writeFrame_ensures {frame : Payload} :
    Ensures W (fun _ s' => After W s [.wrote frame] s')
      (fun f s' => f.isPipe = false ∧ W.Stops s' f ∧ (After W s [] s' ∨ After W s [.wrote frame] s'))
      (writeFrame frame s) := by
  cases ho : s.stdinOpen with
  | false =>
    rw [writeFrame_closed ho]
    exact ⟨rfl, .inl ⟨.inr ho, _, rfl⟩, .inl (.refl s)⟩
  | true => exact (writeFrame_open ho).mono (fun _ _ h => h) fun f s' h => ⟨h.1, h.2.1, .inr h.2.2⟩

theorem writeReply_ensures {frame : Payload} :
    Ensures W (fun _ s' => After W s [.wrote frame] s')
      (fun f s' => W.Stops s' f ∧ (After W s [] s' ∨ After W s [.wrote frame] s')) (writeReply frame s) := by
  refine Res.Sat.tryExcept (fun f s' hc hx => ?_) (fun f s' _ hx => hx.2) writeFrame_ensures
  -- nothing is left to suppress: `write_frame` has made a `PortExit` of it
  rw [hx.1] at hc
  cases hc

/-- The rule of `wait_for`, by what can come of it. -/
theorem waitFor_ensures {α : Type} {timeoutMs : Int} {onTimeout : Failure} {body : Codex α} {Q : α → Client → Prop}
    {X X' : Failure → Client → Prop} (hbody : FloatFits timeoutMs → 0 < timeoutMs → Ensures W Q X (body s))
    (hoverflow : ¬FloatFits timeoutMs → ∀ msg, X' (.raised ⟨.overflowError, msg⟩) s)
    (hsettled : ∀ s', FloatFits timeoutMs → timeoutMs ≤ 0 → After W s [] s' → X' onTimeout s')
    (hcut : ∀ f s', FloatFits timeoutMs → timeoutMs ≤ 0 → After W s [] s' → W.cutServing s' f → f ≠ .expired → X' f s')
    (hexpired : ∀ s', X .expired s' → X' onTimeout s') (hraised : ∀ f s', f ≠ .expired → X f s' → X' f s') :
    Ensures W Q X' (waitFor timeoutMs onTimeout body s) := by
  unfold waitFor
  split
  · rename_i hfit
    exact hoverflow hfit _
  · rename_i hfit
    rw [Classical.not_not] at hfit
    split
    · rename_i hpos
      refine ⟨trivial, fun s' x hr ha => ?_⟩
      cases x with
      | ok u => exact hsettled s' hfit hpos (.of_rely hr)
      | error f => exact hcut f s' hfit hpos (.of_rely hr) ha.1 ha.2
    · rename_i hpos
      refine Res.Sat.tryExcept (fun f s' hf hx => ?_) (fun f s' hf hx => ?_) (hbody hfit (by omega))
      · have he : f = .expired := by simpa [Failure.isExpired] using hf
        rw [he] at hx
        exact hexpired s' hx
      · exact hraised f s' (by simpa [Failure.isExpired] using hf) hx

end Frames

/-! ## Requests of the server -/

/-- The methods whose reply is a decision. -/
def DECISION_METHODS : List Str :=
  [METHOD_APPLY_PATCH_APPROVAL, METHOD_EXEC_COMMAND_APPROVAL, METHOD_ITEM_COMMAND_EXECUTION_REQUEST_APPROVAL,
    METHOD_ITEM_FILE_CHANGE_REQUEST_APPROVAL]

/-- A result that approves. -/
def ApprovingResult (result : Payload) : Prop :=
  Json.get? result (py "decision") = some (.str (py "approved")) ∨
    Json.get? result (py "decision") = some (.str (py "accept"))

/-- A reply that approves. -/
def Approving (reply : Payload) : Prop :=
  ∃ result, Json.get? reply (py "result") = some (.obj result) ∧ ApprovingResult result

/-- A request for a decision that gets one. -/
def DecisionRequest (request : Payload) : Prop :=
  (∃ method ∈ DECISION_METHODS, method? request = some method) ∧ ∃ params, requestParams request = .ok params

/-- What a reply has to do with the request that it answers. -/
structure ReplyTo (p : ClientParams) (request reply : Payload) : Prop where
  answerable : (requestId? request).isSome
  id : Json.get? reply (py "id") = requestId? request
  method : Json.get? reply (py "method") = none
  exclusive : (Json.get? reply (py "result")).isSome = !(Json.get? reply (py "error")).isSome
  approving : p.registered = [] →
    (Approving reply ↔ approves p.approvalPolicy = true ∧ DecisionRequest request)

section Dispatch

variable {W : Wire} {s : Client} {p : ClientParams} {request : Payload} {requestId : Json}

theorem errorReply_replyTo {code : Int} {message : Str} (h : requestId? request = some requestId)
    (hn : p.registered = [] → ¬DecisionRequest request) : ReplyTo p request (errorReply requestId code message) where
  answerable := by rw [h]; rfl
  id := by rw [h]; rfl
  method := rfl
  exclusive := rfl
  approving hp := by
    have hnone : Json.get? (errorReply requestId code message) (py "result") = none := rfl
    simp only [hn hp, and_false, iff_false]
    rintro ⟨result, hr, -⟩
    rw [hnone] at hr
    cases hr

theorem resultReply_replyTo {result : Payload} (h : requestId? request = some requestId)
    (hr : p.registered = [] →
      (ApprovingResult result ↔ approves p.approvalPolicy = true ∧ DecisionRequest request)) :
    ReplyTo p request (resultReply requestId result) where
  answerable := by rw [h]; rfl
  id := by rw [h]; rfl
  method := rfl
  exclusive := rfl
  approving hp := by
    have hget : Json.get? (resultReply requestId result) (py "result") = some (.obj result) := rfl
    rw [← hr hp]
    constructor
    · rintro ⟨result', hr', ha⟩
      rw [hget] at hr'
      cases hr'
      exact ha
    · exact fun ha => ⟨result, hget, ha⟩

theorem approving_decision (decision : Str) :
    ApprovingResult [(py "decision", .str decision)] ↔ decision = py "approved" ∨ decision = py "accept" := by
  have hget : Json.get? [(py "decision", .str decision)] (py "decision") = some (.str decision) := rfl
  rw [ApprovingResult, hget]
  simp

/-- Without a decision nothing is approved. -/
theorem not_approving {result : Payload} (h : Json.get? result (py "decision") = none) : ¬ApprovingResult result := by
  simp [ApprovingResult, h]

/-- A request by another method is for no decision. -/
theorem not_decision {method : Str} (hm : method? request = some method) (h : method ∉ DECISION_METHODS) :
    ¬DecisionRequest request := by
  rintro ⟨⟨method', hd, hm'⟩, -⟩
  rw [hm] at hm'
  cases hm'
  exact h hd

/-! ### Replies -/

/-- What is written for a request. -/
def Replied (p : ClientParams) (request : Payload) (seg : List WireEntry) : Prop :=
  (requestId? request = none ∧ seg = []) ∨ ∃ reply, seg = [.wrote reply] ∧ ReplyTo p request reply

/-- A request whose answer was cut short, before or after it was written. -/
def Unreplied (p : ClientParams) (request : Payload) (seg : List WireEntry) : Prop :=
  seg = [] ∨ Replied p request seg

theorem writeReply_replies {reply : Payload} (h : ReplyTo p request reply) :
    Ensures W (fun _ s' => ∃ seg, After W s seg s' ∧ Replied p request seg)
      (fun f s' => W.Stops s' f ∧ ∃ seg, After W s seg s' ∧ Unreplied p request seg) (writeReply reply s) := by
  have hreplied : Replied p request [.wrote reply] := .inr ⟨reply, rfl, h⟩
  refine writeReply_ensures.mono (fun _ s' hs => ⟨_, hs, hreplied⟩) fun f s' hx => ⟨hx.1, ?_⟩
  rcases hx.2 with hs | hs
  · exact ⟨_, hs, .inl rfl⟩
  · exact ⟨_, hs, .inr hreplied⟩

/-! ### Handlers -/

/-- A handler leaves the wire alone. It raises an exception, or it is cut short. -/
abbrev Serves (W : Wire) (p : ClientParams) (method : Str) (s : Client) (t : Res CodexSig Failure Client Payload) :
    Prop :=
  Ensures W
    (fun result s' => After W s [] s' ∧ (p.registered = [] →
      (ApprovingResult result ↔ approves p.approvalPolicy = true ∧ method ∈ DECISION_METHODS)))
    (fun f s' => After W s [] s' ∧
      (f.isException = true → p.registered = [] → method ∉ DECISION_METHODS) ∧
      (f.isException = false → W.cutServing s' f)) t

/-- A handler that has its answer at once, and it is no decision. -/
theorem ofExcept_serves {method : Str} {x : Except Failure Payload} (hm : method ∉ DECISION_METHODS)
    (hok : ∀ result, x = .ok result → ¬ApprovingResult result) (herr : ∀ f, x = .error f → f.isException = true) :
    Serves W p method s ((ofExcept x : Codex Payload) s) := by
  refine ofExcept_ensures (fun result hr => ⟨.refl s, fun _ => ?_⟩) fun f hf => ?_
  · simp only [hok result hr, hm, and_false]
  · exact ⟨.refl s, fun _ _ => hm, fun he => by rw [herr f hf] at he; cases he⟩

theorem executeTool_ensures {arguments : Json} {timeoutMs : Option Int} :
    Ensures W (fun _ s' => After W s [] s') (fun f s' => After W s [] s' ∧ (f.isException = false → W.cutServing s' f))
      (executeTool arguments timeoutMs s) := by
  unfold executeTool
  split
  · refine ⟨trivial, fun s' x hr ha => ?_⟩
    have hafter : After W s [] s' := .of_rely hr
    cases x with
    | ok r => exact hafter
    | error f => exact ⟨hafter, fun hf => ha.resolve_left (by simp [hf])⟩
  · exact ⟨.refl s, fun h => by cases h⟩

theorem answerRequest_ensures {method : Str} {handling : Codex Payload} {params : Payload}
    (hid : requestId? request = some requestId) (hm : method? request = some method)
    (hp : requestParams request = .ok params) (h : Serves W p method s (handling s)) :
    Ensures W (fun _ s' => ∃ seg, After W s seg s' ∧ Replied p request seg)
      (fun f s' => W.Stops s' f ∧ ∃ seg, After W s seg s' ∧ Unreplied p request seg)
      (answerRequest requestId handling s) := by
  have hdecision : DecisionRequest request ↔ method ∈ DECISION_METHODS := by
    constructor
    · exact fun hd => Classical.byContradiction fun hn => not_decision hm hn hd
    · exact fun hd => ⟨⟨method, hd, hm⟩, params, hp⟩
  have hhandled := Ensures.bind (f := fun result => (pure (some result) : Codex (Option Payload)))
    (R := fun o s' => ∃ result, o = some result ∧ After W s [] s' ∧ (p.registered = [] →
      (ApprovingResult result ↔ approves p.approvalPolicy = true ∧ method ∈ DECISION_METHODS)))
    h (fun result s' hr => ⟨result, rfl, hr⟩) fun _ _ => id
  refine Ensures.bind (Q := fun o s' => o.elim (∃ seg, After W s seg s' ∧ Replied p request seg) fun result =>
      After W s [] s' ∧ (p.registered = [] →
        (ApprovingResult result ↔ approves p.approvalPolicy = true ∧ method ∈ DECISION_METHODS)))
    (Res.Sat.tryExcept (fun f s' hf hx => ?_) (fun f s' hf hx => ?_) (hhandled.mono (fun o s' hr => ?_) fun _ _ => id))
    (fun o s' hr => ?_) fun _ _ => id
  · -- the handler raised: the error is the reply
    have herror : ReplyTo p request (errorReply requestId JSONRPC_INTERNAL_ERROR (py "handler error: " ++ f.msg)) :=
      errorReply_replyTo hid fun hr => not_decision hm (hx.2.1 hf hr)
    refine Ensures.bind (writeReply_replies herror) (fun _ s'' hs => ?_) fun g s'' hs => ?_
    · obtain ⟨seg, hseg, hrep⟩ := hs
      exact ⟨seg, hx.1.trans hseg, hrep⟩
    · obtain ⟨hstop, seg, hseg, hrep⟩ := hs
      exact ⟨hstop, seg, hx.1.trans hseg, hrep⟩
  · exact ⟨.inr (hx.2.2 hf), [], hx.1, .inl rfl⟩
  · obtain ⟨result, rfl, hr⟩ := hr
    exact hr
  · cases o with
    | none => exact hr
    | some result =>
      have hreply : ReplyTo p request (resultReply requestId result) :=
        resultReply_replyTo hid fun hn => by rw [hr.2 hn, hdecision]
      refine (writeReply_replies hreply).mono (fun _ s'' hs => ?_) fun g s'' hs => ?_
      · obtain ⟨seg, hseg, hrep⟩ := hs
        exact ⟨seg, hr.1.trans hseg, hrep⟩
      · obtain ⟨hstop, seg, hseg, hrep⟩ := hs
        exact ⟨hstop, seg, hr.1.trans hseg, hrep⟩

variable [Builtins]

/-- The decisions approve under the policy that approves, and under no other. -/
theorem buildResult_approving {approvalPolicy method : Str} {result : Payload}
    (h : buildResult approvalPolicy method = .ok result) :
    ApprovingResult result ↔ approves approvalPolicy = true ∧ method ∈ DECISION_METHODS := by
  have hdecision : ∀ yes no : Str, method ∈ DECISION_METHODS → (yes = py "approved" ∨ yes = py "accept") →
      ¬(no = py "approved" ∨ no = py "accept") → (ApprovingResult [(py "decision", .str (if approves approvalPolicy
        then yes else no))] ↔ approves approvalPolicy = true ∧ method ∈ DECISION_METHODS) := by
    intro yes no hmem hyes hno
    rw [approving_decision]
    cases approves approvalPolicy
    · exact iff_of_false hno fun h => Bool.false_ne_true h.1
    · exact iff_of_true hyes ⟨rfl, hmem⟩
  unfold buildResult at h
  split at h
  · rename_i hm
    have hmem : method ∈ DECISION_METHODS := by rcases hm with rfl | rfl <;> decide
    cases h
    rw [apply_ite py]
    exact hdecision _ _ hmem (by decide) (by decide)
  · split at h
    · rename_i hm
      have hmem : method ∈ DECISION_METHODS := by rcases hm with rfl | rfl <;> decide
      cases h
      rw [apply_ite py]
      exact hdecision _ _ hmem (by decide) (by decide)
    · rename_i hr hi
      have hmem : method ∉ DECISION_METHODS := by
        intro hm
        simp only [DECISION_METHODS, List.mem_cons, List.not_mem_nil, or_false] at hm
        rcases hm with rfl | rfl | rfl | rfl
        · exact hr (.inl rfl)
        · exact hr (.inr rfl)
        · exact hi (.inl rfl)
        · exact hi (.inr rfl)
      simp only [hmem, and_false, iff_false]
      split at h
      · cases h
        exact not_approving rfl
      · cases h

/-- Every approval has its result. -/
theorem buildResult_ok (approvalPolicy : Str) {method : Str} (h : method ∈ APPROVAL_METHODS) :
    ∃ result, buildResult approvalPolicy method = .ok result := by
  simp only [APPROVAL_METHODS, List.mem_cons, List.not_mem_nil, or_false] at h
  rcases h with rfl | rfl | rfl | rfl | rfl <;> exact ⟨_, rfl⟩

/-- `json.loads` raises nothing but exceptions. -/
theorem decodeArguments_exception {arguments : Json} {f : Failure} (h : decodeArguments arguments = .error f) :
    f.isException = true := by
  unfold decodeArguments at h
  split at h
  · split at h <;> cases h
    rfl
  · cases h

theorem handleItemToolCall_ensures {params : Payload} {method : Str} (hm : method ∉ DECISION_METHODS) :
    Serves W p method s (handleItemToolCall p params s) := by
  have hresponse : ∀ {success : Bool} {text : Str} {s' : Client}, After W s [] s' → After W s [] s' ∧
      (p.registered = [] → (ApprovingResult (toolResponse success text) ↔
        approves p.approvalPolicy = true ∧ method ∈ DECISION_METHODS)) :=
    fun h => ⟨h, fun _ => by simp only [hm, and_false, iff_false]; exact not_approving rfl⟩
  unfold handleItemToolCall
  refine Ensures.bind (Q := fun _ => After W s [])
    (ofExcept_ensures (s := s) (fun _ _ => .refl s) fun f hf => ?_) (fun arguments s' hs => ?_) fun f s' hx => hx
  · exact ⟨.refl s, fun _ _ => hm, fun h => by rw [decodeArguments_exception hf] at h; cases h⟩
  · split
    · exact hresponse hs
    · refine Res.Sat.tryExcept (X := fun f s'' => After W s [] s'' ∧ (f.isException = false → W.cutServing s'' f))
        (fun f s'' _ hx => ?_) (fun f s'' hf hx => ⟨hx.1, fun _ _ => hm, hx.2⟩)
        (Ensures.bind executeTool_ensures (fun r s'' hr => ?_) fun f s'' hx => ⟨hs.trans hx.1, hx.2⟩)
      · exact hresponse hx.1
      · cases r with
        | some r => exact hresponse (hs.trans hr)
        | none => exact hresponse (hs.trans hr)

theorem requestUserInput_ok {params result : Payload} (h : handleItemToolRequestUserInput params = .ok result) :
    result = [(py "answers", .obj [])] := by
  unfold handleItemToolRequestUserInput at h
  split at h <;> cases h <;> rfl

theorem requestUserInput_exception {params : Payload} {f : Failure}
    (h : handleItemToolRequestUserInput params = .error f) : f.isException = true := by
  unfold handleItemToolRequestUserInput at h
  split at h <;> cases h
  rfl

theorem buildResult_exception {approvalPolicy method : Str} {f : Failure}
    (h : buildResult approvalPolicy method = .error f) : f.isException = true := by
  unfold buildResult at h
  repeat' split at h
  all_goals cases h
  rfl

theorem handler_ensures {method : Str} {handler : Payload → Codex Payload} {params : Payload}
    (h : serverRequestHandler p method = some handler) : Serves W p method s (handler params s) := by
  unfold serverRequestHandler at h
  split at h
  · rename_i hreg
    have hne : p.registered ≠ [] := List.ne_nil_of_mem hreg
    cases h
    refine ⟨trivial, fun s' x hr ha => ?_⟩
    have hafter : After W s [] s' := .of_rely hr
    cases x with
    | ok result => exact ⟨hafter, fun hn => absurd hn hne⟩
    | error f => exact ⟨hafter, fun _ hn => absurd hn hne, fun hf => ha.resolve_left (by simp [hf])⟩
  · split at h
    · rename_i hm
      cases h
      exact handleItemToolCall_ensures (by rw [hm]; decide)
    · split at h
      · rename_i hm
        cases h
        refine ofExcept_ensures (fun result hr => ⟨.refl s, fun _ => buildResult_approving hr⟩) fun f hf => ?_
        refine ⟨.refl s, fun _ _ _ => ?_, fun he => ?_⟩
        · obtain ⟨result, hr⟩ := buildResult_ok p.approvalPolicy hm
          rw [hr] at hf
          cases hf
        · rw [buildResult_exception hf] at he
          cases he
      · split at h
        · rename_i hm
          cases h
          refine ofExcept_serves (by rw [hm]; decide) (fun result hr => ?_) fun f => requestUserInput_exception
          rw [requestUserInput_ok hr]
          exact not_approving rfl
        · split at h
          · rename_i hm
            cases h
            exact ofExcept_serves (x := .ok handleMcpServerElicitationRequest) (by rw [hm]; decide)
              (fun result hr => by cases hr; exact not_approving rfl) fun f hf => by cases hf
          · cases h

/-! ### Dispatch -/

theorem approval_handler {method : Str} (hr : method ∉ p.registered) (h : method ∈ APPROVAL_METHODS) :
    serverRequestHandler p method = some fun _ => ofExcept (buildResult p.approvalPolicy method) := by
  have htool : method ≠ METHOD_ITEM_TOOL_CALL := by
    rintro rfl
    revert h
    decide
  simp [serverRequestHandler, hr, htool, h]

theorem decision_handler {method : Str} (hr : p.registered = []) (h : method ∈ DECISION_METHODS) :
    serverRequestHandler p method = some fun _ => ofExcept (buildResult p.approvalPolicy method) :=
  approval_handler (by simp [hr]) (List.mem_append_left [METHOD_ITEM_PERMISSIONS_REQUEST_APPROVAL] h)

theorem dispatchServerRequest_ensures {method : Str} (hm : method? request = some method) :
    Ensures W (fun _ s' => ∃ seg, After W s seg s' ∧ Replied p request seg)
      (fun f s' => W.Stops s' f ∧ ∃ seg, After W s seg s' ∧ Unreplied p request seg)
      (dispatchServerRequest p request method s) := by
  unfold dispatchServerRequest
  cases hid : requestId? request with
  | none => exact ⟨[], .refl s, .inl ⟨hid, rfl⟩⟩
  | some requestId =>
    cases hp : requestParams request with
    | error v =>
      refine writeReply_replies (errorReply_replyTo hid fun _ hd => ?_)
      obtain ⟨-, params, hparams⟩ := hd
      rw [hp] at hparams
      cases hparams
    | ok params =>
      cases hh : serverRequestHandler p method with
      | none =>
        refine writeReply_replies (errorReply_replyTo hid fun hr => not_decision hm fun hd => ?_)
        rw [decision_handler hr hd] at hh
        cases hh
      | some handler => exact answerRequest_ensures hid hm hp (handler_ensures hh)

end Dispatch

end RiverGang
