import RiverGang.Codex.Handshake

/-!
# One turn

`stream_turn` writes its request, reads up to the ack, and follows the turn until a notification decides it.
`TurnTrace` says which trace comes to which outcome, and `streamTurn_ensures` holds it against the code.

A notification decides the turn whatever turn it is about: `turn_finished_by_own` says exactly when that does no harm, and
`turn_finished_by_another` is a run where the turn that `start_session` has started finishes the next one.
-/

namespace RiverGang

open Py Coop Task

/-! ## The grammar of a turn -/

section

variable [Builtins]

theorem ackResult_ok {requestId : Int} {ack : JsonRpcResponse} {result : Payload}
    (h : ackResult requestId ack = .ok result) :
    ack.error = none ∧ ack.result = some result := by
  unfold ackResult at h
  split at h
  · cases h
  · rename_i he
    split at h
    · cases h
    · rename_i hr
      cases h
      exact ⟨he, hr⟩

/-- What the ack comes to: the id of the turn, and its result where the ack has it. -/
def ackOutcome (requestId : Int) (raw : Payload) : Except Failure (Str × Option TurnResult) := do
  let ack ← parseResponse raw requestId
  let result ← ackResult requestId ack
  let turnId ← extractTurnId result
  let verdict ← ackVerdict turnId result
  pure (turnId, verdict)

/-- The trace of a turn, and what it comes to. -/
inductive TurnTrace (W : Wire) (p : ClientParams) (fuel : Nat) (s' : Client) (request : Payload) (requestId : Int) :
    List WireEntry → Except Failure TurnResult → Prop
  | unsent {f : Failure} : W.Stops s' f → TurnTrace W p fuel s' request requestId [] (.error f)
  | sent {f : Failure} : W.Stops s' f → TurnTrace W p fuel s' request requestId [.wrote request] (.error f)
  | unanswered {q seg : List WireEntry} {f : Failure} : Rounds p .ack (fun _ => True) q →
      BrokenOff W p fuel q s' seg f →
      TurnTrace W p fuel s' request requestId (.wrote request :: (q ++ seg)) (.error f)
  | refused {q : List WireEntry} {raw : Payload} {f : Failure} : Rounds p .ack (fun _ => True) q →
      frameShape raw = .other → ackOutcome requestId raw = .error f →
      TurnTrace W p fuel s' request requestId (.wrote request :: (q ++ [.frame raw])) (.error f)
  | acked {q : List WireEntry} {raw : Payload} {turnId : Str} {r : TurnResult} : Rounds p .ack (fun _ => True) q →
      frameShape raw = .other → ackOutcome requestId raw = .ok (turnId, some r) →
      TurnTrace W p fuel s' request requestId (.wrote request :: (q ++ [.frame raw])) (.ok r)
  | stopped {q t seg : List WireEntry} {raw : Payload} {turnId : Str} {f : Failure} :
      Rounds p .ack (fun _ => True) q → frameShape raw = .other → ackOutcome requestId raw = .ok (turnId, none) →
      Rounds p .streaming (Undecided turnId) t → BrokenOff W p fuel t s' seg f →
      TurnTrace W p fuel s' request requestId (.wrote request :: (q ++ [.frame raw] ++ (t ++ seg))) (.error f)
  | decided {q t seg : List WireEntry} {raw raw' : Payload} {turnId : Str} {o : Except Failure TurnResult} :
      Rounds p .ack (fun _ => True) q → frameShape raw = .other → ackOutcome requestId raw = .ok (turnId, none) →
      Rounds p .streaming (Undecided turnId) t → Round p .streaming raw' seg → frameVerdict turnId raw' = o.map some →
      TurnTrace W p fuel s' request requestId (.wrote request :: (q ++ [.frame raw] ++ (t ++ seg))) o

variable {W : Wire} {s : Client} {p : ClientParams}

/-- The turn after its ack. -/
theorem followTurn_ensures {fuel : Nat} {request : Payload} {requestId k : Int} {q : List WireEntry} {raw : Payload}
    {turnId : Str} {verdict : Option TurnResult} {s₀ s₁ : Client} (hq : Rounds p .ack (fun _ => True) q)
    (hraw : frameShape raw = .other) (hack : ackOutcome requestId raw = .ok (turnId, verdict))
    (hs : Advance W s₀ k (.wrote request :: (q ++ [.frame raw])) s₁) :
    Ensures W
      (fun r s' => ∃ seg, (Advance W s₀ k seg s' ∧ seg ≠ []) ∧ TurnTrace W p fuel s' request requestId seg (.ok r))
      (fun f s' => ∃ seg, (Advance W s₀ k seg s' ∧ seg ≠ []) ∧ TurnTrace W p fuel s' request requestId seg (.error f))
      (followTurn p fuel turnId verdict s₁) := by
  cases verdict with
  | some r => exact ⟨_, ⟨hs, by simp⟩, .acked hq hraw hack⟩
  | none =>
    refine streamLoop_ensures.mono (fun r s' hr => ?_) fun f s' hx => ?_
    · obtain ⟨t, raw', seg, hseg, ht, hround, hv⟩ := hr
      exact ⟨_, ⟨hs.after hseg, by simp⟩, .decided hq hraw hack ht hround hv⟩
    · obtain ⟨t, seg, hseg, ht, hbroken | ⟨raw', hround, hv⟩⟩ := hx
      · exact ⟨_, ⟨hs.after hseg, by simp⟩, .stopped hq hraw hack ht hbroken⟩
      · exact ⟨_, ⟨hs.after hseg, by simp⟩, .decided hq hraw hack ht hround hv⟩

/-- First turns and continuations are written alike. -/
theorem runTurn_eq {fuel : Nat} {session : Session} {prompt : Str} {isFirstTurn : Bool} :
    runTurn p fuel session prompt isFirstTurn s =
      (writeFrame (buildTurnStartRequest s.nextId session.threadId prompt) { s with nextId := s.nextId + 1 }).bind
        fun _ => (do
          let ack ← awaitResponse p fuel s.nextId true
          let result ← ofExcept (ackResult s.nextId ack)
          let turnId ← ofExcept (extractTurnId result)
          let verdict ← ofExcept (ackVerdict turnId result)
          followTurn p fuel turnId verdict : Codex TurnResult) := by
  cases isFirstTurn <;> rfl

/-- Where stdin is closed no request is written. -/
theorem runTurn_closed {fuel : Nat} {session : Session} {prompt : Str} {isFirstTurn : Bool} (h : s.stdinOpen = false) :
    runTurn p fuel session prompt isFirstTurn s =
      .raise (.codex .portExit (py "subprocess stdin is unavailable")) { s with nextId := s.nextId + 1 } := by
  rw [runTurn_eq, writeFrame_closed (s := { s with nextId := s.nextId + 1 }) h]
  rfl

/-- A turn whose request is written. -/
theorem runTurn_open {fuel : Nat} {session : Session} {prompt : Str} {isFirstTurn : Bool} (ho : s.stdinOpen = true) :
    Ensures W
      (fun r s' => ∃ seg, (Advance W s 1 seg s' ∧ seg ≠ []) ∧
        TurnTrace W p fuel s' (buildTurnStartRequest s.nextId session.threadId prompt) s.nextId seg (.ok r))
      (fun f s' => ∃ seg, (Advance W s 1 seg s' ∧ seg ≠ []) ∧
        TurnTrace W p fuel s' (buildTurnStartRequest s.nextId session.threadId prompt) s.nextId seg (.error f))
      (runTurn p fuel session prompt isFirstTurn s) := by
  have hs₁ : Advance W s 1 [] { s with nextId := s.nextId + 1 } := ⟨rfl, id, fun _ => rfl, by simp⟩
  rw [runTurn_eq]
  refine Ensures.bind (writeFrame_open ho) (fun _ s₂ hw => ?_) fun f s₂ hx => ?_
  · have hs₂ := hs₁.after hw
    refine Ensures.bind (awaitResponse_ensures (φ := .ack) (by decide)) (fun ack s₃ ha => ?_) fun f s₃ hx => ?_
    · obtain ⟨q, raw, hseg, hq, hraw, hparse⟩ := ha
      have hs₃ : Advance W s 1 (.wrote _ :: (q ++ [.frame raw])) s₃ := hs₂.after hseg
      have hrefused : ∀ f, ackOutcome s.nextId raw = .error f → ∃ seg, (Advance W s 1 seg s₃ ∧ seg ≠ []) ∧
          TurnTrace W p fuel s₃ (buildTurnStartRequest s.nextId session.threadId prompt) s.nextId seg (.error f) :=
        fun f hf => ⟨_, ⟨hs₃, by simp⟩, .refused hq hraw hf⟩
      -- the ack is looked at without waiting
      change Ensures W _ _ (((ofExcept (ackResult s.nextId ack) : Codex Payload) s₃).bind _)
      cases hresult : ackResult s.nextId ack with
      | error f => exact hrefused f (by simp [ackOutcome, hparse, hresult, Bind.bind, Except.bind])
      | ok result =>
        change Ensures W _ _ (((ofExcept (extractTurnId result) : Codex Str) s₃).bind _)
        cases hturn : extractTurnId result with
        | error f => exact hrefused f (by simp [ackOutcome, hparse, hresult, hturn, Bind.bind, Except.bind])
        | ok turnId =>
          change Ensures W _ _ (((ofExcept (ackVerdict turnId result) : Codex (Option TurnResult)) s₃).bind _)
          cases hverdict : ackVerdict turnId result with
          | error f => exact hrefused f (by simp [ackOutcome, hparse, hresult, hturn, hverdict, Bind.bind, Except.bind])
          | ok verdict =>
            refine followTurn_ensures hq hraw ?_ hs₃
            simp [ackOutcome, hparse, hresult, hturn, hverdict, Bind.bind, Except.bind, Pure.pure, Except.pure]
    · obtain ⟨q, seg, hseg, hq, hbroken | ⟨raw, rfl, hraw, hparse⟩⟩ := hx
      · exact ⟨.wrote _ :: (q ++ seg), ⟨hs₂.after hseg, by simp⟩, .unanswered hq hbroken⟩
      · refine ⟨.wrote _ :: (q ++ [.frame raw]), ⟨hs₂.after hseg, by simp⟩, .refused hq hraw ?_⟩
        simp [ackOutcome, hparse, Bind.bind, Except.bind]
  · exact ⟨_, ⟨hs₁.after hx.2.2, by simp⟩, .sent hx.2.1⟩

theorem runTurn_ensures {fuel : Nat} {session : Session} {prompt : Str} {isFirstTurn : Bool} :
    Ensures W
      (fun r s' => ∃ seg, (Advance W s 1 seg s' ∧ (seg ≠ [] ↔ s.stdinOpen = true)) ∧
        TurnTrace W p fuel s' (buildTurnStartRequest s.nextId session.threadId prompt) s.nextId seg (.ok r))
      (fun f s' => ∃ seg, (Advance W s 1 seg s' ∧ (seg ≠ [] ↔ s.stdinOpen = true)) ∧
        TurnTrace W p fuel s' (buildTurnStartRequest s.nextId session.threadId prompt) s.nextId seg (.error f))
      (runTurn p fuel session prompt isFirstTurn s) := by
  by_cases ho : s.stdinOpen = true
  · refine (runTurn_open ho).mono (fun r s' h => ?_) fun f s' h => ?_
    · obtain ⟨seg, hs, ht⟩ := h
      exact ⟨seg, ⟨hs.1, iff_of_true hs.2 ho⟩, ht⟩
    · obtain ⟨seg, hs, ht⟩ := h
      exact ⟨seg, ⟨hs.1, iff_of_true hs.2 ho⟩, ht⟩
  · have hclosed : s.stdinOpen = false := Bool.eq_false_iff.2 ho
    rw [runTurn_closed hclosed]
    exact ⟨[], ⟨⟨rfl, id, fun _ => rfl, by simp⟩, by simp [hclosed]⟩, .unsent (.inl ⟨.inr hclosed, _, rfl⟩)⟩

/-- The trace of `stream_turn`: a turn under its deadline, or none at all. -/
inductive StreamTrace (W : Wire) (p : ClientParams) (fuel : Nat) (s' : Client) (request : Payload) (requestId : Int)
    (turnTimeoutMs : Int) : List WireEntry → Except Failure TurnResult → Prop
  | overflow {msg : Str} : ¬FloatFits turnTimeoutMs →
      StreamTrace W p fuel s' request requestId turnTimeoutMs [] (.error (.raised ⟨.overflowError, msg⟩))
  | noTime {msg : Str} : FloatFits turnTimeoutMs → turnTimeoutMs ≤ 0 →
      StreamTrace W p fuel s' request requestId turnTimeoutMs [] (.error (.codex .turnTimeout msg))
  | cut {f : Failure} : FloatFits turnTimeoutMs → turnTimeoutMs ≤ 0 → W.cutServing s' f → f ≠ .expired →
      StreamTrace W p fuel s' request requestId turnTimeoutMs [] (.error f)
  | timedOut {seg : List WireEntry} {msg : Str} : FloatFits turnTimeoutMs → 0 < turnTimeoutMs →
      TurnTrace W p fuel s' request requestId seg (.error .expired) →
      StreamTrace W p fuel s' request requestId turnTimeoutMs seg (.error (.codex .turnTimeout msg))
  | ran {seg : List WireEntry} {o : Except Failure TurnResult} : FloatFits turnTimeoutMs → 0 < turnTimeoutMs →
      o ≠ .error .expired → TurnTrace W p fuel s' request requestId seg o →
      StreamTrace W p fuel s' request requestId turnTimeoutMs seg o

/-- Where the request is written: in time, and while stdin is open. -/
def CanSend (s : Client) (turnTimeoutMs : Int) : Prop :=
  FloatFits turnTimeoutMs ∧ 0 < turnTimeoutMs ∧ s.stdinOpen = true

theorem streamTurn_ensures {fuel : Nat} {session : Session} {prompt : Str} {turnTimeoutMs : Int} {isFirstTurn : Bool} :
    Ensures W
      (fun r s' => ∃ seg k, (Advance W s k seg s' ∧ (seg ≠ [] ↔ CanSend s turnTimeoutMs)) ∧
        StreamTrace W p fuel s' (buildTurnStartRequest s.nextId session.threadId prompt) s.nextId turnTimeoutMs seg (.ok r))
      (fun f s' => ∃ seg k, (Advance W s k seg s' ∧ (seg ≠ [] ↔ CanSend s turnTimeoutMs)) ∧
        StreamTrace W p fuel s' (buildTurnStartRequest s.nextId session.threadId prompt) s.nextId turnTimeoutMs seg
          (.error f))
      (CodexClient.streamTurn p fuel session prompt turnTimeoutMs isFirstTurn s) := by
  have hs₁ : Advance W s 0 [] { s with turnTimeoutMs := some turnTimeoutMs } :=
    ⟨(Int.add_zero _).symm, id, fun _ => rfl, by simp⟩
  have hturn {seg : List WireEntry} {s' : Client} (hfit : FloatFits turnTimeoutMs) (hpos : 0 < turnTimeoutMs)
      (h : Advance W { s with turnTimeoutMs := some turnTimeoutMs } 1 seg s' ∧ (seg ≠ [] ↔ s.stdinOpen = true)) :
      Advance W s 1 seg s' ∧ (seg ≠ [] ↔ CanSend s turnTimeoutMs) :=
    ⟨⟨h.1.nextId, h.1.stdin, h.1.kept, h.1.log⟩, by rw [h.2, CanSend]; simp [hfit, hpos]⟩
  have hnone {k : Int} {s' : Client} (hs : Advance W s k [] s') (h : ¬(FloatFits turnTimeoutMs ∧ 0 < turnTimeoutMs)) :
      Advance W s k [] s' ∧ (([] : List WireEntry) ≠ [] ↔ CanSend s turnTimeoutMs) :=
    ⟨hs, iff_of_false (by simp) fun hc => h ⟨hc.1, hc.2.1⟩⟩
  change Ensures W _ _ (waitFor turnTimeoutMs _ (runTurn p fuel session prompt isFirstTurn)
    { s with turnTimeoutMs := some turnTimeoutMs })
  by_cases hfit : FloatFits turnTimeoutMs
  · by_cases hpos : 0 < turnTimeoutMs
    · refine waitFor_ensures (fun _ _ => runTurn_ensures.mono (fun r s' hr => ?_) fun f s' hx => hx)
        (fun h => absurd hfit h) (fun _ _ h => by omega) (fun _ _ _ h => by omega) (fun s' hx => ?_) fun f s' hf hx => ?_
      · obtain ⟨seg, hs, ht⟩ := hr
        exact ⟨seg, 1, hturn hfit hpos hs, .ran hfit hpos (by simp) ht⟩
      · obtain ⟨seg, hs, ht⟩ := hx
        exact ⟨seg, 1, hturn hfit hpos hs, .timedOut hfit hpos ht⟩
      · obtain ⟨seg, hs, ht⟩ := hx
        exact ⟨seg, 1, hturn hfit hpos hs, .ran hfit hpos (by simpa using hf) ht⟩
    · refine waitFor_ensures (X := fun _ _ => False) (fun _ h => absurd h hpos) (fun h => absurd hfit h)
        (fun s' _ _ hs => ⟨[], 0, hnone (hs₁.after hs) fun h => hpos h.2, .noTime hfit (by omega)⟩)
        (fun f s' _ _ hs hc he => ⟨[], 0, hnone (hs₁.after hs) fun h => hpos h.2, .cut hfit (by omega) hc he⟩)
        (fun _ h => h.elim) fun _ _ _ h => h.elim
  · exact waitFor_ensures (X := fun _ _ => False) (fun h => absurd h hfit)
      (fun _ msg => ⟨[], 0, hnone hs₁ fun h => hfit h.1, .overflow hfit⟩) (fun _ h => absurd h hfit)
      (fun _ _ h => absurd h hfit) (fun _ h => h.elim) fun _ _ _ h => h.elim

/-- Every run of `stream_turn` leaves such a trace. -/
theorem streamTurn_trace {fuel : Nat} {session : Session} {prompt : Str} {turnTimeoutMs : Int} {isFirstTurn : Bool}
    {o : Except Failure TurnResult} {s' : Client}
    (h : Runs W.proto (CodexClient.streamTurn p fuel session prompt turnTimeoutMs isFirstTurn s) o s') :
    ∃ seg k, (Advance W s k seg s' ∧ (seg ≠ [] ↔ CanSend s turnTimeoutMs)) ∧
      StreamTrace W p fuel s' (buildTurnStartRequest s.nextId session.threadId prompt) s.nextId turnTimeoutMs seg o :=
  streamTurn_ensures.outcome
    (R := fun o s' => ∃ seg k, (Advance W s k seg s' ∧ (seg ≠ [] ↔ CanSend s turnTimeoutMs)) ∧
      StreamTrace W p fuel s' (buildTurnStartRequest s.nextId session.threadId prompt) s.nextId turnTimeoutMs seg o) h

end

/-! ## Whose completion it is -/

def LineRead.frame? : LineRead → Option Payload
  | .value v => v.obj?
  | _ => none

/-- The frames that were read, in order. -/
def framesRead (log : List WireEntry) : List Payload := (linesRead log).filterMap LineRead.frame?

@[simp] theorem framesRead_append (l l' : List WireEntry) : framesRead (l ++ l') = framesRead l ++ framesRead l' := by
  simp [framesRead]

@[simp] theorem framesRead_wrote (frame : Payload) (l : List WireEntry) :
    framesRead (.wrote frame :: l) = framesRead l := rfl

@[simp] theorem framesRead_frame (raw : Payload) (l : List WireEntry) :
    framesRead (.frame raw :: l) = raw :: framesRead l := rfl

/-- A line that is no frame. -/
theorem frame?_of_error {p : ClientParams} {line : LineRead} {f : Failure} (h : frameOf p line = .error f) :
    line.frame? = none := by
  cases line with
  | value v => cases v <;> simp_all [frameOf, LineRead.frame?, Json.obj?]
  | _ => rfl

/-- A loop breaks off at no frame but a request. -/
theorem BrokenOff.framesRead {W : Wire} {p : ClientParams} {fuel : Nat} {q seg : List WireEntry} {s : Client} {f : Failure}
    (h : BrokenOff W p fuel q s seg f) :
    ∀ raw ∈ RiverGang.framesRead seg, ∃ method, frameShape raw = .request method := by
  rcases h with h | ⟨rfl, -⟩
  · cases h with
    | cut => simp [RiverGang.framesRead, linesRead]
    | @line line f hline =>
      simp [RiverGang.framesRead, linesRead, WireEntry.line?, frame?_of_error hline]
    | @request raw method seg f hshape hrep =>
      have hseg : RiverGang.framesRead seg = [] := by
        rcases hrep with rfl | ⟨-, rfl⟩ | ⟨reply, rfl, -⟩ <;> rfl
      have hframes : RiverGang.framesRead (.frame raw :: seg) = raw :: RiverGang.framesRead seg := rfl
      rw [hframes, hseg]
      simp [hshape]
  · simp [RiverGang.framesRead, linesRead]

/-- From the ack on: the first frame without a method is the ack. -/
def fromAck (frames : List Payload) : List Payload := frames.dropWhile fun raw => (method? raw).isSome

def afterAck (frames : List Payload) : List Payload := (fromAck frames).tail

/-- With the ack in place. -/
theorem fromAck_append {l : List Payload} (l' : List Payload) (hl : ∀ raw ∈ l, (method? raw).isSome)
    (hraw : method? raw = none) :
    fromAck (l ++ raw :: l') = raw :: l' := by
  rw [fromAck, List.dropWhile_append_of_pos hl, List.dropWhile_cons_of_neg (by simp [hraw])]

theorem fromAck_eq_nil {l : List Payload} (h : ∀ raw ∈ l, (method? raw).isSome) : fromAck l = [] := by
  have hnil : List.dropWhile _ (l ++ []) = _ := List.dropWhile_append_of_pos h
  rwa [List.append_nil, List.dropWhile_nil] at hnil

/-- The turn object of the ack. -/
def ackTurn? (frames : List Payload) : Option Payload := do
  let raw ← (fromAck frames).head?
  let result ← (Json.get? raw (py "result")).bind Json.obj?
  (Json.get? result (py "turn")).bind Json.obj?

/-- A last frame with a method comes after the ack. -/
theorem mem_afterAck {frames : List Payload} {raw ack : Payload} (hlast : frames.getLast? = some raw)
    (hm : (method? raw).isSome) (hack : ackTurn? frames = some ack) : raw ∈ afterAck frames := by
  obtain ⟨before, rfl⟩ := List.getLast?_eq_some_iff.1 hlast
  unfold ackTurn? at hack
  unfold afterAck
  have hfrom : fromAck (before ++ [raw]) =
      if (fromAck before).isEmpty then [] else fromAck before ++ [raw] := by
    simp [fromAck, List.dropWhile_append, hm]
  rw [hfrom] at hack ⊢
  cases hb : fromAck before with
  | nil => simp [hb] at hack
  | cons first rest => simp

/-- The id of a turn object. -/
def turnId? (turn : Payload) : Option Str := ((Json.get? turn (py "id")).bind Json.str?).filter (· ≠ [])

section

variable [Builtins]

/-- The turn object of a `turn/completed` notification. -/
def completedTurn? (raw : Payload) : Option Payload :=
  if frameShape raw = .notification METHOD_TURN_COMPLETED then
    (Json.get? (notificationPayload raw) (py "turn")).bind Json.obj?
  else none

/-- A `turn/completed` notification that says completed, failed or interrupted. -/
def Final (raw : Payload) : Prop :=
  ∃ turn status, completedTurn? raw = some turn ∧ turnStatus? turn = some status ∧ status ≠ .inProgress

/-- A `turn/completed` notification of the turn of the ack. -/
def Own (frames : List Payload) (raw : Payload) : Prop :=
  ∃ turn ack id, completedTurn? raw = some turn ∧ ackTurn? frames = some ack ∧ turnId? turn = some id ∧
    turnId? ack = some id

/-- It is the last frame that was read, and the outcome is what it makes of the turn of the ack. -/
def Decides (frames : List Payload) (raw : Payload) (o : Except Failure TurnResult) : Prop :=
  frames.getLast? = some raw ∧ ∃ ack id, ackTurn? frames = some ack ∧ turnId? ack = some id ∧
    completionVerdict id (notificationPayload raw) = o.map some

/-- A turn succeeds only when its ack says completed or its own completion was read, and no other turn's completion,
failure or interruption decides it. -/
structure FinishedByOwn (frames : List Payload) (o : Except Failure TurnResult) : Prop where
  success : ∀ r, o = .ok r → (∃ ack, ackTurn? frames = some ack ∧ turnStatus? ack = some .completed) ∨
    ∃ raw ∈ frames, Own frames raw ∧ ∃ turn, completedTurn? raw = some turn ∧ turnStatus? turn = some .completed
  undisturbed : ∀ raw, Final raw → ¬Own frames raw → ¬Decides frames raw o

variable {W : Wire} {p : ClientParams} {s : Client} {φ : ReadLoop} {q seg : List WireEntry} {goesOn : Payload → Prop}
  {raw : Payload} {fuel : Nat} {f : Failure}

/-! ### The frames of a trace -/

theorem Round.framesRead (h : Round p φ raw seg) : RiverGang.framesRead seg = [raw] := by
  rw [RiverGang.framesRead, h.linesRead]
  rfl

/-- The frames of rounds let their loop go on, and have a method where the loop waits for a response. -/
theorem Rounds.framesRead (h : Rounds p φ goesOn q) :
    ∀ raw ∈ RiverGang.framesRead q, goesOn raw ∧ (φ ≠ .streaming → (method? raw).isSome) := by
  induction h with
  | nil => simp [RiverGang.framesRead, linesRead]
  | @snoc raw' q r _ hg hr ih =>
    intro raw hraw
    rw [framesRead_append, hr.framesRead, List.mem_append, List.mem_singleton] at hraw
    rcases hraw with hraw | rfl
    · exact ih raw hraw
    · refine ⟨hg, fun hφ => ?_⟩
      cases hr with
      | request hshape => exact frameShape_isSome (by rw [hshape]; simp)
      | notification hshape => exact frameShape_isSome (by rw [hshape]; simp)
      | stray hs => exact absurd hs hφ

/-! ### What decides -/

/-- The steps that an accepted ack goes through. -/
theorem ackOutcome_steps {requestId : Int} {turnId : Str} {verdict : Option TurnResult}
    (h : ackOutcome requestId raw = .ok (turnId, verdict)) :
    ∃ ack result, parseResponse raw requestId = .ok ack ∧ ackResult requestId ack = .ok result ∧
      extractTurnId result = .ok turnId ∧ ackVerdict turnId result = .ok verdict := by
  unfold ackOutcome at h
  cases hparse : parseResponse raw requestId with
  | error f => simp [hparse, Bind.bind, Except.bind] at h
  | ok ack =>
    cases hresult : ackResult requestId ack with
    | error f => simp [hparse, hresult, Bind.bind, Except.bind] at h
    | ok result =>
      cases hturn : extractTurnId result with
      | error f => simp [hparse, hresult, hturn, Bind.bind, Except.bind] at h
      | ok id =>
        cases hverdict : ackVerdict id result with
        | error f => simp [hparse, hresult, hturn, hverdict, Bind.bind, Except.bind] at h
        | ok v =>
          simp only [hparse, hresult, hturn, hverdict, Bind.bind, Except.bind, Pure.pure, Except.pure,
            Except.ok.injEq, Prod.mk.injEq] at h
          obtain ⟨rfl, rfl⟩ := h
          exact ⟨ack, result, rfl, hresult, hturn, hverdict⟩

/-- What is known of the ack of a turn that was accepted. -/
theorem ackOutcome_ok {requestId : Int} {turnId : Str} {verdict : Option TurnResult} (hraw : frameShape raw = .other)
    (h : ackOutcome requestId raw = .ok (turnId, verdict)) :
    ∃ result turn, SuccessResponse requestId raw result ∧ (Json.get? result (py "turn")).bind Json.obj? = some turn ∧
      turnId? turn = some turnId ∧ (verdict.isSome → turnStatus? turn = some .completed) := by
  obtain ⟨ack, result, hparse, hresult, hturn, hverdict⟩ := ackOutcome_steps h
  obtain ⟨he, hr⟩ := ackResult_ok hresult
  obtain ⟨result', hr', hsuccess⟩ := parseResponse_success hraw hparse he
  rw [hr] at hr'
  cases hr'
  have hid : objectId? (py "turn") result = some turnId := extractId_ok hturn
  cases ho : (Json.get? result (py "turn")).bind Json.obj? with
  | none => simp [objectId?, ho] at hid
  | some turn =>
    refine ⟨result, turn, hsuccess, ho, ?_, fun hv => ?_⟩
    · simpa [objectId?, turnId?, ho] using hid
    · simp only [ackVerdict, ho] at hverdict
      split at hverdict
      · cases hverdict
        cases hv
      · rename_i status hstatus
        rw [hstatus]
        cases status <;> cases hverdict <;> first | rfl | cases hv

/-- A final notification is judged by its status, and decides. -/
theorem Final.verdict (h : Final raw) (turnId : Str) :
    frameVerdict turnId raw = completionVerdict turnId (notificationPayload raw) ∧ ¬Undecided turnId raw := by
  obtain ⟨turn, status, hturn, hstatus, hne⟩ := h
  unfold completedTurn? at hturn
  split at hturn
  · rename_i hshape
    have hv : frameVerdict turnId raw = completionVerdict turnId (notificationPayload raw) := by
      simp [frameVerdict, hshape, notificationVerdict]
    refine ⟨hv, fun hu => ?_⟩
    rw [Undecided, hv, completionVerdict, hturn] at hu
    simp only [hstatus] at hu
    cases status with
    | inProgress => exact hne rfl
    | _ => cases hu
  · cases hturn

theorem Final.method (h : Final raw) : (method? raw).isSome := by
  obtain ⟨turn, status, hturn, -⟩ := h
  unfold completedTurn? at hturn
  split at hturn
  · rename_i hshape
    exact frameShape_isSome (by rw [hshape]; simp)
  · cases hturn

/-- Only a completion finishes a turn with success. -/
theorem frameVerdict_success {turnId : Str} {r : TurnResult} (h : frameVerdict turnId raw = .ok (some r)) :
    ∃ turn, completedTurn? raw = some turn ∧ turnStatus? turn = some .completed := by
  unfold frameVerdict at h
  split at h
  · rename_i method hshape
    unfold notificationVerdict at h
    split at h
    · rename_i hm
      unfold completionVerdict at h
      split at h
      · cases h
      · rename_i turn hturn
        refine ⟨turn, by simp [completedTurn?, hshape, hm, hturn], ?_⟩
        split at h
        · cases h
        · rename_i status hstatus
          rw [hstatus]
          cases status <;> cases h
          rfl
    · split at h
      · unfold errorVerdict at h
        split at h <;> cases h
      · cases h
  · cases h

theorem turnVerdict_error {turnId default : Str} {payload turn : Payload} {status : TurnStatus}
    (h : turnVerdict turnId payload turn default status = .error f) :
    ∃ msg, f = .codex .turnFailed msg ∨ f = .codex .turnCancelled msg := by
  cases status with
  | completed => cases h
  | failed =>
    cases h
    exact ⟨_, .inl rfl⟩
  | interrupted =>
    cases h
    exact ⟨_, .inr rfl⟩
  | inProgress => cases h

/-- A notification ends a turn with no other exceptions than these. -/
theorem frameVerdict_error {turnId : Str} (h : frameVerdict turnId raw = .error f) :
    ∃ msg, f = .codex .turnFailed msg ∨ f = .codex .turnCancelled msg := by
  unfold frameVerdict at h
  split at h
  · unfold notificationVerdict at h
    split at h
    · unfold completionVerdict at h
      split at h
      · cases h
        exact ⟨_, .inl rfl⟩
      · split at h
        · cases h
          exact ⟨_, .inl rfl⟩
        · exact turnVerdict_error h
    · split at h
      · unfold errorVerdict at h
        split at h
        · cases h
        · cases h
          exact ⟨_, .inl rfl⟩
      · cases h
  · cases h

/-- The frames of a turn: none after the ack, or an ack that lets the turn go on and frames that do so too, but for the
last where it decides. -/
inductive Followed (frames : List Payload) (o : Except Failure TurnResult) : Prop
  | early : afterAck frames = [] →
      (∀ r, o = .ok r → ∃ ack, ackTurn? frames = some ack ∧ turnStatus? ack = some .completed) → Followed frames o
  | stopped {turnId : Str} {ack : Payload} {f : Failure} : ackTurn? frames = some ack → turnId? ack = some turnId →
      (∀ raw ∈ afterAck frames, Undecided turnId raw) → o = .error f → Followed frames o
  | decided {turnId : Str} {ack raw : Payload} {before t : List Payload} : ackTurn? frames = some ack →
      turnId? ack = some turnId → frames = before ++ [raw] → afterAck frames = t ++ [raw] →
      (∀ raw ∈ t, Undecided turnId raw) → frameVerdict turnId raw = o.map some → Followed frames o

theorem TurnTrace.followed {request : Payload} {requestId : Int} {o : Except Failure TurnResult}
    (h : TurnTrace W p fuel s request requestId seg o) : Followed (framesRead seg) o := by
  have hmethods {q : List WireEntry} (hq : Rounds p .ack (fun _ => True) q) :
      ∀ raw ∈ framesRead q, (method? raw).isSome := fun raw hr => (hq.framesRead raw hr).2 (by decide)
  have hfrom {q l : List WireEntry} {raw : Payload} (hq : Rounds p .ack (fun _ => True) q)
      (hraw : frameShape raw = .other) :
      fromAck (framesRead (.wrote request :: (q ++ [.frame raw] ++ l))) = raw :: framesRead l := by
    simpa using fromAck_append (framesRead l) (hmethods hq) (frameShape_other.1 hraw)
  have hack {q l : List WireEntry} {raw : Payload} {turnId : Str} {v : Option TurnResult}
      (hq : Rounds p .ack (fun _ => True) q) (hraw : frameShape raw = .other)
      (ho : ackOutcome requestId raw = .ok (turnId, v)) :
      afterAck (framesRead (.wrote request :: (q ++ [.frame raw] ++ l))) = framesRead l ∧
      ∃ ack, ackTurn? (framesRead (.wrote request :: (q ++ [.frame raw] ++ l))) = some ack ∧ turnId? ack = some turnId ∧
        (v.isSome → turnStatus? ack = some .completed) := by
    obtain ⟨result, turn, hsuccess, hturn, hid, hstatus⟩ := ackOutcome_ok hraw ho
    refine ⟨by rw [afterAck, hfrom hq hraw, List.tail_cons], turn, ?_, hid, hstatus⟩
    rw [ackTurn?, hfrom hq hraw]
    simp [hsuccess.result, Json.obj?, hturn]
  cases h with
  | unsent => exact .early rfl fun r hr => by cases hr
  | sent => exact .early rfl fun r hr => by cases hr
  | @unanswered q seg f hq hbroken =>
    refine .early ?_ fun r hr => by cases hr
    have hall : ∀ raw ∈ framesRead (.wrote request :: (q ++ seg)), (method? raw).isSome := by
      intro raw hr
      rw [framesRead_wrote, framesRead_append, List.mem_append] at hr
      rcases hr with hr | hr
      · exact hmethods hq raw hr
      · obtain ⟨method, hshape⟩ := hbroken.framesRead raw hr
        exact frameShape_isSome (by rw [hshape]; simp)
    rw [afterAck, fromAck_eq_nil hall, List.tail_nil]
  | refused hq hraw ho =>
    refine .early ?_ fun r hr => by cases hr
    have hlast := hfrom (l := []) hq hraw
    rw [List.append_nil] at hlast
    rw [afterAck, hlast]
    rfl
  | acked hq hraw ho =>
    obtain ⟨hafter, ack, hturn, hid, hstatus⟩ := hack (l := []) hq hraw ho
    simp only [List.append_nil] at hafter hturn
    exact .early hafter fun r _ => ⟨ack, hturn, hstatus rfl⟩
  | stopped hq hraw ho ht hbroken =>
    obtain ⟨hafter, ack, hturn, hid, -⟩ := hack hq hraw ho
    refine .stopped hturn hid (fun raw' hr => ?_) rfl
    rw [hafter, framesRead_append, List.mem_append] at hr
    rcases hr with hr | hr
    · exact (ht.framesRead raw' hr).1
    · obtain ⟨method, hshape⟩ := hbroken.framesRead raw' hr
      simp [Undecided, frameVerdict, hshape]
  | @decided q t seg raw raw' turnId o hq hraw ho ht hround hv =>
    obtain ⟨hafter, ack, hturn, hid, -⟩ := hack (l := t ++ seg) hq hraw ho
    rw [framesRead_append, hround.framesRead] at hafter
    have hframes : framesRead (.wrote request :: (q ++ [.frame raw] ++ (t ++ seg))) =
        framesRead (q ++ [.frame raw] ++ t) ++ [raw'] := by
      simp [hround.framesRead]
    exact .decided hturn hid hframes hafter (fun raw'' hr => (ht.framesRead raw'' hr).1) hv

/-- The deadline does not change which frames were read; it replaces no verdict. -/
theorem StreamTrace.followed {request : Payload} {requestId turnTimeoutMs : Int} {o : Except Failure TurnResult}
    (h : StreamTrace W p fuel s request requestId turnTimeoutMs seg o) : Followed (framesRead seg) o := by
  cases h with
  | overflow => exact .early rfl fun r hr => by cases hr
  | noTime => exact .early rfl fun r hr => by cases hr
  | cut => exact .early rfl fun r hr => by cases hr
  | timedOut _ _ ht =>
    cases ht.followed with
    | early hafter _ => exact .early hafter fun r hr => by cases hr
    | stopped hack hid hu _ => exact .stopped hack hid hu rfl
    | decided _ _ _ _ _ hv =>
      obtain ⟨msg, hf | hf⟩ := frameVerdict_error hv <;> cases hf
  | ran _ _ _ ht => exact ht.followed

/-- Which runs finish a turn by its own completion only: those that read no other turn's after the ack. -/
theorem Followed.finishedByOwn {frames : List Payload} {o : Except Failure TurnResult} (h : Followed frames o) :
    FinishedByOwn frames o ↔ ∀ raw ∈ afterAck frames, Final raw → Own frames raw := by
  constructor
  · intro hown raw hraw hfinal
    refine Classical.byContradiction fun hnot => hown.undisturbed raw hfinal hnot ?_
    cases h with
    | early hafter _ => simp [hafter] at hraw
    | stopped _ _ hu _ => exact absurd (hu raw hraw) (hfinal.verdict _).2
    | @decided turnId ack raw' before t hack hid hframes hafter hu hv =>
      rw [hafter, List.mem_append, List.mem_singleton] at hraw
      rcases hraw with hraw | rfl
      · exact absurd (hu raw hraw) (hfinal.verdict _).2
      · refine ⟨by rw [hframes, List.getLast?_append]; rfl, ack, turnId, hack, hid, ?_⟩
        rw [← (hfinal.verdict turnId).1, hv]
  · intro hcond
    refine ⟨fun r hr => ?_, fun raw hfinal hnot hd => ?_⟩
    · cases h with
      | early _ hstatus => exact .inl (hstatus r hr)
      | stopped _ _ _ he =>
        rw [hr] at he
        cases he
      | @decided turnId ack raw before t hack hid hframes hafter hu hv =>
        rw [hr] at hv
        obtain ⟨turn, hturn, hstatus⟩ := frameVerdict_success hv
        refine .inr ⟨raw, by simp [hframes], hcond raw (by simp [hafter]) ⟨turn, _, hturn, hstatus, by simp⟩, turn, hturn,
          hstatus⟩
    · obtain ⟨hlast, ack, id, hack, -⟩ := hd
      exact hnot (hcond raw (mem_afterAck hlast hfinal.method hack) hfinal)

/-- Whatever the subprocess sends and however the waiting goes: a turn is finished by its own completion only, exactly
when each final `turn/completed` that is read after the ack carries the turn id of the ack. -/
theorem turn_finished_by_own {session : Session} {prompt : Str} {turnTimeoutMs : Int} {isFirstTurn : Bool} {s' : Client}
    {o : Except Failure TurnResult}
    (h : Runs Wire.any.proto (CodexClient.streamTurn p fuel session prompt turnTimeoutMs isFirstTurn s) o s') :
    ∃ seg, s'.log = s.log ++ seg ∧ (FinishedByOwn (framesRead seg) o ↔
      ∀ raw ∈ afterAck (framesRead seg), Final raw → Own (framesRead seg) raw) := by
  obtain ⟨seg, k, ⟨hs, -⟩, ht⟩ := streamTurn_trace h
  exact ⟨seg, hs.log, ht.followed.finishedByOwn⟩

end

/-! ### The turn of the handshake -/

section Sample

attribute [local instance] sampleBuiltins

def sampleNotification (method : String) (params : Payload) : Payload :=
  [(py "method", .str (py method)), (py "params", .obj params)]

def sampleAck : Payload := sampleResponse 4 (sampleTurn "turn" "t2" "inProgress")

/-- The turn that the handshake has started comes to its end. -/
def sampleOther : Payload := sampleNotification "turn/completed" (sampleTurn "turn" "t1" "completed")

def sampleSession : Session := ⟨py "th", py "t1", 42, 63000000000000000⟩

/-- A client after its handshake. -/
def sampleOpened (frames : List Payload) : Client :=
  ((startSession sampleClientParams 9 sampleSessionArgs sampleClient).execWith (sends (sampleHandshake ++ frames))).2

/-- The turn that follows. -/
def sampleStream (frames : List Payload) (s : Client) : Except Failure TurnResult × Client :=
  (CodexClient.streamTurn sampleClientParams 9 sampleSession (py "do it") 3600000 true s).execWith
    (sends (sampleHandshake ++ frames))

section

variable {W : Wire} (frames : List Payload) (hline : ∀ s line, W.line s line) (hcut : ∀ s, W.cutReading s .expired)

include hline hcut

theorem sampleOpened_runs (h : ((startSession sampleClientParams 9 sampleSessionArgs sampleClient).execWith
      (sends (sampleHandshake ++ frames))).1.toOption = some sampleSession) :
    Runs W.proto (startSession sampleClientParams 9 sampleSessionArgs sampleClient) (.ok sampleSession)
      (sampleOpened frames) := by
  have hrun := runs_sends (sampleHandshake ++ frames) hline hcut
    (startSession sampleClientParams 9 sampleSessionArgs sampleClient)
  rwa [eq_ok_of_toOption h] at hrun

theorem sampleStream_runs (s : Client) :
    Runs W.proto (CodexClient.streamTurn sampleClientParams 9 sampleSession (py "do it") 3600000 true s)
      (sampleStream frames s).1 (sampleStream frames s).2 := runs_sends _ hline hcut _

end

/-- The turn `t2` goes on, and no completion is its own. -/
def Misled (frames : List Payload) : Prop :=
  (ackTurn? frames).bind turnStatus? = some .inProgress ∧ (ackTurn? frames).bind turnId? = some (py "t2") ∧
    ∀ raw ∈ frames, (completedTurn? raw).bind turnId? ≠ some (py "t2")

instance Misled.decidable (frames : List Payload) : Decidable (Misled frames) := inferInstanceAs (Decidable (_ ∧ _ ∧ _))

/-- The first turn finishes the second: its completion, read after the ack of the second, is taken for that of the
second. -/
theorem turn_finished_by_another : ∃ (s s' : Client) (seg : List WireEntry) (r : TurnResult),
    Runs Wire.any.proto (startSession sampleClientParams 9 sampleSessionArgs sampleClient) (.ok sampleSession) s ∧
    Runs Wire.any.proto (CodexClient.streamTurn sampleClientParams 9 sampleSession (py "do it") 3600000 true s) (.ok r)
      s' ∧
    s'.log = s.log ++ seg ∧ ¬FinishedByOwn (framesRead seg) (.ok r) := by
  have hopen := sampleOpened_runs (W := .any) [sampleAck, sampleOther] (fun _ _ => trivial)
    (fun _ => trivial) (by decide +kernel)
  have hstream := sampleStream_runs (W := .any) [sampleAck, sampleOther] (fun _ _ => trivial)
    (fun _ => trivial) (sampleOpened [sampleAck, sampleOther])
  have hread : (sampleStream [sampleAck, sampleOther] (sampleOpened [sampleAck, sampleOther])).1.isOk = true ∧
      Misled (framesRead ((sampleStream [sampleAck, sampleOther] (sampleOpened [sampleAck, sampleOther])).2.log.drop
        (sampleOpened [sampleAck, sampleOther]).log.length)) := by decide +kernel
  generalize sampleOpened [sampleAck, sampleOther] = s at hopen hstream hread
  generalize sampleStream [sampleAck, sampleOther] s = x at hstream hread
  obtain ⟨o, s'⟩ := x
  obtain ⟨seg, k, ⟨hs, -⟩, -⟩ := streamTurn_trace hstream
  rw [hs.log, List.drop_left] at hread
  obtain ⟨hok, hstatus, hid, hother⟩ := hread
  cases o with
  | error f => cases hok
  | ok r =>
    refine ⟨s, s', seg, r, hopen, hstream, hs.log, fun hown => ?_⟩
    rcases hown.success r rfl with ⟨ack, hack, hc⟩ | ⟨raw, hraw, ⟨turn, ack, id, hturn, hack, hid', hid''⟩, -⟩
    · rw [hack, Option.bind_some, hc] at hstatus
      cases hstatus
    · rw [hack, Option.bind_some, hid''] at hid
      apply hother raw hraw
      rw [hturn, Option.bind_some, hid', hid]

/-- The completion that is read is the turn's own. -/
def sampleCompleted : Payload := sampleNotification "turn/completed" (sampleTurn "turn" "t2" "completed")

theorem turn_finished_by_own_sample : ∃ (s s' : Client) (seg : List WireEntry) (o : Except Failure TurnResult),
    Runs Wire.any.proto (CodexClient.streamTurn sampleClientParams 9 sampleSession (py "do it") 3600000 true s) o s' ∧
    s'.log = s.log ++ seg ∧ o.isOk = true ∧ FinishedByOwn (framesRead seg) o := by
  have hstream := sampleStream_runs (W := .any) [sampleAck, sampleCompleted] (fun _ _ => trivial)
    (fun _ => trivial) (sampleOpened [sampleAck, sampleCompleted])
  have hread : (sampleStream [sampleAck, sampleCompleted] (sampleOpened [sampleAck, sampleCompleted])).1.isOk = true ∧
      (∀ raw ∈ afterAck (framesRead ((sampleStream [sampleAck, sampleCompleted]
        (sampleOpened [sampleAck, sampleCompleted])).2.log.drop (sampleOpened [sampleAck, sampleCompleted]).log.length)),
        (completedTurn? raw).bind turnId? = some (py "t2")) ∧
      (ackTurn? (framesRead ((sampleStream [sampleAck, sampleCompleted]
        (sampleOpened [sampleAck, sampleCompleted])).2.log.drop
          (sampleOpened [sampleAck, sampleCompleted]).log.length))).bind turnId? = some (py "t2") := by decide +kernel
  generalize sampleOpened [sampleAck, sampleCompleted] = s at hstream hread
  generalize sampleStream [sampleAck, sampleCompleted] s = x at hstream hread
  obtain ⟨seg, hlog, hiff⟩ := turn_finished_by_own hstream
  rw [hlog, List.drop_left] at hread
  obtain ⟨hok, hall, hid⟩ := hread
  refine ⟨s, x.2, seg, x.1, hstream, hlog, hok, hiff.2 fun raw hraw _ => ?_⟩
  obtain ⟨ack, hack, hackId⟩ := Option.bind_eq_some_iff.1 hid
  obtain ⟨turn, hturn, hturnId⟩ := Option.bind_eq_some_iff.1 (hall raw hraw)
  exact ⟨turn, ack, _, hturn, hack, hturnId, hackId⟩

end Sample

end RiverGang
