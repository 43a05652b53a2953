import RiverGang.Codex.AckPosition

/-!
# The delivery of notifications

What one call of `stream_turn` hands to `on_event` is what it reads: exactly the notifications among the frames, in their
order, each once (`HandedOn`). A round keeps this whatever its frame is, so do the two loops, and a loop that breaks off has
read no notification at its end (`TurnTrace.handedOn`). Nothing is read after the notification that ends the turn, which is
handed on like the others (`notifications_delivered`).
-/

namespace RiverGang

open Py Coop Task

section

variable [Builtins]

/-! ## Notifications -/

/-- The payload for the params of a notification: an object as it is, anything else that is true in a wrapper. -/
def noticePayload : Option Json → Payload
  | some (.obj params) => params
  | some v => if v.truthy then [(py "_raw_params", v)] else []
  | none => []

/-- The notification that a frame is, if its method is a non-empty string and it has no id. -/
def notice? (raw : Payload) : Option (Str × Payload) :=
  match Json.get? raw (py "method"), Json.get? raw (py "id") with
  | some (.str (c :: cs)), none => some (c :: cs, noticePayload (Json.get? raw (py "params")))
  | _, _ => none

theorem noticePayload_eq (raw : Payload) : noticePayload (Json.get? raw (py "params")) = notificationPayload raw := by
  unfold notificationPayload
  cases Json.get? raw (py "params") with
  | none => rfl
  | some v =>
    cases v with
    | obj params => cases params <;> rfl
    | _ => simp only [noticePayload, Option.filter_some]; split <;> simp_all

/-- The client looks at the shape of a frame for it. -/
theorem notice?_eq (raw : Payload) : notice? raw =
    match frameShape raw with
    | .notification method => some (method, notificationPayload raw)
    | _ => none := by
  unfold notice? frameShape method?
  rw [noticePayload_eq]
  cases Json.get? raw (py "method") with
  | none => rfl
  | some v =>
    cases v with
    | str method => cases method <;> cases Json.get? raw (py "id") <;> rfl
    | _ => rfl

/-- What was handed to `on_event`. -/
def WireEntry.announced? : WireEntry → Option (Str × Payload)
  | .event e => some (e.event, e.payload)
  | _ => none

def announced (log : List WireEntry) : List (Str × Payload) := log.filterMap WireEntry.announced?

/-- Exactly the notifications that were read have been handed on, in their order. -/
def HandedOn (log : List WireEntry) : Prop := announced log = (framesRead log).filterMap notice?

theorem HandedOn.nil : HandedOn [] := rfl

theorem HandedOn.append {l l' : List WireEntry} (h : HandedOn l) (h' : HandedOn l') : HandedOn (l ++ l') := by
  unfold HandedOn announced at *
  rw [framesRead_append, List.filterMap_append, List.filterMap_append, h, h']

theorem HandedOn.wrote {l : List WireEntry} (frame : Payload) (h : HandedOn l) : HandedOn (.wrote frame :: l) := h

/-- A frame that is no notification. -/
theorem HandedOn.frame {raw : Payload} (h : ∀ method, frameShape raw ≠ .notification method) : HandedOn [.frame raw] := by
  have hnone : notice? raw = none := by
    rw [notice?_eq]
    split
    · rename_i method hshape
      exact absurd hshape (h method)
    · rfl
  unfold HandedOn
  rw [framesRead_frame, List.filterMap_cons_none hnone]
  rfl

/-! ## Rounds -/

/-- A request is not handed on, whether or not it is replied to. -/
theorem Unreplied.handedOn {p : ClientParams} {raw : Payload} {method : Str} {seg : List WireEntry}
    (hshape : frameShape raw = .request method) (h : Unreplied p raw seg) : HandedOn (.frame raw :: seg) := by
  have hframe : HandedOn [.frame raw] := .frame fun m hm => by rw [hshape] at hm; cases hm
  rcases h with rfl | ⟨-, rfl⟩ | ⟨reply, rfl, -⟩
  · exact hframe
  · exact hframe
  · exact hframe.append (HandedOn.nil.wrote reply)

theorem BrokenOff.handedOn {W : Wire} {p : ClientParams} {fuel : Nat} {q seg : List WireEntry} {s : Client} {f : Failure}
    (h : BrokenOff W p fuel q s seg f) : HandedOn seg := by
  rcases h with h | ⟨rfl, -⟩
  · cases h with
    | cut => exact .nil
    | @line line f hline =>
      have hframes : RiverGang.framesRead [.read line] = [] := by
        simp [RiverGang.framesRead, linesRead, WireEntry.line?, frame?_of_error hline]
      rw [HandedOn, hframes]
      rfl
    | request hshape hrep => exact hrep.handedOn hshape
  · exact .nil

variable {W : Wire} {p : ClientParams} {φ : ReadLoop} {q seg : List WireEntry} {raw : Payload}

theorem Round.handedOn (h : Round p φ raw seg) (hφ : φ ≠ .handshake) : HandedOn seg := by
  cases h with
  | request hshape hrep => exact Unreplied.handedOn hshape (.inr hrep)
  | @notification method seg hshape hheard =>
    unfold ReadLoop.heard at hheard
    rw [if_neg hφ] at hheard
    obtain ⟨now, rfl⟩ := hheard
    have hnotice : notice? raw = some (method, notificationPayload raw) := by rw [notice?_eq, hshape]
    unfold HandedOn
    rw [framesRead_frame, List.filterMap_cons_some hnotice]
    rfl
  | stray _ hshape => exact .frame fun m hm => by rw [hshape] at hm; cases hm

/-- What each round keeps, the rounds keep. -/
theorem Rounds.handedOn {goesOn : Payload → Prop} (h : Rounds p φ goesOn q) (hφ : φ ≠ .handshake) : HandedOn q := by
  induction h with
  | nil => exact .nil
  | snoc _ _ hr ih => exact ih.append (hr.handedOn hφ)

theorem TurnTrace.handedOn {fuel : Nat} {s : Client} {request : Payload} {requestId : Int} {o : Except Failure TurnResult}
    (h : TurnTrace W p fuel s request requestId seg o) : HandedOn seg := by
  have hresponse {raw : Payload} (hraw : frameShape raw = .other) : HandedOn [.frame raw] :=
    .frame fun m hm => by rw [hraw] at hm; cases hm
  cases h with
  | unsent => exact .nil
  | sent => exact HandedOn.nil.wrote request
  | unanswered hq hb => exact ((hq.handedOn (by decide)).append hb.handedOn).wrote request
  | refused hq hraw => exact ((hq.handedOn (by decide)).append (hresponse hraw)).wrote request
  | acked hq hraw => exact ((hq.handedOn (by decide)).append (hresponse hraw)).wrote request
  | stopped hq hraw _ ht hb =>
    exact (((hq.handedOn (by decide)).append (hresponse hraw)).append
      ((ht.handedOn (by decide)).append hb.handedOn)).wrote request
  | decided hq hraw _ ht hround =>
    exact (((hq.handedOn (by decide)).append (hresponse hraw)).append
      ((ht.handedOn (by decide)).append (hround.handedOn (by decide)))).wrote request

theorem StreamTrace.handedOn {fuel : Nat} {s : Client} {request : Payload} {requestId turnTimeoutMs : Int}
    {o : Except Failure TurnResult} (h : StreamTrace W p fuel s request requestId turnTimeoutMs seg o) : HandedOn seg := by
  cases h with
  | overflow => exact .nil
  | noTime => exact .nil
  | cut => exact .nil
  | timedOut _ _ ht => exact ht.handedOn
  | ran _ _ _ ht => exact ht.handedOn

/-- A frame after the ack that ends the turn of the ack. -/
def Terminal (frames : List Payload) (raw : Payload) : Prop :=
  ∃ ack turnId, ackTurn? frames = some ack ∧ turnId? ack = some turnId ∧ frameVerdict turnId raw ≠ .ok none

/-- It is the last one. -/
theorem Followed.terminal {frames before after : List Payload} {o : Except Failure TurnResult} (h : Followed frames o)
    (hsplit : afterAck frames = before ++ raw :: after) (hraw : Terminal frames raw) : after = [] := by
  obtain ⟨ack, turnId, hack, hid, hverdict⟩ := hraw
  cases h with
  | early hafter _ =>
    rw [hafter] at hsplit
    simp at hsplit
  | stopped hack' hid' hu _ =>
    rw [hack] at hack'
    cases hack'
    rw [hid] at hid'
    cases hid'
    exact absurd (hu raw (by simp [hsplit])) hverdict
  | @decided turnId' ack' last _ t hack' hid' _ hafter hu _ =>
    rw [hack] at hack'
    cases hack'
    rw [hid] at hid'
    cases hid'
    rw [hafter] at hsplit
    -- all but the last frame let the turn go on
    rcases List.append_eq_append_iff.1 hsplit with ⟨mid, rfl, hlast⟩ | ⟨mid, rfl, hlast⟩
    · cases mid with
      | nil =>
        cases hlast
        rfl
      | cons c cs => simp at hlast
    · cases mid with
      | nil =>
        cases hlast
        rfl
      | cons c cs =>
        cases hlast
        exact absurd (hu raw (by simp)) hverdict

/-- Whatever the subprocess sends and however the waiting goes: the events of a turn are exactly the notifications among
the frames that it reads, each once and in their order, and it reads nothing after the one that ends it. -/
theorem notifications_delivered {fuel : Nat} {session : Session} {prompt : Str} {turnTimeoutMs : Int} {isFirstTurn : Bool}
    {s s' : Client} {o : Except Failure TurnResult}
    (h : Runs Wire.any.proto (CodexClient.streamTurn p fuel session prompt turnTimeoutMs isFirstTurn s) o s') :
    ∃ seg, s'.log = s.log ++ seg ∧ announced seg = (framesRead seg).filterMap notice? ∧
      ∀ before raw after, afterAck (framesRead seg) = before ++ raw :: after → Terminal (framesRead seg) raw → after = [] := by
  obtain ⟨seg, k, ⟨hs, -⟩, ht⟩ := streamTurn_trace h
  exact ⟨seg, hs.log, ht.handedOn, fun _ _ _ hsplit => ht.followed.terminal hsplit⟩

end

/-! ### A turn with frames of every shape -/

section Sample

attribute [local instance] sampleBuiltins

/-- A notification before the ack, and after it a request, a stray response, a frame without a method, two notifications
without a params object, and the end. -/
def sampleMixed : List Payload :=
  [sampleStarted, sampleAck, [(py "id", .int 9), (py "method", .str (py "nope"))], sampleResponse 3 [],
    [(py "params", .obj [])], [(py "method", .str (py "item/a")), (py "params", .arr [.null])],
    [(py "method", .str (py "item/b")), (py "params", .bool false)], sampleCompleted]

theorem notifications_delivered_sample : ∃ (s s' : Client) (seg : List WireEntry) (o : Except Failure TurnResult),
    Runs Wire.any.proto (CodexClient.streamTurn sampleClientParams 9 sampleSession (py "do it") 3600000 true s) o s' ∧
    s'.log = s.log ++ seg ∧ announced seg = (framesRead seg).filterMap notice? ∧
    (announced seg).map Prod.fst = [py "item/started", py "item/a", py "item/b", py "turn/completed"] := by
  have hstream := sampleStream_runs (W := .any) sampleMixed (fun _ _ => trivial) (fun _ => trivial)
    (sampleOpened sampleMixed)
  have hread : (announced ((sampleStream sampleMixed (sampleOpened sampleMixed)).2.log.drop
      (sampleOpened sampleMixed).log.length)).map Prod.fst =
        [py "item/started", py "item/a", py "item/b", py "turn/completed"] := by decide +kernel
  generalize sampleOpened sampleMixed = s at hstream hread
  generalize sampleStream sampleMixed s = x at hstream hread
  obtain ⟨seg, hlog, hon, -⟩ := notifications_delivered hstream
  rw [hlog, List.drop_left] at hread
  exact ⟨s, x.2, seg, x.1, hstream, hlog, hon, hread⟩

end Sample

end RiverGang
