import RiverGang.Codex.Turn

/-!
# Replies

Over the life of a client, each request of the server that can be replied to is answered by the very next entry of the
log, and each reply answers the entry before it (`Settled`). `Life` is the life of a client from its construction: any
calls of `start_session` and `stream_turn`, in any order, whatever they come to.
-/

namespace RiverGang

open Py Coop Task

/-- A request of the server that can be replied to: a method, and an id that is an integer or a string. -/
def ServerRequest (raw : Payload) : Prop := (method? raw).isSome ∧ (requestId? raw).isSome

/-- Each reply comes right after a frame, and `J` relates the two. -/
def ReplyPairs (J : Payload → Payload → Prop) (log : List WireEntry) : Prop :=
  ∀ k reply, log[k]? = some (.wrote reply) → Json.get? reply (py "method") = none →
    ∃ j raw, k = j + 1 ∧ log[j]? = some (.frame raw) ∧ J raw reply

namespace ReplyPairs

variable {J : Payload → Payload → Prop} {l l' : List WireEntry}

theorem nil : ReplyPairs J [] := by simp [ReplyPairs]

theorem append (h : ReplyPairs J l) (h' : ReplyPairs J l') : ReplyPairs J (l ++ l') := by
  intro k reply hk hm
  by_cases hlt : k < l.length
  · rw [List.getElem?_append_left hlt] at hk
    obtain ⟨j, raw, rfl, hj, hr⟩ := h k reply hk hm
    exact ⟨j, raw, rfl, by rw [List.getElem?_append_left (by omega), hj], hr⟩
  · rw [List.getElem?_append_right (by omega)] at hk
    obtain ⟨j, raw, hkj, hj, hr⟩ := h' _ reply hk hm
    refine ⟨l.length + j, raw, by omega, ?_, hr⟩
    rw [List.getElem?_append_right (by omega), Nat.add_sub_cancel_left, hj]

/-- An entry that is no reply. -/
theorem single {e : WireEntry} (hw : ∀ reply, e = .wrote reply → Json.get? reply (py "method") ≠ none) :
    ReplyPairs J [e] := by
  intro k reply hk hm
  cases k with
  | zero => exact absurd hm (hw reply (by simpa using hk))
  | succ k => simp at hk

/-- A frame with its reply. -/
theorem exchange {raw reply : Payload} (h : J raw reply) : ReplyPairs J [.frame raw, .wrote reply] := by
  intro k reply' hk _
  rcases k with _ | _ | k
  · simp at hk
  · have he : reply = reply' := by simpa using hk
    exact ⟨0, raw, rfl, rfl, he ▸ h⟩
  · simp at hk

end ReplyPairs

/-- Each reply comes right after its request, and, if nothing is `fragile`, each request has its reply. -/
structure Settled (p : ClientParams) (fragile : Prop) (log : List WireEntry) : Prop where
  asked : ∀ k reply, log[k]? = some (.wrote reply) → Json.get? reply (py "method") = none →
    ∃ j raw, k = j + 1 ∧ log[j]? = some (.frame raw) ∧ ServerRequest raw ∧ ReplyTo p raw reply
  answered : ¬fragile → ∀ k raw, log[k]? = some (.frame raw) → ServerRequest raw →
    ∃ reply, log[k + 1]? = some (.wrote reply) ∧ ReplyTo p raw reply

namespace Settled

variable {p : ClientParams} {fragile : Prop} {l l' : List WireEntry}

theorem mono {fragile' : Prop} (h : Settled p fragile l) (hf : fragile → fragile') : Settled p fragile' l :=
  ⟨h.asked, fun hn => h.answered fun hfr => hn (hf hfr)⟩

theorem nil : Settled p fragile [] := ⟨ReplyPairs.nil, by simp⟩

theorem append (h : Settled p fragile l) (h' : Settled p fragile l') : Settled p fragile (l ++ l') := by
  refine ⟨ReplyPairs.append h.asked h'.asked, fun hf k raw hk hr => ?_⟩
  by_cases hlt : k < l.length
  · rw [List.getElem?_append_left hlt] at hk
    obtain ⟨reply, hreply, hto⟩ := h.answered hf k raw hk hr
    have hlt' : k + 1 < l.length := (List.getElem?_eq_some_iff.1 hreply).1
    exact ⟨reply, by rw [List.getElem?_append_left hlt', hreply], hto⟩
  · rw [List.getElem?_append_right (by omega)] at hk
    obtain ⟨reply, hreply, hto⟩ := h'.answered hf _ raw hk hr
    refine ⟨reply, ?_, hto⟩
    rw [List.getElem?_append_right (by omega), ← hreply]
    congr 1
    omega

/-- An entry that is neither a request to answer nor a reply. -/
theorem single {e : WireEntry} (hr : ∀ raw, e = .frame raw → ¬ServerRequest raw)
    (hw : ∀ reply, e = .wrote reply → Json.get? reply (py "method") ≠ none) : Settled p fragile [e] := by
  refine ⟨ReplyPairs.single hw, fun _ k raw hk hreq => ?_⟩
  cases k with
  | zero => exact absurd hreq (hr raw (by simpa using hk))
  | succ k => simp at hk

/-- A request with its reply. -/
theorem exchange {raw reply : Payload} (hm : (method? raw).isSome) (h : ReplyTo p raw reply) :
    Settled p fragile [.frame raw, .wrote reply] := by
  refine ⟨ReplyPairs.exchange ⟨⟨hm, h.answerable⟩, h⟩, fun _ k raw' hk hreq => ?_⟩
  rcases k with _ | _ | k
  · have he : raw = raw' := by simpa using hk
    exact ⟨reply, rfl, he ▸ h⟩
  · simp at hk
  · simp at hk

/-- A request whose reply was cut short. -/
theorem unreplied {raw : Payload} {seg : List WireEntry} (hm : (method? raw).isSome) (hf : fragile)
    (h : Unreplied p raw seg) : Settled p fragile (.frame raw :: seg) := by
  have hsingle : Settled p fragile [.frame raw] :=
    ⟨ReplyPairs.single (fun reply he => by cases he), fun hn => absurd hf hn⟩
  rcases h with rfl | ⟨-, rfl⟩ | ⟨reply, rfl, hr⟩
  · exact hsingle
  · exact hsingle
  · exact exchange hm hr

/-- A frame of the client's own. -/
theorem own {frame : Payload} (h : (Json.get? frame (py "method")).isSome) : Settled p fragile [.wrote frame] := by
  refine single (fun raw he => by cases he) fun reply he hn => ?_
  cases he
  rw [hn] at h
  cases h

/-- A line that is no frame. -/
theorem line {line : LineRead} {f : Failure} (h : frameOf p line = .error f) : Settled p fragile [.read line] := by
  refine single (fun raw he => ?_) fun reply he => by cases he
  cases he
  cases h

/-- A frame without a method. -/
theorem response {raw : Payload} (h : frameShape raw = .other) : Settled p fragile [.frame raw] := by
  refine single (fun raw' he hr => ?_) fun reply he => by cases he
  cases he
  have hm := hr.1
  rw [frameShape_other.1 h] at hm
  cases hm

theorem event (e : RuntimeEvent) : Settled p fragile [.event e] :=
  single (fun raw he => by cases he) fun reply he => by cases he

end Settled

/-- A notification has no id to reply to. -/
theorem notification_requestId {raw : Payload} {method : Str} (h : frameShape raw = .notification method) :
    requestId? raw = none := by
  unfold frameShape at h
  split at h
  · cases h
  · split at h
    · cases h
    · rename_i hid
      unfold requestId?
      cases hg : Json.get? raw (py "id") with
      | none => rfl
      | some v => simp [hg] at hid

theorem Tail.settled {p : ClientParams} {fragile : Prop} {tail : List WireEntry} (h : Tail p fragile tail) :
    Settled p fragile tail := by
  cases h with
  | nil => exact .nil
  | line hline => exact .line hline
  | request hf hshape hrep => exact .unreplied (by rw [frameShape_request hshape]; rfl) hf hrep
  | response hshape => exact .response hshape

/-- A request of the client's own, and what follows. -/
theorem Settled.request {p : ClientParams} {fragile : Prop} {request : Payload} {l : List WireEntry}
    (hm : (Json.get? request (py "method")).isSome)
    (h : Settled p fragile l) : Settled p fragile (.wrote request :: l) := (Settled.own hm).append h

section

variable [Builtins] {p : ClientParams} {fragile : Prop} {φ : ReadLoop} {q seg : List WireEntry}

theorem Round.settled {raw : Payload} (h : Round p φ raw seg) : Settled p fragile seg := by
  have hnone {raw : Payload} (hid : requestId? raw = none) : Settled p fragile [.frame raw] := by
    refine .single (fun raw' he hr => ?_) fun reply he => by cases he
    cases he
    have hi := hr.2
    rw [hid] at hi
    cases hi
  cases h with
  | request hshape hrep =>
    rcases hrep with ⟨hid, rfl⟩ | ⟨reply, rfl, hr⟩
    · exact hnone hid
    · exact .exchange (by rw [frameShape_request hshape]; rfl) hr
  | notification hshape hheard =>
    refine (hnone (notification_requestId hshape)).append (l := [_]) ?_
    unfold ReadLoop.heard at hheard
    split at hheard
    · rw [hheard]
      exact .nil
    · obtain ⟨now, rfl⟩ := hheard
      exact .event _
  | stray _ hshape => exact .response hshape

theorem Rounds.settled {goesOn : Payload → Prop} (h : Rounds p φ goesOn q) : Settled p fragile q := by
  induction h with
  | nil => exact .nil
  | snoc _ _ hr ih => exact ih.append hr.settled

theorem Attempted.settled {request : Payload} (hm : (Json.get? request (py "method")).isSome)
    (h : Attempted p fragile φ request seg) : Settled p fragile seg := by
  rcases h with ⟨-, rfl⟩ | ⟨q, tail, rfl, hq, ht⟩
  · exact .nil
  · exact .request hm (hq.settled.append ht.settled)

theorem Exchanged.settled {request result : Payload} {id : Int} (hm : (Json.get? request (py "method")).isSome)
    (h : Exchanged p φ request id result seg) : Settled p fragile seg := h.attempted.settled hm

theorem Handshake.settled {a : SessionArgs} {n k : Int} {o : Except Failure (Str × Str)}
    (h : Handshake p a fragile n seg k o) : Settled p fragile seg := by
  have hinitialized : Settled p fragile [.wrote INITIALIZED] := .own rfl
  cases h with
  | begun h₁ => exact h₁.settled rfl
  | initialized h₁ _ => exact (h₁.settled rfl).append hinitialized
  | thread h₁ h₂ => exact ((h₁.settled rfl).append hinitialized).append (h₂.settled rfl)
  | turn h₁ h₂ _ h₃ => exact (((h₁.settled rfl).append hinitialized).append (h₂.settled rfl)).append (h₃.settled rfl)
  | opened h₁ h₂ _ h₃ _ =>
    exact (((h₁.settled rfl).append hinitialized).append (h₂.settled rfl)).append (h₃.settled rfl)

theorem TurnTrace.settled {W : Wire} {fuel : Nat} {s : Client} {request : Payload} {requestId : Int}
    {o : Except Failure TurnResult} (hf : ∀ f, W.Stops s f → fragile)
    (hm : (Json.get? request (py "method")).isSome) (h : TurnTrace W p fuel s request requestId seg o) :
    Settled p fragile seg := by
  cases h with
  | unsent => exact .nil
  | sent => exact .own hm
  | unanswered hq hb => exact .request hm (hq.settled.append (hb.tail hf).settled)
  | refused hq hraw _ => exact .request hm (hq.settled.append (.response hraw))
  | acked hq hraw _ => exact .request hm (hq.settled.append (.response hraw))
  | stopped hq hraw _ ht hb =>
    exact .request hm ((hq.settled.append (.response hraw)).append (ht.settled.append (hb.tail hf).settled))
  | decided hq hraw _ ht hround _ =>
    exact .request hm ((hq.settled.append (.response hraw)).append (ht.settled.append hround.settled))

theorem StreamTrace.settled {W : Wire} {fuel : Nat} {s : Client} {request : Payload} {requestId turnTimeoutMs : Int}
    {o : Except Failure TurnResult} (hf : ∀ f, W.Stops s f → fragile)
    (hm : (Json.get? request (py "method")).isSome)
    (h : StreamTrace W p fuel s request requestId turnTimeoutMs seg o) : Settled p fragile seg := by
  cases h with
  | overflow => exact .nil
  | noTime => exact .nil
  | cut => exact .nil
  | timedOut _ _ ht => exact ht.settled hf hm
  | ran _ _ _ ht => exact ht.settled hf hm

/-! ## The life of a client -/

/-- The states of a client, from its construction on: its calls run one after the other, and come to anything. -/
inductive Life (W : Wire) (p : ClientParams) : Client → Prop
  | new (now : Instant) : Life W p (.new now)
  | rely {s s' : Client} : Life W p s → W.proto.rely s s' → Life W p s'
  | startSession {s s' : Client} {fuel : Nat} {a : SessionArgs} {o : Except Failure Session} : Life W p s →
      Runs W.proto (startSession p fuel a s) o s' → Life W p s'
  | streamTurn {s s' : Client} {fuel : Nat} {session : Session} {prompt : Str} {turnTimeoutMs : Int}
      {isFirstTurn : Bool} {o : Except Failure TurnResult} : Life W p s →
      Runs W.proto (CodexClient.streamTurn p fuel session prompt turnTimeoutMs isFirstTurn s) o s' → Life W p s'

/-- Requests and replies match up throughout a life. -/
theorem Life.settled {W : Wire} {s : Client} (h : Life W p s) :
    Settled p (Fragile W true) s.log ∧ (¬W.breaks → s.stdinOpen = true) := by
  have hfragile {s : Client} (ho : ¬W.breaks → s.stdinOpen = true) (hf : Fragile W s.stdinOpen) : Fragile W true := by
    by_cases hb : W.breaks
    · exact .inl hb
    · rwa [ho hb] at hf
  induction h with
  | new now => exact ⟨.nil, fun _ => rfl⟩
  | rely _ hr ih => exact ⟨by rw [hr.1.log]; exact ih.1, fun hb => (hr.2 hb).trans (ih.2 hb)⟩
  | startSession _ hrun ih =>
    obtain ⟨seg, k, hs, hh⟩ := startSession_trace hrun
    refine ⟨?_, fun hb => (hs.kept hb).trans (ih.2 hb)⟩
    rw [hs.log]
    exact ih.1.append (hh.settled.mono (hfragile ih.2))
  | streamTurn _ hrun ih =>
    obtain ⟨seg, k, ⟨hs, -⟩, ht⟩ := streamTurn_trace hrun
    refine ⟨?_, fun hb => (hs.kept hb).trans (ih.2 hb)⟩
    have hstops : ∀ s' seg f, Advance W _ k seg s' → W.Stops s' f → Fragile W true :=
      fun s' seg f hs' hstop => hfragile ih.2 (hs'.fragile (stops_fragile (.refl s') hstop))
    rw [hs.log]
    exact ih.1.append (ht.settled (fun f => hstops _ seg f hs) rfl)

/-- Over the whole life of a client whose writes are accepted, with any frames and whatever tools and handlers do: each
request of the server with an integer or string id is followed at once by one reply, with its id and either a result or
an error; and there is no other reply. -/
theorem every_request_replied {s : Client} (h : Life .accepting p s) :
    (∀ k raw, s.log[k]? = some (.frame raw) → ServerRequest raw →
      ∃ reply, s.log[k + 1]? = some (.wrote reply) ∧ ReplyTo p raw reply) ∧
    ∀ k reply, s.log[k]? = some (.wrote reply) → Json.get? reply (py "method") = none →
      ∃ j raw, k = j + 1 ∧ s.log[j]? = some (.frame raw) ∧ ServerRequest raw ∧ ReplyTo p raw reply := by
  have hsettled := h.settled.1
  refine ⟨hsettled.answered ?_, hsettled.asked⟩
  rintro (hb | ho | ⟨_, _, hc⟩)
  · exact hb
  · cases ho
  · exact hc

end

section Sample

attribute [local instance] sampleBuiltins

def sampleRequest (id : Json) (method : String) (params : Json) : Payload :=
  [(py "id", id), (py "method", .str (py method)), (py "params", params)]

/-- Requests in the midst of the handshake: for a decision, without proper params, and by no known method. -/
def sampleRequests : List Payload :=
  [sampleRequest (.str (py "r1")) "applyPatchApproval" (.obj []), sampleRequest (.int 7) "execCommandApproval" (.arr []),
    sampleRequest (.int 8) "nope" .null] ++ sampleHandshake

/-- The id of a reply. -/
def WireEntry.replyId? : WireEntry → Option Int
  | .wrote reply => if (Json.get? reply (py "method")).isSome then none else requestNumber reply
  | _ => none

theorem every_request_replied_sample : ∃ s : Client, Life .accepting sampleClientParams s ∧
    ∃ k reply, s.log[k]? = some (.wrote reply) ∧ requestNumber reply = some 7 ∧
      ∃ j raw, k = j + 1 ∧ s.log[j]? = some (.frame raw) ∧ ReplyTo sampleClientParams raw reply := by
  have hrun := runs_sends (W := .accepting) sampleRequests (fun _ _ => trivial) (fun _ => trivial)
    (startSession sampleClientParams 9 sampleSessionArgs sampleClient)
  have hlog : ((startSession sampleClientParams 9 sampleSessionArgs sampleClient).execWith
      (sends sampleRequests)).2.log[4]?.bind WireEntry.replyId? = some 7 := by decide +kernel
  generalize (startSession sampleClientParams 9 sampleSessionArgs sampleClient).execWith (sends sampleRequests) = x
    at hrun hlog
  have hlife : Life .accepting sampleClientParams x.2 := .startSession (.new _) hrun
  obtain ⟨e, he, hid⟩ := Option.bind_eq_some_iff.1 hlog
  cases e with
  | wrote reply =>
    simp only [WireEntry.replyId?] at hid
    split at hid
    · cases hid
    · rename_i hm
      obtain ⟨j, raw, hj, hraw, -, hto⟩ := (every_request_replied hlife).2 4 reply he (by simpa using hm)
      exact ⟨x.2, hlife, 4, reply, he, hid, j, raw, hj, hraw, hto⟩
  | _ => cases hid

end Sample

end RiverGang
