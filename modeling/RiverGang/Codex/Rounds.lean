import RiverGang.Codex.Wire

/-!
# The loops that read frames

A loop of the client reads frames until one of them decides. What is left on the wire meanwhile are `Rounds`: each frame,
and what it brings about — the reply to a request, the event of a notification. A loop breaks off without a verdict where
a line is no frame, where the waiting is cut short, or where a reply is not accepted (`Break`).

* `awaitResponse_ensures`: rounds, then the response.
* `streamLoop_ensures`: rounds that let the turn go on, then the notification that decides.
-/

namespace RiverGang

open Py Coop Task

def WireEntry.line? : WireEntry → Option LineRead
  | .read line => some line
  | _ => none

/-- The lines that were read, in order. -/
def linesRead (log : List WireEntry) : List LineRead := log.filterMap WireEntry.line?

@[simp] theorem linesRead_append (l l' : List WireEntry) : linesRead (l ++ l') = linesRead l ++ linesRead l' :=
  List.filterMap_append

/-- The entry of a frame that was read. -/
abbrev WireEntry.frame (raw : Payload) : WireEntry := .read (.value (.obj raw))

@[simp] theorem linesRead_nil : linesRead [] = [] := rfl

@[simp] theorem linesRead_read (line : LineRead) (l : List WireEntry) : linesRead (.read line :: l) = line :: linesRead l :=
  rfl

@[simp] theorem linesRead_wrote (frame : Payload) (l : List WireEntry) : linesRead (.wrote frame :: l) = linesRead l := rfl

/-- The three loops that read frames. -/
inductive ReadLoop
  | handshake
  | ack
  | streaming
  deriving DecidableEq

def ReadLoop.usage : ReadLoop → Str → Payload → Option Payload
  | .streaming, method, payload => (extractCumulativeTokens method payload).map TokenSnapshot.asdict
  | _, _, _ => none

section

variable [Builtins]

/-- What a notification leaves besides itself. -/
def ReadLoop.heard (φ : ReadLoop) (p : ClientParams) (method : Str) (raw : Payload) (seg : List WireEntry) : Prop :=
  if φ = .handshake then seg = []
  else ∃ now, seg = [.event ⟨method, now, p.codexAppServerPid, notificationPayload raw,
    φ.usage method (notificationPayload raw)⟩]

/-- A frame that leaves its loop going, with what it brings about. -/
inductive Round (p : ClientParams) (φ : ReadLoop) : Payload → List WireEntry → Prop
  | request {raw : Payload} {method : Str} {seg : List WireEntry} :
      frameShape raw = .request method → Replied p raw seg → Round p φ raw (.frame raw :: seg)
  | notification {raw : Payload} {method : Str} {seg : List WireEntry} :
      frameShape raw = .notification method → φ.heard p method raw seg → Round p φ raw (.frame raw :: seg)
  | stray {raw : Payload} : φ = .streaming → frameShape raw = .other → Round p φ raw [.frame raw]

/-- A round reads one line. -/
theorem Round.linesRead {p : ClientParams} {φ : ReadLoop} {raw : Payload} {r : List WireEntry} (h : Round p φ raw r) :
    RiverGang.linesRead r = [.value (.obj raw)] := by
  cases h with
  | request _ hrep =>
    rcases hrep with ⟨-, rfl⟩ | ⟨reply, rfl, -⟩ <;> rfl
  | notification _ hheard =>
    unfold ReadLoop.heard at hheard
    split at hheard
    · rw [hheard]
      rfl
    · obtain ⟨now, rfl⟩ := hheard
      rfl
  | stray => rfl

/-- Rounds of a loop, all with a frame that lets it go on. -/
inductive Rounds (p : ClientParams) (φ : ReadLoop) (goesOn : Payload → Prop) : List WireEntry → Prop
  | nil : Rounds p φ goesOn []
  | snoc {raw : Payload} {q r : List WireEntry} :
      Rounds p φ goesOn q → goesOn raw → Round p φ raw r → Rounds p φ goesOn (q ++ r)

end

/-- How a round breaks off. -/
inductive Break (W : Wire) (p : ClientParams) (s : Client) : List WireEntry → Failure → Prop
  | cut {f : Failure} : W.cutReading s f → Break W p s [] f
  | line {line : LineRead} {f : Failure} : frameOf p line = .error f → Break W p s [.read line] f
  | request {raw : Payload} {method : Str} {seg : List WireEntry} {f : Failure} :
      frameShape raw = .request method → Unreplied p raw seg → W.Stops s f → Break W p s (.frame raw :: seg) f

theorem frameShape_request {raw : Payload} {method : Str} (h : frameShape raw = .request method) :
    method? raw = some method := by
  unfold frameShape at h
  cases hm : method? raw with
  | none => simp [hm] at h
  | some m =>
    simp only [hm] at h
    split at h <;> cases h
    rfl

theorem frameShape_notification {raw : Payload} {method : Str} (h : frameShape raw = .notification method) :
    method? raw = some method := by
  unfold frameShape at h
  cases hm : method? raw with
  | none => simp [hm] at h
  | some m =>
    simp only [hm] at h
    split at h <;> cases h
    rfl

section

variable [Builtins] {W : Wire} {s : Client} {p : ClientParams}

/-- What the rounds of all loops share: a frame is read, and a request of the server is dispatched. -/
theorem round_ensures {α : Type} {onNotification : Str → Payload → Codex (Option α)}
    {onOther : Payload → Codex (Option α)} {Q : Option α → Client → Prop} {X : Failure → Client → Prop}
    (hrequest : ∀ raw method seg s', frameShape raw = .request method → After W s (.frame raw :: seg) s' →
      Replied p raw seg → Q none s')
    (hbreak : ∀ seg f s', After W s seg s' → Break W p s' seg f → X f s')
    (hnotification : ∀ raw method s', frameShape raw = .notification method → After W s [.frame raw] s' →
      Ensures W Q X (onNotification method raw s'))
    (hother : ∀ raw s', frameShape raw = .other → After W s [.frame raw] s' → Ensures W Q X (onOther raw s')) :
    Ensures W Q X ((do
      let raw ← readFrame p
      match frameShape raw with
      | .request method =>
        dispatchServerRequest p raw method
        pure none
      | .notification method => onNotification method raw
      | .other => onOther raw : Codex (Option α)) s) := by
  refine Ensures.bind readFrame_ensures (fun raw s' hs => ?_) fun f s' hx => ?_
  · cases hshape : frameShape raw with
    | request method =>
      refine Ensures.bind (dispatchServerRequest_ensures (frameShape_request hshape)) (fun _ s'' hd => ?_)
        fun f s'' hd => ?_
      · obtain ⟨seg, hseg, hrep⟩ := hd
        exact hrequest raw method seg s'' hshape (hs.trans hseg) hrep
      · obtain ⟨hstop, seg, hseg, hrep⟩ := hd
        exact hbreak _ f s'' (hs.trans hseg) (.request hshape hrep hstop)
    | notification method => exact hnotification raw method s' hshape hs
    | other => exact hother raw s' hshape hs
  · rcases hx with ⟨hs, hcut⟩ | ⟨line, hs, hline⟩
    · exact hbreak _ f s' hs (.cut hcut)
    · exact hbreak _ f s' hs (.line hline)

/-! ## Waiting for a response -/

theorem awaitRound_ensures {expectedId : Int} {φ : ReadLoop} (hφ : φ ≠ .streaming) :
    Ensures W
      (fun o s' => ∃ raw seg, After W s seg s' ∧ o.elim (Round p φ raw seg) fun response =>
        seg = [.frame raw] ∧ frameShape raw = .other ∧ parseResponse raw expectedId = .ok response)
      (fun f s' => ∃ seg, After W s seg s' ∧ (Break W p s' seg f ∨
        ∃ raw, seg = [.frame raw] ∧ frameShape raw = .other ∧ parseResponse raw expectedId = .error f))
      (awaitRound p expectedId (φ = .ack) s) := by
  refine round_ensures (fun raw method seg s' hshape hs hrep => ⟨raw, _, hs, .request hshape hrep⟩)
    (fun seg f s' hs hb => ⟨seg, hs, .inl hb⟩) (fun raw method s' hshape hs => ?_) fun raw s' hshape hs => ?_
  · cases φ with
    | handshake => exact ⟨raw, _, hs, .notification hshape rfl⟩
    | ack => exact ⟨raw, _, hs.add _, .notification hshape ⟨s'.now, rfl⟩⟩
    | streaming => exact absurd rfl hφ
  · refine Ensures.bind (Q := fun response s'' => After W s [.frame raw] s'' ∧ parseResponse raw expectedId = .ok response)
      (ofExcept_ensures (fun response h => ⟨hs, h⟩) fun f h => ⟨_, hs, .inr ⟨raw, rfl, hshape, h⟩⟩)
      (fun response s'' h => ⟨raw, _, h.1, rfl, hshape, h.2⟩) fun _ _ => id

/-- The fuel that a loop has left pays for the lines that are still to be read. -/
def Paid (fuel n : Nat) (q : List WireEntry) : Prop := fuel ≤ n + (linesRead q).length

theorem Paid.spend {fuel n : Nat} {q r : List WireEntry} {raw : Payload} {φ : ReadLoop} (h : Paid fuel (n + 1) q)
    (hr : Round p φ raw r) : Paid fuel n (q ++ r) := by
  unfold Paid at *
  rw [linesRead_append, hr.linesRead, List.length_append, List.length_singleton]
  omega

/-- How a loop ends without a verdict. -/
def BrokenOff (W : Wire) (p : ClientParams) (fuel : Nat) (q : List WireEntry) (s : Client) (seg : List WireEntry)
    (f : Failure) : Prop :=
  Break W p s seg f ∨ (seg = [] ∧ f = .outOfFuel ∧ fuel ≤ (linesRead q).length)

theorem awaitResponse_ensures {fuel : Nat} {expectedId : Int} {φ : ReadLoop} (hφ : φ ≠ .streaming) :
    Ensures W
      (fun response s' => ∃ q raw, After W s (q ++ [.frame raw]) s' ∧ Rounds p φ (fun _ => True) q ∧
        frameShape raw = .other ∧ parseResponse raw expectedId = .ok response)
      (fun f s' => ∃ q seg, After W s (q ++ seg) s' ∧ Rounds p φ (fun _ => True) q ∧ (BrokenOff W p fuel q s' seg f ∨
        ∃ raw, seg = [.frame raw] ∧ frameShape raw = .other ∧ parseResponse raw expectedId = .error f))
      (awaitResponse p fuel expectedId (φ = .ack) s) := by
  refine Res.Sat.loop (J := fun n s' => ∃ q, After W s q s' ∧ Rounds p φ (fun _ => True) q ∧ Paid fuel n q)
    (fun n s' hs => ?_) (fun s' hs => ?_) fuel ⟨[], .refl s, .nil, Nat.le_add_right _ _⟩
  · obtain ⟨q, hq, hrounds, hpaid⟩ := hs
    refine (awaitRound_ensures hφ).mono (fun o s'' ho => ?_) fun f s'' hx => ?_
    · obtain ⟨raw, seg, hseg, ho⟩ := ho
      cases o with
      | none => exact ⟨q ++ seg, hq.trans hseg, hrounds.snoc trivial ho, hpaid.spend ho⟩
      | some response =>
        obtain ⟨rfl, hshape, hparse⟩ := ho
        exact ⟨q, raw, hq.trans hseg, hrounds, hshape, hparse⟩
    · obtain ⟨seg, hseg, hx⟩ := hx
      exact ⟨q, seg, hq.trans hseg, hrounds, hx.imp .inl id⟩
  · obtain ⟨q, hq, hrounds, hpaid⟩ := hs
    exact ⟨q, [], by simpa using hq, hrounds, .inl (.inr ⟨rfl, rfl, by simpa [Paid] using hpaid⟩)⟩

/-! ## Streaming -/

/-- What a frame makes of the turn: only notifications decide. -/
def frameVerdict (turnId : Str) (raw : Payload) : Except Failure (Option TurnResult) :=
  match frameShape raw with
  | .notification method => notificationVerdict turnId method (notificationPayload raw)
  | _ => .ok none

/-- It lets the turn go on. -/
def Undecided (turnId : Str) (raw : Payload) : Prop := frameVerdict turnId raw = .ok none

theorem streamRound_ensures {turnId : Str} :
    Ensures W
      (fun o s' => ∃ raw seg, After W s seg s' ∧ Round p .streaming raw seg ∧ frameVerdict turnId raw = .ok o)
      (fun f s' => ∃ seg, After W s seg s' ∧ (Break W p s' seg f ∨
        ∃ raw, Round p .streaming raw seg ∧ frameVerdict turnId raw = .error f))
      (streamRound p turnId s) := by
  refine round_ensures (fun raw method seg s' hshape hs hrep => ⟨raw, _, hs, .request hshape hrep, ?_⟩)
    (fun seg f s' hs hb => ⟨seg, hs, .inl hb⟩) (fun raw method s' hshape hs => ?_)
    fun raw s' hshape hs => ⟨raw, _, hs, .stray rfl hshape, ?_⟩
  · simp [frameVerdict, hshape]
  · have hround : Round p .streaming raw _ := .notification hshape ⟨s'.now, rfl⟩
    have hverdict : frameVerdict turnId raw = notificationVerdict turnId method (notificationPayload raw) := by
      simp [frameVerdict, hshape]
    refine ofExcept_ensures (fun o ho => ⟨raw, _, hs.add _, hround, hverdict.trans ho⟩)
      fun f hf => ⟨_, hs.add _, .inr ⟨raw, hround, hverdict.trans hf⟩⟩
  · simp [frameVerdict, hshape]

theorem streamLoop_ensures {fuel : Nat} {turnId : Str} :
    Ensures W
      (fun r s' => ∃ q raw seg, After W s (q ++ seg) s' ∧ Rounds p .streaming (Undecided turnId) q ∧
        Round p .streaming raw seg ∧ frameVerdict turnId raw = .ok (some r))
      (fun f s' => ∃ q seg, After W s (q ++ seg) s' ∧ Rounds p .streaming (Undecided turnId) q ∧
        (BrokenOff W p fuel q s' seg f ∨ ∃ raw, Round p .streaming raw seg ∧ frameVerdict turnId raw = .error f))
      (loop .outOfFuel (streamRound p turnId) fuel s) := by
  refine Res.Sat.loop (J := fun n s' => ∃ q, After W s q s' ∧ Rounds p .streaming (Undecided turnId) q ∧ Paid fuel n q)
    (fun n s' hs => ?_) (fun s' hs => ?_) fuel ⟨[], .refl s, .nil, Nat.le_add_right _ _⟩
  · obtain ⟨q, hq, hrounds, hpaid⟩ := hs
    refine streamRound_ensures.mono (fun o s'' ho => ?_) fun f s'' hx => ?_
    · obtain ⟨raw, seg, hseg, hround, hverdict⟩ := ho
      cases o with
      | none => exact ⟨q ++ seg, hq.trans hseg, hrounds.snoc hverdict hround, hpaid.spend hround⟩
      | some r => exact ⟨q, raw, seg, hq.trans hseg, hrounds, hround, hverdict⟩
    · obtain ⟨seg, hseg, hx⟩ := hx
      exact ⟨q, seg, hq.trans hseg, hrounds, hx.imp .inl id⟩
  · obtain ⟨q, hq, hrounds, hpaid⟩ := hs
    exact ⟨q, [], by simpa using hq, hrounds, .inl (.inr ⟨rfl, rfl, by simpa [Paid] using hpaid⟩)⟩

end

/-! ## Reading a trace -/

/-- A frame of the client's own, no reply. -/
def WireEntry.own? : WireEntry → Option Payload
  | .wrote frame => if (Json.get? frame (py "method")).isSome then some frame else none
  | _ => none

/-- The frames that were written, but for the replies. -/
def ownWrites (log : List WireEntry) : List Payload := log.filterMap WireEntry.own?

/-- The id of a request. -/
def requestNumber (frame : Payload) : Option Int := (Json.get? frame (py "id")).bind Json.int?

/-- The ids of the requests that were written. -/
def requestIds (log : List WireEntry) : List Int := (ownWrites log).filterMap requestNumber

/-- Every entry meets `P` after the entries before it. -/
def Throughout (P : List WireEntry → WireEntry → Prop) (log : List WireEntry) : Prop :=
  ∀ before e after, log = before ++ e :: after → P before e

@[simp] theorem ownWrites_append (l l' : List WireEntry) : ownWrites (l ++ l') = ownWrites l ++ ownWrites l' :=
  List.filterMap_append

theorem Throughout.append {P : List WireEntry → WireEntry → Prop} {l l' : List WireEntry} (h : Throughout P l)
    (h' : Throughout (fun before => P (l ++ before)) l') : Throughout P (l ++ l') := by
  intro before e after hsplit
  rcases List.append_eq_append_iff.1 hsplit with ⟨mid, rfl, hl'⟩ | ⟨mid, hl, htail⟩
  · exact h' mid e after hl'
  · cases mid with
    | nil =>
      have := h' [] e after (by simpa using htail.symm)
      simpa [hl] using this
    | cons e' mid =>
      cases htail
      exact h before e mid hl

theorem Throughout.of_forall {P : List WireEntry → WireEntry → Prop} {l : List WireEntry}
    (h : ∀ e ∈ l, ∀ before, P before e) : Throughout P l :=
  fun before e after hsplit => h e (by simp [hsplit]) before

theorem ownWrites_eq_nil {l : List WireEntry} (h : ∀ e ∈ l, e.own? = none) : ownWrites l = [] :=
  List.filterMap_eq_nil_iff.2 h

/-- A reply is not of the client's own. -/
theorem Unreplied.own {p : ClientParams} {request : Payload} {seg : List WireEntry} (h : Unreplied p request seg) :
    ∀ e ∈ seg, e.own? = none := by
  rcases h with rfl | ⟨-, rfl⟩ | ⟨reply, rfl, hr⟩
  · simp
  · simp
  · simp [WireEntry.own?, hr.method]

section

variable [Builtins] {p : ClientParams} {φ : ReadLoop}

theorem Round.own {raw : Payload} {r : List WireEntry} (h : Round p φ raw r) : ∀ e ∈ r, e.own? = none := by
  cases h with
  | request _ hrep => simpa [WireEntry.own?] using Unreplied.own (.inr hrep)
  | notification _ hheard =>
    unfold ReadLoop.heard at hheard
    split at hheard
    · simp [hheard, WireEntry.own?]
    · obtain ⟨now, rfl⟩ := hheard
      simp [WireEntry.own?]
  | stray => simp [WireEntry.own?]

theorem Rounds.own {goesOn : Payload → Prop} {q : List WireEntry} (h : Rounds p φ goesOn q) :
    ∀ e ∈ q, e.own? = none := by
  induction h with
  | nil => simp
  | snoc _ _ hr ih =>
    intro e he
    rcases List.mem_append.1 he with he | he
    · exact ih e he
    · exact hr.own e he

end

/-! ## A subprocess to talk to -/

section Sample

def sampleClientParams : ClientParams := ⟨42, py "never", true, [], py "1.0", 10485760⟩

def sampleClient : Client := .new 63000000000000000

/-- The subprocess that sends some frames, and then nothing before the deadline. -/
def sends (frames : List Payload) (s : Client) : (r : CodexReq) → CodexSig.Ans r
  | .receive =>
    match frames[(linesRead s.log).length]? with
    | some frame => .ok (.value (.obj frame))
    | none => .error .expired
  | .drain => .ok ()
  | .execute .. => .error (.raised ⟨.other, py "tool"⟩)
  | .handle .. => .error (.raised ⟨.other, py "handler"⟩)
  | .settle => .ok ()

/-- `sends` is one of the ways that all of the protocols allow for. -/
theorem runs_sends {W : Wire} {α : Type} (frames : List Payload) (hline : ∀ s line, W.line s line)
    (hcut : ∀ s, W.cutReading s .expired) (t : Res CodexSig Failure Client α) :
    Runs W.proto t (t.execWith (sends frames)).1 (t.execWith (sends frames)).2 := by
  refine runs_execWith W.proto_refl (fun s r => ?_) t
  cases r with
  | receive =>
    cases hf : frames[(linesRead s.log).length]? with
    | some frame => simpa [sends, hf, Wire.proto] using hline s _
    | none => simpa [sends, hf, Wire.proto] using hcut s
  | drain => trivial
  | execute => exact .inl rfl
  | handle => exact .inl rfl
  | settle => trivial

def sampleResponse (id : Int) (result : Payload) : Payload := [(py "id", .int id), (py "result", .obj result)]

def sampleTurn (kind id : String) (status : String) : Payload :=
  [(py kind, .obj [(py "id", .str (py id)), (py "status", .str (py status))])]

/-- The responses of a handshake. -/
def sampleHandshake : List Payload :=
  [sampleResponse 1 [], sampleResponse 2 (sampleTurn "thread" "th" "idle"),
    sampleResponse 3 (sampleTurn "turn" "t1" "inProgress")]

def sampleSessionArgs : SessionArgs := ⟨py "/tmp/ws/a", py "do it", py "never", py "workspace-write", 5000⟩

end Sample

end RiverGang
