import RiverGang.Codex.Turn

/-!
# Where the ack stands among the notifications

A subprocess sends a list of notifications with the ack of the turn somewhere between them, and then nothing more. What
the turn hands on and comes to is a function of the list and the place of the ack (`turnWithAckAt`), and the code
computes it (`streamTurn_scripted`).

Two places make no difference exactly when every notification between them lets the turn go on and says nothing of usage
(`ack_position`): the loop that waits for the ack looks for neither. `ack_position_matters` is a completion that comes
before the ack.
-/

namespace RiverGang

open Py Coop Task

/-- What is handed to `on_event`, but for the time. -/
structure Delivered where
  event : Str
  payload : Payload
  usage : Option Payload

def WireEntry.delivered? : WireEntry → Option Delivered
  | .event e => some ⟨e.event, e.payload, e.usage⟩
  | _ => none

def delivered (log : List WireEntry) : List Delivered := log.filterMap WireEntry.delivered?

@[simp] theorem delivered_append (l l' : List WireEntry) : delivered (l ++ l') = delivered l ++ delivered l' :=
  List.filterMap_append

@[simp] theorem delivered_nil : delivered [] = [] := rfl

@[simp] theorem delivered_frame (raw : Payload) (l : List WireEntry) : delivered (.frame raw :: l) = delivered l := rfl

@[simp] theorem delivered_wrote (frame : Payload) (l : List WireEntry) : delivered (.wrote frame :: l) = delivered l := rfl

@[simp] theorem delivered_event (e : RuntimeEvent) (l : List WireEntry) :
    delivered (.event e :: l) = ⟨e.event, e.payload, e.usage⟩ :: delivered l := rfl

def IsNotification (raw : Payload) : Prop := ∃ method, frameShape raw = .notification method

/-! ## The subprocess -/

/-- A subprocess that sends the frames of a script from the `n`-th line on, and nothing after them before the deadline;
it takes whatever is written. -/
def scripted (script : List Payload) (n : Nat) : Wire where
  line s line := ∃ raw, script[(linesRead s.log).length - n]? = some raw ∧ line = .value (.obj raw)
  cutReading s f := script.length ≤ (linesRead s.log).length - n ∧ f = .expired
  cutServing _ _ := False
  breaks := False

/-- The frames of the script that are still to come. -/
def Waiting (script : List Payload) (n : Nat) (rest : List Payload) (s : Client) : Prop :=
  ∃ before, script = before ++ rest ∧ (linesRead s.log).length = n + before.length

section Reading

variable {p : ClientParams} {script rest : List Payload} {n : Nat} {s : Client} {raw : Payload}

theorem readFrame_scripted (h : Waiting script n (raw :: rest) s) :
    Ensures (scripted script n) (fun raw' s' => raw' = raw ∧ After (scripted script n) s [.frame raw] s')
      (fun _ _ => False) (readFrame p s) := by
  obtain ⟨before, hscript, hread⟩ := h
  refine ⟨trivial, ?_⟩
  intro s' x hr ha
  have hlog : s'.log = s.log := hr.1.log
  cases x with
  | error f =>
    have hover : script.length ≤ (linesRead s'.log).length - n := ha.1
    rw [hlog, hread, hscript, List.length_append, List.length_cons] at hover
    omega
  | ok line =>
    obtain ⟨raw', hget, rfl⟩ := ha
    rw [hlog, hread, Nat.add_sub_cancel_left, hscript, List.getElem?_append_right (Nat.le_refl _), Nat.sub_self] at hget
    cases hget
    exact ⟨rfl, (After.of_rely hr).add _⟩

theorem readFrame_silent (h : Waiting script n [] s) :
    Ensures (scripted script n) (fun _ _ => False) (fun f s' => f = .expired ∧ After (scripted script n) s [] s')
      (readFrame p s) := by
  obtain ⟨before, hscript, hread⟩ := h
  refine ⟨trivial, ?_⟩
  intro s' x hr ha
  have hlog : s'.log = s.log := hr.1.log
  cases x with
  | error f => exact ⟨ha.2, .of_rely hr⟩
  | ok line =>
    obtain ⟨raw', hget, -⟩ := ha
    have hlt := (List.getElem?_eq_some_iff.1 hget).1
    rw [hlog, hread, Nat.add_sub_cancel_left, hscript, List.append_nil] at hlt
    exact absurd hlt (Nat.lt_irrefl _)

/-- A frame of the script has been read. -/
theorem Waiting.next {seg : List WireEntry} {s' : Client} (h : Waiting script n (raw :: rest) s)
    (hs : After (scripted script n) s seg s') (hseg : linesRead seg = [.value (.obj raw)]) : Waiting script n rest s' := by
  obtain ⟨before, hscript, hread⟩ := h
  refine ⟨before ++ [raw], by simp [hscript], ?_⟩
  rw [hs.log, linesRead_append, hseg, List.length_append, List.length_append, hread]
  simp only [List.length_singleton]
  omega

end Reading

/-! ## What the turn makes of the list -/

section

variable [Builtins]

/-- A notification as a loop hands it on. -/
def ReadLoop.deliver (φ : ReadLoop) (raw : Payload) : Delivered :=
  ⟨(method? raw).getD [], notificationPayload raw, φ.usage ((method? raw).getD []) (notificationPayload raw)⟩

/-- The notifications after the ack, up to the one that decides; without one the turn waits until it is cut short. -/
def follow (turnId : Str) : List Payload → List Delivered × Except Failure TurnResult
  | [] => ([], .error .expired)
  | raw :: ns =>
    match frameVerdict turnId raw with
    | .ok none => (ReadLoop.streaming.deliver raw :: (follow turnId ns).1, (follow turnId ns).2)
    | .ok (some r) => ([ReadLoop.streaming.deliver raw], .ok r)
    | .error f => ([ReadLoop.streaming.deliver raw], .error f)

/-- The end of the time is a `TurnTimeout`. -/
def settle (msg : Str) : Except Failure TurnResult → Except Failure TurnResult
  | .error .expired => .error (.codex .turnTimeout msg)
  | o => o

/-- A turn whose ack comes after the first `i` notifications. -/
def turnWithAckAt (msg turnId : Str) (ns : List Payload) (i : Nat) : List Delivered × Except Failure TurnResult :=
  ((ns.take i).map ReadLoop.ack.deliver ++ (follow turnId (ns.drop i)).1, settle msg (follow turnId (ns.drop i)).2)

/-- A notification that lets the turn go on and says nothing of usage. -/
def Plain (turnId : Str) (raw : Payload) : Prop :=
  Undecided turnId raw ∧ (ReadLoop.streaming.deliver raw).usage = none

variable {turnId msg : Str} {ns : List Payload}

theorem deliver_eq_iff (raw : Payload) :
    ReadLoop.streaming.deliver raw = ReadLoop.ack.deliver raw ↔ (ReadLoop.streaming.deliver raw).usage = none := by
  simp [ReadLoop.deliver, ReadLoop.usage]

/-- No verdict is a timeout. -/
theorem settle_verdict {raw : Payload} {o : Except Failure TurnResult} (h : frameVerdict turnId raw = o.map some) :
    settle msg o ≠ .error (.codex .turnTimeout msg) := by
  cases o with
  | ok r => simp [settle]
  | error f =>
    obtain ⟨msg', hf | hf⟩ := frameVerdict_error h
    · simp [settle, hf]
    · simp [settle, hf]

/-- Only where there is nothing to follow is nothing delivered. -/
theorem follow_nil {rest : List Payload} (h : (follow turnId rest).1 = []) : rest = [] := by
  cases rest with
  | nil => rfl
  | cons raw rest =>
    simp only [follow] at h
    split at h <;> cases h

/-- What is between the two places is delivered early, or it is not. -/
def SameAfter (msg turnId : Str) (m rest : List Payload) : Prop :=
  (follow turnId (m ++ rest)).1 = m.map ReadLoop.ack.deliver ++ (follow turnId rest).1 ∧
    settle msg (follow turnId (m ++ rest)).2 = settle msg (follow turnId rest).2

/-- A notification that decides leaves nothing for the others to deliver. -/
theorem not_sameAfter_of_decided {raw : Payload} {m rest : List Payload} {o : Except Failure TurnResult}
    (hv : frameVerdict turnId raw = o.map some)
    (hf : follow turnId (raw :: m ++ rest) = ([ReadLoop.streaming.deliver raw], o)) :
    ¬SameAfter msg turnId (raw :: m) rest := by
  unfold SameAfter
  rw [hf]
  intro ⟨hevents, hsettled⟩
  have hnil : (follow turnId rest).1 = [] := by
    simp only [List.map_cons, List.cons_append, List.cons.injEq] at hevents
    exact (List.append_eq_nil_iff.1 hevents.2.symm).2
  rw [follow_nil hnil] at hsettled
  exact settle_verdict hv hsettled

/-- Notifications come before the ack instead of after it, and nothing changes: they are plain. -/
theorem sameAfter_iff (msg : Str) (m rest : List Payload) : SameAfter msg turnId m rest ↔ ∀ raw ∈ m, Plain turnId raw := by
  induction m with
  | nil => simp [SameAfter]
  | cons raw m ih =>
    cases hv : frameVerdict turnId raw with
    | error f =>
      have hnot : ¬SameAfter msg turnId (raw :: m) rest := by
        apply not_sameAfter_of_decided (o := .error f) hv
        simp [follow, hv]
      simp [hnot, Plain, Undecided, hv]
    | ok r =>
      cases r with
      | some r =>
        have hnot : ¬SameAfter msg turnId (raw :: m) rest := by
          apply not_sameAfter_of_decided (o := .ok r) hv
          simp [follow, hv]
        simp [hnot, Plain, Undecided, hv]
      | none =>
        have hstep : SameAfter msg turnId (raw :: m) rest ↔
            ReadLoop.streaming.deliver raw = ReadLoop.ack.deliver raw ∧ SameAfter msg turnId m rest := by
          simp [SameAfter, follow, hv, and_assoc]
        rw [hstep, ih, deliver_eq_iff]
        simp [Plain, Undecided, hv]

/-- Two places of the ack compared. -/
theorem turnWithAckAt_eq_iff (msg : Str) {i j : Nat} (hij : i ≤ j) :
    turnWithAckAt msg turnId ns i = turnWithAckAt msg turnId ns j ↔ ∀ raw ∈ (ns.take j).drop i, Plain turnId raw := by
  have htake : ns.take j = ns.take i ++ (ns.take j).drop i := by
    have hsplit := List.take_append_drop i (ns.take j)
    rw [List.take_take, Nat.min_eq_left hij] at hsplit
    exact hsplit.symm
  have hdrop : ns.drop i = (ns.take j).drop i ++ ns.drop j := by
    rw [List.drop_take]
    have hsplit := List.take_append_drop (j - i) (ns.drop i)
    rw [List.drop_drop, Nat.add_sub_cancel' hij] at hsplit
    exact hsplit.symm
  rw [← sameAfter_iff msg _ (ns.drop j), SameAfter, ← hdrop]
  unfold turnWithAckAt
  generalize (ns.take j).drop i = m at htake
  rw [Prod.mk.injEq, htake]
  simp

/-! ## What the code makes of it -/

variable {p : ClientParams} {script rest : List Payload} {n : Nat} {s : Client} {raw : Payload}

/-- A notification before the ack. -/
theorem awaitRound_scripted {expectedId : Int} (hraw : IsNotification raw) (h : Waiting script n (raw :: rest) s) :
    Ensures (scripted script n)
      (fun o s' => o = none ∧ Waiting script n rest s' ∧
        ∃ seg, After (scripted script n) s seg s' ∧ delivered seg = [ReadLoop.ack.deliver raw])
      (fun _ _ => False) (awaitRound p expectedId true s) := by
  obtain ⟨method, hshape⟩ := hraw
  unfold awaitRound
  refine Ensures.bind (readFrame_scripted h) ?_ (fun _ _ h => h)
  intro raw' s' ⟨hraw', hs⟩
  subst hraw'
  simp only [hshape]
  have hafter := hs.add (.event ⟨method, s'.now, p.codexAppServerPid, notificationPayload raw', none⟩)
  refine ⟨rfl, h.next hafter rfl, _, hafter, ?_⟩
  simp [ReadLoop.deliver, ReadLoop.usage, frameShape_notification hshape]

/-- The notifications before the ack, and the ack. -/
theorem awaitResponse_scripted {expectedId : Int} {ack : Payload} {response : JsonRpcResponse}
    (hack : frameShape ack = .other) (hparse : parseResponse ack expectedId = .ok response) {before : List Payload} :
    ∀ {fuel : Nat} {s : Client}, (∀ raw ∈ before, IsNotification raw) → before.length < fuel →
      Waiting script n (before ++ ack :: rest) s →
      Ensures (scripted script n)
        (fun r s' => r = response ∧ Waiting script n rest s' ∧
          ∃ seg, After (scripted script n) s seg s' ∧ delivered seg = before.map ReadLoop.ack.deliver)
        (fun _ _ => False) (awaitResponse p fuel expectedId true s) := by
  induction before with
  | nil =>
    intro fuel s _ hfuel h
    obtain ⟨fuel, rfl⟩ := Nat.exists_eq_succ_of_ne_zero (Nat.ne_of_gt hfuel)
    refine Ensures.bind (Q := fun o s' => o = some response ∧ After (scripted script n) s [.frame ack] s') ?_ ?_
      (fun _ _ h => h)
    · refine Ensures.bind (readFrame_scripted h) ?_ (fun _ _ h => h)
      intro raw s' ⟨hraw, hs⟩
      subst hraw
      simp only [hack]
      refine Ensures.bind (ofExcept_ensures (Q := fun r s'' => r = response ∧ s'' = s') ?_ ?_) ?_ (fun _ _ h => h)
      · intro r hr
        rw [hparse] at hr
        cases hr
        exact ⟨rfl, rfl⟩
      · intro f hf
        rw [hparse] at hf
        cases hf
      · intro r s'' ⟨hr, hs''⟩
        subst hr hs''
        exact ⟨rfl, hs⟩
    · intro o s' ⟨ho, hs⟩
      subst ho
      exact ⟨rfl, h.next hs rfl, _, hs, rfl⟩
  | cons raw before ih =>
    intro fuel s hns hfuel h
    obtain ⟨fuel, rfl⟩ := Nat.exists_eq_succ_of_ne_zero (Nat.ne_of_gt (Nat.lt_of_le_of_lt (Nat.zero_le _) hfuel))
    refine Ensures.bind (awaitRound_scripted (hns raw List.mem_cons_self) h) ?_ (fun _ _ h => h)
    intro o s' ⟨ho, hw, seg, hs, hd⟩
    subst ho
    have hrest : ∀ raw ∈ before, IsNotification raw := fun raw hraw => hns raw (List.mem_cons_of_mem _ hraw)
    refine (ih hrest (by simpa using hfuel) hw).mono ?_ (fun _ _ h => h)
    intro r s'' ⟨hr, hw', seg', hs', hd'⟩
    exact ⟨hr, hw', seg ++ seg', hs.trans hs', by simp [hd, hd']⟩

/-- A notification after the ack. -/
theorem streamRound_scripted {turnId : Str} (hraw : IsNotification raw) (h : Waiting script n (raw :: rest) s) :
    Ensures (scripted script n)
      (fun o s' => frameVerdict turnId raw = .ok o ∧ Waiting script n rest s' ∧
        ∃ seg, After (scripted script n) s seg s' ∧ delivered seg = [ReadLoop.streaming.deliver raw])
      (fun f s' => frameVerdict turnId raw = .error f ∧
        ∃ seg, After (scripted script n) s seg s' ∧ delivered seg = [ReadLoop.streaming.deliver raw])
      (streamRound p turnId s) := by
  obtain ⟨method, hshape⟩ := hraw
  unfold streamRound
  refine Ensures.bind (readFrame_scripted h) ?_ (fun _ _ h => h.elim)
  intro raw' s' ⟨hraw', hs⟩
  subst hraw'
  simp only [hshape]
  have hafter := hs.add (.event ⟨method, s'.now, p.codexAppServerPid, notificationPayload raw',
    ReadLoop.streaming.usage method (notificationPayload raw')⟩)
  have hverdict : frameVerdict turnId raw' = notificationVerdict turnId method (notificationPayload raw') := by
    simp [frameVerdict, hshape]
  have hdelivered : delivered ([WireEntry.frame raw'] ++ [.event ⟨method, s'.now, p.codexAppServerPid,
      notificationPayload raw', ReadLoop.streaming.usage method (notificationPayload raw')⟩]) =
      [ReadLoop.streaming.deliver raw'] := by
    simp [ReadLoop.deliver, frameShape_notification hshape]
  apply ofExcept_ensures
  · intro o ho
    exact ⟨hverdict.trans ho, h.next hafter rfl, _, hafter, hdelivered⟩
  · intro f hf
    exact ⟨hverdict.trans hf, _, hafter, hdelivered⟩

/-- The notifications after the ack. -/
theorem streamLoop_scripted {turnId : Str} {after : List Payload} :
    ∀ {fuel : Nat} {s : Client}, (∀ raw ∈ after, IsNotification raw) → after.length < fuel → Waiting script n after s →
      Ensures (scripted script n)
        (fun r s' => ∃ seg, After (scripted script n) s seg s' ∧ follow turnId after = (delivered seg, .ok r))
        (fun f s' => ∃ seg, After (scripted script n) s seg s' ∧ follow turnId after = (delivered seg, .error f))
        (loop .outOfFuel (streamRound p turnId) fuel s) := by
  induction after with
  | nil =>
    intro fuel s _ hfuel h
    obtain ⟨fuel, rfl⟩ := Nat.exists_eq_succ_of_ne_zero (Nat.ne_of_gt hfuel)
    have hsilent : Ensures (scripted script n) (fun (_ : Option TurnResult) _ => False)
        (fun f s' => f = .expired ∧ After (scripted script n) s [] s') (streamRound p turnId s) :=
      Ensures.bind (readFrame_silent h) (fun _ _ h => h.elim) (fun _ _ h => h)
    refine Ensures.bind hsilent (fun _ _ h => h.elim) ?_
    intro f s' ⟨hf, hs⟩
    subst hf
    exact ⟨[], hs, rfl⟩
  | cons raw after ih =>
    intro fuel s hns hfuel h
    obtain ⟨fuel, rfl⟩ := Nat.exists_eq_succ_of_ne_zero (Nat.ne_of_gt (Nat.lt_of_le_of_lt (Nat.zero_le _) hfuel))
    refine Ensures.bind (streamRound_scripted (hns raw List.mem_cons_self) h) ?_ ?_
    · intro o s' ⟨hv, hw, seg, hs, hd⟩
      cases o with
      | some r => exact ⟨seg, hs, by simp [follow, hv, hd]⟩
      | none =>
        have hrest : ∀ raw ∈ after, IsNotification raw := fun raw hraw => hns raw (List.mem_cons_of_mem _ hraw)
        refine (ih hrest (by simpa using hfuel) hw).mono ?_ ?_
        · intro r s'' ⟨seg', hs', hf⟩
          exact ⟨seg ++ seg', hs.trans hs', by simp [follow, hv, hf, hd]⟩
        · intro f s'' ⟨seg', hs', hf⟩
          exact ⟨seg ++ seg', hs.trans hs', by simp [follow, hv, hf, hd]⟩
    · intro f s' ⟨hv, seg, hs, hd⟩
      exact ⟨seg, hs, by simp [follow, hv, hd]⟩

/-- The message of the timeout. -/
def timeoutMessage (session : Session) (turnTimeoutMs : Int) : Str :=
  py "turn for session " ++ session.sessionId ++ py " did not complete within " ++ decimalInt turnTimeoutMs ++ py "ms"

variable {ns : List Payload} {ack : Payload} {turnId : Str} {i fuel : Nat} {session : Session} {prompt : Str}
  {turnTimeoutMs : Int} {isFirstTurn : Bool}

/-- The ack comes after the first `i` notifications. -/
def withAckAt (ns : List Payload) (ack : Payload) (i : Nat) : List Payload := ns.take i ++ ack :: ns.drop i

theorem runTurn_scripted (hns : ∀ raw ∈ ns, IsNotification raw) (hack : frameShape ack = .other)
    (hout : ackOutcome s.nextId ack = .ok (turnId, none)) (hopen : s.stdinOpen = true) (hfuel : ns.length < fuel)
    (hn : n = (linesRead s.log).length) :
    Ensures (scripted (withAckAt ns ack i) n)
      (fun r s' => ∃ seg, s'.log = s.log ++ seg ∧
        ((ns.take i).map ReadLoop.ack.deliver ++ (follow turnId (ns.drop i)).1, (follow turnId (ns.drop i)).2) =
          (delivered seg, .ok r))
      (fun f s' => ∃ seg, s'.log = s.log ++ seg ∧
        ((ns.take i).map ReadLoop.ack.deliver ++ (follow turnId (ns.drop i)).1, (follow turnId (ns.drop i)).2) =
          (delivered seg, .error f))
      (runTurn p fuel session prompt isFirstTurn s) := by
  obtain ⟨response, result, hparse, hresult, hturn, hverdict⟩ := ackOutcome_steps hout
  have htake : ∀ raw ∈ ns.take i, IsNotification raw := fun raw hraw => hns raw (List.mem_of_mem_take hraw)
  have hdrop : ∀ raw ∈ ns.drop i, IsNotification raw := fun raw hraw => hns raw (List.mem_of_mem_drop hraw)
  have htakeFuel : (ns.take i).length < fuel := by
    rw [List.length_take]
    omega
  have hdropFuel : (ns.drop i).length < fuel := by
    rw [List.length_drop]
    omega
  rw [runTurn_eq]
  refine Ensures.bind (writeFrame_open hopen) ?_ ?_
  · intro _ s₁ hwrote
    have hwaiting : Waiting (withAckAt ns ack i) n (withAckAt ns ack i) s₁ := by
      refine ⟨[], rfl, ?_⟩
      rw [hwrote.log, linesRead_append, hn]
      simp
    refine Ensures.bind (awaitResponse_scripted hack hparse htake htakeFuel hwaiting) ?_ (fun _ _ h => h.elim)
    intro response' s₂ ⟨hr, hw, seg₁, hs₁, hd₁⟩
    subst hr
    -- the ack is looked at without waiting
    simp only [bind_apply, hresult, hturn, hverdict, ofExcept_ok, Task.pure_apply, Res.bind_ret, followTurn]
    have hlog : ∀ {s₃ : Client} {seg₂ : List WireEntry}, After (scripted (withAckAt ns ack i) n) s₂ seg₂ s₃ →
        s₃.log = s.log ++ .wrote (buildTurnStartRequest s.nextId session.threadId prompt) :: (seg₁ ++ seg₂) := by
      intro s₃ seg₂ hs₂
      rw [hs₂.log, hs₁.log, hwrote.log]
      simp
    refine (streamLoop_scripted hdrop hdropFuel hw).mono ?_ ?_
    · intro r s₃ ⟨seg₂, hs₂, hf⟩
      exact ⟨_, hlog hs₂, by simp [hd₁, hf]⟩
    · intro f s₃ ⟨seg₂, hs₂, hf⟩
      exact ⟨_, hlog hs₂, by simp [hd₁, hf]⟩
  · intro f s₁ ⟨_, hstop, hwrote⟩
    rcases hstop with ⟨hbreaks | hclosed, _⟩ | hcut
    · exact hbreaks.elim
    · rw [hwrote.kept id] at hclosed
      simp [hopen] at hclosed
    · exact hcut.elim

/-- The code computes `turnWithAckAt`. -/
theorem streamTurn_scripted (hns : ∀ raw ∈ ns, IsNotification raw) (hack : frameShape ack = .other)
    (hout : ackOutcome s.nextId ack = .ok (turnId, none)) (hsend : CanSend s turnTimeoutMs) (hfuel : ns.length < fuel)
    {o : Except Failure TurnResult} {s' : Client}
    (h : Runs (scripted (withAckAt ns ack i) (linesRead s.log).length).proto
      (CodexClient.streamTurn p fuel session prompt turnTimeoutMs isFirstTurn s) o s') :
    ∃ seg, s'.log = s.log ++ seg ∧
    turnWithAckAt (timeoutMessage session turnTimeoutMs) turnId ns i = (delivered seg, o) := by
  obtain ⟨hfit, hpos, hopen⟩ := hsend
  have hturn : Ensures (scripted (withAckAt ns ack i) (linesRead s.log).length)
      (fun r s' => ∃ seg, s'.log = s.log ++ seg ∧
        turnWithAckAt (timeoutMessage session turnTimeoutMs) turnId ns i = (delivered seg, .ok r))
      (fun f s' => ∃ seg, s'.log = s.log ++ seg ∧
        turnWithAckAt (timeoutMessage session turnTimeoutMs) turnId ns i = (delivered seg, .error f))
      (CodexClient.streamTurn p fuel session prompt turnTimeoutMs isFirstTurn s) := by
    change Ensures _ _ _ (waitFor turnTimeoutMs (.codex .turnTimeout (timeoutMessage session turnTimeoutMs))
      (runTurn p fuel session prompt isFirstTurn) { s with turnTimeoutMs := some turnTimeoutMs })
    apply waitFor_ensures (X := fun f s' => ∃ seg, s'.log = s.log ++ seg ∧
      ((ns.take i).map ReadLoop.ack.deliver ++ (follow turnId (ns.drop i)).1, (follow turnId (ns.drop i)).2) =
        (delivered seg, .error f))
    · intro _ _
      refine (runTurn_scripted (s := { s with turnTimeoutMs := some turnTimeoutMs }) (i := i) hns hack hout hopen hfuel
        rfl).mono ?_ (fun _ _ h => h)
      intro r s' ⟨seg, hlog, heq⟩
      simp only [Prod.mk.injEq] at heq
      refine ⟨seg, hlog, ?_⟩
      rw [turnWithAckAt, heq.1, heq.2]
      rfl
    · intro hover
      exact absurd hfit hover
    · intro _ _ hnone
      omega
    · intro _ _ _ hnone
      omega
    · intro s' ⟨seg, hlog, heq⟩
      simp only [Prod.mk.injEq] at heq
      refine ⟨seg, hlog, ?_⟩
      rw [turnWithAckAt, heq.1, heq.2]
      rfl
    · intro f s' hf ⟨seg, hlog, heq⟩
      simp only [Prod.mk.injEq] at heq
      refine ⟨seg, hlog, ?_⟩
      have hkept : settle (timeoutMessage session turnTimeoutMs) (.error f) = .error f := by
        cases f <;> first | rfl | exact absurd rfl hf
      rw [turnWithAckAt, heq.1, heq.2, hkept]
  exact hturn.outcome (R := fun o s' => ∃ seg, s'.log = s.log ++ seg ∧
    turnWithAckAt (timeoutMessage session turnTimeoutMs) turnId ns i = (delivered seg, o)) h

/-- What a turn raises that does not get to send its request. -/
def unsentFailure (session : Session) (turnTimeoutMs : Int) : Failure :=
  if ¬FloatFits turnTimeoutMs then .raised ⟨.overflowError, py "int too large to convert to float"⟩
  else if turnTimeoutMs ≤ 0 then .codex .turnTimeout (timeoutMessage session turnTimeoutMs)
  else .codex .portExit (py "subprocess stdin is unavailable")

theorem streamTurn_unsent (hsend : ¬CanSend s turnTimeoutMs) {o : Except Failure TurnResult} {s' : Client}
    (h : Runs (scripted script n).proto
      (CodexClient.streamTurn p fuel session prompt turnTimeoutMs isFirstTurn s) o s') :
    o = .error (unsentFailure session turnTimeoutMs) ∧ s'.log = s.log := by
  have hturn : Ensures (scripted script n)
      (fun r s' => Except.ok r = .error (unsentFailure session turnTimeoutMs) ∧ s'.log = s.log)
      (fun f s' => (.error f : Except Failure TurnResult) = .error (unsentFailure session turnTimeoutMs) ∧
        s'.log = s.log)
      (CodexClient.streamTurn p fuel session prompt turnTimeoutMs isFirstTurn s) := by
    change Ensures _ _ _ (waitFor turnTimeoutMs (.codex .turnTimeout (timeoutMessage session turnTimeoutMs))
      (runTurn p fuel session prompt isFirstTurn) { s with turnTimeoutMs := some turnTimeoutMs })
    unfold waitFor unsentFailure
    by_cases hfit : FloatFits turnTimeoutMs
    · by_cases hnone : turnTimeoutMs ≤ 0
      · simp only [hfit, not_true_eq_false, if_false, hnone, if_true]
        refine ⟨trivial, ?_⟩
        intro s' x hr ha
        cases x with
        | ok u => exact ⟨rfl, hr.1.log⟩
        | error f => exact ha.1.elim
      · have hclosed : s.stdinOpen = false := by
          cases hopen : s.stdinOpen with
          | false => rfl
          | true => exact absurd ⟨hfit, Int.not_le.1 hnone, hopen⟩ hsend
        simp only [hfit, not_true_eq_false, if_false, hnone]
        rw [tryExcept, runTurn_closed (s := { s with turnTimeoutMs := some turnTimeoutMs }) hclosed]
        exact ⟨rfl, rfl⟩
    · simp only [hfit, not_false_eq_true, if_true]
      exact ⟨rfl, rfl⟩
  exact hturn.outcome (R := fun o s' => o = .error (unsentFailure session turnTimeoutMs) ∧ s'.log = s.log) h

/-- Two runs on the same notifications, which differ in the place of the ack alone: they hand on the same events and come
to the same outcome exactly when the request is not sent or every notification between the two places is plain. -/
theorem ack_position (hns : ∀ raw ∈ ns, IsNotification raw) (hack : frameShape ack = .other)
    (hout : ackOutcome s.nextId ack = .ok (turnId, none)) (hfuel : ns.length < fuel) {j : Nat} (hij : i ≤ j)
    {o₁ o₂ : Except Failure TurnResult} {s₁ s₂ : Client}
    (h₁ : Runs (scripted (withAckAt ns ack i) (linesRead s.log).length).proto
      (CodexClient.streamTurn p fuel session prompt turnTimeoutMs isFirstTurn s) o₁ s₁)
    (h₂ : Runs (scripted (withAckAt ns ack j) (linesRead s.log).length).proto
      (CodexClient.streamTurn p fuel session prompt turnTimeoutMs isFirstTurn s) o₂ s₂) :
    (delivered s₁.log = delivered s₂.log ∧ o₁ = o₂) ↔
      (CanSend s turnTimeoutMs → ∀ raw ∈ (ns.take j).drop i, Plain turnId raw) := by
  by_cases hsend : CanSend s turnTimeoutMs
  · obtain ⟨seg₁, hlog₁, heq₁⟩ := streamTurn_scripted hns hack hout hsend hfuel h₁
    obtain ⟨seg₂, hlog₂, heq₂⟩ := streamTurn_scripted hns hack hout hsend hfuel h₂
    rw [forall_prop_of_true hsend, ← turnWithAckAt_eq_iff (timeoutMessage session turnTimeoutMs) hij, heq₁, heq₂, hlog₁,
      hlog₂]
    simp
  · obtain ⟨ho₁, hlog₁⟩ := streamTurn_unsent hsend h₁
    obtain ⟨ho₂, hlog₂⟩ := streamTurn_unsent hsend h₂
    simp [hsend, ho₁, ho₂, hlog₁, hlog₂]

end

section Sample

/-- `scripted` as a way to answer. -/
def sendsFrom (script : List Payload) (n : Nat) (s : Client) : (r : CodexReq) → CodexSig.Ans r
  | .receive =>
    match script[(linesRead s.log).length - n]? with
    | some frame => .ok (.value (.obj frame))
    | none => .error .expired
  | r => sends [] s r

theorem runs_scripted {α : Type} (script : List Payload) (n : Nat) (t : Res CodexSig Failure Client α) :
    Runs (scripted script n).proto t (t.execWith (sendsFrom script n)).1 (t.execWith (sendsFrom script n)).2 := by
  apply runs_execWith (scripted script n).proto_refl
  intro s r
  cases r with
  | receive =>
    cases hf : script[(linesRead s.log).length - n]? with
    | some frame => simp [sendsFrom, hf, Wire.proto, scripted]
    | none => simpa [sendsFrom, hf, Wire.proto, scripted] using List.getElem?_eq_none_iff.1 hf
  | drain => trivial
  | execute => exact .inl rfl
  | handle => exact .inl rfl
  | settle => trivial

attribute [local instance] sampleBuiltins

/-- The turn of `sampleStream`, with the ack after the first `i` notifications. -/
def sampleWithAckAt (ns : List Payload) (i : Nat) (s : Client) : Except Failure TurnResult × Client :=
  (CodexClient.streamTurn sampleClientParams 9 sampleSession (py "do it") 3600000 true s).execWith
    (sendsFrom (withAckAt ns sampleAck i) (linesRead s.log).length)

def sampleStarted : Payload := sampleNotification "item/started" []

theorem sampleStarted_shape : IsNotification sampleStarted := ⟨_, rfl⟩

theorem sampleCompleted_shape : IsNotification sampleCompleted := ⟨_, rfl⟩

theorem sampleStarted_plain : Plain (py "t2") sampleStarted := by
  constructor
  · rfl
  · rfl

theorem sampleWithAckAt_runs (ns : List Payload) (i : Nat) (s : Client) :
    Runs (scripted (withAckAt ns sampleAck i) (linesRead s.log).length).proto
      (CodexClient.streamTurn sampleClientParams 9 sampleSession (py "do it") 3600000 true s)
      (sampleWithAckAt ns i s).1 (sampleWithAckAt ns i s).2 := runs_scripted _ _ _

theorem ack_position_sample : ∃ (s s₁ s₂ : Client) (o₁ o₂ : Except Failure TurnResult),
    Runs (scripted (withAckAt [sampleStarted, sampleCompleted] sampleAck 0) (linesRead s.log).length).proto
      (CodexClient.streamTurn sampleClientParams 9 sampleSession (py "do it") 3600000 true s) o₁ s₁ ∧
    Runs (scripted (withAckAt [sampleStarted, sampleCompleted] sampleAck 1) (linesRead s.log).length).proto
      (CodexClient.streamTurn sampleClientParams 9 sampleSession (py "do it") 3600000 true s) o₂ s₂ ∧
    delivered s₁.log = delivered s₂.log ∧ o₁ = o₂ := by
  have hid : (sampleOpened []).nextId = 4 := by decide +kernel
  generalize sampleOpened [] = s at hid
  have h₁ := sampleWithAckAt_runs [sampleStarted, sampleCompleted] 0 s
  have h₂ := sampleWithAckAt_runs [sampleStarted, sampleCompleted] 1 s
  generalize sampleWithAckAt [sampleStarted, sampleCompleted] 0 s = x₁ at h₁
  generalize sampleWithAckAt [sampleStarted, sampleCompleted] 1 s = x₂ at h₂
  have hns : ∀ raw ∈ [sampleStarted, sampleCompleted], IsNotification raw := by
    simp [sampleStarted_shape, sampleCompleted_shape]
  have hout : ackOutcome s.nextId sampleAck = .ok (py "t2", none) := by
    rw [hid]
    rfl
  refine ⟨s, x₁.2, x₂.2, x₁.1, x₂.1, h₁, h₂, ?_⟩
  apply (ack_position hns rfl hout (by decide) (Nat.zero_le 1) h₁ h₂).2
  intro _ raw hraw
  rw [List.mem_singleton.1 hraw]
  exact sampleStarted_plain

/-- The turn is completed before its ack is read: the turn does not notice, and waits until its time is over. -/
theorem ack_position_matters : ∃ (s s₁ s₂ : Client) (o₁ o₂ : Except Failure TurnResult),
    Runs Wire.any.proto (startSession sampleClientParams 9 sampleSessionArgs sampleClient) (.ok sampleSession) s ∧
    Runs (scripted (withAckAt [sampleCompleted] sampleAck 0) (linesRead s.log).length).proto
      (CodexClient.streamTurn sampleClientParams 9 sampleSession (py "do it") 3600000 true s) o₁ s₁ ∧
    Runs (scripted (withAckAt [sampleCompleted] sampleAck 1) (linesRead s.log).length).proto
      (CodexClient.streamTurn sampleClientParams 9 sampleSession (py "do it") 3600000 true s) o₂ s₂ ∧
    o₁.isOk = true ∧ o₂.isOk = false := by
  have hopen := sampleOpened_runs (W := .any) [] (fun _ _ => trivial) (fun _ => trivial) (by decide +kernel)
  have h₁ := sampleWithAckAt_runs [sampleCompleted] 0 (sampleOpened [])
  have h₂ := sampleWithAckAt_runs [sampleCompleted] 1 (sampleOpened [])
  have hend : (sampleWithAckAt [sampleCompleted] 0 (sampleOpened [])).1.isOk = true ∧
      (sampleWithAckAt [sampleCompleted] 1 (sampleOpened [])).1.isOk = false := by decide +kernel
  generalize sampleOpened [] = s at hopen h₁ h₂ hend
  exact ⟨s, _, _, _, _, hopen, h₁, h₂, hend⟩

end Sample

end RiverGang
