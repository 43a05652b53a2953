import RiverGang.Codex.Turn
import RiverGang.Worker.Attempt

/-!
# The exit of a turn

`_run_single_turn` has a reason for four of the exceptions of `stream_turn`, and lets the others through to the catch-all
of the attempt. `turn_exit_typed` says from which lines of the subprocess only the four can come, and `turn_exit_unexpected`
is an ack that brings another.
-/

namespace RiverGang

open Py Coop Task

/-- What `_run_single_turn` makes of what `stream_turn` came to. -/
def turnExit : Except Exn TurnResult → Except Exn (Str × Bool × Option Str)
  | .ok _ => .ok (py "normal", true, none)
  | .error exc =>
    match exc.cls with
    | .turnFailed => .ok (py "turn_failed", false, some exc.msg)
    | .turnCancelled => .ok (py "turn_cancelled", false, some exc.msg)
    | .turnTimeout => .ok (py "turn_timeout", false, some exc.msg)
    | .portExit => .ok (py "port_exit", false, some exc.msg)
    | _ => .error exc

theorem runSingleTurn_eq (p : AttemptParams) (session : Session) (renderedPrompt : Str) :
    runSingleTurn p session renderedPrompt =
      streamTurn p session renderedPrompt >>= fun outcome => ofExcept (turnExit outcome.result) := by
  unfold runSingleTurn
  congr 1
  funext outcome
  cases outcome.result with
  | ok r => rfl
  | error exc => cases hc : exc.cls <;> simp [turnExit, hc]

/-- `TurnFailed`, `TurnCancelled`, `TurnTimeout` or `PortExit` -/
def Failure.Typed (f : Failure) : Prop :=
  f.toExn.cls = .turnFailed ∨ f.toExn.cls = .turnCancelled ∨ f.toExn.cls = .turnTimeout ∨ f.toExn.cls = .portExit

instance Failure.Typed.decidable (f : Failure) : Decidable f.Typed := inferInstanceAs (Decidable (_ ∨ _ ∨ _ ∨ _))

/-- The turn ends with a reason of its own. -/
def TypedExit (o : Except Failure TurnResult) : Prop := ∃ exit, turnExit (o.mapError Failure.toExn) = .ok exit

theorem typedExit_ok (r : TurnResult) : TypedExit (.ok r) := ⟨_, rfl⟩

theorem typedExit_error {f : Failure} : TypedExit (.error f) ↔ f.Typed := by
  unfold TypedExit Failure.Typed
  simp only [Except.mapError, turnExit]
  cases f.toExn.cls <;> simp

/-! ## The lines of a turn -/

/-- A line that makes a frame, or the end of stdout, unless bash has not found the command. -/
def LineRead.Framed : LineRead → Prop
  | .value (.obj _) => True
  | .eof returncode => returncode ≠ 127
  | _ => False

/-- No exceptions but the four, or the cancellation that the deadline brings. -/
def Contained {α : Type} (o : Except Failure α) : Prop := ∀ f, o = .error f → f = .expired ∨ f.Typed

theorem contained_ok {α : Type} (a : α) : Contained (.ok a) := fun _ h => by cases h

theorem contained_error {α : Type} {f : Failure} : Contained (.error f : Except Failure α) ↔ f = .expired ∨ f.Typed :=
  ⟨fun h => h f rfl, fun h _ he => by cases he; exact h⟩

theorem contained_codex {α : Type} {cls : CodexErrorClass} {msg : Str} :
    Contained (.error (.codex cls msg) : Except Failure α) ↔
      cls = .portExit ∨ cls = .turnTimeout ∨ cls = .turnFailed ∨ cls = .turnCancelled := by
  rw [contained_error]
  cases cls <;> simp [Failure.Typed, Failure.toExn, CodexErrorClass.exnClass]

theorem not_contained_builtin {α : Type} {e : BuiltinError} : ¬Contained (.error (.ofBuiltin e) : Except Failure α) := by
  rw [contained_error]
  cases e <;> simp [Failure.Typed, Failure.ofBuiltin, Failure.toExn, Exn.ofBuiltin]

/-- A turn has a reason of its own exactly where its exceptions are contained, if its deadline cut nothing short. -/
theorem typedExit_iff {o : Except Failure TurnResult} (h : o ≠ .error .expired) : TypedExit o ↔ Contained o := by
  cases o with
  | ok r => exact iff_of_true (typedExit_ok r) (contained_ok r)
  | error f =>
    rw [typedExit_error, contained_error]
    exact ⟨.inr, fun hf => hf.resolve_left (by simpa using h)⟩

/-- What follows a step only comes about where the step returns. -/
theorem contained_bind {α β : Type} {x : Except Failure α} {f : α → Except Failure β} :
    Contained (x >>= f) ↔ Contained x ∧ ∀ a, x = .ok a → Contained (f a) := by
  cases x with
  | ok a => simp [Bind.bind, Except.bind, contained_ok]
  | error e => simp [Bind.bind, Except.bind, contained_error]

theorem except_bind_error {α β : Type} {x : Except Failure α} {g : α → Except Failure β} {f : Failure}
    (h : x >>= g = .error f) : x = .error f ∨ ∃ a, x = .ok a ∧ g a = .error f := by
  cases x with
  | ok a => exact .inr ⟨a, rfl, h⟩
  | error e => cases h; exact .inl rfl

/-- The exception of a line that is no frame. -/
theorem frameOf_contained (p : ClientParams) (line : LineRead) : Contained (frameOf p line) ↔ line.Framed := by
  cases line with
  | value v => cases v <;> simp [frameOf, Failure.responseError, contained_codex, contained_ok, LineRead.Framed]
  | malformed msg length => simp [frameOf, Failure.responseError, contained_codex, LineRead.Framed]
  | undecodable msg => simp [frameOf, contained_error, Failure.Typed, Failure.toExn, LineRead.Framed]
  | overlong detail => simp [frameOf, Failure.responseError, contained_codex, LineRead.Framed]
  | eof returncode =>
    by_cases hr : returncode = 127 <;> simp [frameOf, hr, contained_codex, LineRead.Framed]

/-- The id of a turn is there, or the exception is none of the four. -/
theorem extractTurnId_contained {result : Payload} :
    Contained (extractTurnId result) ↔ (objectId? (py "turn") result).isSome := by
  unfold extractTurnId extractId objectId?
  cases ho : (Json.get? result (py "turn")).bind Json.obj? with
  | none => simp [Failure.responseError, contained_codex]
  | some object =>
    cases hi : (Json.get? object (py "id")).bind Json.str? with
    | none => simp [hi, Failure.responseError, contained_codex]
    | some id => cases id <;> simp [hi, Failure.responseError, contained_codex, contained_ok]

theorem frameOf_exception {p : ClientParams} {line : LineRead} {f : Failure} (h : frameOf p line = .error f) :
    f.isException = true := by
  cases line with
  | value v => cases v <;> cases h <;> rfl
  | eof returncode =>
    simp only [frameOf] at h
    split at h <;> cases h <;> rfl
  | _ =>
    cases h
    rfl

/-- A write comes to `PortExit`, or to the end of the time. -/
theorem stops_contained {s : Client} {f : Failure} (h : Wire.uncancelled.Stops s f) :
    Contained (.error f : Except Failure TurnResult) := by
  rcases h with ⟨-, msg, rfl⟩ | rfl
  · exact contained_codex.2 (.inl rfl)
  · exact contained_error.2 (.inl rfl)

section

variable [Builtins]

/-- An ack: a response to the request, with an error that `int` can read the code of, or with the id of a turn. -/
def ReadableAck (requestId : Int) (raw : Payload) : Prop :=
  (∃ id, Json.get? raw (py "id") = some id ∧ id.eqInt requestId = true) ∧
    match Json.get? raw (py "result"), error? raw with
    | none, some (.obj err) => ∃ code, ((Json.get? err (py "code")).getD (.int 0)).toInt = .ok code
    | some (.obj result), none => (objectId? (py "turn") result).isSome
    | _, _ => False

/-- Every line is framed, and the first frame without a method is an ack. -/
structure WellFormed (requestId : Int) (log : List WireEntry) : Prop where
  framed : ∀ line ∈ linesRead log, line.Framed
  ack : ∀ raw, (fromAck (framesRead log)).head? = some raw → ReadableAck requestId raw

/-- The status in the ack raises no other exceptions than these. -/
theorem ackVerdict_error {turnId : Str} {result : Payload} {f : Failure} (h : ackVerdict turnId result = .error f) :
    ∃ msg, f = .codex .turnFailed msg ∨ f = .codex .turnCancelled msg := by
  unfold ackVerdict at h
  split at h
  · cases h
  · split at h
    · cases h
    · exact turnVerdict_error h

theorem ackVerdict_contained {turnId : Str} {result : Payload} : Contained (ackVerdict turnId result) := by
  intro f hf
  obtain ⟨msg, rfl | rfl⟩ := ackVerdict_error hf
  · exact .inr (.inl rfl)
  · exact .inr (.inr (.inl rfl))

theorem parseError_contained {err : Payload} :
    Contained (parseError err) ↔ ∃ code, ((Json.get? err (py "code")).getD (.int 0)).toInt = .ok code := by
  unfold parseError
  cases ((Json.get? err (py "code")).getD (.int 0)).toInt with
  | ok code => simp [Except.mapError, Bind.bind, Except.bind, Pure.pure, Except.pure, contained_ok]
  | error e => simpa [Except.mapError, Bind.bind, Except.bind] using not_contained_builtin

theorem parseError_error {err : Payload} {f : Failure} (h : parseError err = .error f) : ∃ e, f = .ofBuiltin e := by
  unfold parseError at h
  cases hcode : ((Json.get? err (py "code")).getD (.int 0)).toInt with
  | ok code => simp [hcode, Except.mapError, Bind.bind, Except.bind, Pure.pure, Except.pure] at h
  | error e =>
    simp only [hcode, Except.mapError, Bind.bind, Except.bind, Except.error.injEq] at h
    exact ⟨e, h.symm⟩

/-- The exception of an ack that is not readable. -/
theorem ackOutcome_contained {requestId : Int} {raw : Payload} :
    Contained (ackOutcome requestId raw) ↔ ReadableAck requestId raw := by
  have hrest {ack : JsonRpcResponse} : Contained (do
      let result ← ackResult requestId ack
      let turnId ← extractTurnId result
      let verdict ← ackVerdict turnId result
      pure (turnId, verdict)) ↔ ∀ result, ack.error = none → ack.result = some result →
        (objectId? (py "turn") result).isSome := by
    obtain ⟨id, result, error⟩ := ack
    cases error with
    | some e => simp [ackResult, contained_bind, contained_codex]
    | none =>
      cases result with
      | none => simp [ackResult, contained_bind, contained_codex]
      | some result =>
        simp [ackResult, contained_bind, contained_ok, extractTurnId_contained, ackVerdict_contained, Pure.pure,
          Except.pure]
  unfold ackOutcome ReadableAck
  simp only [contained_bind (x := parseResponse raw requestId), hrest]
  unfold parseResponse
  cases Json.get? raw (py "id") with
  | none => simp [Failure.responseError, contained_codex]
  | some id =>
    cases hid : id.eqInt requestId with
    | false => simp [hid, Failure.responseError, contained_codex]
    | true =>
      cases Json.get? raw (py "result") with
      | none =>
        cases error? raw with
        | none => simp [hid, Failure.responseError, contained_codex]
        | some error =>
          cases error with
          | obj err =>
            cases hcode : parseError err with
            | error f => simp [hid, ← parseError_contained, hcode, Bind.bind, Except.bind, contained_error]
            | ok e =>
              simp [hid, ← parseError_contained, hcode, Bind.bind, Except.bind, Pure.pure, Except.pure, contained_ok]
          | _ => simp [hid, Failure.responseError, contained_codex]
      | some result =>
        cases error? raw with
        | none =>
          cases result with
          | obj result => simp [hid, contained_ok]
          | _ => simp [hid, Failure.responseError, contained_codex]
        | some error => simp [hid, Failure.responseError, contained_codex]

theorem parseResponse_exception {expectedId : Int} {raw : Payload} {f : Failure}
    (h : parseResponse raw expectedId = .error f) : f.isException = true := by
  unfold parseResponse at h
  split at h
  · cases h
    rfl
  · split at h
    · cases h
      rfl
    · split at h
      · cases h
        rfl
      · cases h
        rfl
      · rename_i err _ _ _
        rcases except_bind_error h with h | ⟨e, -, h⟩
        · obtain ⟨e, rfl⟩ := parseError_error h
          exact Exn.isException_ofBuiltin e
        · cases h
      · cases h
        rfl
      · cases h
      · cases h
        rfl

/-- An ack raises nothing that a loop without fuel does. -/
theorem ackOutcome_exception {requestId : Int} {raw : Payload} {f : Failure} (h : ackOutcome requestId raw = .error f) :
    f.isException = true := by
  rcases except_bind_error h with h | ⟨ack, -, h⟩
  · exact parseResponse_exception h
  · rcases except_bind_error h with h | ⟨result, -, h⟩
    · unfold ackResult at h
      split at h
      · cases h
        rfl
      · split at h <;> cases h
        rfl
    · rcases except_bind_error h with h | ⟨turnId, -, h⟩
      · unfold extractTurnId extractId at h
        split at h
        · cases h
          rfl
        · split at h <;> cases h
          rfl
      · rcases except_bind_error h with h | ⟨verdict, -, h⟩
        · obtain ⟨msg, rfl | rfl⟩ := ackVerdict_error h <;> rfl
        · cases h

/-! ## The lines of a trace -/

variable {p : ClientParams} {fuel : Nat} {s : Client} {q seg l : List WireEntry} {raw : Payload} {f : Failure}
  {requestId : Int}

theorem Rounds.framed {φ : ReadLoop} {goesOn : Payload → Prop} (h : Rounds p φ goesOn q) :
    ∀ line ∈ linesRead q, line.Framed := by
  induction h with
  | nil => simp [linesRead]
  | snoc _ _ hr ih =>
    intro line hline
    rw [linesRead_append, hr.linesRead, List.mem_append, List.mem_singleton] at hline
    rcases hline with hline | rfl
    · exact ih line hline
    · trivial

omit [Builtins] in
/-- A loop that breaks off does so with one of the four, unless the line is to blame. -/
theorem BrokenOff.contained (h : BrokenOff .uncancelled p fuel q s seg f) (hfuel : f ≠ .outOfFuel) :
    Contained (.error f : Except Failure TurnResult) ↔ ∀ line ∈ linesRead seg, line.Framed := by
  rcases h with h | ⟨-, h, -⟩
  · cases h with
    | cut hcut => simpa [linesRead] using contained_error.2 (.inl hcut)
    | @line line f hline =>
      have hcontained := frameOf_contained p line
      rw [hline] at hcontained
      simpa [linesRead, WireEntry.line?, contained_error] using hcontained
    | @request raw method seg f hshape hrep hstop =>
      have hlines : linesRead (.frame raw :: seg) = [.value (.obj raw)] := by
        rcases hrep with rfl | ⟨-, rfl⟩ | ⟨reply, rfl, -⟩ <;> rfl
      simpa [hlines, LineRead.Framed] using stops_contained hstop
  · exact absurd h hfuel

/-- Before the ack only the lines count. -/
theorem wellFormed_unacked (h : ∀ raw ∈ framesRead seg, (method? raw).isSome) :
    WellFormed requestId seg ↔ ∀ line ∈ linesRead seg, line.Framed := by
  refine ⟨WellFormed.framed, fun hframed => ⟨hframed, fun raw hraw => ?_⟩⟩
  rw [fromAck_eq_nil h] at hraw
  cases hraw

theorem wellFormed_acked (requestId : Int) (request : Payload) (l : List WireEntry)
    (hq : Rounds p .ack (fun _ => True) q) (hraw : frameShape raw = .other) :
    WellFormed requestId (.wrote request :: (q ++ [.frame raw] ++ l)) ↔
      ReadableAck requestId raw ∧ ∀ line ∈ linesRead l, line.Framed := by
  have hlines : linesRead (.wrote request :: (q ++ [.frame raw] ++ l)) =
      linesRead q ++ .value (.obj raw) :: linesRead l := by simp
  have hhead : (fromAck (framesRead (.wrote request :: (q ++ [.frame raw] ++ l)))).head? = some raw := by
    have hmethods : ∀ raw ∈ framesRead q, (method? raw).isSome := fun raw hr => (hq.framesRead raw hr).2 (by decide)
    have hfrom := fromAck_append (framesRead l) hmethods (frameShape_other.1 hraw)
    simp only [framesRead_wrote, framesRead_append, framesRead_frame]
    simpa [framesRead] using congrArg List.head? hfrom
  constructor
  · intro hw
    refine ⟨hw.ack raw hhead, fun line hline => hw.framed line ?_⟩
    rw [hlines]
    exact List.mem_append_right _ (List.mem_cons_of_mem _ hline)
  · rintro ⟨hack, hframed⟩
    refine ⟨fun line hline => ?_, fun raw' hraw' => ?_⟩
    · rw [hlines, List.mem_append, List.mem_cons] at hline
      rcases hline with hline | rfl | hline
      · exact hq.framed line hline
      · trivial
      · exact hframed line hline
    · rw [hhead] at hraw'
      cases hraw'
      exact hack

/-- Where the fuel lasts, the lines alone decide whether a turn ends with one of the four. -/
theorem TurnTrace.contained {request : Payload} {o : Except Failure TurnResult}
    (h : TurnTrace .uncancelled p fuel s request requestId seg o) (hfuel : o ≠ .error .outOfFuel) :
    Contained o ↔ WellFormed requestId seg := by
  have hreadable {raw : Payload} {x : Str × Option TurnResult} (ho : ackOutcome requestId raw = .ok x) :
      ReadableAck requestId raw := by
    rw [← ackOutcome_contained, ho]
    exact contained_ok x
  cases h with
  | unsent hstop => exact iff_of_true (stops_contained hstop) ((wellFormed_unacked (by simp [framesRead])).2 (by simp))
  | sent hstop => exact iff_of_true (stops_contained hstop) ((wellFormed_unacked (by simp [framesRead])).2 (by simp))
  | @unanswered q seg f hq hbroken =>
    have hunacked : ∀ raw ∈ framesRead (.wrote request :: (q ++ seg)), (method? raw).isSome := by
      intro raw hr
      rw [framesRead_wrote, framesRead_append, List.mem_append] at hr
      rcases hr with hr | hr
      · exact (hq.framesRead raw hr).2 (by decide)
      · obtain ⟨method, hshape⟩ := hbroken.framesRead raw hr
        exact frameShape_isSome (by rw [hshape]; simp)
    rw [wellFormed_unacked hunacked, hbroken.contained (by simpa using hfuel)]
    refine ⟨fun hseg line hline => ?_, fun hall line hline => hall line (by simp [hline])⟩
    rw [linesRead_wrote, linesRead_append, List.mem_append] at hline
    exact hline.elim (hq.framed line) (hseg line)
  | refused hq hraw ho =>
    have hacked := wellFormed_acked requestId request [] hq hraw
    rw [List.append_nil] at hacked
    rw [hacked, ← ackOutcome_contained, ho]
    simp [contained_error]
  | acked hq hraw ho =>
    have hacked := wellFormed_acked requestId request [] hq hraw
    rw [List.append_nil] at hacked
    simp [hacked, contained_ok, hreadable ho]
  | @stopped q t seg raw turnId f hq hraw ho ht hbroken =>
    rw [wellFormed_acked _ _ _ hq hraw, hbroken.contained (by simpa using hfuel)]
    refine ⟨fun hseg => ⟨hreadable ho, fun line hline => ?_⟩, fun hall line hline => hall.2 line (by simp [hline])⟩
    rw [linesRead_append, List.mem_append] at hline
    exact hline.elim (ht.framed line) (hseg line)
  | @decided q t seg raw raw' turnId o hq hraw ho ht hround hv =>
    rw [wellFormed_acked _ _ _ hq hraw]
    refine ⟨fun _ => ⟨hreadable ho, fun line hline => ?_⟩, fun _ => ?_⟩
    · rw [linesRead_append, hround.linesRead, List.mem_append, List.mem_singleton] at hline
      rcases hline with hline | rfl
      · exact ht.framed line hline
      · trivial
    · cases o with
      | ok r => exact contained_ok r
      | error f =>
        obtain ⟨msg, rfl | rfl⟩ := frameVerdict_error hv
        · exact contained_codex.2 (by simp)
        · exact contained_codex.2 (by simp)

/-- The fuel of a turn is spent on lines. -/
theorem TurnTrace.spent {request : Payload}
    (h : TurnTrace .uncancelled p fuel s request requestId seg (.error .outOfFuel)) :
    fuel ≤ (linesRead seg).length := by
  have hstop {s : Client} (hs : Wire.uncancelled.Stops s .outOfFuel) : False := by
    rcases hs with ⟨-, msg, h⟩ | h <;> cases h
  have hbroken {q seg : List WireEntry} (hb : BrokenOff .uncancelled p fuel q s seg .outOfFuel) :
      fuel ≤ (linesRead q).length := by
    rcases hb with hb | ⟨-, -, hspent⟩
    · cases hb with
      | cut hcut => cases hcut
      | line hline => exact absurd (frameOf_exception hline) (by decide)
      | request _ _ hs => exact (hstop hs).elim
    · exact hspent
  cases h with
  | unsent hs => exact (hstop hs).elim
  | sent hs => exact (hstop hs).elim
  | unanswered hq hb =>
    have hspent := hbroken hb
    simp only [linesRead_wrote, linesRead_append, List.length_append]
    omega
  | refused hq hraw ho => exact absurd (ackOutcome_exception ho) (by decide)
  | stopped hq hraw ho ht hb =>
    have hspent := hbroken hb
    simp only [linesRead_wrote, linesRead_append, List.length_append]
    omega
  | decided hq hraw ho ht hround hv =>
    obtain ⟨msg, hf | hf⟩ := frameVerdict_error hv <;> cases hf

/-- Whatever lines the subprocess sends, and however the waiting goes, as long as nobody cancels the turn: it ends with a
reason of its own exactly when its timeout converts to a float, every line that is read is framed, and the ack is
readable. It runs out of fuel only where it has read that many lines. -/
theorem turn_exit_typed {session : Session} {prompt : Str} {turnTimeoutMs : Int} {isFirstTurn : Bool} {s' : Client}
    {o : Except Failure TurnResult}
    (h : Runs Wire.uncancelled.proto (CodexClient.streamTurn p fuel session prompt turnTimeoutMs isFirstTurn s) o s') :
    ∃ seg, s'.log = s.log ++ seg ∧ (o = .error .outOfFuel → fuel ≤ (linesRead seg).length) ∧
      (o ≠ .error .outOfFuel → (TypedExit o ↔ FloatFits turnTimeoutMs ∧ WellFormed s.nextId seg)) := by
  obtain ⟨seg, k, ⟨hs, -⟩, ht⟩ := streamTurn_trace h
  have hnil : WellFormed s.nextId [] := (wellFormed_unacked (by simp [framesRead])).2 (by simp)
  refine ⟨seg, hs.log, ?_⟩
  cases ht with
  | overflow hfit =>
    refine ⟨fun ho => by simp at ho, fun _ => ?_⟩
    simp [typedExit_error, Failure.Typed, Failure.toExn, hfit]
  | noTime hfit _ =>
    refine ⟨fun ho => by simp at ho, fun _ => iff_of_true ?_ ⟨hfit, hnil⟩⟩
    simp [typedExit_error, Failure.Typed, Failure.toExn, CodexErrorClass.exnClass]
  | cut _ _ hcut hne => exact absurd hcut hne
  | timedOut hfit _ ht =>
    refine ⟨fun ho => by simp at ho, fun _ => iff_of_true ?_ ⟨hfit, ?_⟩⟩
    · simp [typedExit_error, Failure.Typed, Failure.toExn, CodexErrorClass.exnClass]
    · exact (ht.contained (by simp)).1 (contained_error.2 (.inl rfl))
  | ran hfit _ hne ht =>
    refine ⟨fun ho => ?_, fun hfuel => ?_⟩
    · rw [ho] at ht
      exact ht.spent
    · rw [typedExit_iff hne, ht.contained hfuel]
      exact ⟨fun hw => ⟨hfit, hw⟩, fun hw => hw.2⟩

end

/-! ### Two acks -/

section Sample

attribute [local instance] sampleBuiltins

/-- The response to another request. -/
def sampleStrayAck : Payload := sampleResponse 7 (sampleTurn "turn" "t2" "inProgress")

def raisedResponseError : Except Failure TurnResult → Bool
  | .ok _ => false
  | .error f => f.isResponseError

theorem raisedResponseError_untyped {o : Except Failure TurnResult} (h : raisedResponseError o = true) :
    o ≠ .error .outOfFuel ∧ ¬TypedExit o := by
  cases o with
  | ok r => cases h
  | error f =>
    cases f with
    | codex cls msg =>
      cases cls with
      | responseError => simp [typedExit_error, Failure.Typed, Failure.toExn, CodexErrorClass.exnClass]
      | _ => cases h
    | _ => cases h

/-- An ack with a wrong id is a `ResponseError`, which `_run_single_turn` lets through. -/
theorem turn_exit_unexpected : ∃ (s s' : Client) (o : Except Failure TurnResult),
    Runs Wire.uncancelled.proto (startSession sampleClientParams 9 sampleSessionArgs sampleClient) (.ok sampleSession) s ∧
    Runs Wire.uncancelled.proto (CodexClient.streamTurn sampleClientParams 9 sampleSession (py "do it") 3600000 true s) o
      s' ∧
    o ≠ .error .outOfFuel ∧ ¬TypedExit o := by
  have hopen := sampleOpened_runs (W := .uncancelled) [sampleStrayAck] (fun _ _ => trivial) (fun _ => rfl)
    (by decide +kernel)
  have hstream := sampleStream_runs (W := .uncancelled) [sampleStrayAck] (fun _ _ => trivial) (fun _ => rfl)
    (sampleOpened [sampleStrayAck])
  have hraised : raisedResponseError (sampleStream [sampleStrayAck] (sampleOpened [sampleStrayAck])).1 = true := by
    decide +kernel
  generalize sampleOpened [sampleStrayAck] = s at hopen hstream hraised
  generalize sampleStream [sampleStrayAck] s = x at hstream hraised
  exact ⟨s, x.2, x.1, hopen, hstream, raisedResponseError_untyped hraised⟩

theorem turn_exit_typed_sample : ∃ (s s' : Client) (seg : List WireEntry) (r : TurnResult),
    Runs Wire.uncancelled.proto (CodexClient.streamTurn sampleClientParams 9 sampleSession (py "do it") 3600000 true s)
      (.ok r) s' ∧
    s'.log = s.log ++ seg ∧ FloatFits 3600000 ∧ WellFormed s.nextId seg := by
  have hstream := sampleStream_runs (W := .uncancelled) [sampleAck, sampleCompleted] (fun _ _ => trivial)
    (fun _ => rfl) (sampleOpened [sampleAck, sampleCompleted])
  have hok : (sampleStream [sampleAck, sampleCompleted] (sampleOpened [sampleAck, sampleCompleted])).1.isOk = true := by
    decide +kernel
  generalize sampleOpened [sampleAck, sampleCompleted] = s at hstream hok
  generalize sampleStream [sampleAck, sampleCompleted] s = x at hstream hok
  obtain ⟨o, s'⟩ := x
  cases o with
  | error f => cases hok
  | ok r =>
    obtain ⟨seg, hlog, -, hiff⟩ := turn_exit_typed hstream
    exact ⟨s, s', seg, r, hstream, hlog, (hiff (by simp)).1 (typedExit_ok r)⟩

end Sample

end RiverGang
