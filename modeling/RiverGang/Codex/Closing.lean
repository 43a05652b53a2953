import RiverGang.Errors
import RiverGang.Lib.Pool

/-!
# The end of a subprocess

`stop_session` of `codex/client.py` with `wait_for_exit` and `aclose` of `codex/process.py`: the subprocess has some time to
exit by itself; then its process group is sent `SIGTERM` and, two seconds later, `SIGKILL`.

`session_stopped`: any number of calls, at once or one after the other, with the subprocess, the clock and cancellations
doing what they like. The signals are sent once each, in order and not too early; calls that are not cancelled leave nothing
running; and after a call that is cancelled no later `stop_session` makes up for what it left out.
-/

namespace RiverGang

namespace Closing

open Py Coop Task

/-! ## The subprocess -/

inductive Signal
  | sigterm
  | sigkill
  deriving DecidableEq

/-- A signal that the process group got, and the return code as it was known then. -/
structure Sent where
  signal : Signal
  time : Instant
  returncode : Option Int
  deriving DecidableEq

/-- What has become of the task that drains stderr. -/
inductive Draining
  | running
  | cancelled
  | ended
  deriving DecidableEq

/-- What changes by itself. -/
structure Outside where
  /-- `time.monotonic()`, in microseconds -/
  now : Instant
  /-- `_proc.returncode` -/
  returncode : Option Int
  /-- the process group is there and may be signalled -/
  group : Bool
  stdinClosing : Bool
  /-- `_stderr_task` -/
  stderrTask : Option Draining

/-- A subprocess with its client. -/
structure CodexProcess extends Outside where
  /-- `_closed` of the process -/
  closed : Bool
  /-- `_stopped` of the client -/
  stopped : Bool
  /-- not in the source: when the time to exit by itself is over, and the signals so far, oldest first -/
  graceUntil : Option Instant
  sent : List Sent

/-- What a call waits for. -/
inductive CloseReq
  /-- `wait_for_exit`, up to a deadline -/
  | exit (deadline : Instant)
  /-- the exit after `SIGTERM`, up to a deadline, with whether there is a `pgid` -/
  | terminated (pgid : Bool) (deadline : Instant)
  /-- `_proc.wait()` -/
  | wait
  /-- the end of `_stderr_task` -/
  | stderrTask

@[reducible] def CloseSig : Sig where
  Req := CloseReq
  Ans
    -- `false`: the deadline was the first
    | .exit _ => Except Exn Bool
    | .terminated .. => Except Exn Bool
    | .wait => Except Exn Unit
    | .stderrTask => Except Exn Unit

abbrev Program := Task CloseSig Exn CodexProcess

/-- The group gets a signal. -/
def CodexProcess.signalled (s : CodexProcess) (signal : Signal) : CodexProcess :=
  { s with sent := s.sent ++ [⟨signal, s.now, s.returncode⟩] }

/-- `os.killpg`; no such group, or no permission, is told by `false`. -/
def killpg (signal : Signal) : Program Bool := do
  let s ← get
  if s.group then
    modify fun s => s.signalled signal
    pure true
  else pure false

def waitForExit (timeout : Int) : Program Bool := do
  let s ← get
  if s.returncode.isSome then pure true
  else ofExcept (← Task.request (S := CloseSig) (.exit (s.now + timeout)))

/-- `aclose` after the two seconds. -/
def kill (pgid : Bool) : Program Unit := do
  if pgid then
    let _ ← killpg .sigkill
  ofExcept (← Task.request (S := CloseSig) .wait)

/-- `aclose` of a subprocess that has not exited yet. -/
def terminate : Program Unit := do
  let pgid ← killpg .sigterm
  let s ← get
  let exited ← ofExcept (← Task.request (S := CloseSig) (.terminated pgid (s.now + 2000000)))
  if exited then pure () else kill pgid

/-- The end of `aclose`: whatever the drain of stderr, or waiting for it, comes to is suppressed. -/
def cancelStderr : Program Unit := do
  let s ← get
  match s.stderrTask with
  | none => pure ()
  | some .ended => pure ()
  | some _ =>
    modify fun s => { s with stderrTask := some .cancelled }
    let _ ← Task.request (S := CloseSig) .stderrTask

def aclose : Program Unit := do
  let s ← get
  if s.closed then pure ()
  else
    modify fun s => { s with closed := true, stdinClosing := true }
    if s.returncode.isNone then terminate
    cancelStderr

def stopSession (gracefulTimeout : Int) : Program Unit := do
  let s ← get
  if s.stopped then pure ()
  else
    modify fun s => { s with stopped := true, graceUntil := some (s.now + gracefulTimeout) }
    tryExcept Exn.isException (do let _ ← waitForExit gracefulTimeout) fun _ => pure ()
    tryExcept Exn.isException aclose fun _ => pure ()

/-! ## Calls -/

inductive Call
  | stopSession (gracefulTimeout : Int)
  | aclose
  /-- something else happens -/
  | elapse (w : Outside)

def program : Call → Program Unit
  | .stopSession gracefulTimeout => Closing.stopSession gracefulTimeout
  | .aclose => Closing.aclose
  | .elapse w => modify fun s => { s with toOutside := w }

/-- What may change by itself: time goes on, and what is over stays so. -/
structure Outside.Passes (w w' : Outside) : Prop where
  now : w.now ≤ w'.now
  returncode : w.returncode ≠ none → w'.returncode = w.returncode
  stdinClosing : w.stdinClosing = true → w'.stdinClosing = true
  stderrTask : w'.stderrTask = w.stderrTask ∨ w.stderrTask ≠ none ∧ w'.stderrTask = some .ended

/-- An answer of the subprocess: it has exited, the deadline has passed, or the call is cancelled. -/
def Answers (s : CodexProcess) : (r : CloseReq) → CloseSig.Ans r → Prop
  | .exit _, .ok true => s.returncode ≠ none
  | .exit deadline, .ok false => deadline ≤ s.now
  | .terminated .., .ok true => s.returncode ≠ none
  | .terminated _ deadline, .ok false => deadline ≤ s.now
  | .wait, .ok () => s.returncode ≠ none
  | .exit _, .error exc => exc.isException = false
  | .terminated .., .error exc => exc.isException = false
  | .wait, .error exc => exc.isException = false
  | .stderrTask, _ => True

/-- Any calls, with `aclose` among them only if it is `direct`. -/
def calls (direct : Prop) : Pool.Limits CloseSig CodexProcess Call where
  start s
    | .stopSession _ => True
    | .aclose => direct
    | .elapse w => s.Passes w
  answer _ := Answers

/-- As it is launched, and its client with it. -/
structure CodexProcess.Fresh (s : CodexProcess) : Prop where
  closed : s.closed = false
  stopped : s.stopped = false
  graceUntil : s.graceUntil = none
  sent : s.sent = []

/-- It has exited, and nothing reads or writes its pipes any more. -/
structure CodexProcess.TornDown (s : CodexProcess) : Prop where
  closed : s.closed = true
  returncode : s.returncode ≠ none
  stdinClosing : s.stdinClosing = true
  stderrTask : s.stderrTask ≠ some .running

/-- The signals are in order, `SIGKILL` two seconds after `SIGTERM`, which is for a subprocess that is not known to have
exited; and unless `aclose` is called by itself all of them are after the time to exit. -/
structure CodexProcess.Orderly (direct : Prop) (s : CodexProcess) : Prop where
  signals : s.sent.map Sent.signal <+: [.sigterm, .sigkill]
  alive : ∀ x ∈ s.sent, x.signal = .sigterm → x.returncode = none
  patient : ∀ x ∈ s.sent, ∀ y ∈ s.sent, x.signal = .sigterm → y.signal = .sigkill → x.time + 2000000 ≤ y.time
  graceful : direct ∨ ∀ x ∈ s.sent, ∃ t, s.graceUntil = some t ∧ t ≤ x.time

/-! ## What the calls are up to -/

/-- What a call does while it waits. -/
inductive Stage
  | leaving (deadline : Instant)
  | terminated (pgid : Bool) (deadline : Instant)
  | ending
  | draining

/-- It is in `aclose`. -/
def Stage.closes : Stage → Bool
  | .leaving _ => false
  | _ => true

def stageOf : CloseReq → Multiset Stage
  | .exit deadline => {.leaving deadline}
  | .terminated pgid deadline => {.terminated pgid deadline}
  | .wait => {.ending}
  | .stderrTask => {.draining}

/-- What a call may rely on at its stage. -/
def Stage.Holds (s : CodexProcess) : Stage → Prop
  | .leaving deadline => s.graceUntil = some deadline
  | .terminated pgid deadline => s.sent.map Sent.signal = (if pgid then [.sigterm] else []) ∧
      ∀ x ∈ s.sent, x.time + 2000000 ≤ deadline
  | .ending => True
  | .draining => s.TornDown

abbrev DoneCalls := List (Call × Except Exn Unit)

/-- A call of the two, not something else that happens. -/
def Call.Closes : Call → Prop
  | .elapse _ => False
  | _ => True

/-- Some call was cancelled. -/
def Failed (done : DoneCalls) : Prop := ∃ p ∈ done, p.2 ≠ .ok ()

/-- With the stages `H` of the calls that wait: one at most is in `aclose`, each may rely on what it does, and nothing was
left undone but by a call that was cancelled. -/
structure Governed (direct : Prop) (H : Multiset Stage) (done : DoneCalls) (s : CodexProcess) : Prop where
  orderly : s.Orderly direct
  grace : s.stopped = false → s.graceUntil = none
  pipes : s.closed = true → s.stdinClosing = true
  unsignalled : s.closed = false → s.sent = []
  stages : ∀ t ∈ H, t.Holds s
  alone : H.countP (·.closes) ≤ s.closed.toNat
  stopped : s.stopped = true → (∃ d, .leaving d ∈ H) ∨ s.closed = true ∨ Failed done
  closed : s.closed = true → (∃ t ∈ H, t.closes) ∨ s.TornDown ∨ Failed done
  begun : ∀ p ∈ done, p.1.Closes → s.stopped = true ∨ s.closed = true
  failed : ∀ p ∈ done, ∀ exc, p.2 = .error exc → exc.isException = false

section Steps

variable {direct : Prop} {H rest : Multiset Stage} {done : DoneCalls} {s s' : CodexProcess} {t u : Stage} {m : Call}

theorem CodexProcess.TornDown.passes (h : s.TornDown) {w : Outside} (hw : s.Passes w) :
    CodexProcess.TornDown { s with toOutside := w } where
  closed := h.closed
  returncode := by
    show w.returncode ≠ none
    rw [hw.returncode h.returncode]
    exact h.returncode
  stdinClosing := hw.stdinClosing h.stdinClosing
  stderrTask := by
    show w.stderrTask ≠ some .running
    rcases hw.stderrTask with he | ⟨-, he⟩
    · rw [he]
      exact h.stderrTask
    · rw [he]
      nofun

/-- What leaves the process and the pipes. -/
theorem CodexProcess.TornDown.same (h : s.TornDown) (hw : s'.toOutside = s.toOutside) (hc : s'.closed = s.closed) :
    s'.TornDown where
  closed := hc.trans h.closed
  returncode := by
    rw [hw]
    exact h.returncode
  stdinClosing := by
    rw [hw]
    exact h.stdinClosing
  stderrTask := by
    rw [hw]
    exact h.stderrTask

/-- What sends no signal. -/
theorem CodexProcess.Orderly.same (h : s.Orderly direct) (hs : s'.sent = s.sent) (hg : s'.graceUntil = s.graceUntil) :
    s'.Orderly direct where
  signals := by
    rw [hs]
    exact h.signals
  alive := by
    rw [hs]
    exact h.alive
  patient := by
    rw [hs]
    exact h.patient
  graceful := by
    rw [hs, hg]
    exact h.graceful

theorem Stage.Holds.passes (h : t.Holds s) {w : Outside} (hw : s.Passes w) : t.Holds { s with toOutside := w } := by
  cases t with
  | leaving d => exact h
  | terminated pgid d => exact h
  | ending => trivial
  | draining => exact CodexProcess.TornDown.passes h hw

/-- Something else happens. -/
theorem Governed.elapse (h : Governed direct H done s) {w : Outside} (hw : s.Passes w) :
    Governed direct H done { s with toOutside := w } where
  orderly := h.orderly.same rfl rfl
  grace := h.grace
  pipes hc := hw.stdinClosing (h.pipes hc)
  unsignalled := h.unsignalled
  stages t ht := (h.stages t ht).passes hw
  alone := h.alone
  stopped := h.stopped
  closed hc := (h.closed hc).imp_right (Or.imp_left (·.passes hw))
  begun := h.begun
  failed := h.failed

/-- A call is done. -/
theorem Governed.concat (h : Governed direct H done s) {p : Call × Except Exn Unit}
    (hp : p.1.Closes → s.stopped = true ∨ s.closed = true) (he : ∀ exc, p.2 = .error exc → exc.isException = false) :
    Governed direct H (done ++ [p]) s where
  orderly := h.orderly
  grace := h.grace
  pipes := h.pipes
  unsignalled := h.unsignalled
  stages := h.stages
  alone := h.alone
  stopped hs := (h.stopped hs).imp_right (Or.imp_right fun ⟨q, hq, hne⟩ => ⟨q, List.mem_append_left _ hq, hne⟩)
  closed hc := (h.closed hc).imp_right (Or.imp_right fun ⟨q, hq, hne⟩ => ⟨q, List.mem_append_left _ hq, hne⟩)
  begun q hq := by
    rcases List.mem_append.1 hq with hq | hq
    · exact h.begun q hq
    · rw [List.mem_singleton.1 hq]
      exact hp
  failed q hq := by
    rcases List.mem_append.1 hq with hq | hq
    · exact h.failed q hq
    · rw [List.mem_singleton.1 hq]
      exact he

theorem countP_cons_of_closes (ht : t.closes = true) :
    (t ::ₘ rest).countP (·.closes) = rest.countP (·.closes) + 1 :=
  Multiset.countP_cons_of_pos (p := fun t : Stage => t.closes = true) rest ht

/-- Who is in `aclose` is there alone. -/
theorem Governed.closing (h : Governed direct (t ::ₘ rest) done s) (ht : t.closes = true) :
    s.closed = true ∧ ∀ t' ∈ rest, t'.closes = false := by
  have halone := h.alone
  rw [countP_cons_of_closes ht] at halone
  have hle := Bool.toNat_le s.closed
  constructor
  · cases hc : s.closed with
    | true => rfl
    | false => simp [hc] at halone
  · intro t' ht'
    have hzero : rest.countP (·.closes) = 0 := by omega
    have hnone := Multiset.countP_eq_zero.1 hzero t' ht'
    exact Bool.eq_false_iff.2 hnone

/-- A call in `aclose` goes on. -/
theorem Governed.next (h : Governed direct (t ::ₘ rest) done s) (ht : t.closes = true) (hu : u.closes = true)
    (hc : s'.closed = s.closed) (hs : s'.stopped = s.stopped) (hg : s'.graceUntil = s.graceUntil)
    (hp : s.stdinClosing = true → s'.stdinClosing = true) (ho : s'.Orderly direct) (hh : u.Holds s') :
    Governed direct (u ::ₘ rest) done s' := by
  obtain ⟨hclosed, hrest⟩ := h.closing ht
  have halone := h.alone
  rw [countP_cons_of_closes ht] at halone
  refine ⟨ho, ?_, fun _ => hp (h.pipes hclosed), fun hopen => ?_, fun t₁ ht₁ => ?_, ?_, fun _ => .inr (.inl ?_),
    fun _ => .inl ⟨u, Multiset.mem_cons_self u rest, hu⟩, fun p hp hm => ?_, h.failed⟩
  · rw [hs, hg]
    exact h.grace
  · rw [hc, hclosed] at hopen
    cases hopen
  · rcases Multiset.mem_cons.1 ht₁ with rfl | ht₁
    · exact hh
    · have hholds := h.stages t₁ (Multiset.mem_cons_of_mem ht₁)
      have hleaving := hrest t₁ ht₁
      cases t₁ with
      | leaving d => exact hg.trans hholds
      | terminated pgid d => cases hleaving
      | ending => cases hleaving
      | draining => cases hleaving
  · rw [countP_cons_of_closes hu, hc]
    exact halone
  · rw [hc, hclosed]
  · rw [hc]
    exact .inr hclosed

/-- A call is at its end: what it was there for is seen to, or given up. -/
theorem Governed.drop (h : Governed direct (t ::ₘ rest) done s)
    (hs : s.stopped = true → (∃ d, .leaving d ∈ rest) ∨ s.closed = true ∨ Failed done)
    (hc : s.closed = true → (∃ t ∈ rest, t.closes) ∨ s.TornDown ∨ Failed done) : Governed direct rest done s where
  orderly := h.orderly
  grace := h.grace
  pipes := h.pipes
  unsignalled := h.unsignalled
  stages t ht := h.stages t (Multiset.mem_cons_of_mem ht)
  alone := (Multiset.countP_le_of_le _ (Multiset.le_cons_self rest t)).trans h.alone
  stopped := hs
  closed := hc
  begun := h.begun
  failed := h.failed

/-- All is done in `aclose`. -/
theorem Governed.finish (h : Governed direct (t ::ₘ rest) done s) (hd : s.TornDown) : Governed direct rest done s :=
  h.drop (fun _ => .inr (.inl hd.closed)) fun _ => .inr (.inl hd)

/-- The time to exit is over, and somebody has gone on to `aclose`. -/
theorem Governed.leave {d : Instant} (h : Governed direct (.leaving d ::ₘ rest) done s) (hc : s.closed = true) :
    Governed direct rest done s := by
  refine h.drop (fun _ => .inr (.inl hc)) fun hc => (h.closed hc).imp_left fun ⟨t, ht, hcl⟩ => ?_
  rcases Multiset.mem_cons.1 ht with rfl | ht
  · cases hcl
  · exact ⟨t, ht, hcl⟩

/-- A call that waits has begun something. -/
theorem Governed.waits (h : Governed direct (t ::ₘ rest) done s) : s.stopped = true ∨ s.closed = true := by
  cases ht : t.closes with
  | true => exact .inr (h.closing ht).1
  | false =>
    -- it waits for the subprocess to exit by itself
    have hholds := h.stages t (Multiset.mem_cons_self t rest)
    cases t with
    | leaving d =>
      refine .inl (Bool.of_not_eq_false fun hs => ?_)
      rw [Stage.Holds, h.grace hs] at hholds
      cases hholds
    | terminated pgid d => cases ht
    | ending => cases ht
    | draining => cases ht

/-- A call is cancelled. -/
theorem Governed.fail (h : Governed direct (t ::ₘ rest) done s) {exc : Exn} (he : exc.isException = false) :
    Governed direct rest (done ++ [(m, .error exc)]) s := by
  have hfailed : Failed (done ++ [(m, .error exc)]) := ⟨_, List.mem_append_right _ (List.mem_singleton_self _), nofun⟩
  have hdone : Governed direct (t ::ₘ rest) (done ++ [(m, .error exc)]) s :=
    h.concat (fun _ => h.waits) fun exc' hexc => by cases hexc; exact he
  exact hdone.drop (fun _ => .inr (.inr hfailed)) fun _ => .inr (.inr hfailed)

/-- A call of `stop_session` begins. -/
theorem Governed.stop (h : Governed direct H done s) (hs : s.stopped = false) (d : Instant) :
    Governed direct (.leaving d ::ₘ H) done { s with stopped := true, graceUntil := some d } where
  orderly := by
    refine ⟨h.orderly.signals, h.orderly.alive, h.orderly.patient, h.orderly.graceful.imp_right fun hg x hx => ?_⟩
    obtain ⟨t, ht, -⟩ := hg x hx
    rw [h.grace hs] at ht
    cases ht
  grace := nofun
  pipes := h.pipes
  unsignalled := h.unsignalled
  stages t ht := by
    rcases Multiset.mem_cons.1 ht with rfl | ht
    · exact rfl
    · have hholds := h.stages t ht
      cases t with
      | leaving d =>
        rw [Stage.Holds, h.grace hs] at hholds
        cases hholds
      | terminated pgid d => exact hholds
      | ending => trivial
      | draining => exact hholds.same rfl rfl
  alone := by
    rw [Multiset.countP_cons_of_neg _ (by simp [Stage.closes])]
    exact h.alone
  stopped _ := .inl ⟨d, Multiset.mem_cons_self _ _⟩
  closed hc := by
    rcases h.closed hc with ⟨t, ht, hcl⟩ | hd | hf
    · exact .inl ⟨t, Multiset.mem_cons_of_mem ht, hcl⟩
    · exact .inr (.inl (hd.same rfl rfl))
    · exact .inr (.inr hf)
  begun _ _ _ := .inl rfl
  failed := h.failed

/-- A call of `aclose` begins. -/
theorem Governed.close (h : Governed direct H done s) (hc : s.closed = false) :
    Governed direct (.ending ::ₘ H) done { s with closed := true, stdinClosing := true } where
  orderly := h.orderly.same rfl rfl
  grace := h.grace
  pipes _ := rfl
  unsignalled := nofun
  stages t ht := by
    rcases Multiset.mem_cons.1 ht with rfl | ht
    · trivial
    · have hholds := h.stages t ht
      have hzero : H.countP (·.closes) = 0 := by simpa [hc] using h.alone
      have hnone := Multiset.countP_eq_zero.1 hzero t ht
      cases t with
      | leaving d => exact hholds
      | terminated pgid d => exact absurd rfl hnone
      | ending => trivial
      | draining => exact absurd rfl hnone
  alone := by
    rw [countP_cons_of_closes rfl]
    have halone := h.alone
    rw [hc] at halone
    exact Nat.succ_le_succ halone
  stopped _ := .inr (.inl rfl)
  closed _ := .inl ⟨.ending, Multiset.mem_cons_self _ _, rfl⟩
  begun _ _ _ := .inr rfl
  failed := h.failed

end Steps

/-! ## One call -/

section Programs

variable {direct : Prop} {s : CodexProcess} {m : Call} {γ : Multiset Stage × DoneCalls}

/-- A part of a call, with postconditions of its own. -/
abbrev Goes (direct : Prop) (m : Call) {β : Type} (Q : β → Multiset Stage × DoneCalls → CodexProcess → Prop)
    (X : Exn → Multiset Stage × DoneCalls → CodexProcess → Prop) (t : Res CloseSig Exn CodexProcess β)
    (γ : Multiset Stage × DoneCalls) : Prop :=
  Pool.Heeding (calls direct) (fun _ => stageOf) (Governed direct) m Q X t γ

/-- `SIGTERM` may be sent: no signal was, the subprocess is not known to have exited, and its time is over. -/
structure CodexProcess.Due (direct : Prop) (s : CodexProcess) : Prop where
  sent : s.sent = []
  returncode : s.returncode = none
  graceful : direct ∨ ∃ t, s.graceUntil = some t ∧ t ≤ s.now

theorem CodexProcess.Due.orderly (h : s.Due direct) : (s.signalled .sigterm).Orderly direct := by
  unfold CodexProcess.signalled
  rw [h.sent, h.returncode]
  refine ⟨by simp, by simp, by simp, h.graceful.imp_right fun hg => ?_⟩
  simpa using hg

/-- `SIGKILL` may be sent two seconds after `SIGTERM`. -/
theorem CodexProcess.Orderly.kill (h : s.Orderly direct) {deadline : Instant}
    (ht : Stage.Holds s (.terminated true deadline)) (hd : deadline ≤ s.now) : (s.signalled .sigkill).Orderly direct := by
  obtain ⟨hsent, hpast⟩ := ht
  obtain ⟨x, hs, hx⟩ := List.map_eq_singleton_iff.1 hsent
  have hlate : x.time + 2000000 ≤ s.now := (hpast x (by rw [hs]; exact List.mem_singleton_self x)).trans hd
  have hx' : x ∈ s.sent := by rw [hs]; exact List.mem_singleton_self x
  unfold CodexProcess.signalled
  refine ⟨?_, fun y hy hterm => ?_, fun y hy z hz hterm hkill => ?_, h.graceful.imp_right fun hg y hy => ?_⟩
  · simp [hs, hx]
  · rcases List.mem_append.1 hy with hy | hy
    · exact h.alive y hy hterm
    · obtain rfl := List.mem_singleton.1 hy
      cases hterm
  · simp only [hs, List.singleton_append, List.mem_cons, List.not_mem_nil, or_false] at hy hz
    rcases hy with rfl | rfl
    · rcases hz with rfl | rfl
      · rw [hkill] at hterm
        cases hterm
      · exact hlate
    · cases hterm
  · rcases List.mem_append.1 hy with hy | hy
    · exact hg y hy
    · obtain rfl := List.mem_singleton.1 hy
      obtain ⟨t, ht, hle⟩ := hg x hx'
      exact ⟨t, ht, hle.trans ((Int.le_add_of_nonneg_right (by decide)).trans hlate)⟩

theorem kill_goes {pgid : Bool} {deadline : Instant}
    (h : Governed direct (.terminated pgid deadline ::ₘ γ.1) γ.2 s) (hd : deadline ≤ s.now) :
    Goes direct m (fun _ γ s => Governed direct (.ending ::ₘ γ.1) γ.2 s ∧ s.returncode ≠ none)
      (fun exc γ s => Governed direct (.ending ::ₘ γ.1) γ.2 s ∧ exc.isException = false) (kill pgid s) γ := by
  have hwait : ∀ s₁ : CodexProcess, Governed direct (.ending ::ₘ γ.1) γ.2 s₁ →
      Goes direct m (fun _ γ s => Governed direct (.ending ::ₘ γ.1) γ.2 s ∧ s.returncode ≠ none)
        (fun exc γ s => Governed direct (.ending ::ₘ γ.1) γ.2 s ∧ exc.isException = false)
        ((do ofExcept (← Task.request (S := CloseSig) .wait) : Program Unit) s₁) γ := by
    refine fun s₁ h₁ => Pool.Heeds.request_bind h₁ fun γ' s' x h' hx => ?_
    cases x with
    | ok u => exact ⟨h', hx⟩
    | error exc => exact ⟨h', hx⟩
  unfold kill killpg
  have hclosed := h.next (u := .ending) rfl rfl rfl rfl rfl id h.orderly trivial
  cases pgid with
  | false => exact hwait s hclosed
  | true =>
    have hterm := h.stages _ (Multiset.mem_cons_self _ _)
    simp only [if_true, bind_apply, get_apply, Res.bind_ret]
    cases hg : s.group with
    | false => exact hwait s hclosed
    | true =>
      refine hwait (s.signalled .sigkill) ?_
      exact h.next rfl rfl rfl rfl rfl id (h.orderly.kill hterm hd) trivial

/-- `SIGTERM`, two seconds, and `SIGKILL`. -/
theorem terminate_goes (h : Governed direct (.ending ::ₘ γ.1) γ.2 s) (hd : s.Due direct) :
    Goes direct m (fun _ γ s => Governed direct (.ending ::ₘ γ.1) γ.2 s ∧ s.returncode ≠ none)
      (fun exc γ s => Governed direct (.ending ::ₘ γ.1) γ.2 s ∧ exc.isException = false) (terminate s) γ := by
  have hwait : ∀ (pgid : Bool) (s₁ : CodexProcess),
      Governed direct (.terminated pgid (s₁.now + 2000000) ::ₘ γ.1) γ.2 s₁ →
      Goes direct m (fun _ γ s => Governed direct (.ending ::ₘ γ.1) γ.2 s ∧ s.returncode ≠ none)
        (fun exc γ s => Governed direct (.ending ::ₘ γ.1) γ.2 s ∧ exc.isException = false)
        ((do
          let exited ← ofExcept (← Task.request (S := CloseSig) (.terminated pgid (s₁.now + 2000000)))
          if exited then pure () else kill pgid : Program Unit) s₁) γ := by
    refine fun pgid s₁ h₁ => Pool.Heeds.request_bind h₁ fun γ' s' x h' hx => ?_
    have hclosed := h'.next (u := .ending) rfl rfl rfl rfl rfl id h'.orderly trivial
    cases x with
    | error exc => exact ⟨hclosed, hx⟩
    | ok exited =>
      cases exited with
      | true => exact ⟨hclosed, hx⟩
      | false => exact kill_goes h' hx
  unfold terminate killpg
  simp only [bind_apply, get_apply, Res.bind_ret]
  cases hg : s.group with
  | false =>
    refine hwait false s (h.next rfl rfl rfl rfl rfl id h.orderly ⟨?_, ?_⟩)
    · simp [hd.sent]
    · simp [hd.sent]
  | true =>
    refine hwait true (s.signalled .sigterm) (h.next rfl rfl rfl rfl rfl id hd.orderly ⟨?_, ?_⟩)
    · simp [CodexProcess.signalled, hd.sent]
    · simp [CodexProcess.signalled, hd.sent]

theorem cancelStderr_goes (h : Governed direct (.ending ::ₘ γ.1) γ.2 s) (hr : s.returncode ≠ none) :
    Goes direct m (fun _ γ s => Governed direct γ.1 γ.2 s ∧ s.closed = true) (fun _ _ _ => False) (cancelStderr s) γ := by
  have hclosed := (h.closing rfl).1
  have hdown : s.stderrTask ≠ some .running → s.TornDown := fun ht => ⟨hclosed, hr, h.pipes hclosed, ht⟩
  unfold cancelStderr
  simp only [bind_apply, get_apply, Res.bind_ret]
  have hwait : Goes direct m (fun _ γ s => Governed direct γ.1 γ.2 s ∧ s.closed = true) (fun _ _ _ => False)
      ((do
        modify fun s => { s with stderrTask := some .cancelled }
        let _ ← Task.request (S := CloseSig) .stderrTask : Program Unit) s) γ := by
    let s₁ : CodexProcess := { s with stderrTask := some .cancelled }
    have hdown : s₁.TornDown := ⟨hclosed, hr, h.pipes hclosed, nofun⟩
    have hdraining : Governed direct (.draining ::ₘ γ.1) γ.2 s₁ :=
      h.next rfl rfl rfl rfl rfl id (h.orderly.same rfl rfl) hdown
    refine Pool.Heeds.request_bind hdraining fun γ' s' x h' _ => ?_
    exact ⟨h'.finish (h'.stages _ (Multiset.mem_cons_self _ _)), (h'.closing rfl).1⟩
  cases ht : s.stderrTask with
  | none => exact ⟨h.finish (hdown (by simp [ht])), hclosed⟩
  | some d =>
    cases d with
    | ended => exact ⟨h.finish (hdown (by simp [ht])), hclosed⟩
    | running => exact hwait
    | cancelled => exact hwait

/-- A call may go on to `aclose`. -/
structure CodexProcess.Ready (direct : Prop) (γ : Multiset Stage × DoneCalls) (s : CodexProcess) : Prop where
  again : s.closed = true → Governed direct γ.1 γ.2 s
  first : s.closed = false → Governed direct (.ending ::ₘ γ.1) γ.2 { s with closed := true, stdinClosing := true }
  due : s.closed = false → s.returncode = none → s.Due direct

theorem aclose_goes (h : s.Ready direct γ) :
    Goes direct m (fun _ γ s => Governed direct γ.1 γ.2 s ∧ s.closed = true)
      (fun exc γ s => Governed direct (.ending ::ₘ γ.1) γ.2 s ∧ exc.isException = false) (aclose s) γ := by
  unfold aclose
  simp only [bind_apply, get_apply, Res.bind_ret]
  cases hc : s.closed with
  | true => exact ⟨h.again hc, hc⟩
  | false =>
    have hfirst := h.first hc
    simp only [Bool.false_eq_true, if_false, bind_apply, modify_apply, Res.bind_ret]
    cases hr : s.returncode.isNone with
    | true =>
      have hdue := h.due hc (Option.isNone_iff_eq_none.1 hr)
      refine Pool.Heeds.bind (fun _ γ' s' h' => ?_) (terminate_goes hfirst ⟨hdue.sent, hdue.returncode, hdue.graceful⟩)
      exact (cancelStderr_goes h'.1 h'.2).mono (fun _ _ _ => id) fun _ _ _ => False.elim
    | false =>
      have hexited : s.returncode ≠ none := fun hnone => by simp [hnone] at hr
      exact (cancelStderr_goes hfirst hexited).mono (fun _ _ _ => id) fun _ _ _ => False.elim

theorem waitForExit_goes {timeout : Int} (h : Governed direct (.leaving (s.now + timeout) ::ₘ γ.1) γ.2 s) :
    Goes direct m (fun _ γ s' => Governed direct (.leaving (s.now + timeout) ::ₘ γ.1) γ.2 s' ∧
        (s'.returncode ≠ none ∨ s.now + timeout ≤ s'.now))
      (fun exc γ s' => Governed direct (.leaving (s.now + timeout) ::ₘ γ.1) γ.2 s' ∧ exc.isException = false)
      (waitForExit timeout s) γ := by
  unfold waitForExit
  simp only [bind_apply, get_apply, Res.bind_ret]
  cases hr : s.returncode with
  | some code => exact ⟨h, .inl (by simp [hr])⟩
  | none =>
    refine Pool.Heeds.request_bind h fun γ' s' x h' hx => ?_
    cases x with
    | error exc => exact ⟨h', hx⟩
    | ok exited =>
      cases exited with
      | true => exact ⟨h', .inl hx⟩
      | false => exact ⟨h', .inr hx⟩

/-- The time to exit is over, or the subprocess has exited. -/
theorem Governed.ready {d : Instant} (h : Governed direct (.leaving d ::ₘ γ.1) γ.2 s)
    (hd : s.returncode ≠ none ∨ d ≤ s.now) : s.Ready direct γ where
  again := h.leave
  first hc := by
    have hclose := h.close hc
    rw [Multiset.cons_swap] at hclose
    exact hclose.leave rfl
  due hc hr := ⟨h.unsignalled hc, hr, .inr ⟨d, h.stages _ (Multiset.mem_cons_self _ _), hd.resolve_left (· hr)⟩⟩

theorem stopSession_goes (gracefulTimeout : Int) (h : Governed direct γ.1 γ.2 s) :
    Pool.HeedsAll (calls direct) (fun _ => stageOf) (Governed direct) (.stopSession gracefulTimeout)
      (stopSession gracefulTimeout s) γ := by
  unfold stopSession
  simp only [bind_apply, get_apply, Res.bind_ret]
  cases hs : s.stopped with
  | true => exact h.concat (fun _ => .inl hs) nofun
  | false =>
    simp only [Bool.false_eq_true, if_false, bind_apply, modify_apply, Res.bind_ret]
    let s₁ : CodexProcess := { s with stopped := true, graceUntil := some (s.now + gracefulTimeout) }
    have hwait : Goes direct (.stopSession gracefulTimeout)
        (fun _ γ' s' => Governed direct (.leaving (s.now + gracefulTimeout) ::ₘ γ'.1) γ'.2 s' ∧
          (s'.returncode ≠ none ∨ s.now + gracefulTimeout ≤ s'.now))
        (fun exc γ' s' => Governed direct (.leaving (s.now + gracefulTimeout) ::ₘ γ'.1) γ'.2 s' ∧ exc.isException = false)
        ((do let _ ← waitForExit gracefulTimeout : Program Unit) s₁) γ :=
      Pool.Heeds.bind (fun _ _ _ h' => h') (waitForExit_goes (s := s₁) (h.stop hs _))
    refine Pool.Heeds.bind (fun _ γ' s' h' => ?_)
      (hwait.tryExcept (fun exc _ _ he hx => ?_) fun exc γ' s' _ hx => hx.1.fail hx.2)
    · refine Pool.Heeds.tryExcept (fun exc _ _ he hx => ?_) (fun exc γ'' s'' _ hx => hx.1.fail hx.2)
        ((aclose_goes (h'.1.ready h'.2)).mono (fun _ _ _ h'' => h''.1.concat (fun _ => .inr h''.2) nofun) fun _ _ _ => id)
      rw [hx.2] at he
      cases he
    · rw [hx.2] at he
      cases he

theorem program_goes (h : Governed direct γ.1 γ.2 s) (hs : (calls direct).start s m) :
    Pool.HeedsAll (calls direct) (fun _ => stageOf) (Governed direct) m (program m s) γ := by
  cases m with
  | stopSession gracefulTimeout => exact stopSession_goes gracefulTimeout h
  | aclose =>
    have hready : s.Ready direct γ := ⟨fun _ => h, h.close, fun hc hr => ⟨h.unsignalled hc, hr, .inl hs⟩⟩
    exact (aclose_goes hready).mono (fun _ _ _ h' => h'.1.concat (fun _ => .inr h'.2) nofun) fun _ _ _ hx => hx.1.fail hx.2
  | elapse w => exact (h.elapse hs).concat nofun nofun

end Programs

/-! ## All calls -/

theorem CodexProcess.Fresh.governed {direct : Prop} {s : CodexProcess} (h : s.Fresh) : Governed direct 0 [] s where
  orderly := ⟨by simp [h.sent], by simp [h.sent], by simp [h.sent], by simp [h.sent]⟩
  grace _ := h.graceUntil
  pipes hc := absurd hc (by simp [h.closed])
  unsignalled _ := h.sent
  stages t ht := absurd ht (Multiset.notMem_zero t)
  alone := Nat.zero_le _
  stopped hs := absurd hs (by simp [h.stopped])
  closed hc := absurd hc (by simp [h.closed])
  begun := by simp
  failed := by simp

/-- Nobody has done anything about the subprocess since. -/
structure CodexProcess.Since (s s' : CodexProcess) : Prop where
  passes : s.Passes s'.toOutside
  closed : s'.closed = s.closed
  sent : s'.sent = s.sent

theorem Outside.Passes.trans {w w' w'' : Outside} (h : w.Passes w') (h' : w'.Passes w'') : w.Passes w'' where
  now := h.now.trans h'.now
  returncode hr := by
    have he := h.returncode hr
    rw [← he] at hr ⊢
    exact h'.returncode hr
  stdinClosing hs := h'.stdinClosing (h.stdinClosing hs)
  stderrTask := by
    rcases h.stderrTask with he | ⟨hsome, he⟩
    · rw [← he]
      exact h'.stderrTask
    · rcases h'.stderrTask with he' | ⟨-, he'⟩
      · exact .inr ⟨hsome, he'.trans he⟩
      · exact .inr ⟨hsome, he'⟩

/-- After a `stop_session` has begun, none that begins does anything. -/
theorem stopped_since {s : CodexProcess} (hs : s.stopped = true) {c : Pool.Conf CloseSig Exn CodexProcess Call Unit}
    (h : Pool.Reach program (calls False) (· = s) c) : s.Since c.state := by
  refine (h.rule (J := fun s' => s'.stopped = true ∧ s.Since s') (Z := fun _ _ => True) ?_ ?_).1.2
  · rintro _ rfl
    exact ⟨hs, ⟨le_rfl, fun _ => rfl, id, .inl rfl⟩, rfl, rfl⟩
  · rintro (gracefulTimeout | _ | w) s' ⟨hs', hsince⟩ hstart
    · show Pool.Sound _ _ _ _ (stopSession gracefulTimeout s')
      unfold stopSession
      simp only [bind_apply, get_apply, Res.bind_ret, hs']
      exact ⟨⟨hs', hsince⟩, trivial⟩
    · exact hstart.elim
    · exact ⟨⟨hs', hsince.passes.trans hstart, hsince.closed, hsince.sent⟩, trivial⟩

/-- **The end of a session.** In every run of calls of `stop_session`, and of `aclose` if they are `direct`: the signals are
in order; no call raises anything but its cancellation; when no call waits and none was cancelled, one call at least leaves
nothing running; and whatever a call that was cancelled has left, no `stop_session` after it does anything about it. -/
theorem session_stopped {direct : Prop} {c : Pool.Conf CloseSig Exn CodexProcess Call Unit}
    (h : Pool.Reach program (calls direct) CodexProcess.Fresh c) :
    c.state.Orderly direct ∧
    (∀ p ∈ c.finished, ∀ exc, p.2 = .error exc → exc.isException = false) ∧
    (c.waiting = [] → (∃ p ∈ c.finished, p.1.Closes) → ¬ Failed c.finished → c.state.TornDown) ∧
    (c.waiting = [] → c.state.stopped = true → ∀ c', Pool.Reach program (calls False) (· = c.state) c' →
      c.state.Since c'.state) := by
  have hg : Governed direct (c.holdings fun _ => stageOf) c.finished c.state :=
    (h.heeded (fun _ => CodexProcess.Fresh.governed) fun m rest done s hs hstart => program_goes (γ := (rest, done)) hs hstart).state
  refine ⟨hg.orderly, hg.failed, fun hnone ⟨p, hp, hcl⟩ hall => ?_, fun _ hs c' => stopped_since hs⟩
  have hempty : c.holdings (fun _ => stageOf) = 0 := by simp [Pool.Conf.holdings, hnone]
  rw [hempty] at hg
  have hclosed : c.state.closed = true := by
    rcases hg.begun p hp hcl with hs | hc
    · rcases hg.stopped hs with ⟨d, hd⟩ | hc | hf
      · exact absurd hd (Multiset.notMem_zero _)
      · exact hc
      · exact absurd hf hall
    · exact hc
  rcases hg.closed hclosed with ⟨t, ht, -⟩ | hd | hf
  · exact absurd ht (Multiset.notMem_zero _)
  · exact hd
  · exact absurd hf hall

/-! ## Samples -/

/-- Some microseconds after the launch. -/
def sampleOutside (now : Instant) (returncode : Option Int) (stdinClosing : Bool) : Outside :=
  ⟨now, returncode, true, stdinClosing, some .running⟩

def sampleProcess : CodexProcess := ⟨sampleOutside 0 none false, false, false, none, []⟩

/-- The deadlines pass, and the subprocess has exited in the end. -/
def sampleLate : (r : CloseReq) → CloseSig.Ans r
  | .exit _ => .ok false
  | .terminated .. => .ok false
  | .wait => .ok ()
  | .stderrTask => .ok ()

def sampleCancelled : (r : CloseReq) → CloseSig.Ans r
  | .exit _ => .error .cancelled
  | .terminated .. => .error .cancelled
  | .wait => .error .cancelled
  | .stderrTask => .error .cancelled

/-- One session is stopped with both signals; the call for another is cancelled while the subprocess may exit by itself,
and no `stop_session` sends it a signal any more. -/
theorem session_stopped_sample :
    (∃ c, Pool.Reach program (calls False) CodexProcess.Fresh c ∧
      c.state.sent.map Sent.signal = [.sigterm, .sigkill] ∧ c.state.TornDown) ∧
    ∃ c, Pool.Reach program (calls False) CodexProcess.Fresh c ∧ Failed c.finished ∧
      ∀ c', Pool.Reach program (calls False) (· = c.state) c' → c'.state.sent = [] := by
  have hinit : Pool.Reach program (calls False) CodexProcess.Fresh ⟨sampleProcess, [], []⟩ := .init ⟨rfl, rfl, rfl, rfl⟩
  have hstart := hinit.step (l := Pool.Label.start (Call.stopSession 5000000)) (by exact trivial) rfl
  constructor
  · -- five seconds, `SIGTERM`, two seconds, `SIGKILL`, and its exit
    have h₁ := hstart.step (l := Pool.Label.start (Call.elapse (sampleOutside 5000000 none false)))
      (by exact ⟨by decide, fun hr => absurd rfl hr, id, .inl rfl⟩) rfl
    have h₂ := h₁.step (l := Pool.Label.resume 0 sampleLate) (fun t ht => by cases ht; exact le_rfl) rfl
    have h₃ := h₂.step (l := Pool.Label.start (Call.elapse (sampleOutside 7000000 none true)))
      (by exact ⟨by decide, fun hr => absurd rfl hr, id, .inl rfl⟩) rfl
    have h₄ := h₃.step (l := Pool.Label.resume 0 sampleLate) (fun t ht => by cases ht; exact le_rfl) rfl
    have h₅ := h₄.step (l := Pool.Label.start (Call.elapse (sampleOutside 7000000 (some (-9)) true)))
      (by exact ⟨by decide, fun hr => absurd rfl hr, id, .inl rfl⟩) rfl
    have h₆ := h₅.step (l := Pool.Label.resume 0 sampleLate) (fun t ht => by cases ht; exact nofun) rfl
    have h₇ := h₆.step (l := Pool.Label.resume 0 sampleLate) (fun t ht => by cases ht; exact trivial) rfl
    obtain ⟨c, h, hfinished, hwaiting, hsent⟩ : ∃ c, Pool.Reach program (calls False) CodexProcess.Fresh c ∧
        (∃ before, c.finished = before ++ [(.stopSession 5000000, .ok ())] ∧ ∀ p ∈ before, p.2 = .ok ()) ∧
        c.waiting = [] ∧ c.state.sent.map Sent.signal = [.sigterm, .sigkill] := by
      refine ⟨_, h₇, ⟨[(.elapse _, .ok ()), (.elapse _, .ok ()), (.elapse _, .ok ())], rfl, ?_⟩, rfl, rfl⟩
      simp
    obtain ⟨before, hbefore, hok⟩ := hfinished
    have hmem : (Call.stopSession 5000000, .ok ()) ∈ c.finished := by
      rw [hbefore]
      simp
    refine ⟨c, h, hsent, (session_stopped h).2.2.1 hwaiting ⟨_, hmem, trivial⟩ ?_⟩
    rintro ⟨p, hp, hne⟩
    rw [hbefore] at hp
    rcases List.mem_append.1 hp with hp | hp
    · exact hne (hok p hp)
    · rw [List.mem_singleton.1 hp] at hne
      exact hne rfl
  · have h := hstart.step (l := Pool.Label.resume 0 sampleCancelled) (fun t ht => by cases ht; exact rfl) rfl
    refine ⟨_, h, ⟨_, List.mem_singleton_self _, nofun⟩, fun c' h' => ?_⟩
    exact ((session_stopped h).2.2.2 rfl rfl c' h').sent

end Closing

end RiverGang
