import RiverGang.Orchestrator.World

/-!
# The retry queue

`orchestrator/retry.py`: `schedule` replaces whatever was scheduled for the issue, `cancel` also stops the timer, `pop`
does not. `schedule_ret` and `schedule_cases` say all that `schedule` can come to; it raises only where a delay has no
float or takes the clock out of the range of dates.
-/

namespace RiverGang

open Py Coop Task

def CONTINUATION_DELAY_MS : Int := 1000

def FAILURE_BASE_MS : Int := 10000

def computeBackoffMs (attempt : Nat) (maxCapMs : Int) : Except Exn Int :=
  if attempt < 1 then .error ⟨.valueError, py "attempt must be >= 1, got " ++ decimal attempt⟩
  else .ok (min (FAILURE_BASE_MS * 2 ^ (attempt - 1)) maxCapMs)

/-- `call_later(delay_ms / 1000.0, …)` -/
def callLater (delayMs : Int) (callback : Callback) : Orch Nat := do
  if FloatFits delayMs then
    let w ← get
    modify (·.callLater delayMs callback)
    pure w.nextHandle
  else
    raise ⟨.overflowError, py "int too large to convert to float"⟩

/-- `at + timedelta(milliseconds=ms)` -/
def addMs (start : Instant) (ms : Int) : Except Exn Instant :=
  if 0 ≤ start + ms * 1000 ∧ start + ms * 1000 ≤ MAX_INSTANT then .ok (start + ms * 1000)
  else .error ⟨.overflowError, py "date value out of range"⟩

namespace World

/-- `RetryQueue.pop` -/
def popRetry (w : World) (issueId : Str) : World := { w with retryQueue := w.retryQueue.erase issueId }

/-- `RetryQueue.cancel`; where there is no entry there is no timer to stop either. -/
def cancelRetry (w : World) (issueId : Str) : World :=
  { w with
    retryQueue := w.retryQueue.erase issueId
    timers := w.timers.filter fun t => (w.retryQueue.get? issueId).all fun entry => entry.timerHandle ≠ t.handle }

end World

namespace RetryQueue

def delayMs (kind : RetryKind) (attempt : Nat) (maxCapMs : Int) : Except Exn Int :=
  match kind with
  | .continuation => .ok CONTINUATION_DELAY_MS
  | .failure => computeBackoffMs attempt maxCapMs

def schedule (issueId : Str) (attempt : Nat) (kind : RetryKind) (maxCapMs : Int) (onFire : Str → Callback)
    (lastError : Option Str) : Orch Unit := do
  let delay ← ofExcept (delayMs kind attempt maxCapMs)
  modify (·.cancelRetry issueId)
  let timerHandle ← callLater delay (onFire issueId)
  let w ← get
  let fireAt ← ofExcept (addMs w.now delay)
  let entry : RetryEntry := ⟨issueId, attempt, kind, w.now, fireAt, timerHandle, lastError⟩
  modify fun w => { w with retryQueue := w.retryQueue.insert issueId entry }

end RetryQueue

/-! ## What scheduling comes to -/

namespace World

/-- The entry that scheduling with a delay puts in the queue. -/
def retryEntry (w : World) (issueId : Str) (attempt : Nat) (kind : RetryKind) (delay : Int) (lastError : Option Str) :
    RetryEntry :=
  ⟨issueId, attempt, kind, w.now, w.now + delay * 1000, w.nextHandle, lastError⟩

/-- The world after scheduling with a delay. -/
def scheduled (w : World) (issueId : Str) (attempt : Nat) (kind : RetryKind) (delay : Int) (onFire : Str → Callback)
    (lastError : Option Str) : World :=
  let w' := (w.cancelRetry issueId).callLater delay (onFire issueId)
  { w' with retryQueue := w'.retryQueue.insert issueId (w.retryEntry issueId attempt kind delay lastError) }

/-- What an exception in scheduling leaves: the same world, but for the timers and an entry of the issue. -/
def Unscheduled (w : World) (issueId : Str) (w' : World) : Prop :=
  ∃ q ts n, w' = { w with retryQueue := q, timers := ts, nextHandle := n } ∧
    ∀ j, q.get? j = w.retryQueue.get? j ∨ issueId = j ∧ q.get? j = none

theorem unscheduled_refl (w : World) (i : Str) : w.Unscheduled i w := ⟨_, _, _, rfl, fun _ => .inl rfl⟩

theorem unscheduled_cancelRetry (w : World) (i : Str) : w.Unscheduled i (w.cancelRetry i) := by
  refine ⟨_, _, _, rfl, fun j => ?_⟩
  rw [Dict.get?_erase]
  split
  · rename_i h
    exact .inr ⟨h, rfl⟩
  · exact .inl rfl

theorem get?_scheduled (w : World) (i : Str) (n : Nat) (k : RetryKind) (d : Int) (f : Str → Callback) (e : Option Str)
    (j : Str) : (w.scheduled i n k d f e).retryQueue.get? j =
      if i = j then some (w.retryEntry i n k d e) else w.retryQueue.get? j := by
  change ((w.retryQueue.erase i).insert i _).get? j = _
  rw [Dict.get?_insert]
  split
  · rfl
  · rename_i h
    exact Dict.get?_erase_of_ne _ h

theorem get?_scheduled_self {i j : Str} (h : i = j) (w : World) (n : Nat) (k : RetryKind) (d : Int) (f : Str → Callback)
    (e : Option Str) : (w.scheduled i n k d f e).retryQueue.get? j = some (w.retryEntry i n k d e) := by
  rw [get?_scheduled, if_pos h]

end World

namespace RetryQueue

variable {issueId : Str} {attempt : Nat} {kind : RetryKind} {cap : Int} {onFire : Str → Callback}
  {lastError : Option Str}

/-- A delay that can be scheduled at an instant. -/
def DelayFits (now : Instant) (delay : Int) : Prop :=
  FloatFits delay ∧ 0 ≤ now + delay * 1000 ∧ now + delay * 1000 ≤ MAX_INSTANT

/-- A delay that fits is scheduled. -/
theorem schedule_ok {w : World} {delay : Int} (hd : delayMs kind attempt cap = .ok delay)
    (hf : DelayFits w.now delay) :
    schedule issueId attempt kind cap onFire lastError w =
      .ret () (w.scheduled issueId attempt kind delay onFire lastError) := by
  have ha : addMs w.now delay = .ok (w.now + delay * 1000) := if_pos hf.2
  simp only [schedule, bind_apply, hd, ofExcept_ok, pure_apply, Res.bind_ret, modify_apply, callLater, hf.1, if_true,
    get_apply, World.callLater, World.cancelRetry, ha, World.scheduled, World.retryEntry]

/-- Scheduling comes to an entry in the queue, or raises. -/
theorem schedule_cases (issueId : Str) (attempt : Nat) (kind : RetryKind) (cap : Int) (onFire : Str → Callback)
    (lastError : Option Str) (w : World) :
    (∃ delay, delayMs kind attempt cap = .ok delay ∧ DelayFits w.now delay ∧
      schedule issueId attempt kind cap onFire lastError w =
        .ret () (w.scheduled issueId attempt kind delay onFire lastError)) ∨
    ((∀ delay, delayMs kind attempt cap = .ok delay → ¬ DelayFits w.now delay) ∧
      ∃ e w', schedule issueId attempt kind cap onFire lastError w = .raise e w' ∧
        w.Unscheduled issueId w') := by
  cases hd : delayMs kind attempt cap with
  | error e =>
    refine .inr ⟨fun _ h => by simp at h, e, w, ?_, w.unscheduled_refl issueId⟩
    simp [schedule, hd]
  | ok delay =>
    by_cases hf : DelayFits w.now delay
    · exact .inl ⟨delay, rfl, hf, schedule_ok hd hf⟩
    · refine .inr ⟨fun d h => by cases h; exact hf, ?_⟩
      by_cases hfl : FloatFits delay
      · have ha : ∃ e, addMs w.now delay = .error e := ⟨_, if_neg fun h => hf ⟨hfl, h⟩⟩
        obtain ⟨e, ha⟩ := ha
        refine ⟨e, (w.cancelRetry issueId).callLater delay (onFire issueId), ?_, ?_⟩
        · simp [schedule, hd, callLater, hfl, World.callLater, World.cancelRetry, ha]
        · obtain ⟨q, ts, n, hw, hq⟩ := w.unscheduled_cancelRetry issueId
          exact ⟨q, _, _, by rw [hw]; rfl, hq⟩
      · refine ⟨⟨.overflowError, py "int too large to convert to float"⟩, w.cancelRetry issueId, ?_,
          w.unscheduled_cancelRetry issueId⟩
        simp [schedule, hd, callLater, hfl]

theorem schedule_sync (w : World) : (schedule issueId attempt kind cap onFire lastError w).Sync := by
  rcases schedule_cases issueId attempt kind cap onFire lastError w with ⟨d, -, -, hs⟩ | ⟨-, e, w', hs, -⟩ <;>
    rw [hs] <;> trivial

/-- What scheduling left, if it returned. -/
theorem schedule_ret {w w' : World} (h : schedule issueId attempt kind cap onFire lastError w = .ret () w') :
    ∃ delay, delayMs kind attempt cap = .ok delay ∧ w' = w.scheduled issueId attempt kind delay onFire lastError := by
  rcases schedule_cases issueId attempt kind cap onFire lastError w with ⟨d, hd, -, hs⟩ | ⟨-, e, w'', hs, -⟩
  · rw [hs] at h
    cases h
    exact ⟨d, hd, rfl⟩
  · rw [hs] at h
    cases h

/-- What scheduling left, if it raised. -/
theorem schedule_raise {w w' : World} {e : Exn} (h : schedule issueId attempt kind cap onFire lastError w = .raise e w') :
    w.Unscheduled issueId w' ∧ ∀ delay, delayMs kind attempt cap = .ok delay → ¬ DelayFits w.now delay := by
  rcases schedule_cases issueId attempt kind cap onFire lastError w with ⟨d, -, -, hs⟩ | ⟨hd, e', w'', hs, hu⟩
  · rw [hs] at h
    cases h
  · rw [hs] at h
    cases h
    exact ⟨hu, hd⟩

end RetryQueue

end RiverGang
