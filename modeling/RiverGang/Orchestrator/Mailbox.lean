import RiverGang.Codex.Usage
import RiverGang.Config.Schema

/-!
# The mailbox

The messages of `orchestrator/mailbox.py`; the mailbox is the list of those not yet received, oldest first.

Two fields are not in the source and nothing computes with them: `WorkerExit.about`, the task that an exit is about, and
`RetryTimerFired.timer`, the timer that posted it. They are there to say which exit or timer a message belongs to.
-/

namespace RiverGang

open Py

structure WorkerExit where
  issueId : Str
  reason : Str
  ok : Bool
  runtimeSeconds : Int
  lastError : Option Str
  about : Nat
  deriving DecidableEq

structure CodexUpdate where
  issueId : Str
  event : RuntimeEvent

structure RetryTimerFired where
  issueId : Str
  timer : Nat
  deriving DecidableEq

inductive Message
  | pollTick
  | workerExit (msg : WorkerExit)
  | codexUpdate (msg : CodexUpdate)
  | retryTimerFired (msg : RetryTimerFired)
  | configReloaded (config : EffectiveConfig)
  | shutdown

namespace Message

/-- The exit that a message is. -/
def exit? : Message → Option WorkerExit
  | .workerExit x => some x
  | _ => none

/-- The retry that a message is for. -/
def retry? : Message → Option RetryTimerFired
  | .retryTimerFired x => some x
  | _ => none

theorem retry?_eq_some {m : Message} {x : RetryTimerFired} (h : m.retry? = some x) : m = .retryTimerFired x := by
  cases m <;> cases h
  rfl

end Message

end RiverGang
