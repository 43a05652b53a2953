import RiverGang.Lib.Py

/-!
# What workspaces and hooks come to

`EnsureResult` of `workspace/manager.py`, with the path as text, and `HookResult` of `workspace/hooks.py`, but for the
captured output.
-/

namespace RiverGang

open Py

structure EnsureResult where
  path : Str
  createdNow : Bool
  deriving DecidableEq

structure HookResult where
  exitCode : Option Int
  durationMs : Int
  timedOut : Bool
  isSkipped : Bool

def HookResult.ok (r : HookResult) : Bool := !r.isSkipped && !r.timedOut && r.exitCode == some 0

end RiverGang
