import RiverGang.Errors
import RiverGang.Workspace.Types

/-!
# Hooks

`run_hook` of `workspace/hooks.py`, but for the captured output. A hook that is blank is skipped without any process, if
its timeout is positive (`runHook_blank`).
-/

namespace RiverGang

open Py Coop Task

/-- `HookResult.skipped()` -/
def HookResult.skipped : HookResult := ⟨none, 0, false, true⟩

/-- What a hook waits for, and the signals to its process group. -/
inductive HookReq
  | createSubprocess (script cwd : Str)
  /-- `proc.communicate()`, up to a deadline if there is one -/
  | communicate (timeoutMs : Option Int)
  /-- `SIGTERM` -/
  | terminate
  /-- `SIGKILL`; no such group, or no permission, is suppressed -/
  | kill

@[reducible] def HookSig : Sig where
  Req := HookReq
  Ans
    | .createSubprocess .. => Except Exn Unit
    -- the return code, or `none` if the deadline comes first
    | .communicate _ => Except Exn (Option Int)
    -- whether there is a group that may be signalled
    | .terminate => Except Exn Bool
    | .kill => Except Exn Unit

/-- The state is `time.monotonic()`, in microseconds. -/
abbrev Hooking := Task HookSig Exn Int

/-- `_kill_process_group` -/
def killProcessGroup : Hooking Unit := do
  let found ← ofExcept (← Task.request (S := HookSig) .terminate)
  match ← ofExcept (← Task.request (S := HookSig) (.communicate (some 2000))) with
  | some _ => pure ()
  | none =>
    if found then ofExcept (← Task.request (S := HookSig) .kill)
    match ← Task.request (S := HookSig) (.communicate none) with
    | .ok _ => pure ()
    | .error exc => onException exc (pure ())

def runHook (script : Option Str) (cwd : Str) (timeoutMs : Int) : Hooking HookResult :=
  if timeoutMs ≤ 0 then
    raise ⟨.valueError, py "timeout_ms must be a positive integer, got " ++ decimalInt timeoutMs⟩
  else
    match script.filter (strip · ≠ []) with
    | none => pure .skipped
    | some script => do
      let start ← get
      ofExcept (← Task.request (S := HookSig) (.createSubprocess script cwd))
      if FloatFits timeoutMs then
        match ← ofExcept (← Task.request (S := HookSig) (.communicate (some timeoutMs))) with
        | some returncode =>
          let now ← get
          pure ⟨some returncode, (now - start) / 1000, false, false⟩
        | none =>
          killProcessGroup
          let now ← get
          pure ⟨none, (now - start) / 1000, true, false⟩
      else raise ⟨.overflowError, py "int too large to convert to float"⟩

/-- No script, or nothing but whitespace. -/
def Blank (script : Option Str) : Prop := script.filter (strip · ≠ []) = none

theorem runHook_blank {script : Option Str} {timeoutMs : Int} (hb : Blank script) (ht : 0 < timeoutMs) (cwd : Str) :
    runHook script cwd timeoutMs = Pure.pure HookResult.skipped := by
  unfold runHook
  rw [if_neg (by omega), hb]

end RiverGang
