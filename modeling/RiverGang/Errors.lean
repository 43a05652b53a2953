import RiverGang.Lib.Py
import RiverGang.Lib.Task

/-!
# Exceptions

The exception classes that the modelled handlers tell apart, and `Exn`, a raised exception with its text. `isException`
is what `except Exception` catches: everything but a cancellation and its like.
-/

namespace RiverGang

open Py Coop

inductive ExnClass
  | typeError
  | valueError
  | overflowError
  | unicodeEncodeError
  /-- `asyncio.CancelledError`, and what else derives from `BaseException` only -/
  | cancelledError
  /-- `tracker/errors.py`, the classes that nobody tells apart, and the one for a state that a team does not have -/
  | linearError
  | linearStateNotFound
  /-- `prompt/errors.py` -/
  | promptError
  /-- `workspace/manager.py` -/
  | workspaceManagerError
  /-- `codex/errors.py`, the classes without a handler of their own -/
  | codexError
  | turnFailed
  | turnCancelled
  | turnTimeout
  | portExit
  | other
  deriving DecidableEq

structure Exn where
  cls : ExnClass
  /-- `str(exc)` -/
  msg : Str
  deriving DecidableEq

namespace Exn

/-- `except Exception` -/
def isException (e : Exn) : Bool := e.cls != .cancelledError

/-- `except CodexError` -/
def isCodexError (e : Exn) : Bool :=
  e.cls == .codexError || e.cls == .turnFailed || e.cls == .turnCancelled || e.cls == .turnTimeout || e.cls == .portExit

def ofBuiltin : BuiltinError → Exn
  | .typeError m => ⟨.typeError, m⟩
  | .valueError m => ⟨.valueError, m⟩
  | .overflowError m => ⟨.overflowError, m⟩
  | .unicodeEncodeError m => ⟨.unicodeEncodeError, m⟩

def cancelled : Exn := ⟨.cancelledError, []⟩

@[simp] theorem isException_ofBuiltin (e : BuiltinError) : (ofBuiltin e).isException = true := by cases e <;> rfl

end Exn

/-- Pass a built-in operation's exception on. -/
def liftPy {α : Type} (x : Except BuiltinError α) : Except Exn α := x.mapError Exn.ofBuiltin

/-- `except Exception:` of a call that raised `exc`. -/
def onException {S : Sig} {σ α : Type} (exc : Exn) (handler : Task S Exn σ α) : Task S Exn σ α :=
  if exc.isException then handler else Task.raise exc

end RiverGang
