import RiverGang.Lib.Dict
import RiverGang.Workspace.Safety
import RiverGang.Workspace.Types

/-!
# The workspace manager

`workspace/manager.py`: creating, reusing and deleting the directory of an issue, with the lock of its identifier.

A call suspends on the lock, on the clone of the repository and on the hooks; by the time it goes on the files may be any.
What the calls of `pathlib` and `shutil` do to the files is up to `Os`. `_locks_lock` is left out: it is never contended,
for nobody suspends while he has it.
-/

namespace RiverGang

open Py Coop Task

/-! ## Files -/

inductive FileKind
  | dir
  | other
  deriving DecidableEq

/-- What is where, by resolved paths. -/
abbrev Files := Path → Option FileKind

/-- The calls that look at the files or change them; any may fail, half-way too. -/
structure Os where
  /-- what `exists` and `is_dir` go by -/
  stat : Path → Files → Except Exn (Option FileKind)
  /-- `path.parent.mkdir(parents=True, exist_ok=True)` -/
  makeParents : Path → Files → Files × Option Exn
  /-- `path.mkdir()` -/
  makeDir : Path → Files → Files × Option Exn
  /-- `shutil.rmtree(path)`, which does not follow links -/
  removeTree : Path → Files → Files × Option Exn
  removeTree_within : ∀ p files q, ¬ p ≤ q → (removeTree p files).1 q = files q

/-! ## The manager -/

structure AsyncLock where
  locked : Bool
  waiters : Nat

/-- A directory was entered, with the lock of the identifier, while others were in theirs. -/
structure Use where
  identifier : Str
  path : Path
  others : List (Str × Path)

/-- A `rmtree` for an identifier, with the files before and after. -/
structure Removal where
  identifier : Str
  path : Path
  before : Files
  after : Files

structure WorkspaceManager where
  files : Files
  /-- `_locks` -/
  locks : Dict Str AsyncLock
  /-- not in the source: the directories that are in use, the entries into them and the removals so far -/
  inUse : List (Str × Path)
  uses : List Use
  removals : List Removal

namespace WorkspaceManager

def lock (s : WorkspaceManager) (identifier : Str) : AsyncLock := (s.locks.get? identifier).getD ⟨false, 0⟩

def setLock (s : WorkspaceManager) (identifier : Str) (lock : AsyncLock) : WorkspaceManager :=
  { s with locks := s.locks.insert identifier lock }

/-- Take the lock. -/
def locked (s : WorkspaceManager) (identifier : Str) : WorkspaceManager :=
  s.setLock identifier { s.lock identifier with locked := true }

def enter (s : WorkspaceManager) (identifier : Str) (path : Path) : WorkspaceManager :=
  { s with inUse := s.inUse ++ [(identifier, path)], uses := s.uses ++ [⟨identifier, path, s.inUse⟩] }

/-- Give the lock back. -/
def left (s : WorkspaceManager) (identifier : Str) (path : Path) : WorkspaceManager :=
  WorkspaceManager.setLock { s with inUse := s.inUse.erase (identifier, path) } identifier
    { s.lock identifier with locked := false }

end WorkspaceManager

inductive ManagerReq
  | acquire (identifier : Str)
  | populate (repository : Str) (path : Path)
  | runHook (script : Str) (cwd : Path) (timeoutMs : Int)

@[reducible] def ManagerReq.Value : ManagerReq → Type
  | .acquire _ => Unit
  | .populate .. => Unit
  | .runHook .. => HookResult

/-- An answer comes with the files as they are by then. -/
@[reducible] def ManagerSig : Sig where
  Req := ManagerReq
  Ans r := Except Exn r.Value × Files

abbrev Managing := Task ManagerSig Exn WorkspaceManager

namespace Managing

def wait (r : ManagerReq) : Managing (Except Exn r.Value) := do
  let answer ← Task.request (S := ManagerSig) r
  modify fun s => { s with files := answer.2 }
  pure answer.1

/-- `lock.acquire()` of the lock of an identifier, which does not suspend if the lock is free and nobody waits for it. -/
def acquire (identifier : Str) : Managing Unit := do
  let s ← get
  if (s.lock identifier).locked || (s.lock identifier).waiters ≠ 0 then
    modify fun s => s.setLock identifier { s.lock identifier with waiters := (s.lock identifier).waiters + 1 }
    let answer ← wait (.acquire identifier)
    modify fun s => s.setLock identifier { s.lock identifier with waiters := (s.lock identifier).waiters - 1 }
    ofExcept answer
    modify fun s => s.locked identifier
  else
    modify fun s => s.locked identifier

/-- `async with await self._lock_for(identifier)` -/
def withLock {α : Type} (identifier : Str) (path : Path) (body : Managing α) : Managing α := do
  acquire identifier
  modify fun s => s.enter identifier path
  finallyDo body (modify fun s => s.left identifier path)

def fileCall (f : Files → Files × Option Exn) : Managing Unit := do
  let s ← get
  modify fun s => { s with files := (f s.files).1 }
  match (f s.files).2 with
  | some exc => raise exc
  | none => pure ()

end Managing

section Manager

variable (os : Os)

/-- `shutil.rmtree`, with what it raised. -/
def Managing.rmtree (identifier : Str) (path : Path) : Managing (Option Exn) := do
  let s ← get
  let removal : Removal := ⟨identifier, path, s.files, (os.removeTree path s.files).1⟩
  modify fun s => { s with files := (os.removeTree path s.files).1, removals := s.removals ++ [removal] }
  pure (os.removeTree path s.files).2

variable [Builtins]

/-- `WorkspaceHookFailed` -/
def hookFailed (scriptName : Str) (result : HookResult) : Exn :=
  let summary := if result.timedOut then py "timeout after " ++ decimalInt result.durationMs ++ py "ms"
    else py "exit_code=" ++ result.exitCode.elim (py "None") decimalInt
  ⟨.workspaceManagerError, py "workspace hook " ++ Builtins.repr (.str scriptName) ++ py " failed (" ++ summary ++ py ")"⟩

/-- `WorkspaceNotADirectory` -/
def notADirectory (path : Path) : Exn :=
  ⟨.workspaceManagerError, py "expected workspace at " ++ path.str ++ py ", found non-directory"⟩

/-- `WorkspaceRepositoryFailed` -/
def repositoryFailed (repository : Str) (exc : Exn) : Exn :=
  ⟨.workspaceManagerError,
    py "failed to populate workspace from repository " ++ Builtins.repr (.str repository) ++ py ": " ++ exc.msg⟩

variable (resolve : Path → Path) (config : EffectiveConfig)

/-- `_populate_workspace` -/
def populateWorkspace (path : Path) : Managing Unit :=
  match config.workspace.repository.filter (strip · ≠ []) with
  | none => Managing.fileCall (os.makeDir path)
  | some repository => do
    match ← Managing.wait (.populate repository path) with
    | .ok () => pure ()
    | .error exc => onException exc (raise (repositoryFailed repository exc))

/-- `_maybe_run_after_create` -/
def maybeRunAfterCreate (path : Path) : Managing Unit :=
  match config.hooks.afterCreate.filter (strip · ≠ []) with
  | none => pure ()
  | some script => do
    let result ← ofExcept (← Managing.wait (.runHook script path config.hooks.timeoutMs))
    if result.ok then pure () else raise (hookFailed (py "after_create") result)

omit [Builtins] in
/-- `_maybe_run_before_remove`: a failed hook is logged only. -/
def maybeRunBeforeRemove (path : Path) : Managing Unit :=
  match config.hooks.beforeRemove.filter (strip · ≠ []) with
  | none => pure ()
  | some script => do
    let _ ← ofExcept (← Managing.wait (.runHook script path config.hooks.timeoutMs))
    pure ()

/-- What `ensure_for_issue` does with the lock. -/
def ensureLocked (identifier : Str) (path : Path) : Managing EnsureResult := do
  let s ← get
  match ← ofExcept (os.stat path s.files) with
  | some .dir => pure ⟨path.str, false⟩
  | some .other => raise (notADirectory path)
  | none =>
    Managing.fileCall (os.makeParents path)
    tryExcept Exn.isException
      (do
        populateWorkspace os config path
        maybeRunAfterCreate config path)
      (fun exc => do
        let _ ← Managing.rmtree os identifier path
        raise exc)
    pure ⟨path.str, true⟩

def ensureForIssue (identifier : Str) : Managing EnsureResult := do
  let path ← ofExcept ((pathForIssue resolve config identifier).mapError WorkspaceSafetyError.exn)
  Managing.withLock identifier path (ensureLocked os config identifier path)

omit [Builtins] in
/-- What `cleanup_for_issue` does with the lock. -/
def cleanupLocked (identifier : Str) (path : Path) : Managing Unit := do
  let s ← get
  match ← ofExcept (os.stat path s.files) with
  | none => pure ()
  | some _ =>
    maybeRunBeforeRemove config path
    match ← Managing.rmtree os identifier path with
    | none => pure ()
    | some exc => raise exc

def cleanupForIssue (identifier : Str) : Managing Unit := do
  let path ← ofExcept ((pathForIssue resolve config identifier).mapError WorkspaceSafetyError.exn)
  Managing.withLock identifier path (cleanupLocked os config identifier path)

inductive WorkspaceCall
  | ensure (identifier : Str)
  | cleanup (identifier : Str)

def WorkspaceCall.identifier : WorkspaceCall → Str
  | .ensure identifier => identifier
  | .cleanup identifier => identifier

/-- A call of the manager; only `ensure_for_issue` has a result. -/
def workspaceCall : WorkspaceCall → Managing (Option EnsureResult)
  | .ensure identifier => do
    let result ← ensureForIssue os resolve config identifier
    pure (some result)
  | .cleanup identifier => do
    cleanupForIssue os resolve config identifier
    pure none

end Manager

/-! ## Samples -/

/-- A disk on which nothing fails. -/
def Os.plain : Os where
  stat p files := .ok (files p)
  makeParents p files := (fun q => if q < p then some .dir else files q, none)
  makeDir p files := (fun q => if q = p then some .dir else files q, none)
  removeTree p files := (fun q => if p ≤ q then none else files q, none)
  removeTree_within _ _ _ h := if_neg h

/-- The directory of one issue is there. -/
def sampleManager : WorkspaceManager :=
  ⟨fun p => if p = .parse (py "/tmp/ws/RG-1") then some .dir else none, ∅, [], [], []⟩

end RiverGang
