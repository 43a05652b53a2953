import RiverGang.Workspace.Safety

/-!
# Launching the app server

`CodexProcess.launch` of `codex/process.py`, and of `orchestrator/startup.py` the factory that every attempt and the
clarification gate get their client from. What starting the process comes to is a parameter.
-/

namespace RiverGang

open Py

/-- What `create_subprocess_exec` comes to. -/
inductive Spawned (π : Type)
  | process (p : π)
  | fileNotFound (msg : Str)
  | failed (exc : Exn)

inductive LaunchError
  | invalidWorkspaceCwd (msg : Str)
  | codexNotFound (msg : Str)
  | failed (exc : Exn)

variable {π : Type} (resolve : Path → Path) (spawn : Str → Path → Spawned π)

/-- `CodexProcess.launch`; the command is run in the resolved directory. -/
def CodexProcess.launch (command : Str) (cwd workspaceRoot : Path) : Except LaunchError π :=
  match validateWithinRoot resolve workspaceRoot cwd with
  | .error (.workspaceOutsideRoot msg) => .error (.invalidWorkspaceCwd msg)
  | .error exc => .error (.failed exc.exn)
  | .ok resolvedCwd =>
    match spawn command resolvedCwd with
    | .process p => .ok p
    | .fileNotFound msg => .error (.codexNotFound (py "bash not found: " ++ msg))
    | .failed exc => .error (.failed exc)

/-- The factory of `build_default_per_worker_codex_factory`, up to the client that it makes of the process. -/
def perWorkerCodexFactory (workspacePath : Path) (config : EffectiveConfig) : Except LaunchError π :=
  CodexProcess.launch resolve spawn config.codex.command workspacePath (.parse config.workspace.root)

/-- The directory passes the check of the factory. -/
def Admits (config : EffectiveConfig) (workspacePath : Path) : Prop :=
  resolve (.parse config.workspace.root) ≤ resolve workspacePath

/-- It lies inside that root, and no launch there is refused for it. -/
def LaunchesIn (config : EffectiveConfig) (workspacePath : Path) : Prop :=
  Admits resolve config workspacePath ∧
    ∀ msg, perWorkerCodexFactory resolve spawn workspacePath config ≠ .error (.invalidWorkspaceCwd msg)

variable {resolve spawn} {config : EffectiveConfig} {workspacePath : Path}

theorem launchesIn_of_admits (h : Admits resolve config workspacePath) :
    LaunchesIn resolve spawn config workspacePath := by
  refine ⟨h, fun msg he => ?_⟩
  unfold Admits at h
  unfold perWorkerCodexFactory CodexProcess.launch at he
  rw [validateWithinRoot_eq, if_pos h] at he
  cases hs : spawn config.codex.command (resolve workspacePath) <;> simp [hs] at he

theorem perWorkerCodexFactory_refused (h : ¬ Admits resolve config workspacePath) :
    perWorkerCodexFactory resolve spawn workspacePath config = .error (.invalidWorkspaceCwd
      (py "candidate path " ++ (resolve workspacePath).str ++ py " is outside workspace root " ++
        (resolve (.parse config.workspace.root)).str)) := by
  unfold Admits at h
  unfold perWorkerCodexFactory CodexProcess.launch
  rw [validateWithinRoot_eq, if_neg h]

end RiverGang
