import RiverGang.Worker.Attempt
import RiverGang.Workspace.Hooks
import RiverGang.Workspace.Manager

/-!
# Blank hooks

The four places that run a hook, where its script is missing or blank. The manager does not look at a blank script
further, and the hook after a run is skipped to no effect. The hook before a run is tested for emptiness only: one that
is blank and not empty is skipped too, but a skipped hook is not ok, and the attempt fails (`blank_hooks_absent`).
-/

namespace RiverGang

open Py Coop Task

/-! ## Hooks that do not suspend -/

/-- `run_hook` as the runner of an attempt's hooks, where it comes to its result without suspending. -/
def hookAtOnce : (r : AttemptReq) → Option (AttemptSig.Ans r)
  | .runHook _ script cwd timeoutMs => (runHook (some script) cwd timeoutMs 0).atOnce
  | _ => none

theorem hookAtOnce_blank {hook : Hook} {script cwd : Str} {timeoutMs : Int} (hb : Blank (some script))
    (ht : 0 < timeoutMs) : hookAtOnce (.runHook hook script cwd timeoutMs) = some (.ok .skipped) := by
  show (runHook (some script) cwd timeoutMs 0).atOnce = _
  rw [runHook_blank hb ht]
  rfl

/-- The entry of a hook that was skipped. -/
def Entry.Skipped (e : Entry) : Prop := ∃ hook script cwd timeoutMs,
  e = .called (.runHook hook script cwd timeoutMs) (.ok .skipped)

/-- A part of an attempt does the same as another one, but for the entries of hooks that were skipped. -/
def AsIfAbsent (site absent : Worker Unit) : Prop :=
  ∀ s : Attempt, ∃ skipped : List Entry, (∀ e ∈ skipped, e.Skipped) ∧
    (site s).inlined hookAtOnce = (absent { s with log := s.log ++ skipped }).inlined hookAtOnce

theorem AsIfAbsent.refl (site : Worker Unit) : AsIfAbsent site site := fun s => ⟨[], by simp, by simp⟩

/-! ## The configurations without a hook -/

def EffectiveConfig.withoutAfterCreate (config : EffectiveConfig) : EffectiveConfig :=
  { config with hooks := { config.hooks with afterCreate := none } }

def EffectiveConfig.withoutBeforeRemove (config : EffectiveConfig) : EffectiveConfig :=
  { config with hooks := { config.hooks with beforeRemove := none } }

def AttemptParams.withoutBeforeRun (p : AttemptParams) : AttemptParams :=
  { p with config := { p.config with hooks := { p.config.hooks with beforeRun := none } } }

def AttemptParams.withoutAfterRun (p : AttemptParams) : AttemptParams :=
  { p with config := { p.config with hooks := { p.config.hooks with afterRun := none } } }

/-! ## In the manager -/

section Manager

variable [Builtins] {os : Os} {resolve : Path → Path} {config : EffectiveConfig}

theorem blank_afterCreate (hb : Blank config.hooks.afterCreate) (c : WorkspaceCall) :
    workspaceCall os resolve config c = workspaceCall os resolve config.withoutAfterCreate c := by
  have hsite : maybeRunAfterCreate config = maybeRunAfterCreate config.withoutAfterCreate := by
    funext path
    unfold maybeRunAfterCreate
    rw [hb]
    rfl
  cases c with
  | ensure identifier =>
    unfold workspaceCall ensureForIssue ensureLocked
    rw [hsite]
    rfl
  | cleanup identifier => rfl

theorem blank_beforeRemove (hb : Blank config.hooks.beforeRemove) (c : WorkspaceCall) :
    workspaceCall os resolve config c = workspaceCall os resolve config.withoutBeforeRemove c := by
  have hsite : maybeRunBeforeRemove config = maybeRunBeforeRemove config.withoutBeforeRemove := by
    funext path
    unfold maybeRunBeforeRemove
    rw [hb]
    rfl
  cases c with
  | ensure identifier => rfl
  | cleanup identifier =>
    unfold workspaceCall cleanupForIssue cleanupLocked
    rw [hsite]
    rfl

end Manager

/-! ## In an attempt -/

section Attempts

variable {p : AttemptParams} {startedAt : Instant} {workspacePath renderedPrompt : Str}

theorem blank_afterRun (hb : Blank p.config.hooks.afterRun) (ht : 0 < p.config.hooks.timeoutMs) :
    AsIfAbsent (runAfterRunBestEffort p workspacePath) (runAfterRunBestEffort p.withoutAfterRun workspacePath) := by
  intro s
  unfold runAfterRunBestEffort
  cases h : script? p.config.hooks.afterRun with
  | none => exact ⟨[], by simp, by simp; rfl⟩
  | some script =>
    have hscript : p.config.hooks.afterRun = some script := (Option.filter_eq_some_iff.1 h).1
    rw [hscript] at hb
    refine ⟨[.called (.runHook .afterRun script workspacePath p.config.hooks.timeoutMs) (.ok .skipped)], ?_, ?_⟩
    · intro e he
      rw [List.mem_singleton.1 he]
      exact ⟨_, _, _, _, rfl⟩
    · exact Res.inlined_some (S := AttemptSig) (f := hookAtOnce) (hookAtOnce_blank hb ht) _ _

/-- A hook before the run that is empty, or not there. -/
theorem absent_beforeRun (h : script? p.config.hooks.beforeRun = none) :
    prepareRun p startedAt workspacePath renderedPrompt =
      prepareRun p.withoutBeforeRun startedAt workspacePath renderedPrompt := by
  unfold prepareRun
  rw [h]
  unfold openSession
  refine congrArg (Bind.bind _) (funext fun x => ?_)
  cases x <;> rfl

/-- What it comes to first that suspends. -/
def firstRequest {α : Type} : Res AttemptSig Exn Attempt α → Option AttemptReq
  | .await r _ _ => some r
  | _ => none

/-- A blank one that is not empty fails the attempt. -/
theorem blank_beforeRun_fails {script : Str} (h : script? p.config.hooks.beforeRun = some script)
    (hb : Blank p.config.hooks.beforeRun) (ht : 0 < p.config.hooks.timeoutMs) (s : Attempt) :
    (prepareRun p startedAt workspacePath renderedPrompt s).inlined hookAtOnce =
      (finalizeAttempt p (py "before_run_failed") false startedAt (some (py "hook 'before_run' skipped"))
        (s.record (.called (.runHook .beforeRun script workspacePath p.config.hooks.timeoutMs)
          (.ok .skipped)))).inlined hookAtOnce := by
  have hscript : p.config.hooks.beforeRun = some script := (Option.filter_eq_some_iff.1 h).1
  rw [hscript] at hb
  unfold prepareRun
  rw [h]
  exact Res.inlined_some (S := AttemptSig) (f := hookAtOnce) (hookAtOnce_blank hb ht) _ _

theorem blank_beforeRun (hb : Blank p.config.hooks.beforeRun) (ht : 0 < p.config.hooks.timeoutMs) :
    AsIfAbsent (prepareRun p startedAt workspacePath renderedPrompt)
      (prepareRun p.withoutBeforeRun startedAt workspacePath renderedPrompt) ↔
    script? p.config.hooks.beforeRun = none := by
  constructor
  · intro habsent
    cases h : script? p.config.hooks.beforeRun with
    | none => rfl
    | some script =>
      obtain ⟨skipped, -, heq⟩ := habsent ⟨0, false, []⟩
      rw [blank_beforeRun_fails h hb ht] at heq
      -- the one goes on to the comment on a failure, the other to the session
      have hfirst := congrArg firstRequest heq
      cases hfirst
  · intro h
    rw [absent_beforeRun h]
    exact .refl _

end Attempts

/-- Under a positive timeout, a script that is missing or blank is no hook for the manager, and none after a run. It is
none before a run if and only if it is missing or empty. -/
theorem blank_hooks_absent [Builtins] {os : Os} {resolve : Path → Path} {p : AttemptParams}
    (ht : 0 < p.config.hooks.timeoutMs) :
    (Blank p.config.hooks.afterCreate → ∀ c,
      workspaceCall os resolve p.config c = workspaceCall os resolve p.config.withoutAfterCreate c) ∧
    (Blank p.config.hooks.beforeRemove → ∀ c,
      workspaceCall os resolve p.config c = workspaceCall os resolve p.config.withoutBeforeRemove c) ∧
    (Blank p.config.hooks.afterRun → ∀ workspacePath,
      AsIfAbsent (runAfterRunBestEffort p workspacePath) (runAfterRunBestEffort p.withoutAfterRun workspacePath)) ∧
    (Blank p.config.hooks.beforeRun → ∀ startedAt workspacePath renderedPrompt,
      (AsIfAbsent (prepareRun p startedAt workspacePath renderedPrompt)
        (prepareRun p.withoutBeforeRun startedAt workspacePath renderedPrompt) ↔
      p.config.hooks.beforeRun = none ∨ p.config.hooks.beforeRun = some [])) := by
  refine ⟨blank_afterCreate, blank_beforeRemove, fun hb _ => blank_afterRun hb ht,
    fun hb _ _ _ => (blank_beforeRun hb ht).trans ?_⟩
  cases p.config.hooks.beforeRun with
  | none => simp [script?]
  | some script => cases script <;> simp [script?]

section Sample

attribute [local instance] sampleBuiltins

/-- Blank hooks before and after the run. -/
def blankParams : AttemptParams :=
  { sampleParams with config := { sampleParams.config with
      hooks := { sampleParams.config.hooks with beforeRun := some (py " \n"), afterRun := some (py "\t") } } }

theorem blank_hooks_absent_sample :
    AsIfAbsent (runAfterRunBestEffort blankParams (py "/tmp/ws/RG-1"))
      (runAfterRunBestEffort blankParams.withoutAfterRun (py "/tmp/ws/RG-1")) ∧
    ¬ AsIfAbsent (prepareRun blankParams 0 (py "/tmp/ws/RG-1") (py "Do it."))
      (prepareRun blankParams.withoutBeforeRun 0 (py "/tmp/ws/RG-1") (py "Do it.")) := by
  obtain ⟨-, -, hafter, hbefore⟩ := @blank_hooks_absent _ .plain id blankParams (by decide)
  exact ⟨hafter rfl _, fun h => absurd ((hbefore rfl 0 _ _).1 h) (by decide)⟩

/-- The exits of an attempt where all answers are good and blank hooks are skipped: the reason, and whether all is well. -/
def exitsOf (p : AttemptParams) : List (Str × Bool) :=
  ((((runAgentAttempt p sampleAttempt).inlined hookAtOnce).exec (AttemptAnswers.reply {})).2.posts.filterMap
    Message.exit?).map fun exit => (exit.reason, exit.ok)

/-- A blank hook before the run fails an attempt that goes well without it. -/
theorem blank_beforeRun_reported : Blank blankParams.config.hooks.beforeRun ∧ 0 < blankParams.config.hooks.timeoutMs ∧
    exitsOf blankParams = [(py "before_run_failed", false)] ∧
    exitsOf blankParams.withoutBeforeRun = [(py "normal", true)] := by
  refine ⟨rfl, by decide, ?_⟩
  decide +kernel

end Sample

end RiverGang
