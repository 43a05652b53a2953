import RiverGang.Config.Resolution
import RiverGang.Orchestrator.Reload
import RiverGang.Orchestrator.Teardown
import RiverGang.Workflow.Loader

/-!
# The service from its start to its end

`start_service` of `orchestrator/startup.py`: it loads and validates the workflow, removes the workspaces of issues in a
terminal state as far as that goes, starts the watcher and the HTTP server, runs the dispatcher and shuts down. The run of
the dispatcher and the shutdown are requests here, whose answers are runs of the watched service and of the teardown.

* `ServiceLog`: what the service asks for, from the start to the end.
* `service_life`: every run is so; each configuration that it ever works by is an accepted one, and after the shutdown
  nothing is left to fire or to work.
-/

namespace RiverGang

open Py Coop Task

/-! ## The configuration of the file -/

section Load

variable [Unicode] [Builtins] (safeLoad : Str → LoadedYaml) (env : Environ) (defaultRoot path : Str) (workflowDir : Path)

/-- The errors of `workflow/errors.py` are of no class that a handler tells apart. -/
def WorkflowError.exn : WorkflowError → Exn
  | .missingWorkflowFile msg | .workflowParseError msg | .frontMatterNotAMap msg => ⟨.other, msg⟩
  | .raised exc => exc

/-- `load_workflow` and `resolve_and_validate`, as at the start and at every change of the file. -/
def configOf (read : FileRead) : Except Exn EffectiveConfig := do
  let wd ← (loadWorkflow safeLoad path read).mapError WorkflowError.exn
  resolveAndValidate env wd.config defaultRoot workflowDir

end Load

/-! ## The program -/

inductive StartReq
  | fetchIssuesByStates (states : List Str)
  | cleanupForIssue (identifier : Str)
  | startWatcher
  | startHttp
  /-- `orchestrator.run()` of the orchestrator in this world -/
  | runOrchestrator (w : World)
  | gracefulShutdown (w : World)

@[reducible] def StartSig : Sig where
  Req := StartReq
  Ans
    | .fetchIssuesByStates _ => Except Exn (List Issue)
    | .cleanupForIssue _ | .startWatcher | .startHttp => Except Exn Unit
    | .runOrchestrator _ => Except Exn Unit × World
    | .gracefulShutdown _ => Except Exn Unit × Teardown

abbrev Starting := Task StartSig Exn World

structure StartParams where
  /-- the file at the start -/
  file : FileRead
  /-- what the factories come to: whether there is a client, and whether the tracker has a transport -/
  clients : Except Exn (Bool × Bool)
  /-- the tracker has `fetch_issues_by_states` -/
  canFetch : Bool
  port : Option Int
  shutdownGraceMs : Int
  spawnError : Issue → Nat → Option Exn

/-- `_startup_terminal_cleanup` -/
def startupTerminalCleanup (canFetch : Bool) (terminalStates : List Str) : Starting Unit :=
  if terminalStates = [] ∨ canFetch = false then pure ()
  else do
    match ← request (S := StartSig) (.fetchIssuesByStates terminalStates) with
    | .error exc => onException exc (pure ())
    | .ok terminalIssues =>
      forEach terminalIssues fun issue =>
        if issue.identifier = [] then pure ()
        else do
          match ← request (S := StartSig) (.cleanupForIssue issue.identifier) with
          | .ok _ => pure ()
          | .error exc => onException exc (pure ())

/-- `start_service` from the first tick on. -/
def runUntilShutdown : Starting Int := do
  modify (·.post .pollTick)
  let w ← get
  let (ran, w) ← request (S := StartSig) (.runOrchestrator w)
  -- `finally`, whose exception is raised in the place of the run's
  let (down, _) ← request (S := StartSig) (.gracefulShutdown w)
  ofExcept down
  ofExcept ran
  pure 0

/-- `start_service` once the cleanup is over. -/
def serve (p : StartParams) (config : EffectiveConfig) (hasCodexClient hasTransport : Bool) : Starting Int := do
  ofExcept (← request (S := StartSig) .startWatcher)
  modify fun w => .seeded config w.now hasCodexClient (!hasCodexClient && hasTransport) p.spawnError
  if p.port.isSome then ofExcept (← request (S := StartSig) .startHttp)
  runUntilShutdown

section Service

variable [Unicode] [Builtins] (safeLoad : Str → LoadedYaml) (env : Environ) (defaultRoot path : Str) (workflowDir : Path)

/-- `start_service`, with nothing injected but the factories. -/
def startService (p : StartParams) : Starting Int :=
  match configOf safeLoad env defaultRoot path workflowDir p.file with
  | .error exc => onException exc (pure 1)
  | .ok config =>
    if (validateForDispatch config).ok = false then pure 1
    else do
      let (hasCodexClient, hasTransport) ← ofExcept p.clients
      startupTerminalCleanup p.canFetch config.tracker.terminalStates
      serve p config hasCodexClient hasTransport

/-! ## What happens around it -/

/-- While the service starts time passes, the file changes and `/refresh` is asked for. -/
def whileStarting {κ : Type} : Discipline OrchSig World Message (WatchedEvent κ) where
  event _ e := (∃ content, e = .watch content) ∨ (∃ d, e = .other (.advance d)) ∨ e = .other .refresh
  receive _ _ := True
  answer _ _ _ _ := True

/-- How the dispatcher comes to an end: by a `Shutdown`, by an exception, or by its cancellation between two messages. -/
inductive Halted : OrchConf → Except Exn Unit → Prop
  | stopped (w : World) : Halted ⟨w, .stopped⟩ (.ok ())
  | crashed (w : World) (e : Exn) : Halted ⟨w, .crashed e⟩ (.error e)
  | cancelled (w : World) : Halted ⟨w, .idle⟩ (.error .cancelled)

/-- The service with its watcher. -/
abbrev service : Server OrchSig Exn World Message (WatchedEvent FileRead) :=
  watchedService (configOf safeLoad env defaultRoot path workflowDir)

def aroundService (p : StartParams) : Proto StartSig World where
  rely := (service safeLoad env defaultRoot path workflowDir).Drift whileStarting
  answer _ r x :=
    match r with
    | .runOrchestrator w => ∃ c, (service safeLoad env defaultRoot path workflowDir).Reach watcherOnly (· = w) c ∧
        Halted c x.1 ∧ c.state = x.2
    | .gracefulShutdown w => Runs aroundTeardown (gracefulShutdown p.port.isSome p.shutdownGraceMs ⟨w, []⟩) x.1 x.2
    | _ => True

end Service

/-! ## What it asks for -/

abbrev StartCall : Type := StartSig.Call

/-- The removal of the workspaces of these issues, up to an exception that is no `Exception`. -/
inductive Sweep : List Str → List StartCall → Except Exn Unit → Prop
  | nil : Sweep [] [] (.ok ())
  | swept {identifier : Str} {rest : List Str} {x : Except Exn Unit} {calls : List StartCall} {o : Except Exn Unit} :
      (∀ e, x = .error e → e.isException = true) → Sweep rest calls o →
      Sweep (identifier :: rest) (⟨.cleanupForIssue identifier, x⟩ :: calls) o
  | aborted {identifier : Str} {rest : List Str} {e : Exn} : e.isException = false →
      Sweep (identifier :: rest) [⟨.cleanupForIssue identifier, .error e⟩] (.error e)

/-- The startup cleanup. -/
inductive CleanupLog (canFetch : Bool) (states : List Str) : List StartCall → Except Exn Unit → Prop
  | skipped : states = [] ∨ canFetch = false → CleanupLog canFetch states [] (.ok ())
  | failed {e : Exn} : states ≠ [] → canFetch = true →
      CleanupLog canFetch states [⟨.fetchIssuesByStates states, .error e⟩] (if e.isException then .ok () else .error e)
  | swept {issues : List Issue} {calls : List StartCall} {o : Except Exn Unit} : states ≠ [] → canFetch = true →
      Sweep ((issues.map (·.identifier)).filter (· ≠ [])) calls o →
      CleanupLog canFetch states (⟨.fetchIssuesByStates states, .ok issues⟩ :: calls) o

/-- What becomes of the service after the run and the shutdown. -/
def exitCode : Except Exn Unit → Except Exn Unit → Except Exn Int
  | _, .error e => .error e
  | .error e, .ok _ => .error e
  | .ok _, .ok _ => .ok 0

/-- After the cleanup: the dispatcher runs once, and whatever comes of it, the shutdown follows. -/
inductive ServedLog (serves : Bool) : List StartCall → Except Exn Int → Prop
  | unwatched {e : Exn} : ServedLog serves [⟨.startWatcher, .error e⟩] (.error e)
  | unserved {e : Exn} : serves = true →
      ServedLog serves [⟨.startWatcher, .ok ()⟩, ⟨.startHttp, .error e⟩] (.error e)
  | served {w : World} {ran : Except Exn Unit × World} {down : Except Exn Unit × Teardown} :
      ServedLog serves (⟨.startWatcher, .ok ()⟩ :: (if serves then [⟨.startHttp, .ok ()⟩] else []) ++
        [⟨.runOrchestrator w, ran⟩, ⟨.gracefulShutdown ran.2, down⟩]) (exitCode ran.1 down.1)

/-- The whole of it, for a configuration that was accepted. -/
inductive ServiceLog (p : StartParams) (config : EffectiveConfig) : List StartCall → Except Exn Int → Prop
  | unbuilt {e : Exn} : p.clients = .error e → ServiceLog p config [] (.error e)
  | aborted {calls : List StartCall} {e : Exn} : CleanupLog p.canFetch config.tracker.terminalStates calls (.error e) →
      ServiceLog p config calls (.error e)
  | begun {cleanup later : List StartCall} {o : Except Exn Int} :
      CleanupLog p.canFetch config.tracker.terminalStates cleanup (.ok ()) → ServedLog p.port.isSome later o →
      ServiceLog p config (cleanup ++ later) o

/-- The code is zero only after a run and a shutdown that returned. -/
theorem ServiceLog.exit_zero {p : StartParams} {config : EffectiveConfig} {calls : List StartCall}
    (h : ServiceLog p config calls (.ok 0)) : ∃ w ran down, ⟨.runOrchestrator w, ran⟩ ∈ calls ∧
      ⟨.gracefulShutdown ran.2, down⟩ ∈ calls ∧ ran.1 = .ok () ∧ down.1 = .ok () := by
  generalize ho : (Except.ok 0 : Except Exn Int) = o at h
  cases h with
  | unbuilt | aborted => cases ho
  | begun _ hserved =>
    cases hserved with
    | unwatched | unserved => cases ho
    | @served w ran down =>
      refine ⟨w, ran, down, by simp, by simp, ?_⟩
      obtain ⟨ran, v⟩ := ran
      obtain ⟨down, s⟩ := down
      cases ran with
      | ok u =>
        cases down with
        | ok u' => exact ⟨rfl, rfl⟩
        | error e => cases ho
      | error e => cases down <;> cases ho

section Logs

variable {P : Proto StartSig World}

/-- A removal was asked for, and an `Exception` of it does not count. -/
def Swept (identifier : Str) (calls : List StartCall) (o : Except Exn Unit) : Prop :=
  ∃ x, calls = [⟨.cleanupForIssue identifier, x⟩] ∧
    (o = .ok () ∧ (∀ e, x = .error e → e.isException = true) ∨
      ∃ e, x = .error e ∧ e.isException = false ∧ o = .error e)

/-- A loop whose rounds skip the issues without an identifier and remove the workspace of each other. -/
theorem sweep_logs {f : Issue → Starting Unit} (hskip : ∀ issue s, issue.identifier = [] → f issue s = .ret () s)
    (hsweep : ∀ issue s, issue.identifier ≠ [] → (f issue s).Logs P fun calls o _ => Swept issue.identifier calls o) :
    ∀ (issues : List Issue) (s : World), (forEach issues f s).Logs P
      fun calls o _ => Sweep ((issues.map (·.identifier)).filter (· ≠ [])) calls o := by
  intro issues
  induction issues with
  | nil => exact fun _ => .nil
  | cons issue issues ih =>
    intro s
    by_cases hi : issue.identifier = []
    · have hfilter : ((issue :: issues).map (·.identifier)).filter (· ≠ []) =
          (issues.map (·.identifier)).filter (· ≠ []) := List.filter_cons_of_neg (by simpa using hi)
      rw [hfilter]
      simp only [forEach, bind_apply, hskip issue s hi, Res.bind_ret]
      exact ih s
    · have hfilter : ((issue :: issues).map (·.identifier)).filter (· ≠ []) =
          issue.identifier :: (issues.map (·.identifier)).filter (· ≠ []) := List.filter_cons_of_pos (by simpa using hi)
      rw [hfilter]
      simp only [forEach, bind_apply]
      refine (hsweep issue s hi).bind (fun calls _ s' h => ?_) fun calls e s' h => ?_
      · obtain ⟨x, rfl, ⟨-, hx⟩ | ⟨e, -, -, he⟩⟩ := h
        · exact (ih s').mono fun _ _ _ h => .swept hx h
        · cases he
      · obtain ⟨x, rfl, ⟨he, -⟩ | ⟨e', rfl, hx, he⟩⟩ := h
        · cases he
        · cases he
          exact .aborted hx

theorem startupTerminalCleanup_logs (canFetch : Bool) (states : List Str) (s : World) :
    (startupTerminalCleanup canFetch states s).Logs P fun calls o _ => CleanupLog canFetch states calls o := by
  unfold startupTerminalCleanup
  by_cases hs : states = [] ∨ canFetch = false
  · rw [if_pos hs]
    exact .skipped hs
  rw [if_neg hs]
  obtain ⟨hstates, hcan⟩ : states ≠ [] ∧ canFetch = true := by simpa using hs
  intro s' x _ _
  cases x with
  | ok issues =>
    refine (sweep_logs (fun issue s hi => ?_) (fun issue s hi => ?_) issues s').mono fun _ _ _ h => .swept hstates hcan h
    · rw [if_pos hi]
      rfl
    · rw [if_neg hi]
      intro s' x _ _
      cases x with
      | ok u => exact ⟨.ok u, rfl, .inl ⟨rfl, nofun⟩⟩
      | error e =>
        change (onException e (pure ()) s').Logs P _
        unfold onException
        cases he : e.isException with
        | true => exact ⟨.error e, rfl, .inl ⟨rfl, fun _ h => by cases h; exact he⟩⟩
        | false => exact ⟨.error e, rfl, .inr ⟨e, rfl, he, rfl⟩⟩
  | error e =>
    have hfailed := CleanupLog.failed (e := e) hstates hcan
    change (onException e (pure ()) s').Logs P _
    unfold onException
    cases he : e.isException with
    | true =>
      rw [he] at hfailed
      exact hfailed
    | false =>
      rw [he] at hfailed
      exact hfailed

end Logs

/-! ## The world of the dispatcher -/

/-- A message that may come before the first tick. -/
def Message.early : Message → Bool
  | .pollTick | .configReloaded _ => true
  | _ => false

/-- The first tick in a mailbox of such messages comes after reloads only. -/
theorem split_early : ∀ {ms : List Message}, (∀ m ∈ ms, m.early = true) →
    ∃ (reloads : List EffectiveConfig) (rest : List Message),
    ms ++ [.pollTick] = reloads.map Message.configReloaded ++ .pollTick :: rest ∧ ∀ m ∈ rest, m.early = true
  | [], _ => ⟨[], [], rfl, by simp⟩
  | m :: ms, h => by
    have hms : ∀ m ∈ ms, m.early = true := fun m hm => h m (List.mem_cons_of_mem _ hm)
    obtain ⟨reloads, rest, heq, hrest⟩ := split_early hms
    have hm := h m List.mem_cons_self
    cases m with
    | pollTick =>
      refine ⟨[], ms ++ [.pollTick], rfl, fun m hm => ?_⟩
      rcases List.mem_append.1 hm with hm | hm
      · exact h m (List.mem_cons_of_mem _ hm)
      · rw [List.mem_singleton.1 hm]
        rfl
    | configReloaded cfg =>
      refine ⟨cfg :: reloads, rest, ?_, hrest⟩
      rw [List.cons_append, heq]
      rfl
    | workerExit | codexUpdate | retryTimerFired | shutdown => cases hm

section Begun

variable [Unicode]

/-- Such messages are events of the service. -/
theorem drift_early : ∀ {ms : List Message} (w : World), (∀ m ∈ ms, m.early = true) →
    orchestrator.Drift .free w { w with mailbox := w.mailbox ++ ms }
  | [], w, _ => by
    rw [List.append_nil]
    exact .refl
  | m :: ms, w, h => by
    have hpost : orchestrator.Drift .free w (w.post m) := by
      have hm := h m List.mem_cons_self
      cases m with
      | pollTick => exact .single ⟨.refresh, trivial, rfl⟩
      | configReloaded cfg => exact .single ⟨.reload cfg, trivial, rfl⟩
      | workerExit | codexUpdate | retryTimerFired | shutdown => cases hm
    have hrest := drift_early (w.post m) fun m hm => h m (List.mem_cons_of_mem _ hm)
    have heq : { w.post m with mailbox := (w.post m).mailbox ++ ms } = { w with mailbox := w.mailbox ++ m :: ms } := by
      simp [World.post]
    rw [heq] at hrest
    exact hpost.trans hrest

/-- The world of the first tick is one that the service gets to. -/
theorem reachable_early {config : EffectiveConfig} {now : Instant} {client factory : Bool}
    {loader : Except Exn (Option EffectiveConfig)} {spawnError : Issue → Nat → Option Exn} {ms : List Message}
    (h : ∀ m ∈ ms, m.early = true) : Reachable .free
      ⟨{ World.initial config now client factory loader spawnError [] with mailbox := ms ++ [.pollTick] }, .idle⟩ := by
  obtain ⟨reloads, rest, heq, hrest⟩ := split_early h
  have hstart : Reachable .free ⟨World.initial config now client factory loader spawnError reloads, .idle⟩ :=
    .start ⟨_, _, _, _, _, _, _, rfl⟩
  have hnext := hstart.drifts (le_free _) (drift_early _ hrest)
  have hmailbox : (World.initial config now client factory loader spawnError reloads).mailbox ++ rest =
      ms ++ [.pollTick] := by
    rw [heq]
    simp [World.initial]
  rw [hmailbox] at hnext
  exact hnext

variable [Builtins] {κ : Type} {load : κ → Except Exn EffectiveConfig}

/-- What a world is while the service starts. -/
theorem drift_starting {config : EffectiveConfig} {now : Instant} {client factory : Bool}
    {spawnError : Issue → Nat → Option Exn} {w : World}
    (h : (watchedService load).Drift whileStarting (.seeded config now client factory spawnError) w) :
    ∃ now loader ms, (∀ m ∈ ms, m.early = true) ∧
      w = { World.initial config now client factory loader spawnError [] with mailbox := ms } := by
  refine h.preserves (J := fun w => ∃ now loader ms, (∀ m ∈ ms, m.early = true) ∧
    w = { World.initial config now client factory loader spawnError [] with mailbox := ms }) ?_
    ⟨now, .ok (some config), [], by simp, rfl⟩
  rintro _ e w' ⟨now, loader, ms, hms, rfl⟩ hd he
  have hsnoc : ∀ {m : Message}, m.early = true → ∀ m' ∈ ms ++ [m], m'.early = true := by
    intro m hm m' hm'
    rcases List.mem_append.1 hm' with hm' | hm'
    · exact hms m' hm'
    · rw [List.mem_singleton.1 hm']
      exact hm
  rcases hd with ⟨content, rfl⟩ | ⟨d, rfl⟩ | rfl
  · cases he
    rw [reloadOnce_eq]
    cases accepted load content with
    | none => exact ⟨now, loader, ms, hms, rfl⟩
    | some cfg => exact ⟨now, .ok (some cfg), ms ++ [.configReloaded cfg], hsnoc rfl, rfl⟩
  · cases he
    exact ⟨now + d, loader, ms, hms, rfl⟩
  · cases he
    exact ⟨now, loader, ms ++ [.pollTick], hsnoc rfl, rfl⟩

omit [Unicode] [Builtins] in
theorem whileStarting_le : Discipline.Le (whileStarting : Discipline OrchSig World Message (WatchedEvent κ))
    watcherOnly := by
  refine ⟨?_, fun _ => trivial, fun _ => trivial⟩
  rintro _ _ (⟨content, rfl⟩ | ⟨d, rfl⟩ | rfl) e' he
  · cases he
  · cases he
    exact ⟨fun _ => nofun, fun _ => nofun⟩
  · cases he
    exact ⟨fun _ => nofun, fun _ => nofun⟩

/-- The start is a run of the watched service, the first tick another event of it. -/
theorem reach_begun {config : EffectiveConfig} {now : Instant} {client factory : Bool}
    {spawnError : Issue → Nat → Option Exn} {w : World}
    (h : (watchedService load).Drift whileStarting (.seeded config now client factory spawnError) w) :
    (watchedService load).Reach watcherOnly (World.IsSeeded config) ⟨w.post .pollTick, .idle⟩ := by
  have hseeded : (watchedService load).Reach watcherOnly (World.IsSeeded config)
      ⟨.seeded config now client factory spawnError, .idle⟩ := .start ⟨now, client, factory, spawnError, rfl⟩
  refine (hseeded.drifts whileStarting_le h).drifts whileStarting_le (.single ⟨.other .refresh, .inr (.inr rfl), rfl⟩)

/-- A change of the file is events of the service. -/
theorem watched_refines {D : Discipline OrchSig World Message (WatchedEvent κ)} :
    (watchedService load).Refines orchestrator D .free where
  next := rfl
  handle := rfl
  stops := rfl
  event := by
    intro w e w' _ he
    cases e with
    | other e => exact .single ⟨e, trivial, he⟩
    | watch content =>
      cases he
      rw [reloadOnce_eq]
      cases accepted load content with
      | none => exact .refl
      | some cfg =>
        exact .tail (.single ⟨.setLoader (.ok (some cfg)), trivial, rfl⟩) ⟨.reload cfg, trivial, rfl⟩
  receive _ := trivial
  answer _ := trivial

end Begun

/-! ## Every run -/

/-- What every configuration in use has: all that a worker needs, and a root that is absolute and without `..`. -/
structure Usable (config : EffectiveConfig) : Prop where
  dispatchable : config.Dispatchable
  root : ∃ root : Path, config.workspace.root = root.str ∧ root.anchor ≠ .relative ∧ ∀ n ∈ root.parts, n.val ≠ DOTDOT

section Life

variable [Unicode] [Builtins] {safeLoad : Str → LoadedYaml} {env : Environ} {defaultRoot path : Str} {workflowDir : Path}
  {p : StartParams} {config : EffectiveConfig} {calls : List StartCall} {o : Except Exn Int} {w₀ w' : World}

theorem usable_of_configOf {read : FileRead} (hdir : workflowDir.anchor ≠ .relative)
    (h : configOf safeLoad env defaultRoot path workflowDir read = .ok config)
    (hv : (validateForDispatch config).ok = true) : Usable config := by
  refine ⟨validateForDispatch_ok_iff.1 hv, ?_⟩
  unfold configOf at h
  cases hl : (loadWorkflow safeLoad path read).mapError WorkflowError.exn with
  | error e =>
    rw [hl] at h
    cases h
  | ok wd =>
    rw [hl] at h
    replace h : resolveAndValidate env wd.config defaultRoot workflowDir = .ok config := h
    obtain ⟨value, hroot⟩ := resolveAndValidate_root h
    have hanchor := joinpath_anchor (s := expandedOf env value) hdir
    have hcollapsed := Path.collapsed_collapse (workflowDir.joinpath (expandedOf env value))
    rw [show (workflowDir.joinpath (expandedOf env value)).isAnchored = true from decide_eq_true hanchor] at hcollapsed
    exact ⟨_, hroot, hanchor, hcollapsed.ne_dotdot⟩

omit [Unicode] in
theorem load_of_accepted {κ : Type} {load : κ → Except Exn EffectiveConfig} {content : κ}
    (h : accepted load content = some config) : load content = .ok config := by
  obtain ⟨hl, -⟩ := Option.filter_eq_some_iff.1 h
  cases hc : load content with
  | error e =>
    rw [hc] at hl
    cases hl
  | ok cfg =>
    rw [hc] at hl
    cases hl
    rfl

theorem usable_of_accepted {read : FileRead} (hdir : workflowDir.anchor ≠ .relative)
    (h : accepted (configOf safeLoad env defaultRoot path workflowDir) read = some config) : Usable config :=
  usable_of_configOf hdir (load_of_accepted h) (accepted_ok _ h)

/-- What is known of the run of the dispatcher and of the shutdown. -/
structure RanAs (safeLoad : Str → LoadedYaml) (env : Environ) (defaultRoot path : Str) (workflowDir : Path)
    (p : StartParams) (w₁ w : World) (ran : Except Exn Unit × World) (down : Except Exn Unit × Teardown) : Prop where
  begun : w = w₁.post .pollTick
  ended : ∃ c, (service safeLoad env defaultRoot path workflowDir).Reach watcherOnly (· = w) c ∧ Halted c ran.1 ∧
    c.state = ran.2
  down : Runs aroundTeardown (gracefulShutdown p.port.isSome p.shutdownGraceMs ⟨ran.2, []⟩) down.1 down.2

theorem runUntilShutdown_logs (w₁ : World) :
    (runUntilShutdown w₁).Logs (aroundService safeLoad env defaultRoot path workflowDir p) fun calls o _ =>
      ∃ w ran down, calls = [⟨.runOrchestrator w, ran⟩, ⟨.gracefulShutdown ran.2, down⟩] ∧
        o = exitCode ran.1 down.1 ∧ RanAs safeLoad env defaultRoot path workflowDir p w₁ w ran down := by
  unfold runUntilShutdown
  intro s₂ ran hrel₁ hran s₃ down hrel₂ hdown
  have hlast (calls : List StartCall) (hcalls : calls = []) (o : Except Exn Int) (ho : o = exitCode ran.1 down.1) :
      ∃ w ran' down', ⟨.runOrchestrator (w₁.post .pollTick), ran⟩ :: ⟨.gracefulShutdown ran.2, down⟩ :: calls =
        [(⟨.runOrchestrator w, ran'⟩ : StartCall), ⟨.gracefulShutdown ran'.2, down'⟩] ∧ o = exitCode ran'.1 down'.1 ∧
        RanAs safeLoad env defaultRoot path workflowDir p w₁ w ran' down' := by
    subst hcalls
    exact ⟨_, ran, down, rfl, ho, rfl, hran, hdown⟩
  obtain ⟨ran, w⟩ := ran
  obtain ⟨down, s⟩ := down
  cases down with
  | error e => exact hlast [] rfl _ (by cases ran <;> rfl)
  | ok u =>
    cases ran with
    | error e => exact hlast [] rfl _ rfl
    | ok u' => exact hlast [] rfl _ rfl

/-- Every run of the dispatcher is begun in a world of the service that starts, and ended by the shutdown. -/
def Dispatches (safeLoad : Str → LoadedYaml) (env : Environ) (defaultRoot path : Str) (workflowDir : Path)
    (p : StartParams) (config : EffectiveConfig) (calls : List StartCall) : Prop :=
  ∀ w ran down, ⟨.runOrchestrator w, ran⟩ ∈ calls → ⟨.gracefulShutdown ran.2, down⟩ ∈ calls →
    ∃ now client factory w₁, (service safeLoad env defaultRoot path workflowDir).Drift whileStarting
      (.seeded config now client factory p.spawnError) w₁ ∧ RanAs safeLoad env defaultRoot path workflowDir p w₁ w ran down

/-- The calls after the cleanup. -/
def ServesFrom (safeLoad : Str → LoadedYaml) (env : Environ) (defaultRoot path : Str) (workflowDir : Path) (p : StartParams)
    (config : EffectiveConfig) (calls : List StartCall) (o : Except Exn Int) : Prop :=
  ServedLog p.port.isSome calls o ∧ Dispatches safeLoad env defaultRoot path workflowDir p config calls

theorem serve_logs (client transport : Bool) (s : World) :
    (serve p config client transport s).Logs (aroundService safeLoad env defaultRoot path workflowDir p) fun calls o _ =>
      ServesFrom safeLoad env defaultRoot path workflowDir p config calls o := by
  have hserved (http : List StartCall) (hhttp : http = if p.port.isSome then [⟨.startHttp, .ok ()⟩] else []) (now : Instant)
      {w₁ : World} (hd : (service safeLoad env defaultRoot path workflowDir).Drift whileStarting
        (.seeded config now client (!client && transport) p.spawnError) w₁) :
      (runUntilShutdown w₁).Logs (aroundService safeLoad env defaultRoot path workflowDir p) fun calls o _ =>
        ServesFrom safeLoad env defaultRoot path workflowDir p config (⟨.startWatcher, .ok ()⟩ :: http ++ calls) o := by
    refine (runUntilShutdown_logs w₁).mono ?_
    rintro _ _ _ ⟨w, ran, down, rfl, rfl, hran⟩
    subst hhttp
    refine ⟨.served, fun w' ran' down' hr hs => ⟨now, _, _, w₁, hd, ?_⟩⟩
    have hr : w' = w ∧ ran' = ran := by
      split at hr <;> simpa using hr
    obtain ⟨rfl, rfl⟩ := hr
    have hs : down' = down := by
      split at hs <;> simpa using hs
    rw [hs]
    exact hran
  unfold serve
  cases hp : p.port.isSome with
  | false =>
    simp only [Bool.false_eq_true, if_false]
    intro s₁ x _ _
    cases x with
    | error e => exact ⟨.unwatched, fun w ran down hr => by simp at hr⟩
    | ok u => exact hserved [] (by rw [hp]; rfl) s₁.now .refl
  | true =>
    simp only [if_true]
    intro s₁ x _ _
    cases x with
    | error e => exact ⟨.unwatched, fun w ran down hr => by simp at hr⟩
    | ok u =>
      intro s₂ y hrel _
      cases y with
      | error e => exact ⟨.unserved hp, fun w ran down hr => by simp at hr⟩
      | ok u' => exact hserved [⟨.startHttp, .ok ()⟩] (by rw [hp]; rfl) s₁.now hrel

omit [Unicode] [Builtins] in
theorem Sweep.cleans {identifiers : List Str} {calls : List StartCall} {x : Except Exn Unit}
    (h : Sweep identifiers calls x) :
    ∀ call ∈ calls, ∃ identifier, call.1 = .cleanupForIssue identifier := by
  induction h with
  | nil => simp
  | swept _ _ ih => exact List.forall_mem_cons.2 ⟨⟨_, rfl⟩, ih⟩
  | aborted => simp

omit [Unicode] [Builtins] in
/-- The dispatcher does not run in the cleanup. -/
theorem CleanupLog.not_run {canFetch : Bool} {states : List Str} {calls : List StartCall} {x : Except Exn Unit}
    (h : CleanupLog canFetch states calls x) :
    ∀ call ∈ calls, ∀ w, call.1 ≠ .runOrchestrator w ∧ call.1 ≠ .gracefulShutdown w := by
  cases h with
  | skipped => simp
  | failed => simp
  | swept _ _ hs =>
    refine List.forall_mem_cons.2 ⟨fun w => by simp, fun call hc w => ?_⟩
    obtain ⟨identifier, he⟩ := hs.cleans call hc
    simp [he]

theorem startService_logs (s : World)
    (hload : configOf safeLoad env defaultRoot path workflowDir p.file = .ok config)
    (hv : (validateForDispatch config).ok = true) :
    (startService safeLoad env defaultRoot path workflowDir p s).Logs
      (aroundService safeLoad env defaultRoot path workflowDir p) fun calls o _ => ServiceLog p config calls o ∧
        Dispatches safeLoad env defaultRoot path workflowDir p config calls := by
  unfold startService
  rw [hload]
  dsimp only
  rw [hv, if_neg (by simp)]
  cases hc : p.clients with
  | error e => exact ⟨.unbuilt hc, fun _ _ _ hr => by simp at hr⟩
  | ok clients =>
    obtain ⟨client, transport⟩ := clients
    change ((startupTerminalCleanup p.canFetch config.tracker.terminalStates s).bind fun _ =>
      serve p config client transport).Logs _ _
    refine Res.Logs.bind (startupTerminalCleanup_logs p.canFetch config.tracker.terminalStates s) ?_ ?_
    · intro cleanup _ s' hcleanup
      refine (serve_logs client transport s').mono fun later o _ h => ⟨.begun hcleanup h.1, fun w ran down hr hd => ?_⟩
      rcases List.mem_append.1 hr with hr | hr
      · exact absurd rfl (hcleanup.not_run _ hr w).1
      · rcases List.mem_append.1 hd with hd | hd
        · exact absurd rfl (hcleanup.not_run _ hd ran.2).2
        · exact h.2 w ran down hr hd
    · exact fun _ _ _ h => ⟨.aborted h, fun w ran down hr => absurd rfl (h.not_run _ hr w).1⟩

/-- What is not accepted is refused. -/
theorem startService_refused (s : World)
    (h : accepted (configOf safeLoad env defaultRoot path workflowDir) p.file = none) :
    (startService safeLoad env defaultRoot path workflowDir p s).Logs
      (aroundService safeLoad env defaultRoot path workflowDir p) fun calls o _ =>
        calls = [] ∧ (o = .ok 1 ∨ ∃ e, e.isException = false ∧ o = .error e) := by
  unfold accepted at h
  unfold startService
  cases hload : configOf safeLoad env defaultRoot path workflowDir p.file with
  | error e =>
    change (onException e (pure 1) s).Logs _ _
    unfold onException
    cases he : e.isException with
    | true => exact ⟨rfl, .inl rfl⟩
    | false => exact ⟨rfl, .inr ⟨e, he, rfl⟩⟩
  | ok config =>
    have hv : (validateForDispatch config).ok = false := by
      rw [hload] at h
      simpa [Except.toOption, Option.filter_eq_none_iff] using h
    dsimp only
    rw [hv, if_pos rfl]
    exact ⟨rfl, .inl rfl⟩

/-- What the service starts with is accepted, and so is all that the watcher adds. -/
theorem usable_reach (hdir : workflowDir.anchor ≠ .relative)
    (hload : configOf safeLoad env defaultRoot path workflowDir p.file = .ok config)
    (hv : (validateForDispatch config).ok = true) {now : Instant} {client factory : Bool} {w₁ : World}
    (hd : (service safeLoad env defaultRoot path workflowDir).Drift whileStarting
      (.seeded config now client factory p.spawnError) w₁) (c : OrchConf)
    (hc : (service safeLoad env defaultRoot path workflowDir).Reach watcherOnly (· = w₁.post .pollTick) c) :
    Usable c.state.config ∧ ∀ t ∈ c.state.tasks, Usable t.config := by
  have hrefl : Discipline.Le (watcherOnly (κ := FileRead)) watcherOnly := ⟨id, id, id⟩
  obtain ⟨past, ht⟩ := ((reach_begun hd).trans hrefl hc).trace
  have hwatcher : WatcherFor (configOf safeLoad env defaultRoot path workflowDir) Usable watcherOnly := by
    refine ⟨fun _ _ he => he, fun _ content cfg _ ha => ?_⟩
    exact usable_of_accepted hdir ha
  obtain ⟨waiting, hconverges, -⟩ := watched_converges hwatcher (usable_of_configOf hdir hload hv) ht
  exact ⟨hconverges.valid _ (by simp), hconverges.tasks⟩

/-- **The life of the service**, in every run and whatever happens around it. A workflow that is not accepted is refused
before anything is asked for. Otherwise the calls are those of `ServiceLog`; the dispatcher begins in a world that the
service's own model has, works by usable configurations only, as does every worker that it starts, and what ends it is
followed by the shutdown, after which no retry is queued, no tick is due, and every running entry's worker is done or
cancelled. -/
theorem service_life (hdir : workflowDir.anchor ≠ .relative)
    (h : Logged (aroundService safeLoad env defaultRoot path workflowDir p)
      (startService safeLoad env defaultRoot path workflowDir p w₀) calls o w') :
    (accepted (configOf safeLoad env defaultRoot path workflowDir) p.file = none →
      calls = [] ∧ (o = .ok 1 ∨ ∃ e, e.isException = false ∧ o = .error e)) ∧
    ∀ config, accepted (configOf safeLoad env defaultRoot path workflowDir) p.file = some config →
      ServiceLog p config calls o ∧
      ∀ w ran down, ⟨.runOrchestrator w, ran⟩ ∈ calls → ⟨.gracefulShutdown ran.2, down⟩ ∈ calls →
        Reachable .free ⟨w, .idle⟩ ∧ w.config = config ∧
        (∀ c, (service safeLoad env defaultRoot path workflowDir).Reach watcherOnly (· = w) c →
          Reachable .free c ∧ Usable c.state.config ∧ ∀ t ∈ c.state.tasks, Usable t.config) ∧
        (∃ c, (service safeLoad env defaultRoot path workflowDir).Reach watcherOnly (· = w) c ∧ Halted c ran.1 ∧
          c.state = ran.2) ∧
        down.2.world.state = ran.2.state ∧ down.2.world.tasks = ran.2.tasks ∧ down.2.world.retryQueue = ∅ ∧
        (ran.1 = .ok () → down.2.world.tickHandles = []) ∧
        ∀ i entry, ran.2.state.running.get? i = some entry →
          entry.workerHandle ∈ down.2.world.settled ∨ entry.workerHandle ∈ down.2.world.cancelled := by
  refine ⟨fun hnone => (startService_refused w₀ hnone).logged h, fun config hsome => ?_⟩
  have hv := accepted_ok (configOf safeLoad env defaultRoot path workflowDir) hsome
  have hload := load_of_accepted hsome
  obtain ⟨hlog, hdispatches⟩ := (startService_logs w₀ hload hv).logged h
  refine ⟨hlog, fun w ran down hr hd => ?_⟩
  obtain ⟨now, client, factory, w₁, hdrift, rfl, ⟨c, hc, hended, hstate⟩, hdown⟩ := hdispatches w ran down hr hd
  have hidle : Reachable .free ⟨w₁.post .pollTick, .idle⟩ ∧ w₁.config = config := by
    obtain ⟨now', loader, ms, hearly, rfl⟩ := drift_starting hdrift
    exact ⟨reachable_early hearly, rfl⟩
  have hall := usable_reach hdir hload hv hdrift
  obtain ⟨hstate', htasks, hqueue, hticks, hworkers⟩ := ((gracefulShutdown_sat _ _ _).ends hdown).left
  refine ⟨hidle.1, hidle.2, fun c hc => ⟨hidle.1.trans (le_free _) (watched_refines.reach hc), hall c hc⟩,
    ⟨c, hc, hended, hstate⟩, hstate', htasks, hqueue, fun hok => hticks ?_, hworkers⟩
  have hstopped : c.mode = .stopped := by
    rw [hok] at hended
    cases hended
    rfl
  rw [← hstate]
  exact clocked_of_stopped (hidle.1.trans (le_free _) (watched_refines.reach hc)) hstopped

end Life

section Sample

attribute [local instance] asciiTables sampleBuiltins

/-- What the YAML parser makes of the front matter. -/
def lifeFrontMatter (_ : Str) : LoadedYaml :=
  .value (.map [(.str (py "tracker"), .map [(.str (py "kind"), .str (py "linear")), (.str (py "api_key"), .str (py "key")),
    (.str (py "project_slug"), .str (py "proj"))])])

def sampleService : Server OrchSig Exn World Message (WatchedEvent FileRead) :=
  service lifeFrontMatter sampleEnviron (py "/tmp/ws") (py "/etc/WORKFLOW.md") (.parse (py "/etc"))

def lifeParams : StartParams :=
  ⟨.content (py "---\ntracker:\n---\n"), .ok (false, true), true, none, 30000, fun _ _ => none⟩

/-- The dispatcher is told to stop at its first tick; where that is not its first message it is cancelled. -/
def briefRun (w : World) : Except Exn Unit × World :=
  match sampleService.run ⟨w, .idle⟩ [.event (.other .shutdown), .recv, .resume (Answers.reply {}), .recv] with
  | some c => if c.mode.isStopped then (.ok (), c.state) else (.error .cancelled, w)
  | none => (.error .cancelled, w)

theorem ended_briefRun (w : World) : ∃ c, sampleService.Reach watcherOnly (· = w) c ∧ Halted c (briefRun w).1 ∧
    c.state = (briefRun w).2 := by
  have hstart : sampleService.Reach watcherOnly (· = w) ⟨w, .idle⟩ := .start rfl
  unfold briefRun
  split
  · rename_i c hrun
    split
    · rename_i hover
      obtain ⟨v, mode⟩ := c
      obtain rfl : mode = .stopped := Mode.isStopped_iff.1 hover
      refine ⟨_, hstart.run (fun l hl => ?_) hrun, .stopped v, rfl⟩
      simp only [List.mem_cons, List.not_mem_nil, or_false] at hl
      rcases hl with rfl | rfl | rfl | rfl
      · intro _ e he
        cases he
        exact ⟨fun _ => nofun, fun _ => nofun⟩
      · exact fun _ _ => trivial
      · exact fun _ _ _ => trivial
      · exact fun _ _ => trivial
    · exact ⟨_, hstart, .cancelled w, rfl⟩
  · exact ⟨_, hstart, .cancelled w, rfl⟩

/-- The tracker cannot be reached for the cleanup. -/
def lifeAnswers (_ : World) : (r : StartReq) → StartSig.Ans r
  | .fetchIssuesByStates _ => .error ⟨.linearError, py "timeout"⟩
  | .cleanupForIssue _ | .startWatcher | .startHttp => .ok ()
  | .runOrchestrator w => briefRun w
  | .gracefulShutdown w => (gracefulShutdown false 30000 ⟨w, []⟩).execWith teardownAnswers

def lifeRun : List StartCall × Except Exn Int × World :=
  (startService lifeFrontMatter sampleEnviron (py "/tmp/ws") (py "/etc/WORKFLOW.md") (.parse (py "/etc")) lifeParams
    sampleSeeded).execLogged lifeAnswers

theorem logged_lifeRun : Logged
    (aroundService lifeFrontMatter sampleEnviron (py "/tmp/ws") (py "/etc/WORKFLOW.md") (.parse (py "/etc")) lifeParams)
    (startService lifeFrontMatter sampleEnviron (py "/tmp/ws") (py "/etc/WORKFLOW.md") (.parse (py "/etc")) lifeParams
      sampleSeeded) lifeRun.1 lifeRun.2.1 lifeRun.2.2 := by
  refine logged_execLogged (fun _ => Relation.ReflTransGen.refl) (fun s r => ?_) _
  cases r with
  | fetchIssuesByStates | cleanupForIssue | startWatcher | startHttp => trivial
  | gracefulShutdown w => exact runs_teardown false 30000 w
  | runOrchestrator w => exact ended_briefRun w

/-- The service starts, is told to stop and exits. -/
theorem service_life_sample : ∃ calls w' w ran down, Logged
      (aroundService lifeFrontMatter sampleEnviron (py "/tmp/ws") (py "/etc/WORKFLOW.md") (.parse (py "/etc")) lifeParams)
      (startService lifeFrontMatter sampleEnviron (py "/tmp/ws") (py "/etc/WORKFLOW.md") (.parse (py "/etc")) lifeParams
        sampleSeeded) calls (.ok 0) w' ∧
    ⟨.runOrchestrator w, ran⟩ ∈ calls ∧ w.config.workspace.root = py "/tmp/ws" ∧ ran.1 = .ok () ∧
    ⟨.gracefulShutdown ran.2, down⟩ ∈ calls ∧ down.2.world.tickHandles = [] := by
  have hexit : lifeRun.2.1 = .ok 0 := eq_ok_of_toOption (by decide +kernel)
  have hlogged := logged_lifeRun
  rw [hexit] at hlogged
  obtain ⟨hrefused, hlife⟩ := service_life (by decide +kernel) hlogged
  have hroot : (accepted (configOf lifeFrontMatter sampleEnviron (py "/tmp/ws") (py "/etc/WORKFLOW.md")
      (.parse (py "/etc"))) lifeParams.file).map (·.workspace.root) = some (py "/tmp/ws") := by decide +kernel
  obtain ⟨config, hconfig, hroot⟩ := Option.map_eq_some_iff.1 hroot
  obtain ⟨hlog, hruns⟩ := hlife config hconfig
  obtain ⟨w, ran, down, hran, hdown, hok, -⟩ := hlog.exit_zero
  obtain ⟨-, hw, -, -, -, -, -, hticks, -⟩ := hruns w ran down hran hdown
  exact ⟨_, _, w, ran, down, hlogged, hran, by rw [hw, hroot], hok, hdown, hticks hok⟩

end Sample

end RiverGang
