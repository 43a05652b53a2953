import RiverGang.Codex.Launch
import RiverGang.Orchestrator.Reload
import RiverGang.Workspace.Manager

/-!
# Workspace roots after reloads

The workspace manager has the startup configuration; the factory of the clients checks against the root of the
configuration that it is given, which is the one in use for the gate and the one at the spawn for a worker.

* `launches_within_root`: as long as every reload leaves the root or puts one above it in its place, every launch passes the
  check; and no more than that would do, where two entries of the root are no links.
* `launches_refused`: after a reload with another root, every launch fails.
-/

namespace RiverGang

open Py Coop Task

section Paths

variable [Builtins] (resolve : Path → Path) (config : EffectiveConfig)

/-- The result of some run of `ensure_for_issue`. -/
def Ensured (identifier : Str) (result : EnsureResult) : Prop :=
  ∃ (os : Os) (P : Proto ManagerSig WorkspaceManager) (s s' : WorkspaceManager),
    Runs P (ensureForIssue os resolve config identifier s) (.ok result) s'

variable {resolve config} {identifier : Str} {result : EnsureResult}

/-- Entered or made, the directory has the path that was computed. -/
theorem ensureLocked_path (os : Os) (P : Proto ManagerSig WorkspaceManager) (path : Path) (s : WorkspaceManager) :
    (ensureLocked os config identifier path s).Sat P (fun _ => True) (fun result _ => result.path = path.str)
      (fun _ _ => True) := by
  unfold ensureLocked
  simp only [bind_apply, get_apply, Res.bind_ret]
  cases os.stat path s.files with
  | error exc => trivial
  | ok kind =>
    simp only [ofExcept_ok, pure_apply, Res.bind_ret]
    match kind with
    | some .dir => exact rfl
    | some .other => trivial
    | none =>
      simp only [bind_apply]
      refine .bind (fun _ s _ => ?_) (.trivial _)
      refine Res.Sat.bind (fun _ s' _ => ?_) (.trivial _)
      exact rfl

/-- It has the path of the issue. -/
theorem Ensured.path (h : Ensured resolve config identifier result) :
    ∃ p, pathForIssue resolve config identifier = .ok p ∧ result.path = p.str := by
  obtain ⟨os, P, s, s', hr⟩ := h
  have hsat : ((ensureForIssue os resolve config identifier) s).Sat P (fun _ => True)
      (fun result _ => ∃ p, pathForIssue resolve config identifier = .ok p ∧ result.path = p.str) (fun _ _ => True) := by
    simp only [ensureForIssue, bind_apply]
    cases hp : pathForIssue resolve config identifier with
    | error e => trivial
    | ok p =>
      simp only [Except.mapError, ofExcept_ok, pure_apply, Res.bind_ret]
      unfold Managing.withLock
      refine .bind (fun _ s _ => ?_) (.trivial _)
      refine Res.Sat.finallyDo (fun result _ hr => ?_) (fun _ _ _ => ?_)
        (ensureLocked_path os P p (s.enter identifier p))
      · exact ⟨p, rfl, hr⟩
      · trivial
  exact hsat.runs hr

variable (resolve config)

/-- The root of the configuration is that of the startup, or above it. -/
def Covers (startup config : EffectiveConfig) : Prop :=
  resolve (.parse config.workspace.root) ≤ resolve (.parse startup.workspace.root)

variable {resolve config} {startup : EffectiveConfig}

/-- Resolving the path of an ensured workspace changes nothing. -/
theorem Ensured.resolved (hres : ∀ p, resolve (resolve p) = resolve p) (h : Ensured resolve startup identifier result) :
    pathForIssue resolve startup identifier = .ok (resolve (.parse result.path)) := by
  obtain ⟨p, hp, hr⟩ := h.path
  obtain ⟨-, heq, -⟩ := pathForIssue_ok hp
  rw [hr, Path.parse_str, hp, heq, hres]

theorem Ensured.admitted (hres : ∀ p, resolve (resolve p) = resolve p) (h : Ensured resolve startup identifier result)
    (hc : Covers resolve startup config) : Admits resolve config (.parse result.path) :=
  hc.trans (pathForIssue_ok (h.resolved hres)).2.2

/-- A root that admits the workspaces of two entries that are no links covers that of the startup. -/
theorem covers_of_admitted (hres : ∀ p, resolve (resolve p) = resolve p) {a b : Str} {ra rb : EnsureResult}
    (ha : Ensured resolve startup a ra) (hb : Ensured resolve startup b rb)
    (hla : ¬ Linked resolve (.parse startup.workspace.root) a) (hlb : ¬ Linked resolve (.parse startup.workspace.root) b)
    (hkeys : keyOf a ≠ keyOf b) (haa : Admits resolve config (.parse ra.path))
    (hab : Admits resolve config (.parse rb.path)) : Covers resolve startup config := by
  obtain ⟨hpa, hp⟩ := pathForIssue_unlinked (ha.resolved hres) hla
  obtain ⟨hpb, hq⟩ := pathForIssue_unlinked (hb.resolved hres) hlb
  unfold Admits at haa hab
  rw [hp] at haa
  rw [hq] at hab
  rcases Path.le_child haa with heq | hle
  · -- the one entry would hold the other
    rw [heq] at hab
    exact absurd (congrArg Subtype.val (Path.child_le_child hab)) hkeys
  · exact hle

end Paths

/-! ## What the gate asks for -/

section Requests

variable {resolve : Path → Path} {startup : EffectiveConfig} {P : Proto OrchSig World} {w : World} {α : Type}

/-- The result of an `ensure_for_issue`, and for which identifier. -/
def ensures : (r : OrchReq) → OrchSig.Ans r → Option (Str × EnsureResult)
  | .ensureForIssue identifier, .ok result => some (identifier, result)
  | _, _ => none

def OrchReq.analyzes : OrchReq → Bool
  | .analyze .. => true
  | _ => false

theorem withEntry_requests {R : World → OrchReq → Prop} (i : Str) (f : World → RunningEntry → World) :
    (withEntry i f w).Requests P R := by
  cases h : w.state.running.get? i with
  | none => rw [withEntry_none h]; trivial
  | some entry => rw [withEntry_some h]; trivial

theorem onException_requests {R : World → OrchReq → Prop} {exc : Exn} {h : Orch α} (hh : (h w).Requests P R) :
    (onException exc h w).Requests P R := by
  unfold onException
  split
  · exact hh
  · trivial

variable [Builtins] [Unicode]

omit [Unicode] in
/-- The gate analyses in the workspace of the issue, with the configuration in use. -/
def GateAsks (resolve : Path → Path) (startup : EffectiveConfig) (w : World) (r : OrchReq) : Prop :=
  ∀ issue comments path config, r = .analyze issue comments path config →
    config = w.config ∧ ∃ result, Ensured resolve startup issue.identifier result ∧ path = result.path

omit [Unicode] in
/-- The workspaces are those of the startup's manager. -/
def Managed (resolve : Path → Path) (startup : EffectiveConfig) (P : Proto OrchSig World) : Prop :=
  ∀ w r x identifier result, P.answer w r x → ensures r x = some (identifier, result) →
    Ensured resolve startup identifier result

omit [Unicode] in
/-- Every other request. -/
theorem request_requests {r : OrchReq} {f : OrchSig.Ans r → Orch α} (hr : r.analyzes = false)
    (hf : ∀ w' x, P.answer w' r x → (f x w').Requests P (GateAsks resolve startup)) :
    ((Task.request (S := OrchSig) r w).bind f).Requests P (GateAsks resolve startup) := by
  refine .request_bind (fun issue comments path config he => ?_) hf
  rw [he] at hr
  cases hr

theorem reconcile_requests : (reconcile w).Requests P (GateAsks resolve startup) := by
  unfold reconcile
  simp only [bind_apply, get_apply, Res.bind_ret]
  refine .bind (fun _ w => ?_) (.forEach fun _ _ => withEntry_requests _ _)
  simp only [bind_apply, get_apply, Res.bind_ret]
  split
  · trivial
  · refine request_requests rfl fun w x _ => ?_
    cases x with
    | error exc => exact onException_requests trivial
    | ok refreshed =>
      simp only [bind_apply, get_apply, Res.bind_ret]
      refine .bind (fun _ w => .bind (fun _ w => ?_) ?_) ?_
      · exact .forEach fun _ _ => withEntry_requests _ _
      · exact .forEach fun _ _ => withEntry_requests _ _
      · exact .forEach fun _ _ => withEntry_requests _ _

omit [Unicode] in
/-- **The gate.** -/
theorem gate_requests (hP : Managed resolve startup P) (issue : Issue) :
    (clarificationGateAllowsDispatch issue w).Requests P (GateAsks resolve startup) := by
  unfold clarificationGateAllowsDispatch
  simp only [bind_apply, get_apply, Res.bind_ret]
  split
  · trivial
  refine request_requests rfl fun w₁ x _ => ?_
  cases x with
  | error exc => exact onException_requests trivial
  | ok comments =>
    simp only [bind_apply]
    refine .bind (fun inputFingerprint w₂ => ?_) Res.requests_ofExcept
    cases (w.state.clarificationWaiting.get? issue.id).filter fun entry =>
        noNewInput entry inputFingerprint (nonClarificationCommentIds comments) with
    | some entry => trivial
    | none =>
      simp only [bind_apply]
      refine request_requests rfl fun w₃ x hx => ?_
      cases x with
      | error exc => exact onException_requests trivial
      | ok ensureResult =>
        have hensured : Ensured resolve startup issue.identifier ensureResult := hP w₃ _ _ _ _ hx rfl
        simp only [bind_apply, get_apply, Res.bind_ret]
        refine .request_bind (fun issue' comments' path config he => ?_) fun w₄ x _ => ?_
        · cases he
          exact ⟨rfl, ensureResult, hensured, rfl⟩
        · cases x with
          | error exc => exact onException_requests trivial
          | ok decision =>
            dsimp only
            split
            · trivial
            · simp only [bind_apply]
              refine .bind (fun questionFingerprint w₅ => ?_) Res.requests_ofExcept
              split
              · trivial
              · simp only [bind_apply]
                refine request_requests rfl fun w₆ x _ => ?_
                cases x with
                | error exc => exact onException_requests trivial
                | ok u => trivial

theorem considerIssue_requests (hP : Managed resolve startup P) (perStateMap : List (Str × Int)) (issue : Issue) :
    (considerIssue perStateMap clarificationGateAllowsDispatch issue w).Requests P (GateAsks resolve startup) := by
  unfold considerIssue
  simp only [bind_apply, get_apply, Res.bind_ret]
  split
  · simp only [bind_apply]
    refine .bind (fun allowed w => ?_) (gate_requests hP issue)
    cases allowed with
    | false => trivial
    | true =>
      simp only [if_true, bind_apply, get_apply, Res.bind_ret]
      refine .bind (fun _ _ => ?_) (dispatchIssue_sync issue 1 _ w).requests
      trivial
  · trivial

theorem dispatchLoop_requests (hP : Managed resolve startup P) (perStateMap : List (Str × Int)) :
    ∀ (issues : List Issue) (w : World),
      (dispatchLoop perStateMap clarificationGateAllowsDispatch issues w).Requests P (GateAsks resolve startup)
  | [], _ => trivial
  | issue :: issues, w => by
    unfold dispatchLoop
    simp only [bind_apply]
    refine .bind (fun _ w => ?_) (considerIssue_requests hP perStateMap issue)
    refine .bind (fun _ _ => ?_) (dispatchLoop_requests hP perStateMap issues w)
    trivial

theorem onTick_requests (hP : Managed resolve startup P) : (onTick w).Requests P (GateAsks resolve startup) := by
  unfold onTick
  simp only [bind_apply]
  refine .bind (fun _ w => ?_) reconcile_requests
  simp only [bind_apply, get_apply, Res.bind_ret]
  cases w.workflowLoader with
  | error exc => exact onException_requests (scheduleNextTick_sync w).requests
  | ok loaded =>
    cases loaded with
    | none => exact (scheduleNextTick_sync w).requests
    | some newConfig =>
      simp only [bind_apply, modify_apply, Res.bind_ret]
      refine request_requests rfl fun w x _ => ?_
      cases x with
      | error exc => exact onException_requests (scheduleNextTick_sync w).requests
      | ok candidates =>
        simp only [bind_apply, get_apply, Res.bind_ret]
        refine .bind (fun eligible w => ?_) Res.requests_ofExcept
        refine .bind (fun _ w => (scheduleNextTick_sync w).requests) (dispatchLoop_requests hP _ eligible w)

theorem onRetryTimer_requests (i : Str) (perStateMap : List (Str × Int)) (cap : Int) :
    (onRetryTimer i fetchFilteredCandidates retryDispatchFn perStateMap cap postRetryTimer w).Requests P
      (GateAsks resolve startup) := by
  have hretry : ∀ {issueId attempt kind lastError w},
      (RetryQueue.schedule issueId attempt kind cap postRetryTimer lastError w).Requests P (GateAsks resolve startup) :=
    (RetryQueue.schedule_sync _).requests
  unfold onRetryTimer fetchFilteredCandidates
  simp only [bind_apply, get_apply, Res.bind_ret]
  cases w.retryQueue.get? i with
  | none => trivial
  | some entry =>
    simp only [bind_apply, modify_apply, Res.bind_ret]
    split
    · trivial
    · simp only [bind_apply, get_apply, Res.bind_ret]
      refine request_requests rfl fun w x _ => ?_
      cases x with
      | error exc => exact onException_requests hretry
      | ok candidates =>
        dsimp only
        cases candidates.find? fun c => c.id = i with
        | none => trivial
        | some issue =>
          simp only [bind_apply, get_apply, Res.bind_ret]
          split
          · exact hretry
          · unfold retryDispatchFn
            simp only [bind_apply, get_apply, Res.bind_ret]
            refine .bind (fun _ _ => ?_) (dispatchIssue_sync _ _ _ _).requests
            trivial

/-- **The dispatcher.** Only the gate analyses. -/
theorem handle_requests (hP : Managed resolve startup P) (m : Message) :
    (handle m w).Requests P (GateAsks resolve startup) := by
  cases m with
  | pollTick => exact onTick_requests hP
  | workerExit msg => exact (onWorkerExit_sync msg _ _ w).requests
  | codexUpdate | configReloaded => trivial
  | retryTimerFired msg => exact onRetryTimer_requests _ _ _
  | shutdown =>
    simp only [handle, cancelNextTick_eq]
    trivial

end Requests

/-! ## Every run -/

section Service

variable [Builtins] [Unicode] {κ : Type} (load : κ → Except Exn EffectiveConfig) (resolve : Path → Path)
  (startup : EffectiveConfig)

/-- The watched service with the manager of the startup, where every accepted reload has a root that covers its root. -/
def rootsKept : Discipline OrchSig World Message (WatchedEvent κ) where
  event w e := watcherOnly.event w e ∧
    ∀ content config, e = .watch content → accepted load content = some config → Covers resolve startup config
  receive _ _ := True
  answer _ _ r x := ∀ identifier result, ensures r x = some (identifier, result) →
    Ensured resolve startup identifier result

variable {load resolve startup}

/-- Events leave the configuration in use to the dispatcher. -/
theorem GateAsks.event {w w' : World} {e : WatchedEvent κ} {r : OrchReq} (h : GateAsks resolve startup w r)
    (he : (watchedService load).event e w = some w') : GateAsks resolve startup w' r := by
  have hconfig : w'.config = w.config := by
    cases e with
    | watch content =>
      cases he
      exact (reloadOnce_frame content w).config
    | other e => exact (event_frame he).config
  unfold GateAsks
  rw [hconfig]
  exact h

variable {π : Type} {spawn : Str → Path → Spawned π}

/-- **Workspace roots after reloads.** As long as every accepted reload has a root that covers that of the startup, every
workspace of the startup's manager lies in the root of the configuration in use and in those of the workers, as does the
one that the gate analyses in, and no launch there is refused. And a configuration for which that is so covers the root of
the startup, if two entries of it are no links. -/
theorem launches_within_root (hres : ∀ p, resolve (resolve p) = resolve p) :
    (∀ past c, (watchedService load).Trace (rootsKept load resolve startup) (World.IsSeeded startup) past c →
      (∀ config, (config = c.state.config ∨ ∃ t ∈ c.state.tasks, t.config = config) →
        ∀ identifier result, Ensured resolve startup identifier result →
          LaunchesIn resolve spawn config (.parse result.path)) ∧
      ∀ m issue comments path config k, c.mode = .busy m (.analyze issue comments path config) k →
        LaunchesIn resolve spawn config (.parse path)) ∧
    ∀ config a b ra rb, keyOf a ≠ keyOf b → ¬ Linked resolve (.parse startup.workspace.root) a →
      ¬ Linked resolve (.parse startup.workspace.root) b → Ensured resolve startup a ra → Ensured resolve startup b rb →
      LaunchesIn resolve spawn config (.parse ra.path) → LaunchesIn resolve spawn config (.parse rb.path) →
      Covers resolve startup config := by
  refine ⟨fun past c h => ?_, fun config a b ra rb hkeys hla hlb ha hb haa hab =>
    covers_of_admitted hres ha hb hla hlb hkeys haa.1 hab.1⟩
  have hD : WatcherFor load (Covers resolve startup) (rootsKept load resolve startup) :=
    ⟨fun _ _ hd => hd.1, fun _ content config hd ha => hd.2 content config rfl ha⟩
  obtain ⟨waiting, hconv, -⟩ := watched_converges hD (le_refl _) h
  have hin : Covers resolve startup c.state.config := hconv.valid _ (by simp)
  refine ⟨fun config hconfig identifier result hr => launchesIn_of_admits (hr.admitted hres ?_),
    fun m issue comments path config k hm => ?_⟩
  · rcases hconfig with rfl | ⟨t, ht, rfl⟩
    · exact hin
    · exact hconv.tasks t ht
  · have hP : ∀ m, Managed resolve startup ((watchedService load).proto (rootsKept load resolve startup) m) :=
      fun m _ _ _ identifier result hd he => hd identifier result he
    have hasks := h.requests (R := GateAsks resolve startup) (fun w m w' _ _ => handle_requests (hP m) m)
      (fun w e w' r hr _ he => hr.event he) m _ k hm
    obtain ⟨rfl, result, hr, rfl⟩ := hasks issue comments path config rfl
    exact launchesIn_of_admits (hr.admitted hres hin)

end Service

/-! ## Another root -/

section Sample

attribute [local instance] asciiTables sampleBuiltins

/-- A file that changes the workspace root only. -/
def sampleRoot (root : Str) : EffectiveConfig := { sampleConfig with workspace := ⟨root, none⟩ }

theorem sampleEnsured : Ensured id sampleConfig (py "RG-1") ⟨py "/tmp/ws/RG-1", false⟩ := by
  have hrun := runs_exec (P := ⟨fun _ _ => True, fun _ _ _ => True⟩) (o := fun _ => (.error .cancelled, fun _ => none))
    (fun _ => trivial) (fun _ _ => trivial) (ensureForIssue Os.plain id sampleConfig (py "RG-1") sampleManager)
  have hout : ((ensureForIssue Os.plain id sampleConfig (py "RG-1") sampleManager).exec
      fun _ => (.error .cancelled, fun _ => none)).1 = .ok ⟨py "/tmp/ws/RG-1", false⟩ := by decide +kernel
  rw [hout] at hrun
  exact ⟨_, _, _, _, hrun⟩

/-- The file gets another root, and the `ConfigReloaded` is handled. -/
theorem sampleRoot_reloads (root : Str) (hv : (validateForDispatch (sampleRoot root)).ok = true)
    {D : Discipline OrchSig World Message (WatchedEvent Str)} (hw : ∀ w, D.event w (.watch root))
    (hr : ∀ w m, D.receive w m) : ∃ past c,
      (watchedService fun root => .ok (sampleRoot root)).Trace D (World.IsSeeded sampleConfig) past c ∧
        c.state.config = sampleRoot root := by
  let V := watchedService fun root => .ok (sampleRoot root)
  let reloaded := World.post { sampleSeeded with workflowLoader := .ok (some (sampleRoot root)) }
    (.configReloaded (sampleRoot root))
  have hwatch : V.step ⟨sampleSeeded, .idle⟩ (.event (.watch root)) = some ⟨reloaded, .idle⟩ := by
    simp [V, reloaded, Server.step, reloadOnce, hv]
  have hstart : V.Trace D (World.IsSeeded sampleConfig) [] ⟨sampleSeeded, .idle⟩ := .start ⟨_, _, _, _, rfl⟩
  have hallowed : V.Allows D ⟨sampleSeeded, .idle⟩ (.event (.watch root)) := hw sampleSeeded
  have hreceive : V.Allows D ⟨reloaded, .idle⟩ .recv := fun p _ => hr _ _
  exact ⟨_, _, (hstart.step hallowed hwatch).step hreceive rfl, rfl⟩

/-- With the parent of the root as the new root. -/
theorem launches_within_root_sample : ∃ past c,
    (watchedService fun root => .ok (sampleRoot root)).Trace
      (rootsKept (fun root => .ok (sampleRoot root)) id sampleConfig) (World.IsSeeded sampleConfig) past c ∧
    c.state.config = sampleRoot (py "/tmp") ∧
    LaunchesIn id (fun _ _ => Spawned.process ()) c.state.config (.parse (py "/tmp/ws/RG-1")) := by
  have hcovers : ∀ w, (rootsKept (fun root => .ok (sampleRoot root)) id sampleConfig).event w (.watch (py "/tmp")) := by
    refine fun w => ⟨fun _ => nofun, fun content config he ha => ?_⟩
    cases he
    have hconfig : some (sampleRoot (py "/tmp")) = some config := (Option.filter_eq_some_iff.1 ha).1
    cases hconfig
    unfold Covers
    decide +kernel
  obtain ⟨past, c, ht, hc⟩ := sampleRoot_reloads _ (by decide +kernel) hcovers fun _ _ => trivial
  have hruns : LaunchesIn id (fun _ _ => Spawned.process ()) c.state.config (.parse (py "/tmp/ws/RG-1")) :=
    ((launches_within_root fun _ => rfl).1 past c ht).1 _ (.inl rfl) _ _ sampleEnsured
  exact ⟨past, c, ht, hc, hruns⟩

/-- **Another root.** After a reload that moves the workspace root, every launch is refused. -/
theorem launches_refused : ∃ past c,
    (watchedService fun root => .ok (sampleRoot root)).Trace watcherOnly (World.IsSeeded sampleConfig) past c ∧
    Ensured id sampleConfig (py "RG-1") ⟨py "/tmp/ws/RG-1", false⟩ ∧
    ∀ identifier result, Ensured id sampleConfig identifier result → ∀ spawn : Str → Path → Spawned Unit,
      ∃ msg, perWorkerCodexFactory id spawn (.parse result.path) c.state.config = .error (.invalidWorkspaceCwd msg) := by
  obtain ⟨past, c, ht, hc⟩ := sampleRoot_reloads (D := watcherOnly) (py "/srv/ws") (by decide +kernel)
    (fun w _ => nofun) fun _ _ => trivial
  refine ⟨past, c, ht, sampleEnsured, fun identifier result hr spawn => ⟨_, perWorkerCodexFactory_refused ?_⟩⟩
  rw [hc]
  intro hadmits
  have hold := (pathForIssue_ok (hr.resolved fun _ => rfl)).2.2
  have hroots : ¬ (Path.parse (py "/srv/ws") ≤ .parse (py "/tmp/ws") ∨
      Path.parse (py "/tmp/ws") ≤ .parse (py "/srv/ws")) := by
    decide +kernel
  exact hroots (Path.comparable hadmits hold)

end Sample

end RiverGang
