import RiverGang.Lib.Server
import RiverGang.Orchestrator.Loop

/-!
# The running service

The orchestrator as a server of its mailbox, with what happens around it: time passes, timers fire, the watcher
reloads, `POST /api/v1/refresh` asks for a tick, workers report and settle, a signal asks for the shutdown.

A worker posts updates while it lives. It settles by posting its exit and returning — also after it was cancelled, for
`CodexProcess.aclose` swallows a cancellation that comes while it waits for its drain task; or by the cancellation, which
posts nothing; or, where there is neither a client nor a factory, by an exception at once. A cleanup that was spawned
begins at some time, and ends.
-/

namespace RiverGang

open Py Coop

/-- What a worker reports of its attempt. -/
structure ExitReport where
  reason : Str
  ok : Bool
  runtimeSeconds : Int
  lastError : Option Str

inductive Event
  | advance (d : Nat)
  | fire (handle : Nat)
  | refresh
  | setLoader (loader : Except Exn (Option EffectiveConfig))
  | reload (config : EffectiveConfig)
  | setSpawn (spawnError : Issue → Nat → Option Exn)
  | emit (task : Nat) (event : RuntimeEvent)
  | finish (task : Nat) (report : ExitReport)
  | settleCancelled (task : Nat)
  | settleRaised (task : Nat)
  | beginCleanup (cleanup : Nat)
  | endCleanup (cleanup : Nat)
  | shutdown

/-- What a timer posts when it fires. -/
def Timer.message? (t : Timer) : Option Message :=
  match t.callback with
  | .postPollTick => some .pollTick
  | .postRetryTimer issueId => some (.retryTimerFired ⟨issueId, t.handle⟩)
  | .ignore => none

namespace World

def postAll (w : World) (ms : List Message) : World := { w with mailbox := w.mailbox ++ ms }

/-- A task whose attempt has a client to work with. -/
def Attempting (w : World) (task : Nat) : Prop := w.Live task ∧ (w.hasCodexClient || w.hasCodexClientFactory) = true

instance (w : World) (task : Nat) : Decidable (w.Attempting task) := inferInstanceAs (Decidable (_ ∧ _))

def settle (w : World) (task : Nat) : World := { w with settled := insert task w.settled }

/-- The issue that a task works on. -/
def taskIssue (w : World) (task : Nat) : Option Issue := w.tasks[task]?.map (·.issue)

def exitOf (issueId : Str) (task : Nat) (report : ExitReport) : WorkerExit :=
  ⟨issueId, report.reason, report.ok, report.runtimeSeconds, report.lastError, task⟩

def event : Event → World → Option World
  | .advance d, w => some { w with now := w.now + d }
  | .fire handle, w =>
    (w.timers.find? fun t => t.handle = handle ∧ t.due ≤ w.now).map fun t =>
      (w.cancelTimer handle).postAll t.message?.toList
  | .refresh, w => some (w.post .pollTick)
  | .setLoader loader, w => some { w with workflowLoader := loader }
  | .reload config, w => some (w.post (.configReloaded config))
  | .setSpawn spawnError, w => some { w with spawnError := spawnError }
  | .emit task event, w =>
    if w.Attempting task then (w.taskIssue task).map fun issue => w.post (.codexUpdate ⟨issue.id, event⟩) else none
  | .finish task report, w =>
    if w.Attempting task then
      (w.taskIssue task).map fun issue => (w.settle task).post (.workerExit (exitOf issue.id task report))
    else none
  | .settleCancelled task, w => if w.Live task ∧ task ∈ w.cancelled then some (w.settle task) else none
  | .settleRaised task, w =>
    if w.Live task ∧ (w.hasCodexClient || w.hasCodexClientFactory) = false then some (w.settle task) else none
  | .beginCleanup cleanup, w =>
    if cleanup < w.cleanups.length ∧ cleanup ∉ w.cleaning ∧ cleanup ∉ w.cleaned then
      some { w with cleaning := insert cleanup w.cleaning }
    else none
  | .endCleanup cleanup, w =>
    if cleanup ∈ w.cleaning then
      some { w with cleaning := w.cleaning.erase cleanup, cleaned := insert cleanup w.cleaned }
    else none
  | .shutdown, w => some (w.post .shutdown)

/-- `mailbox.recv()` -/
def recv (w : World) : Option (Message × World) :=
  match w.mailbox with
  | [] => none
  | m :: ms => some (m, { w with mailbox := ms })

end World

/-! ## What the events leave alone -/

/-- What no event changes. -/
structure World.EventFrame (w w' : World) : Prop where
  state : w'.state = w.state
  retryQueue : w'.retryQueue = w.retryQueue
  config : w'.config = w.config
  nextTickHandle : w'.nextTickHandle = w.nextTickHandle
  nextHandle : w'.nextHandle = w.nextHandle
  tasks : w'.tasks = w.tasks
  cancelled : w'.cancelled = w.cancelled
  cleanups : w'.cleanups = w.cleanups
  hasCodexClient : w'.hasCodexClient = w.hasCodexClient
  hasCodexClientFactory : w'.hasCodexClientFactory = w.hasCodexClientFactory

theorem World.EventFrame.refl (w : World) : w.EventFrame w := ⟨rfl, rfl, rfl, rfl, rfl, rfl, rfl, rfl, rfl, rfl⟩

theorem World.EventFrame.trans {w w' w'' : World} (h : w.EventFrame w') (h' : w'.EventFrame w'') :
    w.EventFrame w'' where
  state := h'.state.trans h.state
  retryQueue := h'.retryQueue.trans h.retryQueue
  config := h'.config.trans h.config
  nextTickHandle := h'.nextTickHandle.trans h.nextTickHandle
  nextHandle := h'.nextHandle.trans h.nextHandle
  tasks := h'.tasks.trans h.tasks
  cancelled := h'.cancelled.trans h.cancelled
  cleanups := h'.cleanups.trans h.cleanups
  hasCodexClient := h'.hasCodexClient.trans h.hasCodexClient
  hasCodexClientFactory := h'.hasCodexClientFactory.trans h.hasCodexClientFactory

theorem event_frame {e : Event} {w w' : World} (h : World.event e w = some w') : w.EventFrame w' := by
  have hmk : ∀ {v}, v = w' → w.EventFrame v → w.EventFrame w' := fun h h' => h ▸ h'
  cases e <;> simp only [World.event, Option.some.injEq, Option.map_eq_some_iff, Option.ite_none_right_eq_some] at h
  case advance | refresh | setLoader | reload | setSpawn | shutdown =>
    exact hmk h ⟨rfl, rfl, rfl, rfl, rfl, rfl, rfl, rfl, rfl, rfl⟩
  case fire => obtain ⟨t, -, h⟩ := h; exact hmk h ⟨rfl, rfl, rfl, rfl, rfl, rfl, rfl, rfl, rfl, rfl⟩
  case emit | finish => obtain ⟨-, t, -, h⟩ := h; exact hmk h ⟨rfl, rfl, rfl, rfl, rfl, rfl, rfl, rfl, rfl, rfl⟩
  case settleCancelled | settleRaised | beginCleanup | endCleanup =>
    obtain ⟨-, h⟩ := h; exact hmk h ⟨rfl, rfl, rfl, rfl, rfl, rfl, rfl, rfl, rfl, rfl⟩

/-- An event leaves the timers and posts no retry, or a timer fires. -/
theorem event_timers {e : Event} {w w' : World} (h : World.event e w = some w') :
    (w'.timers = w.timers ∧ ∃ ms, w'.mailbox = w.mailbox ++ ms ∧ ∀ m, .retryTimerFired m ∉ ms) ∨
      ∃ t ∈ w.timers, w' = (w.cancelTimer t.handle).postAll t.message?.toList := by
  cases e <;> simp only [World.event, Option.some.injEq, Option.map_eq_some_iff, Option.ite_none_right_eq_some] at h
  case advance | setLoader | setSpawn => exact .inl (h ▸ ⟨rfl, [], (List.append_nil _).symm, by simp⟩)
  case refresh | reload | shutdown => exact .inl (h ▸ ⟨rfl, _, rfl, by simp⟩)
  case fire handle =>
    obtain ⟨t, ht, rfl⟩ := h
    have hp := List.find?_some ht
    simp only [decide_eq_true_eq] at hp
    exact .inr ⟨t, List.mem_of_find?_eq_some ht, by rw [hp.1]⟩
  case emit | finish =>
    obtain ⟨-, issue, -, rfl⟩ := h
    exact .inl ⟨rfl, _, rfl, by simp⟩
  case settleCancelled | settleRaised | beginCleanup | endCleanup =>
    obtain ⟨-, rfl⟩ := h
    exact .inl ⟨rfl, [], (List.append_nil _).symm, by simp⟩

/-- Receiving a message changes the mailbox only. -/
theorem recv_eq {m : Message} {w w' : World} (h : w.recv = some (m, w')) :
    w' = { w with mailbox := w'.mailbox } ∧ w.mailbox = m :: w'.mailbox := by
  unfold World.recv at h
  cases hm : w.mailbox with
  | nil => rw [hm] at h; cases h
  | cons m' ms =>
    rw [hm] at h
    cases h
    exact ⟨rfl, rfl⟩

def Message.stops : Message → Bool
  | .shutdown => true
  | _ => false

variable [Unicode]

@[reducible] def orchestrator : Server OrchSig Exn World Message Event where
  next := World.recv
  handle := handle
  stops := Message.stops
  event := World.event

/-- The state of `OrchestratorState(poll_interval_ms=…, max_concurrent_agents=…)`. -/
def OrchestratorState.initial (config : EffectiveConfig) : OrchestratorState where
  pollIntervalMs := config.polling.intervalMs
  maxConcurrentAgents := config.agent.maxConcurrentAgents
  running := ∅
  claimed := ∅
  completed := ∅
  codexTotals := ⟨0, 0, 0⟩
  codexRateLimits := none
  runtimeTotal := 0
  identifierIndex := ∅
  clarificationWaiting := ∅

/-- The world at the first `recv` of `start_service`: reloads may have come before the first tick. -/
def World.initial (config : EffectiveConfig) (now : Instant) (hasCodexClient hasCodexClientFactory : Bool)
    (loader : Except Exn (Option EffectiveConfig)) (spawnError : Issue → Nat → Option Exn)
    (reloads : List EffectiveConfig) : World where
  state := .initial config
  mailbox := reloads.map .configReloaded ++ [.pollTick]
  retryQueue := ∅
  config := config
  nextTickHandle := none
  now := now
  timers := []
  nextHandle := 0
  tasks := []
  cancelled := ∅
  settled := ∅
  cleanups := []
  cleaning := ∅
  cleaned := ∅
  workflowLoader := loader
  spawnError := spawnError
  hasCodexClient := hasCodexClient
  hasCodexClientFactory := hasCodexClientFactory

def World.IsInitial (w : World) : Prop :=
  ∃ config now client factory loader spawnError reloads,
    w = .initial config now client factory loader spawnError reloads

abbrev OrchDiscipline := Discipline OrchSig World Message Event

abbrev OrchConf := Conf OrchSig Exn World Message

/-- The configurations that the service gets to under a discipline. -/
abbrev Reachable (D : OrchDiscipline) (c : OrchConf) : Prop := orchestrator.Reach D World.IsInitial c

theorem drift_frame {D : OrchDiscipline} {w w' : World} (h : orchestrator.Drift D w w') : w.EventFrame w' :=
  h.preserves (J := w.EventFrame) (fun _ _ _ hs _ he => hs.trans (event_frame he)) (.refl w)

/-! ## A service to run -/

section Sample

omit [Unicode]

def sampleIssue (id : String) : Issue where
  id := py id
  identifier := py id
  title := py "title"
  state := py "Todo"
  description := none
  priority := none
  branchName := none
  url := none
  labels := []
  blockedBy := []
  createdAt := none
  updatedAt := none

def sampleWorld : World :=
  .initial sampleConfig 63000000000000000 false true (.ok (some sampleConfig)) (fun _ _ => none) []

def sampleStart : OrchConf := ⟨sampleWorld, .idle⟩

theorem sampleWorld_isInitial : sampleWorld.IsInitial := ⟨_, _, _, _, _, _, _, rfl⟩

/-- Answers to the calls, each kind always the same; the refresh of the running issues fails. -/
structure Answers where
  states : Except Exn (List Issue) := .error ⟨.linearError, py "timeout"⟩
  candidates : Except Exn (List Issue) := .ok []
  sufficient : Bool := true

def Answers.reply (a : Answers) : (r : OrchReq) → OrchSig.Ans r
  | .fetchIssueStatesByIds _ => a.states
  | .fetchCandidateIssues _ => a.candidates
  | .fetchComments _ => .ok []
  | .ensureForIssue _ => .ok ⟨py "/tmp/ws/x", true⟩
  | .analyze .. => .ok ⟨a.sufficient, [py "question"], none⟩
  | .addComment .. => .ok ()

/-- The handler goes on with an answer. -/
def Answers.resume (a : Answers) : Label OrchSig Event := .resume a.reply

/-- The first tick, which starts one issue. -/
def sampleTick : List (Label OrchSig Event) :=
  [.recv, Answers.resume { candidates := .ok [sampleIssue "a"] }, Answers.resume {}, Answers.resume {},
    Answers.resume {}]

theorem mem_sampleTick {l : Label OrchSig Event} (hl : l ∈ sampleTick) :
    l = .recv ∨ l = Answers.resume { candidates := .ok [sampleIssue "a"] } ∨ l = Answers.resume {} := by
  simp only [sampleTick, List.mem_cons, List.not_mem_nil, or_false] at hl
  tauto

end Sample

end RiverGang
