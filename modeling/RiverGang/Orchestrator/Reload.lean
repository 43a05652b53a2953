import RiverGang.Config.Validation
import RiverGang.Orchestrator.Caps
import RiverGang.Orchestrator.Failures

/-!
# Reloads of the workflow file

`workflow/watcher.py`: at every change the watcher loads the file; what loads and validates it puts in the holder and posts
as a `ConfigReloaded`, in one stretch, for the lock of the holder is never contended. `start_service` seeds the holder
with the startup configuration before that: `awatch` waits for its thread before it yields a change.

* `WatchedEvent`, `watchedService`: the service with its watcher, over any contents of the file and any loader of them.
* `reload_converges`: the configuration in use is always a valid one; and when no `ConfigReloaded` waits it is that of the
  last content that loaded and validated, with the copies in the state.
-/

namespace RiverGang

open Py Coop

section Settings

/-! ## The invariant -/

/-- The settings follow the holder: it has a configuration as `A` says, the waiting ones and those of the workers are such,
and the last that waits is that of the holder; when none waits, the configuration in use is, and the state has its
copies. -/
structure Converges (A : EffectiveConfig → Prop) (good : EffectiveConfig) (waiting : List EffectiveConfig) (w : World) :
    Prop where
  holder : w.workflowLoader = .ok (some good)
  valid : ∀ cfg ∈ [good, w.config] ++ waiting, A cfg
  tasks : ∀ t ∈ w.tasks, A t.config
  last : ∀ cfg ∈ waiting.getLast?, cfg = good
  settled : waiting = [] → w.config = good ∧ w.state.maxConcurrentAgents = good.agent.maxConcurrentAgents ∧
    w.state.pollIntervalMs = good.polling.intervalMs

variable {A : EffectiveConfig → Prop} {good : EffectiveConfig} {waiting : List EffectiveConfig} {w w' : World}

/-- What leaves holder and settings keeps it; a new worker has the configuration in use. -/
theorem Converges.same (h : Converges A good waiting w) (hl : w'.workflowLoader = w.workflowLoader)
    (hs : SameSettings w w') (ht : ∀ t ∈ w'.tasks, t ∈ w.tasks ∨ t.config = w.config) : Converges A good waiting w' where
  holder := hl.trans h.holder
  valid := by
    rw [hs.config]
    exact h.valid
  tasks t hmem := by
    rcases ht t hmem with hold | hnew
    · exact h.tasks t hold
    · rw [hnew]
      exact h.valid _ (by simp)
  last := h.last
  settled hn := by
    rw [hs.config, hs.cap, hs.interval]
    exact h.settled hn

/-- A tick adopts the holder's configuration, whatever waits. -/
theorem Converges.adopt (h : Converges A good waiting w) {cfg : EffectiveConfig}
    (hl : w.workflowLoader = .ok (some cfg)) : Converges A good waiting { w with config := cfg } := by
  have hcfg : cfg = good := by
    have hholder := hl.symm.trans h.holder
    cases hholder
    rfl
  subst hcfg
  refine ⟨hl, fun c hc => h.valid c ?_, h.tasks, h.last, fun hn => ⟨rfl, (h.settled hn).2⟩⟩
  simp only [List.cons_append, List.nil_append, List.mem_cons] at hc ⊢
  rcases hc with hc | hc | hc
  · exact .inl hc
  · exact .inl hc
  · exact .inr (.inr hc)

/-- A `ConfigReloaded` adopts the configuration that has waited longest. -/
theorem Converges.reconfigured {cfg : EffectiveConfig} (h : Converges A good (cfg :: waiting) w) :
    Converges A good waiting (w.reconfigured cfg) := by
  refine ⟨h.holder, fun c hc => h.valid c ?_, h.tasks, fun c hc => h.last c ?_, fun hn => ?_⟩
  · simp only [List.cons_append, List.nil_append, List.mem_cons] at hc ⊢
    rcases hc with hc | hc | hc
    · exact .inl hc
    · exact .inr (.inr (.inl hc))
    · exact .inr (.inr (.inr hc))
  · cases waiting with
    | nil => cases hc
    | cons _ _ => exact hc
  · subst hn
    have hcfg : cfg = good := h.last cfg rfl
    subst hcfg
    exact ⟨rfl, rfl, rfl⟩

/-- The watcher sets the holder and adds to what waits. -/
theorem Converges.watched {cfg : EffectiveConfig} (h : Converges A good waiting w) (hv : A cfg) :
    Converges A cfg (waiting ++ [cfg])
      (World.post { w with workflowLoader := .ok (some cfg) } (.configReloaded cfg)) := by
  refine ⟨rfl, fun c hc => ?_, h.tasks, fun c hc => ?_, fun hn => ?_⟩
  · simp only [List.cons_append, List.nil_append, List.mem_cons, List.mem_append, List.not_mem_nil, or_false] at hc
    rcases hc with rfl | rfl | hc | rfl
    · exact hv
    · exact h.valid _ (by simp [World.post])
    · exact h.valid c (by simp [hc])
    · exact hv
  · rw [List.getLast?_append_of_ne_nil _ (List.cons_ne_nil _ _)] at hc
    cases hc
    rfl
  · simp at hn

end Settings

section Service

variable [Builtins] {κ : Type} (load : κ → Except Exn EffectiveConfig)

/-! ## The watcher -/

/-- `_reload_once`, where `load` is `load_workflow` and `resolve_and_validate` of what is in the file. -/
def reloadOnce (content : κ) (w : World) : World :=
  match load content with
  | .error _ => w
  | .ok cfg =>
    if (validateForDispatch cfg).ok then
      World.post { w with workflowLoader := .ok (some cfg) } (.configReloaded cfg)
    else w

inductive WatchedEvent (κ : Type)
  | watch (content : κ)
  | other (e : Event)

@[reducible] def watchedService [Unicode] : Server OrchSig Exn World Message (WatchedEvent κ) where
  next := World.recv
  handle := handle
  stops := Message.stops
  event
    | .watch content, w => some (reloadOnce load content w)
    | .other e, w => World.event e w

/-- The holder is set and a `ConfigReloaded` posted by the watcher only. -/
def watcherOnly : Discipline OrchSig World Message (WatchedEvent κ) where
  event _ e := ∀ e', e = .other e' → (∀ loader, e' ≠ .setLoader loader) ∧ ∀ config, e' ≠ .reload config
  receive _ _ := True
  answer _ _ _ _ := True

/-- The world when the holder is seeded; `start_service` goes on to post the first tick. -/
def World.seeded (config : EffectiveConfig) (now : Instant) (hasCodexClient hasCodexClientFactory : Bool)
    (spawnError : Issue → Nat → Option Exn) : World :=
  { World.initial config now hasCodexClient hasCodexClientFactory (.ok (some config)) spawnError [] with mailbox := [] }

def World.IsSeeded (config : EffectiveConfig) (w : World) : Prop :=
  ∃ now client factory spawnError, w = .seeded config now client factory spawnError

/-! ## The last good content -/

/-- The configuration of a content that loads and validates. -/
def accepted (content : κ) : Option EffectiveConfig :=
  (load content).toOption.filter fun cfg => (validateForDispatch cfg).ok

theorem accepted_ok {content : κ} {cfg : EffectiveConfig} (h : accepted load content = some cfg) :
    (validateForDispatch cfg).ok = true := (Option.filter_eq_some_iff.1 h).2

/-- A reload is that of the accepted configuration, if there is one. -/
theorem reloadOnce_eq (content : κ) (w : World) : reloadOnce load content w = (accepted load content).elim w fun cfg =>
    World.post { w with workflowLoader := .ok (some cfg) } (.configReloaded cfg) := by
  unfold reloadOnce accepted
  cases load content with
  | error e => rfl
  | ok cfg =>
    simp only [Except.toOption, Option.filter_some]
    split <;> rfl

def seenConfig : Incident World Message (WatchedEvent κ) → Option EffectiveConfig
  | .event _ (.watch content) => accepted load content
  | _ => none

/-- The configuration of the last content that loaded and validated, or of the startup. -/
def lastGood (config : EffectiveConfig) (history : List (Incident World Message (WatchedEvent κ))) : EffectiveConfig :=
  (history.filterMap (seenConfig load)).getLastD config

theorem lastGood_concat (config : EffectiveConfig) (history : List (Incident World Message (WatchedEvent κ)))
    (i : Incident World Message (WatchedEvent κ)) :
    lastGood load config (history ++ [i]) = (seenConfig load i).getD (lastGood load config history) := by
  unfold lastGood
  rw [List.filterMap_append, List.filterMap_cons]
  cases seenConfig load i with
  | none => simp
  | some cfg => simp

/-! ## Steps and events -/

variable {load} {A : EffectiveConfig → Prop} {good : EffectiveConfig} {waiting : List EffectiveConfig} {w w' : World}

variable [Unicode]

omit [Builtins] in
/-- **The step lemma.** -/
theorem Work.converges {D : OrchDiscipline} {φ φ' : Phase} (h : Work D w φ w' φ')
    (hf : Converges A good (φ.adopting ++ w.reloads) w) : Converges A good (φ'.adopting ++ w'.reloads) w' := by
  have htasks : ∀ t ∈ w'.tasks, t ∈ w.tasks ∨ t.config = w.config := by
    intro t hmem
    rcases h.tasks with heq | ⟨new, heq, -, hnew⟩
    · exact .inl (by rw [← heq]; exact hmem)
    · rw [heq, List.mem_append, List.mem_singleton] at hmem
      rcases hmem with hold | rfl
      · exact .inl hold
      · exact .inr hnew
  obtain ⟨hr, hs⟩ := h.settings
  rw [hr.reloads]
  rcases hs with ⟨hs, hφ, hφ'⟩ | ⟨cfg, rfl, rfl, hl, rfl⟩ | ⟨cfg, rfl, rfl, rfl⟩
  · rw [hφ']
    rw [hφ] at hf
    exact hf.same hr.holder hs htasks
  · exact hf.adopt hl
  · exact hf.reconfigured

omit [Unicode] [Builtins] in
/-- An event of the others keeps it. -/
theorem Converges.event {e : Event} (hf : Converges A good waiting w) (hl : ∀ loader, e ≠ .setLoader loader)
    (hr : ∀ config, e ≠ .reload config) (h : World.event e w = some w') :
    Converges A good waiting w' ∧ w'.reloads = w.reloads := by
  have hs := event_sameReloads hl hr h
  have hframe := event_frame h
  exact ⟨hf.same hs.holder (.of_frame hframe) fun t ht => .inl (by rw [← hframe.tasks]; exact ht), hs.reloads⟩

/-- A watcher that is the only one to set the holder, of contents whose accepted configurations are as `A` says. -/
structure WatcherFor (load : κ → Except Exn EffectiveConfig) (A : EffectiveConfig → Prop)
    (D : Discipline OrchSig World Message (WatchedEvent κ)) : Prop where
  only : ∀ w e, D.event w e → watcherOnly.event w e
  accepts : ∀ w content cfg, D.event w (.watch content) → accepted load content = some cfg → A cfg

/-- What an event of the watched service makes of it; `pre` is what the dispatcher is about to adopt. -/
theorem Converges.watchedEvent {D : Discipline OrchSig World Message (WatchedEvent κ)} (hD : WatcherFor load A D)
    {config : EffectiveConfig} {history : List (Incident World Message (WatchedEvent κ))}
    {e : WatchedEvent κ} {pre : List EffectiveConfig} (hf : Converges A (lastGood load config history) (pre ++ w.reloads) w)
    (hd : D.event w e) (h : (watchedService load).event e w = some w') :
    Converges A (lastGood load config (history ++ [.event w e])) (pre ++ w'.reloads) w' := by
  rw [lastGood_concat]
  cases e with
  | other e =>
    obtain ⟨hl, hr⟩ := hD.only w _ hd e rfl
    obtain ⟨hf', hsame⟩ := hf.event hl hr h
    rw [hsame]
    exact hf'
  | watch content =>
    cases h
    change Converges A ((accepted load content).getD _) _ _
    rw [reloadOnce_eq]
    cases ha : accepted load content with
    | none => exact hf
    | some cfg =>
      have hw := hf.watched (hD.accepts w content cfg hd ha)
      rw [List.append_assoc] at hw
      have hpost : (World.post { w with workflowLoader := .ok (some cfg) } (.configReloaded cfg)).reloads =
          w.reloads ++ [cfg] := by
        simp [World.reloads, World.post, Message.reload?]
      rw [Option.elim_some, hpost]
      exact hw

/-! ## Every run -/

omit [Unicode] in
theorem reloadOnce_frame (content : κ) (w : World) : w.EventFrame (reloadOnce load content w) := by
  rw [reloadOnce_eq]
  cases accepted load content with
  | none => exact .refl w
  | some cfg => exact ⟨rfl, rfl, rfl, rfl, rfl, rfl, rfl, rfl, rfl, rfl⟩

theorem watched_frame {D : Discipline OrchSig World Message (WatchedEvent κ)}
    (h : (watchedService load).Drift D w w') : w.EventFrame w' :=
  h.preserves (J := w.EventFrame) (fun v e v' hv _ he => by
    cases e with
    | watch content =>
      cases he
      exact hv.trans (reloadOnce_frame content v)
    | other e => exact hv.trans (event_frame he)) (.refl w)

/-- The handlers go by the phases here as well. -/
theorem watched_follows (D : Discipline OrchSig World Message (WatchedEvent κ)) :
    (handlerPhases .free).Follows (watchedService load) D :=
  fun _ m _ _ _ => accounted_handle (m := m) ⟨watched_frame, fun _ => trivial⟩

/-- Of every configuration of a run: the settings follow the holder, which has the last good configuration. -/
theorem watched_converges {D : Discipline OrchSig World Message (WatchedEvent κ)} (hD : WatcherFor load A D)
    {config : EffectiveConfig} (hv : A config) {past : List (OrchConf × Label OrchSig (WatchedEvent κ))} {c : OrchConf}
    (h : (watchedService load).Trace D (World.IsSeeded config) past c) :
    ∃ waiting, Converges A (lastGood load config ((watchedService load).history past)) waiting c.state ∧
      waiting = c.state.reloads := by
  have ht : (handlerPhases .free).Tells (watchedService load) D
      (fun w => Converges A (lastGood load config ((watchedService load).history past)) w.reloads w)
      (fun φ w => Converges A (lastGood load config ((watchedService load).history past)) (φ.adopting ++ w.reloads) w)
      c := by
    refine Phases.history_says (A := handlerPhases .free)
      (J := fun hist w => Converges A (lastGood load config hist) w.reloads w)
      (K := fun hist φ w => Converges A (lastGood load config hist) (φ.adopting ++ w.reloads) w)
      (watched_follows D) ⟨fun hk hw => hw.converges hk, fun hk _ hd he => hk.watchedEvent hD hd he⟩
      (fun w hw => ?_) (fun hist w e w' hj hd he => ?_) (fun hist w m w' hj hn _ => ?_) (fun _ _ _ _ hk => hk) h
    · obtain ⟨now, client, factory, spawnError, rfl⟩ := hw
      refine ⟨rfl, fun cfg hcfg => ?_, fun t ht => (by cases ht), fun cfg hcfg => (by cases hcfg),
        fun _ => ⟨rfl, rfl, rfl⟩⟩
      have hcfg : cfg = config := by simpa [World.seeded, World.initial, World.reloads, lastGood] using hcfg
      rw [hcfg]
      exact hv
    · show Converges A _ ([] ++ w'.reloads) w'
      exact hj.watchedEvent hD hd he
    · obtain ⟨hw, hm⟩ := recv_eq hn
      rw [lastGood_concat]
      have hreloads : w.reloads = (Phase.handling m).adopting ++ w'.reloads := by
        unfold World.reloads
        rw [hm, List.filterMap_cons]
        cases m <;> rfl
      rw [hreloads] at hj
      refine hj.same ?_ ⟨?_, ?_, ?_⟩ fun t ht => .inl ?_
      · rw [hw]
      · rw [hw]
      · rw [hw]
      · rw [hw]
      · rw [hw] at ht
        exact ht
  -- between stretches nothing is about to be adopted
  obtain ⟨w, mode⟩ := c
  cases mode with
  | idle => exact ⟨_, ht, rfl⟩
  | stopped =>
    obtain ⟨m, -, hk⟩ := ht
    exact ⟨_, hk, rfl⟩
  | busy m r k =>
    obtain ⟨φ, hφ, hk, -⟩ := ht
    refine ⟨_, hk, ?_⟩
    change φ.adopting ++ w.reloads = w.reloads
    rw [Phase.Awaiting.adopting hφ, List.nil_append]
  | crashed e => exact ⟨_, ht, rfl⟩

/-- **Reloads converge.** Whatever the file goes through and in whatever order the messages come, the configuration in
use is a valid one; and when no `ConfigReloaded` waits in the mailbox it is that of the holder, which is that of the last
content that loaded and validated, and the state has its copies of it. -/
theorem reload_converges {config : EffectiveConfig} (hv : (validateForDispatch config).ok = true)
    {past : List (OrchConf × Label OrchSig (WatchedEvent κ))} {c : OrchConf}
    (h : (watchedService load).Trace watcherOnly (World.IsSeeded config) past c) :
    (validateForDispatch c.state.config).ok = true ∧
    ((∀ cfg, .configReloaded cfg ∉ c.state.mailbox) →
      c.state.workflowLoader = .ok (some c.state.config) ∧
      c.state.config = lastGood load config ((watchedService load).history past) ∧
      c.state.state.maxConcurrentAgents = c.state.config.agent.maxConcurrentAgents ∧
      c.state.state.pollIntervalMs = c.state.config.polling.intervalMs) := by
  have hD : WatcherFor load (fun cfg => (validateForDispatch cfg).ok = true) watcherOnly :=
    ⟨fun _ _ hd => hd, fun _ _ _ _ ha => accepted_ok load ha⟩
  obtain ⟨waiting, hconv, rfl⟩ := watched_converges hD hv h
  refine ⟨hconv.valid _ (by simp), fun hnone => ?_⟩
  have hreloads : c.state.reloads = [] := by
    rw [List.eq_nil_iff_forall_not_mem]
    exact fun cfg hcfg => hnone cfg (World.mem_reloads.1 hcfg)
  obtain ⟨hc, hcap, hint⟩ := hconv.settled hreloads
  rw [hc]
  exact ⟨hconv.holder, rfl, hcap, hint⟩

end Service

section Sample

attribute [local instance] asciiTables sampleBuiltins

/-- A loader that knows one good file. -/
def sampleLoad (content : Str) : Except Exn EffectiveConfig :=
  if content = py "one agent" then .ok sampleSingle else .error ⟨.other, py "invalid YAML front matter"⟩

/-- A good file, the first tick, a broken file; then the `ConfigReloaded` is handled. -/
def sampleChanges : List (Label OrchSig (WatchedEvent Str)) :=
  [.event (.watch (py "one agent")), .event (.other .refresh), .event (.watch (py "one agent?")), .recv]

def sampleSeeded : World := .seeded sampleConfig 63000000000000000 false true fun _ _ => none

theorem reload_converges_sample : ∃ past c,
    (watchedService sampleLoad).Trace watcherOnly (World.IsSeeded sampleConfig) past c ∧ c.state.config = sampleSingle ∧
    c.state.workflowLoader = .ok (some c.state.config) ∧
    c.state.config = lastGood sampleLoad sampleConfig ((watchedService sampleLoad).history past) ∧
    c.state.state.maxConcurrentAgents = c.state.config.agent.maxConcurrentAgents ∧
    c.state.state.pollIntervalMs = c.state.config.polling.intervalMs := by
  have hrun : (((watchedService sampleLoad).run ⟨sampleSeeded, .idle⟩ sampleChanges).map fun c =>
      decide (c.state.config = sampleSingle ∧ c.state.reloads = [])) = some true := by decide +kernel
  obtain ⟨c, hc, hd⟩ := Option.map_eq_some_iff.1 hrun
  obtain ⟨hconfig, hnone⟩ := of_decide_eq_true hd
  have ht : (watchedService sampleLoad).Trace watcherOnly (World.IsSeeded sampleConfig) _ c :=
    .run (.start ⟨_, _, _, _, rfl⟩) (fun l hl => ?_) hc
  · have hv : (validateForDispatch sampleConfig).ok = true := by decide +kernel
    refine ⟨_, c, ht, hconfig, (reload_converges hv ht).2 fun cfg hcfg => ?_⟩
    rw [← World.mem_reloads, hnone] at hcfg
    cases hcfg
  · simp only [sampleChanges, List.mem_cons, List.not_mem_nil, or_false] at hl
    rcases hl with rfl | rfl | rfl | rfl
    · exact fun _ e he => by cases he
    · intro _ e he
      cases he
      exact ⟨fun _ => nofun, fun _ => nofun⟩
    · exact fun _ e he => by cases he
    · exact fun _ _ => trivial

end Sample

end RiverGang
