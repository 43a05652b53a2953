import Mathlib.Data.Finset.Lattice.Lemmas
import RiverGang.Orchestrator.Attribution
import RiverGang.Orchestrator.Backoff
import RiverGang.Orchestrator.Ticks

/-!
# The graceful shutdown

`_graceful_shutdown` of `orchestrator/startup.py` runs after the dispatcher stopped: it cancels the tick, stops the HTTP
server, cancels the retries, cancels the workers and waits for them, and stops the watcher. Around its suspensions timers
still fire and workers still report, into a mailbox that nobody reads.

* `drainWorkers_sat`: a worker is cancelled once, and again only if it outlives the grace period.
* `graceful_shutdown`: whatever happens meanwhile, no timer is left that would post, and no running entry without its
  worker cancelled or settled.
-/

namespace RiverGang

open Py Coop Task

/-! ## The program -/

inductive TeardownReq
  | stopHttp
  /-- `asyncio.wait(tasks, timeout=…)`, by the time when it times out -/
  | wait (tasks : List Nat) (deadline : Instant)
  | stopWatcher

@[reducible] def TeardownSig : Sig := ⟨TeardownReq, fun _ => Except Exn Unit⟩

/-- The world, and each cancellation of the teardown with its time; the latter is not in the source. -/
structure Teardown where
  world : World
  cancels : List (Nat × Instant)

abbrev Ending := Task TeardownSig Exn Teardown

namespace Teardown

def onWorld (s : Teardown) (f : World → World) : Teardown := { s with world := f s.world }

/-- `task.cancel()`, which does nothing to a task that is done. -/
def cancel (s : Teardown) (task : Nat) : Teardown :=
  if task ∈ s.world.settled then s else ⟨s.world.terminateWorkerHandle task, s.cancels ++ [(task, s.world.now)]⟩

end Teardown

/-- `RetryQueue.cancel_all` -/
def World.cancelAllRetries (w : World) : World :=
  { w with
    retryQueue := ∅
    timers := w.timers.filter fun t => w.retryQueue.values.all fun entry => entry.timerHandle ≠ t.handle }

/-- The tasks that are not done. -/
def World.pending (w : World) (tasks : List Nat) : List Nat := tasks.filter fun task => task ∉ w.settled

/-- `with contextlib.suppress(asyncio.CancelledError, Exception)` -/
def suppressed (p : Ending Unit) : Ending Unit := tryExcept (fun _ => true) p fun _ => pure ()

/-- `await`, of what raises its exceptions. -/
def awaited (r : TeardownReq) : Ending Unit := request r >>= ofExcept

/-- `_drain_workers` -/
def drainWorkers (shutdownGraceMs : Int) : Ending Unit := do
  let s ← get
  let tasks := s.world.state.running.values.map (·.workerHandle)
  forEach tasks fun task => modify (·.cancel task)
  let s ← get
  let pending := s.world.pending tasks
  if pending = [] then pure ()
  else
    awaited (.wait pending (s.world.now + max shutdownGraceMs 0 * 1000))
    let s ← get
    let stillPending := s.world.pending pending
    if stillPending = [] then pure ()
    else
      forEach stillPending fun task => modify (·.cancel task)
      let s ← get
      suppressed (awaited (.wait stillPending (s.world.now + 1000000)))

/-- `_graceful_shutdown`, with a server to stop or without. -/
def gracefulShutdown (hasHttp : Bool) (shutdownGraceMs : Int) : Ending Unit := do
  modify (·.onWorld World.tickCancelled)
  if hasHttp then suppressed (awaited .stopHttp)
  modify (·.onWorld World.cancelAllRetries)
  drainWorkers shutdownGraceMs
  suppressed (awaited .stopWatcher)

/-! ## What happens around it -/

/-- What time does to a world that no dispatcher works on: timers go, workers settle. -/
structure World.Winding (w w' : World) : Prop where
  state : w'.state = w.state
  retryQueue : w'.retryQueue = w.retryQueue
  nextTickHandle : w'.nextTickHandle = w.nextTickHandle
  tasks : w'.tasks = w.tasks
  timers : w'.timers.Sublist w.timers
  settled : w.settled ⊆ w'.settled
  now : w.now ≤ w'.now

namespace World.Winding

variable {w w' w'' : World}

theorem refl (w : World) : w.Winding w := ⟨rfl, rfl, rfl, rfl, .refl _, Finset.Subset.refl _, le_refl _⟩

theorem trans (h : w.Winding w') (h' : w'.Winding w'') : w.Winding w'' where
  state := h'.state.trans h.state
  retryQueue := h'.retryQueue.trans h.retryQueue
  nextTickHandle := h'.nextTickHandle.trans h.nextTickHandle
  tasks := h'.tasks.trans h.tasks
  timers := h'.timers.trans h.timers
  settled := h.settled.trans h'.settled
  now := le_trans h.now h'.now

theorem event {e : Event} (h : World.event e w = some w') : w.Winding w' := by
  have hf := event_frame h
  refine ⟨hf.state, hf.retryQueue, hf.nextTickHandle, hf.tasks, ?_, ?_, ?_⟩
  · rcases event_timers h with ⟨ht, -⟩ | ⟨t, -, rfl⟩
    · rw [ht]
    · exact List.filter_sublist
  all_goals
    cases e <;> simp only [World.event, Option.some.injEq, Option.map_eq_some_iff, Option.ite_none_right_eq_some] at h
    case advance | refresh | setLoader | reload | setSpawn | shutdown =>
      subst h
      first | exact Finset.Subset.refl _ | exact Int.le_add_of_nonneg_right (Int.natCast_nonneg _) | exact le_refl _
    case fire => obtain ⟨t, -, rfl⟩ := h; first | exact Finset.Subset.refl _ | exact le_refl _
    case emit => obtain ⟨-, t, -, rfl⟩ := h; first | exact Finset.Subset.refl _ | exact le_refl _
    case finish => obtain ⟨-, t, -, rfl⟩ := h; first | exact Finset.subset_insert _ _ | exact le_refl _
    case settleCancelled | settleRaised =>
      obtain ⟨-, rfl⟩ := h; first | exact Finset.subset_insert _ _ | exact le_refl _
    case beginCleanup | endCleanup => obtain ⟨-, rfl⟩ := h; first | exact Finset.Subset.refl _ | exact le_refl _

end World.Winding

/-! ## Cancelling the workers -/

section Cancel

variable {s : Teardown} {tasks : List Nat} {task : Nat}

theorem World.mem_pending {w : World} : task ∈ w.pending tasks ↔ task ∈ tasks ∧ task ∉ w.settled := by
  simp [World.pending, List.mem_filter]

theorem World.pending_sublist (w : World) (tasks : List Nat) : (w.pending tasks).Sublist tasks := List.filter_sublist

/-- What a loop of cancellations makes of a teardown. -/
def Teardown.cancelAll (s : Teardown) (tasks : List Nat) : Teardown where
  world := { s.world with cancelled := s.world.cancelled ∪ (s.world.pending tasks).toFinset }
  cancels := s.cancels ++ (s.world.pending tasks).map fun task => (task, s.world.now)

theorem Teardown.cancelAll_nil (s : Teardown) : s.cancelAll [] = s := by
  simp [cancelAll, World.pending]

theorem Teardown.cancelAll_cons (s : Teardown) (task : Nat) (tasks : List Nat) :
    s.cancelAll (task :: tasks) = (s.cancel task).cancelAll tasks := by
  unfold cancel
  split
  · rename_i h
    simp [cancelAll, World.pending, h]
  · rename_i h
    have hp : s.world.pending (task :: tasks) = task :: s.world.pending tasks := List.filter_cons_of_pos (by simpa using h)
    have hset : (s.world.terminateWorkerHandle task).cancelled = insert task s.world.cancelled := if_neg h
    have hcancelled : s.world.cancelled ∪ (task :: s.world.pending tasks).toFinset =
        insert task s.world.cancelled ∪ (s.world.pending tasks).toFinset := by
      rw [List.toFinset_cons, Finset.union_insert, Finset.insert_union]
    unfold cancelAll
    rw [hp, hcancelled, ← hset, List.map_cons, List.append_cons]
    rfl

theorem World.pending_pending (w : World) (tasks : List Nat) : w.pending (w.pending tasks) = w.pending tasks := by
  simp [World.pending, List.filter_filter]

theorem Teardown.cancelAll_pending (s : Teardown) (tasks : List Nat) :
    s.cancelAll (s.world.pending tasks) = s.cancelAll tasks := by
  unfold cancelAll
  rw [World.pending_pending]

/-- The loop does not suspend. -/
theorem forEach_cancel : ∀ (tasks : List Nat) (s : Teardown),
    forEach (S := TeardownSig) (ε := Exn) tasks (fun task => modify (·.cancel task)) s = .ret () (s.cancelAll tasks)
  | [], s => by rw [Teardown.cancelAll_nil]; rfl
  | task :: tasks, s => by
    rw [Teardown.cancelAll_cons, ← forEach_cancel tasks (s.cancel task)]
    rfl

@[simp] theorem Teardown.cancelAll_settled : (s.cancelAll tasks).world.settled = s.world.settled := rfl

@[simp] theorem Teardown.cancelAll_now : (s.cancelAll tasks).world.now = s.world.now := rfl

end Cancel

section Service

variable [Unicode]

theorem winding_of_drift {D : OrchDiscipline} {w w' : World} (h : orchestrator.Drift D w w') : w.Winding w' :=
  h.preserves (J := w.Winding) (fun _ _ _ hs _ he => hs.trans (.event he)) (.refl w)

/-- Around the suspensions of the teardown the service goes on without its dispatcher; a wait ends when its tasks are
done, or at its time, or because the service itself is cancelled. -/
def aroundTeardown : Proto TeardownSig Teardown where
  rely s s' := orchestrator.Drift .free s.world s'.world ∧ s'.cancels = s.cancels
  answer s r x :=
    match r with
    | .wait tasks deadline => x = .ok () → s.world.pending tasks = [] ∨ deadline ≤ s.world.now
    | _ => True

/-- A call whose exceptions are suppressed. -/
theorem suppressed_sat {r : TeardownReq} {s : Teardown} {Q : Teardown → Prop} {X : Exn → Teardown → Prop}
    (hQ : ∀ s', aroundTeardown.rely s s' → Q s') :
    (suppressed (awaited r) s).Sat aroundTeardown (fun _ => True) (fun _ => Q) X := by
  refine ⟨trivial, fun s' x hr _ => ?_⟩
  cases x with
  | ok u => exact hQ s' hr
  | error e => exact hQ s' hr

/-! ## The drain -/

/-- What the drain of the workers `tasks` comes to, begun at `s`: those that were not done are cancelled, and again, at
`t`, the ones that outlived the grace period. -/
structure Drained (graceMs : Int) (tasks : List Nat) (s s' : Teardown) : Prop where
  winding : s.world.Winding s'.world
  cancelled : s'.world.cancelled = s.world.cancelled ∪ (s.world.pending tasks).toFinset
  cancels : ∃ again t, s'.cancels = (s.cancelAll tasks).cancels ++ again.map (fun task => (task, t)) ∧
    again.Sublist (s.world.pending tasks) ∧ (again ≠ [] → s.world.now + max graceMs 0 * 1000 ≤ t)

omit [Unicode] in
theorem winding_cancelAll (s : Teardown) (tasks : List Nat) : s.world.Winding (s.cancelAll tasks).world :=
  ⟨rfl, rfl, rfl, rfl, .refl _, Finset.Subset.refl _, le_refl _⟩

/-- A wait of the teardown. -/
theorem winding_of_rely {s s' : Teardown} (h : aroundTeardown.rely s s') :
    s.world.Winding s'.world ∧ s'.world.cancelled = s.world.cancelled ∧ s'.cancels = s.cancels :=
  ⟨winding_of_drift h.1, (drift_frame h.1).cancelled, h.2⟩

omit [Unicode] in
/-- After the first cancellations, and whatever happens since. -/
theorem Drained.once (graceMs : Int) (tasks : List Nat) (s : Teardown) : Drained graceMs tasks s (s.cancelAll tasks) :=
  ⟨winding_cancelAll s tasks, rfl, [], s.world.now, by simp, by simp, by simp⟩

theorem Drained.rely {graceMs : Int} {tasks : List Nat} {s s' s'' : Teardown} (h : Drained graceMs tasks s s')
    (hr : aroundTeardown.rely s' s'') : Drained graceMs tasks s s'' := by
  obtain ⟨hw, hc, hl⟩ := winding_of_rely hr
  exact ⟨h.winding.trans hw, hc.trans h.cancelled, hl ▸ h.cancels⟩

omit [Unicode] in
/-- The second cancellations, of what is not done after the grace period. -/
theorem Drained.again {graceMs : Int} {tasks : List Nat} {s s' : Teardown} (h : Drained graceMs tasks s s')
    (hc : s'.cancels = (s.cancelAll tasks).cancels) (ht : s.world.now + max graceMs 0 * 1000 ≤ s'.world.now) :
    Drained graceMs tasks s (s'.cancelAll (s.world.pending tasks)) where
  winding := h.winding.trans (winding_cancelAll _ _)
  cancelled := by
    change s'.world.cancelled ∪ (s'.world.pending (s.world.pending tasks)).toFinset = _
    have hsub : (s'.world.pending (s.world.pending tasks)).toFinset ⊆ (s.world.pending tasks).toFinset := by
      intro task ht
      rw [List.mem_toFinset] at ht ⊢
      exact (World.pending_sublist _ _).subset ht
    rw [h.cancelled, Finset.union_assoc, Finset.union_eq_left.2 hsub]
  cancels := ⟨s'.world.pending (s.world.pending tasks), s'.world.now, by rw [← hc]; rfl, World.pending_sublist _ _,
    fun _ => ht⟩

/-- **The drain**, whether it returns or is itself cancelled. -/
theorem drainWorkers_sat (graceMs : Int) (s : Teardown) :
    let tasks := s.world.state.running.values.map (·.workerHandle)
    (drainWorkers graceMs s).Sat aroundTeardown (fun _ => True) (fun _ => Drained graceMs tasks s)
      (fun _ => Drained graceMs tasks s) := by
  intro tasks
  unfold drainWorkers
  simp only [bind_apply, get_apply, Res.bind_ret, forEach_cancel]
  have hfirst : (s.cancelAll tasks).world.pending tasks = s.world.pending tasks := rfl
  have honce := Drained.once graceMs tasks s
  rw [hfirst]
  by_cases hnil : s.world.pending tasks = []
  · rw [if_pos hnil]
    exact honce
  rw [if_neg hnil]
  refine ⟨trivial, fun s' x hr ha => ?_⟩
  have hwait := honce.rely hr
  cases x with
  | error e => exact hwait
  | ok u =>
    by_cases hstill : s'.world.pending (s.world.pending tasks) = []
    · change Res.Sat _ _ _ _ ((if s'.world.pending (s.world.pending tasks) = [] then pure () else _ : Ending Unit) s')
      rw [if_pos hstill]
      exact hwait
    change Res.Sat _ _ _ _ ((if s'.world.pending (s.world.pending tasks) = [] then _ else _ : Ending Unit) s')
    rw [if_neg hstill]
    have hdeadline : s.world.now + max graceMs 0 * 1000 ≤ s'.world.now := (ha rfl).resolve_left hstill
    simp only [bind_apply, forEach_cancel, Res.bind_ret, Teardown.cancelAll_pending]
    have hagain := hwait.again (winding_of_rely hr).2.2 hdeadline
    exact suppressed_sat fun s'' hr' => hagain.rely hr'

/-! ## The timers -/

omit [Unicode] in
theorem World.Winding.tickHandles {w w' : World} (h : w.Winding w') : w'.tickHandles.Sublist w.tickHandles :=
  h.timers.filterMap _

omit [Unicode] in
theorem World.Clocked.tickHandles_nil {w : World} (h : w.Clocked) : w.tickCancelled.tickHandles = [] := by
  have hnone : w.tickCancelled.nextTickHandle = none := by rw [World.tickCancelled_eq]
  have hs := h.tickCancelled.tick
  rw [hnone] at hs
  exact List.sublist_nil.1 hs

omit [Unicode] in
theorem World.Signalled.tickCancelled {w : World} {i : Str} (h : w.Signalled i) : w.tickCancelled.Signalled i := by
  cases hn : w.nextTickHandle with
  | none => rwa [World.tickCancelled, hn]
  | some handle =>
    have hw : w.tickCancelled = { w.cancelTimer handle with nextTickHandle := none } := by rw [World.tickCancelled, hn]
    rw [hw]
    exact h.mono (World.signals_cancelTimer w handle) rfl

theorem signalled_of_drift {D : OrchDiscipline} {w w' : World} {i : Str} (hd : orchestrator.Drift D w w')
    (h : w.Signalled i) : w'.Signalled i :=
  hd.preserves (J := fun w => w.Signalled i) (fun _ _ _ hs _ he => hs.event he) h

omit [Unicode] in
/-- With the tick and the retries cancelled, a timer that is left is one that posts nothing. -/
theorem message?_cancelAllRetries {w : World} (ht : w.tickHandles = []) (hs : ∀ i, w.Signalled i) {t : Timer}
    (hm : t ∈ w.cancelAllRetries.timers) : t.message? = none := by
  obtain ⟨hm, hkept⟩ := List.mem_filter.1 hm
  unfold Timer.message?
  cases hc : t.callback with
  | ignore => rfl
  | postPollTick =>
    have htick : t.handle ∈ w.tickHandles := List.mem_filterMap.2 ⟨t, hm, if_pos hc⟩
    rw [ht] at htick
    cases htick
  | postRetryTimer i =>
    have hsignal : t.handle ∈ w.signals i := List.mem_append_left _ (List.mem_filterMap.2 ⟨t, hm, if_pos hc⟩)
    obtain ⟨entry, he, hhandle, -⟩ := (hs i).of_mem hsignal
    have hvalue : entry ∈ w.retryQueue.values := List.mem_map.2 ⟨(i, entry), Dict.mem_entries.2 he, rfl⟩
    have hne := List.all_eq_true.1 hkept entry hvalue
    simp [hhandle] at hne

/-! ## The whole of it -/

/-- The teardown of `w`: its timers are gone by the time of `v`, when the drain begins. -/
structure TornDown (graceMs : Int) (w : World) (s : Teardown) : Prop where
  drained : ∃ v : World, v.state = w.state ∧ v.tasks = w.tasks ∧ w.settled ⊆ v.settled ∧ v.cancelled = w.cancelled ∧
    v.retryQueue = ∅ ∧ (w.Clocked → v.tickHandles = []) ∧
    (w.Clocked → (∀ i, w.Signalled i) → ∀ t ∈ v.timers, t.message? = none) ∧
    Drained graceMs (v.state.running.values.map (·.workerHandle)) ⟨v, []⟩ s

theorem TornDown.rely {graceMs : Int} {w : World} {s s' : Teardown} (h : TornDown graceMs w s)
    (hr : aroundTeardown.rely s s') : TornDown graceMs w s' := by
  obtain ⟨v, hstate, htasks, hsettled, hcancelled, hqueue, hticks, hquiet, hd⟩ := h.drained
  exact ⟨v, hstate, htasks, hsettled, hcancelled, hqueue, hticks, hquiet, hd.rely hr⟩

omit [Unicode] in
/-- What is left of the world when the teardown is over. -/
theorem TornDown.left {graceMs : Int} {w : World} {s : Teardown} (h : TornDown graceMs w s) :
    s.world.state = w.state ∧ s.world.tasks = w.tasks ∧ s.world.retryQueue = ∅ ∧ (w.Clocked → s.world.tickHandles = []) ∧
    ∀ i entry, w.state.running.get? i = some entry →
      entry.workerHandle ∈ s.world.settled ∨ entry.workerHandle ∈ s.world.cancelled := by
  obtain ⟨v, hstate, htasks, -, -, hqueue, hticks, -, hdrained⟩ := h.drained
  have hend := hdrained.winding
  refine ⟨hend.state.trans hstate, hend.tasks.trans htasks, hend.retryQueue.trans hqueue, fun hc => ?_,
    fun i entry he => ?_⟩
  · have hsub := hend.tickHandles
    rw [show (⟨v, []⟩ : Teardown).world.tickHandles = [] from hticks hc] at hsub
    exact List.sublist_nil.1 hsub
  · rw [← hstate] at he
    have hmem : entry.workerHandle ∈ v.state.running.values.map (·.workerHandle) :=
      List.mem_map.2 ⟨entry, List.mem_map.2 ⟨(i, entry), Dict.mem_entries.2 he, rfl⟩, rfl⟩
    by_cases hdone : entry.workerHandle ∈ v.settled
    · exact .inl (hend.settled hdone)
    · rw [hdrained.cancelled]
      exact .inr (Finset.mem_union_right _ (List.mem_toFinset.2 (World.mem_pending.2 ⟨hmem, hdone⟩)))

/-- The drain, after the tick was cancelled and the server stopped. -/
theorem drain_sat (graceMs : Int) {w : World} {s : Teardown}
    (hr : aroundTeardown.rely ⟨w.tickCancelled, []⟩ s) :
    (drainWorkers graceMs (s.onWorld World.cancelAllRetries)).Sat aroundTeardown (fun _ => True)
      (fun _ => TornDown graceMs w) (fun _ => TornDown graceMs w) := by
  obtain ⟨v, cancels⟩ := s
  obtain ⟨hwind, hcancelled, hcancels⟩ := winding_of_rely hr
  obtain rfl : cancels = [] := hcancels
  have hv (hc : w.Clocked) : v.tickHandles = [] := by
    have hv := hwind.tickHandles
    rw [hc.tickHandles_nil] at hv
    exact List.sublist_nil.1 hv
  have htick (hc : w.Clocked) : v.cancelAllRetries.tickHandles = [] := by
    have hsub : v.cancelAllRetries.tickHandles.Sublist v.tickHandles := List.filter_sublist.filterMap _
    rw [hv hc] at hsub
    exact List.sublist_nil.1 hsub
  have hstate : v.state = w.state := hwind.state.trans (by rw [World.tickCancelled_eq])
  have htasks : v.tasks = w.tasks := hwind.tasks.trans (by rw [World.tickCancelled_eq])
  have hsettled : w.settled ⊆ v.settled := by
    have hsub := hwind.settled
    rw [World.tickCancelled_eq] at hsub
    exact hsub
  have hcancelled : v.cancelled = w.cancelled := hcancelled.trans (by rw [World.tickCancelled_eq])
  have hquiet (hc : w.Clocked) (hs : ∀ i, w.Signalled i) : ∀ t ∈ v.cancelAllRetries.timers, t.message? = none := fun t ht =>
    message?_cancelAllRetries (hv hc) (fun i => signalled_of_drift hr.1 (hs i).tickCancelled) ht
  have hd := drainWorkers_sat graceMs ⟨v.cancelAllRetries, []⟩
  have hend (s' : Teardown) (h : Drained graceMs (v.cancelAllRetries.state.running.values.map (·.workerHandle))
      ⟨v.cancelAllRetries, []⟩ s') : TornDown graceMs w s' :=
    ⟨v.cancelAllRetries, hstate, htasks, hsettled, hcancelled, rfl, htick, hquiet, h⟩
  exact hd.mono (fun _ => id) (fun _ => hend) fun _ => hend

theorem gracefulShutdown_sat (hasHttp : Bool) (graceMs : Int) (w : World) :
    (gracefulShutdown hasHttp graceMs ⟨w, []⟩).Sat aroundTeardown (fun _ => True) (fun _ => TornDown graceMs w)
      (fun _ => TornDown graceMs w) := by
  have hrest (s : Teardown) (hr : aroundTeardown.rely ⟨w.tickCancelled, []⟩ s) :
      ((modify (·.onWorld World.cancelAllRetries) >>= fun _ => drainWorkers graceMs >>= fun _ =>
        suppressed (awaited .stopWatcher) : Ending Unit) s).Sat aroundTeardown (fun _ => True)
        (fun _ => TornDown graceMs w) (fun _ => TornDown graceMs w) := by
    simp only [bind_apply, modify_apply, Res.bind_ret]
    refine (drain_sat graceMs hr).bind fun _ s' h => ?_
    exact suppressed_sat fun s'' hr' => h.rely hr'
  unfold gracefulShutdown
  simp only [bind_apply, modify_apply, Res.bind_ret]
  cases hasHttp with
  | false => exact hrest _ ⟨.refl, rfl⟩
  | true =>
    have hhttp : ∀ s, aroundTeardown.rely ⟨w.tickCancelled, []⟩ s → aroundTeardown.rely ⟨w.tickCancelled, []⟩ s :=
      fun _ => id
    exact (suppressed_sat hhttp).bind fun _ s hr => hrest s hr

/-! ## Every run -/

theorem reachable_sound {D : OrchDiscipline} {c : OrchConf} (h : Reachable D c) : c.state.register.Sound := by
  have hs := Phases.reach_says (J := fun w => w.register.Sound) (K := fun _ w => w.register.Sound) (handlers_simulate D)
    ⟨fun h hw => hw.register.1.sound h, fun h _ _ he => sound_event he h⟩ (fun _ hw => hw.sound)
    (fun _ _ _ hs _ he => sound_event he hs) (fun _ _ _ hs hr _ => sound_recv hr hs) (fun _ _ _ hs => hs) h
  exact Phases.Says.state (Q := fun w : World => w.register.Sound) (fun _ h => h) (fun _ _ h => h) hs

omit [Unicode] in
/-- Each running entry has a worker of its own. -/
theorem workers_nodup {w : World} (h : w.register.Sound) : (w.state.running.values.map (·.workerHandle)).Nodup := by
  unfold Dict.values
  rw [List.map_map]
  refine List.Nodup.map_on ?_ (List.Nodup.of_map _ w.state.running.nodup)
  rintro ⟨i, entry⟩ hi ⟨j, entry'⟩ hj heq
  have hi := Dict.mem_entries.1 hi
  have hj := Dict.mem_entries.1 hj
  have hw : entry.workerHandle = entry'.workerHandle := heq
  obtain rfl := h.inj (World.current_of_running hi) (hw ▸ World.current_of_running hj)
  rw [Option.some.inj (hi.symm.trans hj)]

theorem clocked_of_stopped {D : OrchDiscipline} {c : OrchConf} (h : Reachable D c) (hm : c.mode = .stopped) :
    c.state.Clocked := by
  have hs := reachable_tickIn h
  obtain ⟨w, mode⟩ := c
  obtain rfl : mode = .stopped := hm
  obtain ⟨m, hm, hs⟩ := hs
  cases m with
  | shutdown => exact hs
  | pollTick | workerExit | codexUpdate | retryTimerFired | configReloaded => cases hm

theorem signalled_of_stopped {D : OrchDiscipline} (hD : Spaced D) {c : OrchConf} (h : Reachable D c)
    (hm : c.mode = .stopped) (i : Str) : c.state.Signalled i := by
  have hs := reachable_heard hD h
  obtain ⟨w, mode⟩ := c
  obtain rfl : mode = .stopped := hm
  obtain ⟨m, -, -, hs⟩ := hs
  exact hs i

theorem clocked_of_drift {D : OrchDiscipline} {w w' : World} (hd : orchestrator.Drift D w w') (h : w.Clocked) :
    w'.Clocked :=
  hd.preserves (J := World.Clocked) (fun _ _ _ hs _ he => (hs.event he).1) h

/-- **The graceful shutdown**, after any run that stopped the dispatcher and with whatever happens around it: it starts
no worker and changes nothing that the dispatcher keeps but the retries, which are gone; no tick is pending; every
running entry has a worker that is done or was cancelled. Each of these is cancelled at most twice, the second time only
if it outlives the grace period. Where retries are spaced no timer is left that would post; where only vacant issues are
started there is no worker at all that is neither done nor cancelled. -/
theorem graceful_shutdown {c : OrchConf} (h : Reachable .free c) (hm : c.mode = .stopped) {w : World}
    (hd : orchestrator.Drift .free c.state w) {hasHttp : Bool} {graceMs : Int} {o : Except Exn Unit} {s : Teardown}
    (hr : Runs aroundTeardown (gracefulShutdown hasHttp graceMs ⟨w, []⟩) o s) :
    s.world.state = c.state.state ∧ s.world.tasks = c.state.tasks ∧ s.world.retryQueue = ∅ ∧ s.world.tickHandles = [] ∧
    (∀ i entry, c.state.state.running.get? i = some entry →
      entry.workerHandle ∈ s.world.settled ∨ entry.workerHandle ∈ s.world.cancelled) ∧
    (∃ first again t₁ t₂, s.cancels = first.map (fun task => (task, t₁)) ++ again.map (fun task => (task, t₂)) ∧
      first.Nodup ∧ again.Sublist first ∧
      (∀ task ∈ first, ∃ i entry, c.state.state.running.get? i = some entry ∧ entry.workerHandle = task) ∧
      (again ≠ [] → t₁ + max graceMs 0 * 1000 ≤ t₂)) ∧
    (Reachable spacedCandidates c → ∀ t ∈ s.world.timers, t.message? = none) ∧
    (Reachable startsVacant c → ∀ task < c.state.tasks.length, task ∈ s.world.settled ∨ task ∈ s.world.cancelled) := by
  have hclocked := clocked_of_drift hd (clocked_of_stopped h hm)
  have hwind := winding_of_drift hd
  have hframe := drift_frame hd
  have hdown := (gracefulShutdown_sat hasHttp graceMs w).ends hr
  obtain ⟨hleft, hlefttasks, hleftqueue, hleftticks, hleftworkers⟩ := hdown.left
  obtain ⟨v, hstate, -, hsettled, hcancelled, -, -, hquiet, hdrained⟩ := hdown.drained
  have hstate : v.state = c.state.state := hstate.trans hwind.state
  have hsettled : c.state.settled ⊆ v.settled := hwind.settled.trans hsettled
  have hcancelled : v.cancelled = c.state.cancelled := hcancelled.trans hframe.cancelled
  have hend := hdrained.winding
  have hworkers : ∀ i entry, c.state.state.running.get? i = some entry →
      entry.workerHandle ∈ s.world.settled ∨ entry.workerHandle ∈ s.world.cancelled := by
    rw [← hwind.state]
    exact hleftworkers
  refine ⟨hleft.trans hwind.state, hlefttasks.trans hwind.tasks, hleftqueue, hleftticks hclocked, hworkers, ?_, ?_, ?_⟩
  · obtain ⟨again, t, hcancels, hsub, htime⟩ := hdrained.cancels
    refine ⟨_, again, _, t, hcancels, ?_, hsub, fun task ht => ?_, htime⟩
    · have hnodup := workers_nodup (reachable_sound h)
      rw [← hstate] at hnodup
      exact hnodup.sublist (World.pending_sublist _ _)
    · obtain ⟨entry, he, rfl⟩ := List.mem_map.1 (World.mem_pending.1 ht).1
      obtain ⟨⟨i, entry'⟩, hi, rfl⟩ := List.mem_map.1 he
      exact ⟨i, entry', hstate ▸ Dict.mem_entries.1 hi, rfl⟩
  · intro hspaced t ht
    have hsignalled : ∀ i, w.Signalled i := fun i =>
      signalled_of_drift hd (signalled_of_stopped spacedCandidates_spaced hspaced hm i)
    exact hquiet hclocked hsignalled t (hend.timers.subset ht)
  · intro hvacant task ht
    obtain ⟨φ, hattribution⟩ := reachable_attribution hvacant
    have hkey : c.state.register.keys[task]? = some (c.state.tasks[task].issue.id) := by
      simp only [World.register, List.getElem?_map, List.getElem?_eq_getElem ht, Option.map_some]
    by_cases hover : c.state.register.Over task
    · rcases hover with hstopped | hended
      · refine .inr ?_
        rw [hdrained.cancelled]
        exact Finset.mem_union_left _ (hcancelled ▸ hstopped)
      · exact .inl (hend.settled (hsettled hended))
    · have hcurrent := hattribution.manned _ _ hkey hover
      obtain ⟨entry, he, rfl⟩ := Option.map_eq_some_iff.1 (show c.state.workerOf _ = some task from hcurrent)
      exact hworkers _ entry he

end Service

section Sample

attribute [local instance] asciiTables

/-- The server and the watcher stop; a wait for what does not end is itself cancelled. -/
def teardownAnswers (s : Teardown) : (r : TeardownReq) → TeardownSig.Ans r
  | .wait tasks deadline =>
    if s.world.pending tasks = [] ∨ deadline ≤ s.world.now then .ok () else .error Exn.cancelled
  | .stopHttp | .stopWatcher => .ok ()

theorem runs_teardown (hasHttp : Bool) (graceMs : Int) (w : World) : Runs aroundTeardown
    (gracefulShutdown hasHttp graceMs ⟨w, []⟩) ((gracefulShutdown hasHttp graceMs ⟨w, []⟩).execWith teardownAnswers).1
    ((gracefulShutdown hasHttp graceMs ⟨w, []⟩).execWith teardownAnswers).2 := by
  refine runs_execWith (P := aroundTeardown) (fun s => ⟨.refl, rfl⟩) (fun s r => ?_) _
  cases r with
  | wait tasks deadline =>
    intro h
    by_contra hn
    rw [teardownAnswers, if_neg hn] at h
    cases h
  | stopHttp | stopWatcher => trivial

/-- A worker is at it when the service is told to stop. -/
theorem graceful_shutdown_sample : ∃ c o s, Reachable .free c ∧ c.mode = .stopped ∧ c.state.workerOf (py "a") = some 0 ∧
    Runs aroundTeardown (gracefulShutdown true 30000 ⟨c.state, []⟩) o s ∧ s.world.tickHandles = [] ∧
    (0 ∈ s.world.settled ∨ 0 ∈ s.world.cancelled) := by
  have hrun : ((orchestrator.run sampleStart (sampleTick ++ [.event .shutdown, .recv])).map fun c =>
      (c.mode.isStopped, c.state.workerOf (py "a"))) = some (true, some 0) := by decide +kernel
  obtain ⟨c, hc, hd⟩ := Option.map_eq_some_iff.1 hrun
  obtain ⟨hover, hworker⟩ := Prod.mk.inj hd
  have hm := Mode.isStopped_iff.1 hover
  have hreach : Reachable .free c := .run (.start sampleWorld_isInitial) (fun l _ => Discipline.always_free l) hc
  have hruns := runs_teardown true 30000 c.state
  obtain ⟨entry, he, hentry⟩ := Option.map_eq_some_iff.1 (show (c.state.state.running.get? (py "a")).map _ = _ from hworker)
  obtain ⟨-, -, -, hticks, hworkers, -⟩ := graceful_shutdown hreach hm .refl hruns
  exact ⟨c, _, _, hreach, hm, hworker, hruns, hticks, hentry ▸ hworkers _ entry he⟩

end Sample

end RiverGang
