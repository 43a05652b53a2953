import RiverGang.Lib.Admission
import RiverGang.Orchestrator.Exclusive

/-!
# The slots of a tick

The dispatch loop of a tick as an admission: the load of a state is how many issues run, in all and by tracker state,
and an issue has room when neither cap is reached.

* `gate_quiet`: the clarification gate leaves the load as it is, whatever it is answered.
* `dispatchLoop_sat`: over any such gate, what became of the issues is a pass from the load before to the load after —
  as long as no issue that is running already finds room.
* `dispatchLoop_slots`: so the caps are kept, no slot is wasted, and the order is that of the list.
-/

namespace RiverGang

open Py Coop Task

section Service

variable [Unicode]

/-! ## Loads -/

theorem stateCap_congr {s t : Str} (h : lower s = lower t) (maxGlobal : Int) (perStateMap : List (Str × Int)) :
    stateCap s maxGlobal perStateMap = stateCap t maxGlobal perStateMap := by
  simp only [stateCap, h]

/-- How many run, in all and by tracker state; the names of the states are lowered. -/
abbrev Load := Nat × (Str → Nat)

def World.load (w : World) : Load :=
  (w.state.running.length, fun s => w.state.running.values.countP fun entry => lower entry.issue.state = s)

/-- One more in a tracker state. -/
def Load.add (issue : Issue) (l : Load) : Load :=
  (l.1 + 1, fun s => l.2 s + if lower issue.state = s then 1 else 0)

/-- The slots that the loop counts for an issue. -/
def Load.slots (maxGlobal : Int) (perStateMap : List (Str × Int)) (issue : Issue) (l : Load) : Int :=
  availableSlotsForDispatch issue.state maxGlobal l.1 perStateMap (l.2 (lower issue.state))

theorem Load.slots_pos {maxGlobal : Int} {perStateMap : List (Str × Int)} {issue : Issue} {l : Load} :
    0 < l.slots maxGlobal perStateMap issue ↔
      (l.1 : Int) < maxGlobal ∧ (l.2 (lower issue.state) : Int) < stateCap issue.state maxGlobal perStateMap := by
  simp only [Load.slots, availableSlotsForDispatch]
  omega

/-- The slots of the dispatch loop. -/
def slotAdmission (maxGlobal : Int) (perStateMap : List (Str × Int)) : Admission Issue Load where
  room issue l := 0 < l.slots maxGlobal perStateMap issue
  add := Load.add
  le_add _ _ := ⟨Nat.le_succ _, fun _ => Nat.le_add_right _ _⟩
  add_mono _ _ _ h := ⟨Nat.succ_le_succ h.1, fun s => Nat.add_le_add_right (h.2 s) _⟩
  room_antitone issue l l' h hr := by
    have h₁ : l.1 ≤ l'.1 := h.1
    have h₂ : l.2 (lower issue.state) ≤ l'.2 (lower issue.state) := h.2 _
    rw [Load.slots_pos] at hr ⊢
    omega

/-- Two issues of a tracker state need the same room. -/
theorem room_congr {maxGlobal : Int} {perStateMap : List (Str × Int)} {x y : Issue} {l : Load}
    (h : lower x.state = lower y.state) :
    (slotAdmission maxGlobal perStateMap).room x l ↔ (slotAdmission maxGlobal perStateMap).room y l := by
  change 0 < Load.slots .. ↔ 0 < Load.slots ..
  rw [Load.slots_pos, Load.slots_pos, h, stateCap_congr h]

/-! ## Quiet gates -/

omit [Unicode] in
/-- Nothing that the slots depend on changed, and no task was started. -/
structure SameSlots (w w' : World) : Prop where
  running : w'.state.running = w.state.running
  maxConcurrentAgents : w'.state.maxConcurrentAgents = w.state.maxConcurrentAgents
  tasks : w'.tasks = w.tasks

omit [Unicode] in
theorem SameSlots.refl (w : World) : SameSlots w w := ⟨rfl, rfl, rfl⟩

omit [Unicode] in
theorem SameSlots.trans {w w' w'' : World} (h : SameSlots w w') (h' : SameSlots w' w'') : SameSlots w w'' :=
  ⟨h'.running.trans h.running, h'.maxConcurrentAgents.trans h.maxConcurrentAgents, h'.tasks.trans h.tasks⟩

theorem SameSlots.drift {D : OrchDiscipline} {w w' : World} (h : orchestrator.Drift D w w') : SameSlots w w' :=
  h.preserves (J := SameSlots w) (fun _ _ _ hs _ he =>
    hs.trans ⟨by rw [(event_frame he).state], by rw [(event_frame he).state], (event_frame he).tasks⟩) (.refl w)

theorem SameSlots.load {w w' : World} (h : SameSlots w w') : w'.load = w.load := by
  unfold World.load
  rw [h.running]

/-- A gate that does not touch the slots. -/
def Quiet (D : OrchDiscipline) (gate : Issue → Orch Bool) : Prop :=
  ∀ issue w, (gate issue w).Sat (orchestrator.proto D .pollTick) (fun _ => True) (fun _ w' => SameSlots w w')
    (fun _ w' => SameSlots w w')

section Gate

variable {D : OrchDiscipline} {w₀ w : World}

/-- A part of the gate. -/
abbrev QuietFrom (D : OrchDiscipline) (w₀ : World) {α : Type} (t : Res OrchSig Exn World α) : Prop :=
  t.Sat (orchestrator.proto D .pollTick) (fun _ => True) (fun _ w' => SameSlots w₀ w') (fun _ w' => SameSlots w₀ w')

theorem quiet_request {r : OrchReq} {α : Type} {f : OrchSig.Ans r → Orch α} (hw : SameSlots w₀ w)
    (hf : ∀ x w', SameSlots w₀ w' → QuietFrom D w₀ (f x w')) :
    QuietFrom D w₀ ((Task.request (S := OrchSig) r w).bind f) :=
  Res.sat_request_bind.2 ⟨trivial, fun w' x hr _ => hf x w' (hw.trans (.drift hr))⟩

theorem quiet_onException {exc : Exn} {α : Type} {h : Orch α} (hw : SameSlots w₀ w) (hh : QuietFrom D w₀ (h w)) :
    QuietFrom D w₀ (onException exc h w) := by
  unfold onException
  split
  · exact hh
  · exact hw

omit [Unicode] in
theorem SameSlots.setWaiting (h : SameSlots w₀ w) (i : Str) (entry : ClarificationWaitEntry) :
    SameSlots w₀ (w.onState (·.setWaiting i entry)) := h.trans ⟨rfl, rfl, rfl⟩

/-- The gate is quiet. -/
theorem gate_quiet (D : OrchDiscipline) : Quiet D clarificationGateAllowsDispatch := by
  intro issue w₀
  change QuietFrom D w₀ _
  have h₀ := SameSlots.refl w₀
  unfold clarificationGateAllowsDispatch
  simp only [bind_apply, get_apply, Res.bind_ret]
  split
  · exact h₀
  refine quiet_request h₀ fun x w₁ h₁ => ?_
  cases x with
  | error exc => exact quiet_onException h₁ h₁
  | ok comments =>
    cases hf : fingerprintClarificationInputs issue comments with
    | error e =>
      simp only [hf, ofExcept_error, bind_apply, raise_apply, Res.bind_raise]
      exact h₁
    | ok fingerprint =>
      simp only [hf, ofExcept_ok, bind_apply, pure_apply, Res.bind_ret]
      cases (w₀.state.clarificationWaiting.get? issue.id).filter fun entry =>
        noNewInput entry fingerprint (nonClarificationCommentIds comments) with
      | some entry => exact h₁.setWaiting ..
      | none =>
      refine quiet_request h₁ fun x w₂ h₂ => ?_
      cases x with
      | error exc => exact quiet_onException h₂ h₂
      | ok ensureResult =>
        simp only [bind_apply, get_apply, Res.bind_ret]
        refine quiet_request h₂ fun x w₃ h₃ => ?_
        cases x with
        | error exc => exact quiet_onException h₃ h₃
        | ok decision =>
          cases hd : decision.sufficient with
          | true =>
            simp only [if_true, bind_apply, modify_apply, Res.bind_ret, hd, pure_apply]
            exact h₃.trans ⟨rfl, rfl, rfl⟩
          | false =>
            cases hq : fingerprintQuestions decision.questions with
            | error e =>
              simp only [hd, hq, Bool.false_eq_true, if_false, ofExcept_error, bind_apply, raise_apply,
                Res.bind_raise]
              exact h₃
            | ok questionFingerprint =>
              simp only [hd, hq, Bool.false_eq_true, if_false, ofExcept_ok, bind_apply, pure_apply, Res.bind_ret]
              split
              · exact h₃.setWaiting ..
              · refine quiet_request h₃ fun x w₄ h₄ => ?_
                cases x with
                | error exc => exact quiet_onException h₄ h₄
                | ok u => exact h₄.setWaiting ..

end Gate

/-! ## The dispatch loop -/

/-- What an outcome is for the slots. -/
def Outcome.decision : Outcome → Decision
  | .noSlot => .full
  | .refused | .spawnFailed => .declined
  | .dispatched => .admitted

/-- The outcomes of a loop as decisions. -/
def decisions (outs : List (Issue × Outcome)) : List (Issue × Decision) := outs.map fun o => (o.1, o.2.decision)

/-- The issues that a loop started a worker for. -/
def startedBy (outs : List (Issue × Outcome)) : List Issue := Admission.admissions (decisions outs)

omit [Unicode] in
@[simp] theorem startedBy_cons (issue : Issue) (o : Outcome) (outs : List (Issue × Outcome)) :
    startedBy ((issue, o) :: outs) = if o = .dispatched then issue :: startedBy outs else startedBy outs := by
  cases o <;> rfl

/-- The loop got from one world to another by these outcomes. -/
structure LoopLeft (perStateMap : List (Str × Int)) (n : Int) (w : World) (outs : List (Issue × Outcome)) (w' : World) :
    Prop where
  pass : (slotAdmission n perStateMap).Pass w.load (decisions outs) w'.load
  maxConcurrentAgents : w'.state.maxConcurrentAgents = w.state.maxConcurrentAgents
  kept : ∀ i entry, w.state.running.get? i = some entry → w'.state.running.get? i = some entry
  running : ∀ i ∈ w'.state.running, i ∈ w.state.running ∨ ∃ issue ∈ startedBy outs, issue.id = i
  tasks : w'.tasks.map (·.issue) = w.tasks.map (·.issue) ++ startedBy outs

namespace LoopLeft

variable {perStateMap : List (Str × Int)} {n : Int} {w w' w'' : World} {issue : Issue} {o : Outcome}
  {outs : List (Issue × Outcome)}

/-- Nothing happened. -/
theorem nil (h : SameSlots w w') : LoopLeft perStateMap n w [] w' where
  pass := h.load ▸ .nil _
  maxConcurrentAgents := h.maxConcurrentAgents
  kept i entry hi := by rw [h.running]; exact hi
  running i hi := by rw [h.running] at hi; exact .inl hi
  tasks := by rw [h.tasks]; exact (List.append_nil _).symm

/-- An issue found no slot. -/
theorem noSlot (hr : ¬ (slotAdmission n perStateMap).room issue w.load) :
    LoopLeft perStateMap n w [(issue, .noSlot)] w :=
  have hn : LoopLeft perStateMap n w [] w := nil (.refl w)
  { hn with pass := .full hr (.nil _) }

/-- An issue was refused, or could not be started. -/
theorem declined (hr : (slotAdmission n perStateMap).room issue w.load) (h : SameSlots w w')
    (ho : o = .refused ∨ o = .spawnFailed) : LoopLeft perStateMap n w [(issue, o)] w' := by
  have hn : LoopLeft perStateMap n w [] w' := nil h
  have hp : (slotAdmission n perStateMap).Pass w.load [(issue, .declined)] w'.load := .declined hr hn.pass
  rcases ho with rfl | rfl <;> exact ⟨hp, hn.maxConcurrentAgents, hn.kept, hn.running, hn.tasks⟩

/-- An issue that is not running adds to the load. -/
theorem load_dispatched (hi : issue.id ∉ w.state.running) (attempt : Nat) :
    (w.dispatched issue attempt).load = Load.add issue w.load := by
  refine Prod.ext (Dict.length_insert_of_not_mem _ hi) (funext fun s => ?_)
  change (w.state.running.insert issue.id _).values.countP _ = _
  rw [Dict.values_insert_of_not_mem _ hi, List.countP_append]
  simp only [World.load, Load.add, freshEntry, List.countP_singleton, decide_eq_true_eq]

/-- An issue that is not running was started. -/
theorem dispatched (hr : (slotAdmission n perStateMap).room issue w.load) (h : SameSlots w w')
    (hi : issue.id ∉ w.state.running) :
    LoopLeft perStateMap n w [(issue, .dispatched)] (w'.dispatched issue 1) := by
  rw [← h.running] at hi
  have hl : (w'.dispatched issue 1).load = Load.add issue w.load := by rw [load_dispatched hi, h.load]
  refine ⟨hl ▸ .admitted hr (.nil _), h.maxConcurrentAgents, fun i entry he => ?_, fun i hm => ?_, ?_⟩
  · change (w'.state.running.insert issue.id _).get? i = _
    rw [← h.running] at he
    rw [Dict.get?_insert_of_ne _ _ fun hii : issue.id = i => hi (hii ▸ Dict.mem_of_get? he)]
    exact he
  · rcases Dict.mem_insert.1 hm with rfl | hm
    · exact .inr ⟨issue, by simp, rfl⟩
    · exact .inl (h.running ▸ hm)
  · change List.map _ (w'.tasks ++ [_]) = _
    rw [h.tasks, List.map_append]
    rfl

theorem cons (h : LoopLeft perStateMap n w [(issue, o)] w') (h' : LoopLeft perStateMap n w' outs w'') :
    LoopLeft perStateMap n w ((issue, o) :: outs) w'' where
  pass := h.pass.append h'.pass
  maxConcurrentAgents := h'.maxConcurrentAgents.trans h.maxConcurrentAgents
  kept i entry hi := h'.kept i entry (h.kept i entry hi)
  running i hi := by
    rw [startedBy_cons]
    rcases h'.running i hi with hi | ⟨x, hx, hxi⟩
    · rcases h.running i hi with hi | ⟨x, hx, hxi⟩
      · exact .inl hi
      · rw [startedBy_cons] at hx
        split at hx
        · rename_i ho
          obtain rfl := List.mem_singleton.1 hx
          exact .inr ⟨x, by rw [if_pos ho]; exact List.mem_cons_self, hxi⟩
        · cases hx
    · refine .inr ⟨x, ?_, hxi⟩
      split
      · exact List.mem_cons_of_mem _ hx
      · exact hx
  tasks := by
    rw [h'.tasks, h.tasks, List.append_assoc, startedBy_cons, startedBy_cons]
    congr 1
    split <;> rfl

end LoopLeft

/-- Issues of which none leaves room for another of its id. -/
def ClashFree (perStateMap : List (Str × Int)) (w : World) (issues : List Issue) : Prop :=
  issues.Pairwise fun x y => ¬ (slotAdmission w.state.maxConcurrentAgents perStateMap).Clash Issue.id w.load x y

/-- No issue that is running finds room. -/
def Barred (perStateMap : List (Str × Int)) (w : World) (issues : List Issue) : Prop :=
  ∀ issue ∈ issues, issue.id ∈ w.state.running →
    ¬ (slotAdmission w.state.maxConcurrentAgents perStateMap).room issue w.load

/-- One issue more is behind the loop. -/
theorem LoopLeft.tail {perStateMap : List (Str × Int)} {w w' : World} {issue : Issue} {issues : List Issue} {o : Outcome}
    (h : LoopLeft perStateMap w.state.maxConcurrentAgents w [(issue, o)] w')
    (hb : Barred perStateMap w (issue :: issues)) (hc : ClashFree perStateMap w (issue :: issues)) :
    Barred perStateMap w' issues ∧ ClashFree perStateMap w' issues := by
  obtain ⟨hx, hc⟩ := List.pairwise_cons.1 hc
  unfold Barred ClashFree
  rw [h.maxConcurrentAgents]
  refine ⟨fun y hy hi hr => ?_, hc.imp fun hn hcl => hn (hcl.of_le h.pass.le)⟩
  rcases h.running _ hi with hi | ⟨x, hxs, hxy⟩
  · exact hb y (List.mem_cons_of_mem _ hy) hi ((slotAdmission ..).room_antitone y h.pass.le hr)
  · rw [startedBy_cons] at hxs
    split at hxs
    · rename_i ho
      obtain rfl := List.mem_singleton.1 hxs
      subst ho
      obtain ⟨hrx, hl⟩ := Admission.Pass.of_admitted h.pass
      rw [hl] at hr
      exact hx y hy ⟨hxy, hrx, hr⟩
    · cases hxs

section Loop

variable {D : OrchDiscipline} {gate : Issue → Orch Bool} {perStateMap : List (Str × Int)}

/-- One round of the loop. -/
theorem considerIssue_sat (hg : Quiet D gate) {w : World} {issue : Issue}
    (hb : issue.id ∈ w.state.running →
      ¬ (slotAdmission w.state.maxConcurrentAgents perStateMap).room issue w.load) :
    (considerIssue perStateMap gate issue w).Sat (orchestrator.proto D .pollTick) (fun _ => True)
      (fun o w' => LoopLeft perStateMap w.state.maxConcurrentAgents w [(issue, o)] w')
      (fun _ w' => SameSlots w w') := by
  unfold considerIssue
  simp only [bind_apply, get_apply, Res.bind_ret]
  by_cases hr : concurrencyCheck issue w.state perStateMap = true
  · have hroom : (slotAdmission w.state.maxConcurrentAgents perStateMap).room issue w.load :=
      concurrencyCheck_iff.1 hr
    rw [if_pos hr]
    refine (hg issue w).bind fun allowed w' hw' => ?_
    cases allowed with
    | false => exact .declined hroom hw' (.inl rfl)
    | true =>
      simp only [if_true, bind_apply, get_apply, Res.bind_ret]
      rcases dispatchIssue_cases issue 1 w'.config.agent.maxRetryBackoffMs w' with ⟨-, hd⟩ |
        ⟨exc, delay, -, -, hd⟩ | ⟨exc, -, -, e, w'', hd, -⟩
      · rw [hd]
        exact .dispatched hroom hw' fun hi => hb hi hroom
      · rw [hd]
        exact .declined hroom (hw'.trans ⟨rfl, rfl, rfl⟩) (.inr rfl)
      · rw [hd]
        obtain ⟨c, -, q, ts, k, rfl, -⟩ := dispatchIssue_raise hd
        exact hw'.trans ⟨rfl, rfl, rfl⟩
  · rw [if_neg hr]
    exact .noSlot fun h => hr (concurrencyCheck_iff.2 h)

/-- **The loop.** Over a quiet gate it makes a pass over the issues, or over those before the one that raised. -/
theorem dispatchLoop_sat (hg : Quiet D gate) : ∀ {issues : List Issue} {w : World},
    Barred perStateMap w issues → ClashFree perStateMap w issues →
    (dispatchLoop perStateMap gate issues w).Sat (orchestrator.proto D .pollTick) (fun _ => True)
      (fun outs w' => outs.map Prod.fst = issues ∧ LoopLeft perStateMap w.state.maxConcurrentAgents w outs w')
      (fun _ w' => ∃ outs, outs.map Prod.fst <+: issues ∧
        LoopLeft perStateMap w.state.maxConcurrentAgents w outs w')
  | [], w, _, _ => ⟨rfl, .nil (.refl w)⟩
  | issue :: issues, w, hb, hc => by
    unfold dispatchLoop
    rw [bind_apply]
    refine Res.Sat.bind (fun o w₁ h₁ => ?_) <| (considerIssue_sat hg (hb issue List.mem_cons_self)).mono
      (fun _ h => h) (fun _ _ h => h) fun _ _ h => ⟨[], List.nil_prefix, .nil h⟩
    obtain ⟨hb₁, hc₁⟩ := h₁.tail hb hc
    have hrest := dispatchLoop_sat hg hb₁ hc₁
    rw [h₁.maxConcurrentAgents] at hrest
    refine Res.Sat.bind (fun outs w₂ h₂ => ?_) (hrest.mono (fun _ h => h) (fun _ _ h => h) ?_)
    · exact ⟨by rw [List.map_cons, h₂.1], h₁.cons h₂.2⟩
    · rintro e w₂ ⟨outs, hp, h₂⟩
      exact ⟨(issue, o) :: outs, List.cons_prefix_cons.2 ⟨rfl, hp⟩, h₁.cons h₂⟩

/-- A run of the loop makes a pass, whether it returns or raises. -/
theorem dispatchLoop_runs (hg : Quiet D gate) {issues : List Issue} {w w' : World}
    {o : Except Exn (List (Issue × Outcome))} (hb : Barred perStateMap w issues) (hc : ClashFree perStateMap w issues)
    (hr : Runs (orchestrator.proto D .pollTick) (dispatchLoop perStateMap gate issues w) o w') :
    ∃ outs, LoopLeft perStateMap w.state.maxConcurrentAgents w outs w' ∧ outs.map Prod.fst <+: issues ∧
      ∀ outs', o = .ok outs' → outs' = outs ∧ outs.map Prod.fst = issues := by
  have hp := (dispatchLoop_sat (D := D) hg hb hc).runs hr
  cases o with
  | ok outs =>
    exact ⟨outs, hp.2, hp.1 ▸ List.prefix_rfl, fun _ h => by cases h; exact ⟨rfl, hp.1⟩⟩
  | error e =>
    obtain ⟨outs, hpre, hl⟩ := hp
    exact ⟨outs, hl, hpre, fun _ h => by cases h⟩

end Loop

/-- Distinct issues, none of them running, go through the loop. -/
theorem FreshIssues.clashFree {w : World} {issues : List Issue} (h : FreshIssues w issues)
    (perStateMap : List (Str × Int)) : Barred perStateMap w issues ∧ ClashFree perStateMap w issues :=
  ⟨fun issue hi hr => absurd hr (h.2 issue hi), (List.pairwise_map.1 h.1).imp fun hne hcl => hne hcl.1⟩

/-- The caps are not passed, or not further than they were. -/
theorem LoopLeft.caps {perStateMap : List (Str × Int)} {n : Int} {w w' : World} {outs : List (Issue × Outcome)}
    (h : LoopLeft perStateMap n w outs w') :
    (w'.state.running.length : Int) ≤ max (w.state.running.length : Int) n ∧
      ∀ s, (w'.state.countInState s : Int) ≤ max (w.state.countInState s : Int) (stateCap s n perStateMap) := by
  have hJ := h.pass.keeps
    (J := fun l => (l.1 : Int) ≤ max (w.load.1 : Int) n ∧
      ∀ s, (l.2 (lower s) : Int) ≤ max (w.load.2 (lower s) : Int) (stateCap s n perStateMap)) (fun issue l hl hr => ?_)
    ⟨le_max_left .., fun s => le_max_left ..⟩
  · exact hJ
  · obtain ⟨h₁, h₂⟩ := hl
    obtain ⟨hr₁, hr₂⟩ := Load.slots_pos.1 hr
    refine ⟨?_, fun s => ?_⟩
    · change ((l.1 + 1 : Nat) : Int) ≤ _
      omega
    · change ((l.2 (lower s) + if lower issue.state = lower s then 1 else 0 : Nat) : Int) ≤ _
      have hs := h₂ s
      split
      · rename_i hst
        rw [hst, stateCap_congr hst] at hr₂
        omega
      · omega

/-- Issues of a tracker state are started in order. -/
theorem LoopLeft.order {perStateMap : List (Str × Int)} {n : Int} {w w' : World} {outs : List (Issue × Outcome)}
    (h : LoopLeft perStateMap n w outs w') :
    outs.Pairwise fun x y => lower x.1.state = lower y.1.state → y.2 = .dispatched → x.2 ≠ .noSlot := by
  refine (List.pairwise_map.1 h.pass.order).imp fun hxy hst hy hx => ?_
  exact hxy (fun m hm => (room_congr hst).2 hm) (by rw [hy]; rfl) (by rw [hx]; rfl)

end Service

section Sample

attribute [local instance] asciiTables

end Sample

end RiverGang
