import Mathlib.Logic.Relation
import RiverGang.Lib.Task

/-!
# A server of messages

A server takes one message at a time from its state and handles it by a task; while the task is suspended the others
change the state by events. `step` is the labelled transition function of the whole, `Reach` its reachable
configurations under a discipline — a restriction of the events, the messages taken and the answers.

`Trace` are its runs with all that they went through, of which the `receipts` are the messages that were taken.

`Trace.requests` is the rule for what the handlers ask for. `Trace.rule` is the invariant rule, for invariants that speak
of the receipts: it is enough to check the events, and each handler from the states in which the server is idle.
`Phases.reach_says` is the same for the reachable configurations, by phases of the handlers.
-/

namespace Coop

/-- A server: its mailbox, its handlers, the messages that end it, and the events of the others. -/
structure Server (S : Sig) (ε σ μ η : Type) where
  next : σ → Option (μ × σ)
  handle : μ → Task S ε σ Unit
  stops : μ → Bool
  event : η → σ → Option σ

/-- What a server is doing. -/
inductive Mode (S : Sig) (ε σ μ : Type)
  | idle
  | busy (m : μ) (r : S.Req) (k : S.Ans r → σ → Res S ε σ Unit)
  | stopped
  | crashed (e : ε)

def Mode.isIdle {S : Sig} {ε σ μ : Type} : Mode S ε σ μ → Bool
  | .idle => true
  | _ => false

theorem Mode.isIdle_iff {S : Sig} {ε σ μ : Type} {m : Mode S ε σ μ} : m.isIdle = true ↔ m = .idle := by
  cases m <;> simp [isIdle]

def Mode.isStopped {S : Sig} {ε σ μ : Type} : Mode S ε σ μ → Bool
  | .stopped => true
  | _ => false

theorem Mode.isStopped_iff {S : Sig} {ε σ μ : Type} {m : Mode S ε σ μ} : m.isStopped = true ↔ m = .stopped := by
  cases m <;> simp [isStopped]

/-- The exception that ended the server. -/
def Mode.crash? {S : Sig} {ε σ μ : Type} : Mode S ε σ μ → Option ε
  | .crashed e => some e
  | _ => none

theorem Mode.crash?_eq_some {S : Sig} {ε σ μ : Type} {m : Mode S ε σ μ} {e : ε} (h : m.crash? = some e) :
    m = .crashed e := by
  cases m <;> simp_all [crash?]

structure Conf (S : Sig) (ε σ μ : Type) where
  state : σ
  mode : Mode S ε σ μ

inductive Label (S : Sig) (η : Type)
  | event (e : η)
  | recv
  | resume (o : (r : S.Req) → S.Ans r)

/-- A restriction of the steps: which events, which messages to take, which answers to the handler of a message. -/
structure Discipline (S : Sig) (σ μ η : Type) where
  event : σ → η → Prop
  receive : σ → μ → Prop
  answer : μ → σ → (r : S.Req) → S.Ans r → Prop

namespace Discipline

variable {S : Sig} {σ μ η : Type}

/-- No restriction. -/
def free : Discipline S σ μ η where
  event _ _ := True
  receive _ _ := True
  answer _ _ _ _ := True

/-- Every step that `D` allows, `D'` allows. -/
structure Le (D D' : Discipline S σ μ η) : Prop where
  event : ∀ {s e}, D.event s e → D'.event s e
  receive : ∀ {s m}, D.receive s m → D'.receive s m
  answer : ∀ {m s r x}, D.answer m s r x → D'.answer m s r x

/-- Never take certain messages. -/
def skipping (D : Discipline S σ μ η) (p : μ → Prop) : Discipline S σ μ η :=
  { D with receive := fun s m => D.receive s m ∧ ¬ p m }

/-- A label that is allowed wherever it comes. -/
def Always (D : Discipline S σ μ η) : Label S η → Prop
  | .event e => ∀ s, D.event s e
  | .recv => ∀ s m, D.receive s m
  | .resume o => ∀ m s r, D.answer m s r (o r)

theorem always_free (l : Label S η) : (free : Discipline S σ μ η).Always l := by
  cases l <;> simp [Always, free]

end Discipline

variable {S : Sig} {ε σ μ η : Type}

namespace Server

variable (V : Server S ε σ μ η)

/-- The configuration after a stretch of the handler of `m`. -/
def settle (m : μ) : Res S ε σ Unit → Conf S ε σ μ
  | .ret _ s => ⟨s, if V.stops m then .stopped else .idle⟩
  | .raise e s => ⟨s, .crashed e⟩
  | .await r s k => ⟨s, .busy m r k⟩

def step : Conf S ε σ μ → Label S η → Option (Conf S ε σ μ)
  | ⟨s, .idle⟩, .event e => (V.event e s).map fun s' => ⟨s', .idle⟩
  | ⟨s, .idle⟩, .recv => (V.next s).map fun p => V.settle p.1 (V.handle p.1 p.2)
  | ⟨s, .busy m r k⟩, .event e => (V.event e s).map fun s' => ⟨s', .busy m r k⟩
  | ⟨s, .busy m r k⟩, .resume o => some (V.settle m (k (o r) s))
  | _, _ => none

/-- The steps a discipline allows. -/
def Allows (D : Discipline S σ μ η) : Conf S ε σ μ → Label S η → Prop
  | c, .event e => D.event c.state e
  | c, .recv => ∀ p, V.next c.state = some p → D.receive c.state p.1
  | ⟨s, .busy m r _⟩, .resume o => D.answer m s r (o r)
  | _, .resume _ => True

inductive Reach (D : Discipline S σ μ η) (init : σ → Prop) : Conf S ε σ μ → Prop
  | start {s : σ} : init s → Reach D init ⟨s, .idle⟩
  | step {c c' : Conf S ε σ μ} {l : Label S η} : Reach D init c → V.Allows D c l → V.step c l = some c' → Reach D init c'

/-- A run with its past: the configurations that it went through, each with the label that was taken there. -/
inductive Trace (D : Discipline S σ μ η) (init : σ → Prop) : List (Conf S ε σ μ × Label S η) → Conf S ε σ μ → Prop
  | start {s : σ} : init s → Trace D init [] ⟨s, .idle⟩
  | step {past : List (Conf S ε σ μ × Label S η)} {c c' : Conf S ε σ μ} {l : Label S η} : Trace D init past c →
      V.Allows D c l → V.step c l = some c' → Trace D init (past ++ [(c, l)]) c'

/-- The message that a step takes, and the state in which it is taken. -/
def receipt? : Conf S ε σ μ × Label S η → Option (σ × μ)
  | (⟨s, .idle⟩, .recv) => (V.next s).map fun p => (s, p.1)
  | _ => none

def receipts (past : List (Conf S ε σ μ × Label S η)) : List (σ × μ) := past.filterMap V.receipt?

/-- A run of given labels, each taken in a configuration that meets `P`. -/
def runIn (P : Conf S ε σ μ → Bool) : Conf S ε σ μ → List (Label S η) → Option (Conf S ε σ μ)
  | c, [] => some c
  | c, l :: ls => if P c then (V.step c l).bind fun c' => runIn P c' ls else none

/-- A run of given labels. -/
abbrev run : Conf S ε σ μ → List (Label S η) → Option (Conf S ε σ μ) := V.runIn fun _ => true

variable {V}

/-- Only a suspended handler looks at the answer. -/
theorem allows_resume {D : Discipline S σ μ η} {c : Conf S ε σ μ} {o : (r : S.Req) → S.Ans r}
    (h : ∀ m r k, c.mode = .busy m r k → D.answer m c.state r (o r)) : V.Allows D c (.resume o) := by
  obtain ⟨s, mode⟩ := c
  cases mode with
  | busy m r k => exact h m r k rfl
  | idle | stopped | crashed => trivial

theorem Allows.mono {D D' : Discipline S σ μ η} (hD : D.Le D') {c : Conf S ε σ μ} {l : Label S η}
    (h : V.Allows D c l) : V.Allows D' c l := by
  obtain ⟨s, m⟩ := c
  cases l with
  | event e => exact hD.event h
  | recv => exact fun p hp => hD.receive (h p hp)
  | resume o =>
    cases m with
    | busy m r k => exact hD.answer h
    | idle | stopped | crashed => trivial

theorem Reach.trace {D : Discipline S σ μ η} {init : σ → Prop} {c : Conf S ε σ μ} (h : V.Reach D init c) :
    ∃ past, V.Trace D init past c := by
  induction h with
  | start hs => exact ⟨[], .start hs⟩
  | step _ ha hs ih =>
    obtain ⟨past, ht⟩ := ih
    exact ⟨_, .step ht ha hs⟩

theorem Trace.reach {D : Discipline S σ μ η} {init : σ → Prop} {past : List (Conf S ε σ μ × Label S η)}
    {c : Conf S ε σ μ} (h : V.Trace D init past c) : V.Reach D init c := by
  induction h with
  | start hs => exact .start hs
  | step _ ha hs ih => exact .step ih ha hs

/-- Each configuration of the past was reached by a run that this one goes on from. -/
theorem Trace.before {D : Discipline S σ μ η} {init : σ → Prop} {past : List (Conf S ε σ μ × Label S η)}
    {c : Conf S ε σ μ} (h : V.Trace D init past c) :
    ∀ p ∈ past, ∃ earlier, V.Trace D init earlier p.1 ∧ earlier <+: past := by
  induction h with
  | start => simp
  | @step past c c' l ht ha hs ih =>
    intro p hp
    rcases List.mem_append.1 hp with hp | hp
    · obtain ⟨earlier, he, hpre⟩ := ih p hp
      exact ⟨earlier, he, hpre.trans (List.prefix_append ..)⟩
    · rw [List.mem_singleton.1 hp]
      exact ⟨past, ht, List.prefix_append ..⟩

theorem receipt?_state {c : Conf S ε σ μ} {l : Label S η} {s : σ} {m : μ} (h : V.receipt? (c, l) = some (s, m)) :
    s = c.state := by
  obtain ⟨s', mode⟩ := c
  cases mode <;> cases l <;> simp [receipt?] at h
  exact h.2.symm

theorem receipts_concat (past : List (Conf S ε σ μ × Label S η)) (c : Conf S ε σ μ) (l : Label S η) :
    V.receipts (past ++ [(c, l)]) = V.receipts past ++ (V.receipt? (c, l)).toList := by
  rw [receipts, List.filterMap_append, List.filterMap_cons]
  cases V.receipt? (c, l) <;> rfl

theorem Reach.of_init {D : Discipline S σ μ η} {init init' : σ → Prop} (hi : ∀ s, init s → init' s) {c : Conf S ε σ μ}
    (h : V.Reach D init c) : V.Reach D init' c := by
  induction h with
  | start hs => exact .start (hi _ hs)
  | step _ ha hs ih => exact .step ih ha hs

/-- A run goes on from an idle configuration that another reaches. -/
theorem Reach.trans {D D' : Discipline S σ μ η} (hD : D'.Le D) {init : σ → Prop} {s : σ} {c : Conf S ε σ μ}
    (h : V.Reach D init ⟨s, .idle⟩) (h' : V.Reach D' (fun s' => s' = s) c) : V.Reach D init c := by
  induction h' with
  | start hs =>
    cases hs
    exact h
  | step _ ha hs ih => exact .step ih (ha.mono hD) hs

theorem allows_of_always {D : Discipline S σ μ η} {l : Label S η} (h : D.Always l) (c : Conf S ε σ μ) :
    V.Allows D c l := by
  cases l with
  | event e => exact h c.state
  | recv => exact fun _ _ => h ..
  | resume o => exact allows_resume fun m r _ _ => h m c.state r

/-- The configurations that a run of given labels goes through. -/
def stages (V : Server S ε σ μ η) : Conf S ε σ μ → List (Label S η) → List (Conf S ε σ μ × Label S η)
  | _, [] => []
  | c, l :: ls => (c, l) :: ((V.step c l).elim [] fun c' => V.stages c' ls)

/-- A run of labels that are always allowed goes on from a run with its past. -/
theorem Trace.run {D : Discipline S σ μ η} {init : σ → Prop} : ∀ {ls : List (Label S η)}
    {past : List (Conf S ε σ μ × Label S η)} {c c' : Conf S ε σ μ}, V.Trace D init past c → (∀ l ∈ ls, D.Always l) →
      V.run c ls = some c' → V.Trace D init (past ++ V.stages c ls) c'
  | [], past, c, c', h, _, hr => by
    cases hr
    rwa [stages, List.append_nil]
  | l :: ls, past, c, c', h, hl, hr => by
    rw [Server.run, Server.runIn, if_pos rfl] at hr
    obtain ⟨c₁, hs, hr⟩ := Option.bind_eq_some_iff.1 hr
    have hnext := Trace.run (.step h (allows_of_always (hl l List.mem_cons_self) c) hs)
      (fun l' hl' => hl l' (List.mem_cons_of_mem _ hl')) hr
    rw [List.append_assoc, List.singleton_append] at hnext
    rwa [stages, hs, Option.elim_some]

/-- A run reaches what it ends in, if its labels are allowed where they are taken. -/
theorem Reach.runIn {D : Discipline S σ μ η} {init : σ → Prop} {P : Conf S ε σ μ → Bool} :
    ∀ {ls : List (Label S η)} {c c' : Conf S ε σ μ}, V.Reach D init c →
      (∀ l ∈ ls, ∀ c, P c = true → V.Allows D c l) → V.runIn P c ls = some c' → V.Reach D init c'
  | [], _, _, h, _, hr => by cases hr; exact h
  | l :: ls, c, c', h, hl, hr => by
    rw [Server.runIn] at hr
    split at hr
    · rename_i hP
      obtain ⟨c₁, hs, hr⟩ := Option.bind_eq_some_iff.1 hr
      exact Reach.runIn (.step h (hl l List.mem_cons_self c hP) hs) (fun l' hl' => hl l' (List.mem_cons_of_mem _ hl')) hr
    · cases hr

/-- A run of labels that are always allowed. -/
theorem Reach.run {D : Discipline S σ μ η} {init : σ → Prop} {ls : List (Label S η)} {c c' : Conf S ε σ μ}
    (h : V.Reach D init c) (hl : ∀ l ∈ ls, D.Always l) (hr : V.run c ls = some c') : V.Reach D init c' :=
  h.runIn (fun l hm c _ => allows_of_always (hl l hm) c) hr

/-! ## Runs of a handler -/

/-- What the events may make of a state. -/
def Drift (V : Server S ε σ μ η) (D : Discipline S σ μ η) : σ → σ → Prop :=
  Relation.ReflTransGen fun s s' => ∃ e, D.event s e ∧ V.event e s = some s'

/-- The protocol of the handler of `m`. -/
def proto (V : Server S ε σ μ η) (D : Discipline S σ μ η) (m : μ) : Proto S σ where
  rely := V.Drift D
  answer := D.answer m

theorem Drift.preserves {D : Discipline S σ μ η} {J : σ → Prop}
    (hJ : ∀ s e s', J s → D.event s e → V.event e s = some s' → J s') {s s' : σ} (h : V.Drift D s s') (hs : J s) :
    J s' := by
  induction h with
  | refl => exact hs
  | tail _ he ih =>
    obtain ⟨e, hd, he⟩ := he
    exact hJ _ e _ ih hd he

/-- Events while a handler waits. -/
theorem Reach.waits {D D' : Discipline S σ μ η} (hD : D'.Le D) {init : σ → Prop} {m : μ} {r : S.Req}
    {k : S.Ans r → σ → Res S ε σ Unit} {s s' : σ} (h : V.Reach D init ⟨s, .busy m r k⟩) (hd : V.Drift D' s s') :
    V.Reach D init ⟨s', .busy m r k⟩ := by
  induction hd with
  | refl => exact h
  | @tail t t' _ he ih =>
    obtain ⟨e, hd, he⟩ := he
    have hs : V.step ⟨t, .busy m r k⟩ (.event e) = some ⟨t', .busy m r k⟩ := by rw [Server.step, he]; rfl
    exact Reach.step (l := .event e) ih (hD.event hd) hs

/-- A run of the rest of a handler is one of the server. -/
theorem Reach.of_runs (hne : ∀ r, Nonempty (S.Ans r)) {D D' : Discipline S σ μ η} (hD : D'.Le D) {init : σ → Prop}
    {m : μ} {t : Res S ε σ Unit} {s : σ} (h : V.Reach D init (V.settle m t)) (hr : Runs (V.proto D' m) t (.ok ()) s) :
    V.Reach D init (V.settle m (.ret () s)) := by
  classical
  generalize ho : (Except.ok () : Except ε Unit) = o at hr
  induction hr with
  | ret a s =>
    cases a
    exact h
  | raise e s => cases ho
  | @await r s s' k x o s'' hrel hans _ ih =>
    -- first the events while it waits, then the answer
    have hwait := Reach.waits (k := k) hD h hrel
    let reply : (r' : S.Req) → S.Ans r' := fun r' => if h : r = r' then h ▸ x else Classical.choice (hne r')
    have hreply : reply r = x := dif_pos rfl
    have hs : V.step ⟨s', .busy m r k⟩ (.resume reply) = some (V.settle m (k x s')) := by rw [Server.step, hreply]
    have ha : V.Allows D ⟨s', .busy m r k⟩ (.resume reply) := by
      change D.answer m s' r (reply r)
      rw [hreply]
      exact hD.answer hans
    exact ih (.step hwait ha hs) ho

/-- A run of the handler of the next message, from an idle server. -/
theorem Reach.handled (hne : ∀ r, Nonempty (S.Ans r)) {D D' : Discipline S σ μ η} (hD : D'.Le D) {init : σ → Prop}
    {s s' t : σ} {m : μ} (h : V.Reach D init ⟨s, .idle⟩) (hn : V.next s = some (m, s')) (hd : D'.receive s m)
    (hr : Runs (V.proto D' m) (V.handle m s') (.ok ()) t) : V.Reach D init (V.settle m (.ret () t)) := by
  have ha : V.Allows D ⟨s, .idle⟩ .recv := fun p hp => by
    cases hn.symm.trans hp
    exact hD.receive hd
  have hs : V.step ⟨s, .idle⟩ .recv = some (V.settle m (V.handle m s')) := by simp only [Server.step, hn, Option.map_some]
  exact (Reach.step h ha hs).of_runs hne hD hr

/-- Events while the server is idle. -/
theorem Reach.drifts {D D' : Discipline S σ μ η} (hD : D'.Le D) {init : σ → Prop} {s s' : σ}
    (h : V.Reach D init ⟨s, .idle⟩) (hd : V.Drift D' s s') : V.Reach D init ⟨s', .idle⟩ := by
  induction hd with
  | refl => exact h
  | @tail t t' _ he ih =>
    obtain ⟨e, hd, he⟩ := he
    have hs : V.step ⟨t, .idle⟩ (.event e) = some ⟨t', .idle⟩ := by rw [Server.step, he]; rfl
    exact Reach.step (l := .event e) ih (hD.event hd) hs

/-! ## Refinement -/

/-- A server that takes and handles messages as `V` does, and whose events are events of `V`, any number at once. -/
structure Refines {η' : Type} (W : Server S ε σ μ η') (V : Server S ε σ μ η) (E : Discipline S σ μ η')
    (D : Discipline S σ μ η) : Prop where
  next : W.next = V.next
  handle : W.handle = V.handle
  stops : W.stops = V.stops
  event : ∀ {s e s'}, E.event s e → W.event e s = some s' → V.Drift D s s'
  receive : ∀ {s m}, E.receive s m → D.receive s m
  answer : ∀ {m s r x}, E.answer m s r x → D.answer m s r x

/-- What it reaches, `V` reaches. -/
theorem Refines.reach {η' : Type} {W : Server S ε σ μ η'} {E : Discipline S σ μ η'} {D : Discipline S σ μ η}
    (h : W.Refines V E D) {init : σ → Prop} {c : Conf S ε σ μ} (hr : W.Reach E init c) : V.Reach D init c := by
  have hle : D.Le D := ⟨id, id, id⟩
  have hsettle (m : μ) (t : Res S ε σ Unit) : W.settle m t = V.settle m t := by
    cases t <;> simp only [settle, h.stops]
  induction hr with
  | start hs => exact .start hs
  | @step c c' l _ ha hs ih =>
    obtain ⟨s, mode⟩ := c
    cases mode with
    | idle =>
      cases l with
      | event e =>
        obtain ⟨s', he, rfl⟩ := Option.map_eq_some_iff.1 hs
        exact ih.drifts hle (h.event ha he)
      | recv =>
        obtain ⟨⟨m, s'⟩, hn, rfl⟩ := Option.map_eq_some_iff.1 hs
        have hn' : V.next s = some (m, s') := by rw [← h.next]; exact hn
        refine .step (l := .recv) ih (fun p hp => ?_) (by rw [step, hn', Option.map_some, hsettle, h.handle])
        rw [← h.next] at hp
        exact h.receive (ha p hp)
      | resume o => cases hs
    | busy m r k =>
      cases l with
      | event e =>
        obtain ⟨s', he, rfl⟩ := Option.map_eq_some_iff.1 hs
        exact ih.waits hle (h.event ha he)
      | recv => cases hs
      | resume o =>
        cases hs
        exact .step (l := .resume o) ih (h.answer ha) (by rw [step, hsettle])
    | stopped | crashed => cases l <;> cases hs

/-! ## Requests -/

/-- Every request that a handler makes is as `R` says of it and the state, as long as events do not change that. -/
theorem Trace.requests {D : Discipline S σ μ η} {init : σ → Prop} {R : σ → S.Req → Prop}
    (hH : ∀ s m s', V.next s = some (m, s') → D.receive s m → (V.handle m s').Requests (V.proto D m) R)
    (hR : ∀ s e s' r, R s r → D.event s e → V.event e s = some s' → R s' r)
    {past : List (Conf S ε σ μ × Label S η)} {c : Conf S ε σ μ} (h : V.Trace D init past c) :
    ∀ m r k, c.mode = .busy m r k → R c.state r := by
  -- and what is left of the handler goes on so
  suffices hall : ∀ m r k, c.mode = .busy m r k → R c.state r ∧ ∀ s' x, V.Drift D c.state s' → D.answer m s' r x →
      (k x s').Requests (V.proto D m) R from fun m r k hc => (hall m r k hc).1
  have hsettle : ∀ {m : μ} {t : Res S ε σ Unit}, t.Requests (V.proto D m) R → ∀ m' r k,
      (V.settle m t).mode = .busy m' r k → R (V.settle m t).state r ∧ ∀ s' x, V.Drift D (V.settle m t).state s' →
        D.answer m' s' r x → (k x s').Requests (V.proto D m') R := by
    intro m t ht m' r k hm
    cases t with
    | ret a s => cases hs : V.stops m <;> simp [settle, hs] at hm
    | raise e s => cases hm
    | await r s k => cases hm; exact ht
  induction h with
  | start => exact nofun
  | @step past c c' l _ ha hs ih =>
    obtain ⟨s, mode⟩ := c
    cases mode with
    | idle =>
      cases l with
      | event e =>
        obtain ⟨s', -, rfl⟩ := Option.map_eq_some_iff.1 hs
        exact nofun
      | recv =>
        obtain ⟨⟨m, s'⟩, hn, rfl⟩ := Option.map_eq_some_iff.1 hs
        exact hsettle (hH s m s' hn (ha _ hn))
      | resume o => cases hs
    | busy m r k =>
      obtain ⟨hr, hk⟩ := ih m r k rfl
      cases l with
      | event e =>
        obtain ⟨s', he, rfl⟩ := Option.map_eq_some_iff.1 hs
        rintro m' r' k' ⟨⟩
        exact ⟨hR s e s' r hr ha he, fun s'' x hd hx => hk s'' x (.head ⟨e, ha, he⟩ hd) hx⟩
      | recv => cases hs
      | resume o =>
        cases hs
        exact hsettle (hk s (o r) .refl ha)
    | stopped | crashed => cases l <;> cases hs

/-! ## The invariant rule -/

/-- What a configuration of a server must be like, in terms of its states: `J` when idle, `Z` when stopped, `I m` while
the handler of `m` is suspended — with the rest of the handler as good as the handler was — and `X` after a crash. -/
def Holds (V : Server S ε σ μ η) (D : Discipline S σ μ η) (J Z : σ → Prop) (I : μ → σ → Prop) (X : ε → σ → Prop) :
    Conf S ε σ μ → Prop
  | ⟨s, .idle⟩ => J s
  | ⟨s, .stopped⟩ => Z s
  | ⟨s, .busy m r k⟩ => I m s ∧ ∀ s' x, V.Drift D s s' → D.answer m s' r x →
      (k x s').Sat (V.proto D m) (I m) (fun _ => if V.stops m then Z else J) X
  | ⟨s, .crashed e⟩ => X e s

theorem holds_settle {D : Discipline S σ μ η} {J Z : σ → Prop} {I : μ → σ → Prop} {X : ε → σ → Prop} {m : μ}
    {t : Res S ε σ Unit} (h : t.Sat (V.proto D m) (I m) (fun _ => if V.stops m then Z else J) X) :
    V.Holds D J Z I X (V.settle m t) := by
  cases t with
  | ret a s =>
    replace h : (if V.stops m then Z else J) s := h
    simp only [settle]
    cases hm : V.stops m <;> rw [hm] at h <;> exact h
  | raise e s => exact h
  | await r s k => exact h

/-- **The invariant rule, of runs with their receipts.** `J` holds at the start and after every event, `I m` at the
suspensions of the handler of `m` and after every event, and each handler ends in `J` — in `Z` if its message stops the
server; then so it is after every run. -/
theorem Trace.rule {D : Discipline S σ μ η} {init : σ → Prop} {J Z : List (σ × μ) → σ → Prop}
    {I : List (σ × μ) → μ → σ → Prop} {X : List (σ × μ) → ε → σ → Prop}
    (h0 : ∀ s, init s → J [] s)
    (hJ : ∀ rs s e s', J rs s → D.event s e → V.event e s = some s' → J rs s')
    (hI : ∀ rs m s e s', I rs m s → D.event s e → V.event e s = some s' → I rs m s')
    (hm : ∀ rs s m s', J rs s → V.next s = some (m, s') → D.receive s m →
      (V.handle m s').Sat (V.proto D m) (I (rs ++ [(s, m)]) m)
        (fun _ => if V.stops m then Z (rs ++ [(s, m)]) else J (rs ++ [(s, m)])) (X (rs ++ [(s, m)]))) :
    ∀ {past : List (Conf S ε σ μ × Label S η)} {c : Conf S ε σ μ}, V.Trace D init past c →
      V.Holds D (J (V.receipts past)) (Z (V.receipts past)) (I (V.receipts past)) (X (V.receipts past)) c := by
  intro past c h
  induction h with
  | start hs => exact h0 _ hs
  | @step past c c' l _ ha hs ih =>
    rw [receipts_concat]
    obtain ⟨s, m⟩ := c
    cases m with
    | idle =>
      cases l with
      | event e =>
        obtain ⟨s', he, rfl⟩ := Option.map_eq_some_iff.1 hs
        have hr : V.receipt? (⟨s, .idle⟩, .event e) = none := rfl
        rw [hr, Option.toList_none, List.append_nil]
        exact hJ _ s e s' ih ha he
      | recv =>
        obtain ⟨⟨m, s'⟩, hn, rfl⟩ := Option.map_eq_some_iff.1 hs
        have hr : V.receipt? (⟨s, .idle⟩, .recv) = some (s, m) := by simp [receipt?, hn]
        rw [hr]
        exact holds_settle (hm _ s m s' ih hn (ha _ hn))
      | resume o => cases hs
    | busy m r k =>
      have hr : V.receipt? (⟨s, .busy m r k⟩, l) = none := rfl
      rw [hr, Option.toList_none, List.append_nil]
      cases l with
      | event e =>
        obtain ⟨s', he, rfl⟩ := Option.map_eq_some_iff.1 hs
        exact ⟨hI _ m s e s' ih.1 ha he,
          fun s'' x hd hx => ih.2 s'' x (.head ⟨e, ha, he⟩ hd) hx⟩
      | recv => cases hs
      | resume o =>
        cases hs
        exact holds_settle (ih.2 s (o r) .refl ha)
    | stopped | crashed => cases l <;> cases hs

end Server

/-! ## Phases

An abstract account of the handlers: each goes through phases by steps of a relation. Where the handlers simulate it,
an invariant that is indexed by phases is checked against these steps alone. -/

/-- The phases of the handlers of a server, in which of them they may be suspended, and the steps between them. -/
structure Phases (S : Sig) (ε σ μ Φ : Type) where
  enter : μ → Φ
  exit : μ → Φ
  crashed : ε → Φ
  awaits : Φ → Prop
  work : σ → Φ → σ → Φ → Prop

namespace Phases

variable {Φ : Type} {V : Server S ε σ μ η} {D : Discipline S σ μ η} {A : Phases S ε σ μ Φ}

/-- Steps of a handler, and events where it may be suspended. -/
inductive Works (V : Server S ε σ μ η) (D : Discipline S σ μ η) (A : Phases S ε σ μ Φ) (s₀ : σ) (φ₀ : Φ) : σ → Φ → Prop
  | refl : Works V D A s₀ φ₀ s₀ φ₀
  | work {s s' : σ} {φ φ' : Φ} : Works V D A s₀ φ₀ s φ → A.work s φ s' φ' → Works V D A s₀ φ₀ s' φ'
  | event {s s' : σ} {φ : Φ} {e : η} : Works V D A s₀ φ₀ s φ → A.awaits φ → D.event s e → V.event e s = some s' →
      Works V D A s₀ φ₀ s' φ

theorem Works.drift {s₀ s s' : σ} {φ₀ φ : Φ} (h : A.Works V D s₀ φ₀ s φ) (ha : A.awaits φ) (hd : V.Drift D s s') :
    A.Works V D s₀ φ₀ s' φ := by
  induction hd with
  | refl => exact h
  | tail _ he ih =>
    obtain ⟨e, hd, he⟩ := he
    exact ih.event ha hd he

/-- Every handler goes through the phases by the steps. -/
def Simulates (A : Phases S ε σ μ Φ) (V : Server S ε σ μ η) (D : Discipline S σ μ η) : Prop :=
  ∀ s m s', V.next s = some (m, s') → D.receive s m →
    (V.handle m s').Sat (V.proto D m) (fun t => ∃ φ, A.awaits φ ∧ A.Works V D s' (A.enter m) t φ)
      (fun _ t => A.Works V D s' (A.enter m) t (A.exit m))
      (fun e t => A.Works V D s' (A.enter m) t (A.crashed e))

/-- An invariant indexed by phases: each step of a handler keeps it, and each event. -/
structure Keeps (A : Phases S ε σ μ Φ) (V : Server S ε σ μ η) (D : Discipline S σ μ η) (K : Φ → σ → Prop) : Prop where
  work : ∀ {s s' φ φ'}, K φ s → A.work s φ s' φ' → K φ' s'
  event : ∀ {s s' φ e}, K φ s → A.awaits φ → D.event s e → V.event e s = some s' → K φ s'

theorem Works.keeps {K : Φ → σ → Prop} (hK : A.Keeps V D K) {s₀ s : σ} {φ₀ φ : Φ} (h : A.Works V D s₀ φ₀ s φ)
    (h₀ : K φ₀ s₀) : K φ s := by
  induction h with
  | refl => exact h₀
  | work _ hw ih => exact hK.work ih hw
  | event _ ha hd he ih => exact hK.event ih ha hd he

/-- What phases say of a configuration; a suspended handler is in some phase that it gets to. -/
def Says (A : Phases S ε σ μ Φ) (V : Server S ε σ μ η) (D : Discipline S σ μ η) (J : σ → Prop) (K : Φ → σ → Prop) :
    Conf S ε σ μ → Prop
  | ⟨s, .idle⟩ => J s
  | ⟨s, .stopped⟩ => ∃ m, V.stops m = true ∧ K (A.exit m) s
  | ⟨s, .busy m _ _⟩ => ∃ s₀ φ, A.awaits φ ∧ A.Works V D s₀ (A.enter m) s φ ∧ K φ s
  | ⟨s, .crashed e⟩ => K (A.crashed e) s

/-- What holds between messages and in every phase holds of the state. -/
theorem Says.state {J Q : σ → Prop} {K : Φ → σ → Prop} (hJ : ∀ s, J s → Q s) (hK : ∀ φ s, K φ s → Q s)
    {c : Conf S ε σ μ} (h : A.Says V D J K c) : Q c.state := by
  obtain ⟨s, m⟩ := c
  cases m with
  | idle => exact hJ s h
  | stopped =>
    obtain ⟨m, -, h⟩ := h
    exact hK _ s h
  | busy m r k =>
    obtain ⟨s₀, φ, -, -, h⟩ := h
    exact hK φ s h
  | crashed e => exact hK _ s h

/-- **The invariant rule by phases, of runs with their receipts.** Between messages `J`, which each message takes to the
entry phase of its handler and each exit phase brings back. -/
theorem trace_says (hsim : A.Simulates V D) {init : σ → Prop} {J : List (σ × μ) → σ → Prop}
    {K : List (σ × μ) → Φ → σ → Prop} (hK : ∀ rs, A.Keeps V D (K rs))
    (h0 : ∀ s, init s → J [] s)
    (hJ : ∀ rs s e s', J rs s → D.event s e → V.event e s = some s' → J rs s')
    (hin : ∀ rs s m s', J rs s → V.next s = some (m, s') → D.receive s m → K (rs ++ [(s, m)]) (A.enter m) s')
    (hout : ∀ rs s m, V.stops m = false → K rs (A.exit m) s → J rs s)
    {past : List (Conf S ε σ μ × Label S η)} {c : Conf S ε σ μ} (h : V.Trace D init past c) :
    A.Says V D (J (V.receipts past)) (K (V.receipts past)) c := by
  have hr := Server.Trace.rule (Z := fun rs s => ∃ m, V.stops m = true ∧ K rs (A.exit m) s)
    (I := fun rs m s => ∃ s₀ φ, A.awaits φ ∧ A.Works V D s₀ (A.enter m) s φ ∧ K rs φ s)
    (X := fun rs e s => K rs (A.crashed e) s) h0 hJ (fun rs m s e s' => ?_) (fun rs s m s' hs hn hd => ?_) h
  · obtain ⟨s, m⟩ := c
    cases m with
    | idle | stopped | crashed => exact hr
    | busy m r k => exact hr.1
  · rintro ⟨s₀, φ, ha, hw, hφ⟩ hd he
    exact ⟨s₀, φ, ha, hw.event ha hd he, (hK rs).event hφ ha hd he⟩
  · have hk := hin rs s m s' hs hn hd
    refine (hsim s m s' hn hd).mono ?_ ?_ ?_
    · rintro t ⟨φ, ha, hw⟩
      exact ⟨s', φ, ha, hw, hw.keeps (hK _) hk⟩
    · intro _ t hw
      have hx := hw.keeps (hK _) hk
      cases hm : V.stops m with
      | true => exact ⟨m, hm, hx⟩
      | false => exact hout _ t m hm hx
    · exact fun e t hw => hw.keeps (hK _) hk

/-- **The invariant rule by phases.** -/
theorem reach_says (hsim : A.Simulates V D) {init : σ → Prop} {J : σ → Prop} {K : Φ → σ → Prop} (hK : A.Keeps V D K)
    (h0 : ∀ s, init s → J s)
    (hJ : ∀ s e s', J s → D.event s e → V.event e s = some s' → J s')
    (hin : ∀ s m s', J s → V.next s = some (m, s') → D.receive s m → K (A.enter m) s')
    (hout : ∀ s m, V.stops m = false → K (A.exit m) s → J s) {c : Conf S ε σ μ} (h : V.Reach D init c) :
    A.Says V D J K c := by
  obtain ⟨past, ht⟩ := h.trace
  exact trace_says (J := fun _ => J) (K := fun _ => K) hsim (fun _ => hK) h0 (fun _ => hJ) (fun _ => hin)
    (fun _ => hout) ht

end Phases

end Coop
