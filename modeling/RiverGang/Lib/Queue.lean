import RiverGang.Lib.History

/-!
# Mailboxes that are queues

A server that takes the first message of a queue in its state, to whose end everybody else adds.

* `Queued.served`: what waits after an event is handled in its order and before all that comes later.
* `Trace.taken_stops`: where messages that stop the server are handled at once, only the last that was taken can be one,
  and is one exactly if the server has stopped.
* `Queued.prompt`: so a stopping message is handled after just those that waited when it came.
-/

namespace Coop

variable {S : Sig} {ε σ μ η Φ : Type}

/-- The message that an incident takes. -/
def Incident.message? : Incident σ μ η → Option μ
  | .event _ _ => none
  | .receipt _ m => some m

/-- The messages that were taken, in order. -/
def taken (h : List (Incident σ μ η)) : List μ := h.filterMap Incident.message?

theorem taken_append (h h' : List (Incident σ μ η)) : taken (h ++ h') = taken h ++ taken h' := List.filterMap_append

@[simp] theorem taken_event (s : σ) (e : η) (h : List (Incident σ μ η)) : taken (.event s e :: h) = taken h := rfl

@[simp] theorem taken_receipt (s : σ) (m : μ) (h : List (Incident σ μ η)) : taken (.receipt s m :: h) = m :: taken h := rfl

/-- The mailbox is a queue: the server takes its head, an event adds `adds` to its end, and the steps of the handlers add
to its end too. -/
structure Queued (A : Phases S ε σ μ Φ) (V : Server S ε σ μ η) (D : Discipline S σ μ η) (queue : σ → List μ)
    (adds : σ → η → List μ) : Prop where
  next : ∀ {s s' m}, V.next s = some (m, s') → queue s = m :: queue s'
  event : ∀ {s s' e}, V.event e s = some s' → queue s' = queue s ++ adds s e
  work : ∀ {s s' φ φ'}, A.work s φ s' φ' → queue s <+: queue s'

/-- What waited after each event was taken since or waits, in order and before the rest. -/
def ServedIn (queue : σ → List μ) (adds : σ → η → List μ) (h : List (Incident σ μ η)) (s : σ) : Prop :=
  ∀ before s₁ e after, h = before ++ .event s₁ e :: after → queue s₁ ++ adds s₁ e <+: taken after ++ queue s

section Served

variable {queue : σ → List μ} {adds : σ → η → List μ} {h : List (Incident σ μ η)} {s s' : σ}

theorem ServedIn.mono (hs : ServedIn queue adds h s) (hq : queue s <+: queue s') : ServedIn queue adds h s' := by
  intro before s₁ e after heq
  exact (hs before s₁ e after heq).trans ((List.prefix_append_right_inj _).2 hq)

/-- The last of a list with something after it. -/
theorem concat_eq_append_cons {α : Type} {l before after : List α} {x y : α} (h : l ++ [x] = before ++ y :: after) :
    (l = before ∧ x = y ∧ after = []) ∨ ∃ rest, after = rest ++ [x] ∧ l = before ++ y :: rest := by
  rcases List.eq_nil_or_concat after with rfl | ⟨rest, z, rfl⟩
  · obtain ⟨rfl, hx⟩ := List.append_inj' h rfl
    exact .inl ⟨rfl, List.singleton_inj.1 hx, rfl⟩
  · rw [List.concat_eq_append, ← List.cons_append, ← List.append_assoc] at h
    obtain ⟨rfl, hx⟩ := List.append_inj' h rfl
    exact .inr ⟨rest, by rw [List.concat_eq_append, List.singleton_inj.1 hx], rfl⟩

theorem ServedIn.event {e : η} (hs : ServedIn queue adds h s) (hq : queue s' = queue s ++ adds s e) :
    ServedIn queue adds (h ++ [.event s e]) s' := by
  intro before s₁ e₁ after heq
  rcases concat_eq_append_cons heq with ⟨-, hx, rfl⟩ | ⟨rest, rfl, rfl⟩
  · cases hx
    rw [hq]
    exact List.prefix_rfl
  · rw [taken_append, hq]
    change queue s₁ ++ adds s₁ e₁ <+: taken rest ++ [] ++ (queue s ++ adds s e)
    rw [List.append_nil, ← List.append_assoc]
    exact (hs before s₁ e₁ rest rfl).trans (List.prefix_append _ _)

theorem ServedIn.receipt {m : μ} (hs : ServedIn queue adds h s) (hq : queue s = m :: queue s') :
    ServedIn queue adds (h ++ [.receipt s m]) s' := by
  intro before s₁ e₁ after heq
  rcases concat_eq_append_cons heq with ⟨-, hx, -⟩ | ⟨rest, rfl, rfl⟩
  · cases hx
  · have hold := hs before s₁ e₁ rest rfl
    rw [hq] at hold
    rw [taken_append, List.append_assoc]
    exact hold

end Served

variable {A : Phases S ε σ μ Φ} {V : Server S ε σ μ η} {D : Discipline S σ μ η} {queue : σ → List μ}
  {adds : σ → η → List μ} {init : σ → Prop} {past : List (Conf S ε σ μ × Label S η)} {c : Conf S ε σ μ}

/-- What holds between messages and in every phase holds of the state. -/
theorem Phases.Tells.state {J Q : σ → Prop} {K : Φ → σ → Prop} (hJ : ∀ s, J s → Q s) (hK : ∀ φ s, K φ s → Q s)
    (h : A.Tells V D J K c) : Q c.state := by
  obtain ⟨s, mode⟩ := c
  cases mode with
  | idle => exact hJ s h
  | stopped =>
    obtain ⟨m, -, hk⟩ := h
    exact hK _ s hk
  | busy m r k =>
    obtain ⟨φ, -, hk, -⟩ := h
    exact hK φ s hk
  | crashed e => exact hK _ s h

/-- **First come, first served.** -/
theorem Queued.served (hA : A.Follows V D) (hq : Queued A V D queue adds) (h : V.Trace D init past c) :
    ServedIn queue adds (V.history past) c.state := by
  have ht : A.Tells V D (ServedIn queue adds (V.history past)) (fun _ => ServedIn queue adds (V.history past)) c := by
    refine Phases.history_says (J := fun h s => ServedIn queue adds h s) (K := fun h _ s => ServedIn queue adds h s) hA
      ⟨fun hk hw => hk.mono (hq.work hw), fun hk _ _ he => hk.event (hq.event he)⟩ (fun s _ before s₁ e after heq => ?_)
      (fun h s e s' hj _ he => hj.event (hq.event he)) (fun h s m s' hj hn _ => hj.receipt (hq.next hn))
      (fun _ _ _ _ hk => hk) h
    exact absurd heq (by simp)
  exact Phases.Tells.state (Q := fun s => ServedIn queue adds (V.history past) s) (fun _ h => h) (fun _ _ h => h) ht

/-! ## The message that stops it -/

/-- A run up to some point of a run. -/
theorem Server.Trace.split {past₁ past₂ : List (Conf S ε σ μ × Label S η)} {c₁ : Conf S ε σ μ} {l : Label S η}
    (h : V.Trace D init past c) (heq : past = past₁ ++ (c₁, l) :: past₂) :
    V.Trace D init past₁ c₁ ∧ ∃ c₂, V.step c₁ l = some c₂ := by
  induction h generalizing past₂ with
  | start => simp at heq
  | @step past c c' l' ht ha hs ih =>
    rcases concat_eq_append_cons heq with ⟨rfl, hx, -⟩ | ⟨rest, -, hrest⟩
    · cases hx
      exact ⟨ht, c', hs⟩
    · exact ih hrest

/-- Messages that stop the server are handled without suspending. -/
def Server.StopsAtOnce (V : Server S ε σ μ η) : Prop := ∀ m s, V.stops m = true → ∃ s', V.handle m s = .ret () s'

/-- Of the messages that were taken none stops the server, or it has stopped and just the last one does. -/
def TakenIn (V : Server S ε σ μ η) (ms : List μ) : Mode S ε σ μ → Prop
  | .stopped => ∃ l m, ms = l ++ [m] ∧ V.stops m = true ∧ ∀ m' ∈ l, V.stops m' = false
  | .busy m _ _ => V.stops m = false ∧ ∀ m' ∈ ms, V.stops m' = false
  | _ => ∀ m ∈ ms, V.stops m = false

theorem TakenIn.unstopped {ms : List μ} {mode : Mode S ε σ μ} (h : TakenIn V ms mode) (hm : mode ≠ .stopped) :
    ∀ m ∈ ms, V.stops m = false := by
  cases mode with
  | stopped => exact absurd rfl hm
  | busy m r k => exact h.2
  | idle | crashed => exact h

/-- A stretch of the handler of a message that does not stop the server. -/
theorem takenIn_settle {ms : List μ} (hms : ∀ m ∈ ms, V.stops m = false) {m : μ} (hm : V.stops m = false)
    (t : Res S ε σ Unit) : TakenIn V ms (V.settle m t).mode := by
  cases t with
  | ret a s =>
    simp only [Server.settle, hm]
    exact hms
  | raise e s => exact hms
  | await r s k => exact ⟨hm, hms⟩

theorem Server.Trace.taken_stops (hV : V.StopsAtOnce) (h : V.Trace D init past c) :
    TakenIn V (taken (V.history past)) c.mode := by
  induction h with
  | start => exact fun m hm => absurd hm (by simp [Server.history, taken])
  | @step past c c' l _ ha hs ih =>
    rw [V.history_concat, taken_append]
    obtain ⟨s, mode⟩ := c
    cases mode with
    | idle =>
      cases l with
      | event e =>
        obtain ⟨s', he, rfl⟩ := Option.map_eq_some_iff.1 hs
        exact (List.append_nil _).symm ▸ ih
      | recv =>
        obtain ⟨⟨m, s'⟩, hn, rfl⟩ := Option.map_eq_some_iff.1 hs
        have hi : V.incident? (⟨s, .idle⟩, .recv) = some (.receipt s m) := by simp [Server.incident?, hn]
        rw [hi]
        change TakenIn V (taken (V.history past) ++ [m]) (V.settle m (V.handle m s')).mode
        cases hm : V.stops m with
        | true =>
          obtain ⟨s'', hret⟩ := hV m s' hm
          simp only [hret, Server.settle, hm, if_true]
          exact ⟨_, m, rfl, hm, ih⟩
        | false =>
          refine takenIn_settle (fun m' hm' => ?_) hm _
          rcases List.mem_append.1 hm' with hm' | hm'
          · exact ih m' hm'
          · rw [List.mem_singleton.1 hm']
            exact hm
      | resume o => cases hs
    | busy m r k =>
      cases l with
      | event e =>
        obtain ⟨s', he, rfl⟩ := Option.map_eq_some_iff.1 hs
        exact (List.append_nil _).symm ▸ ih
      | recv => cases hs
      | resume o =>
        cases hs
        have hi : V.incident? (⟨s, .busy m r k⟩, .resume o) = none := rfl
        rw [hi]
        exact (List.append_nil _).symm ▸ takenIn_settle ih.2 ih.1 _
    | stopped | crashed => cases l <;> cases hs

/-- **A stopping message is handled after just those that waited when it came**: none that came later is, and once all
these are handled the server has stopped. -/
theorem Queued.prompt (hA : A.Follows V D) (hq : Queued A V D queue adds) (hV : V.StopsAtOnce)
    {past₁ past₂ : List (Conf S ε σ μ × Label S η)} {c₁ : Conf S ε σ μ} {e : η} {m : μ}
    (h : V.Trace D init (past₁ ++ (c₁, .event e) :: past₂) c) (hadds : adds c₁.state e = [m]) (hm : V.stops m = true)
    (hfirst : ∀ m' ∈ queue c₁.state, V.stops m' = false) :
    taken (V.history past₂) <+: queue c₁.state ++ [m] ∧
      (c.mode = .stopped ↔ taken (V.history past₂) = queue c₁.state ++ [m]) := by
  have hhistory : V.history (past₁ ++ (c₁, .event e) :: past₂) =
      V.history past₁ ++ .event c₁.state e :: V.history past₂ := by
    simp only [Server.history, List.filterMap_append, List.filterMap_cons]
    rfl
  have hserved := hq.served hA h _ _ _ _ hhistory
  have hstops := h.taken_stops hV
  rw [hhistory, taken_append, taken_event] at hstops
  rw [hadds] at hserved
  -- the server has not stopped when the message comes
  have hbefore : ∀ m' ∈ taken (V.history past₁), V.stops m' = false := by
    obtain ⟨hbefore, c₂, hs⟩ := h.split rfl
    refine (hbefore.taken_stops hV).unstopped fun hmode => ?_
    obtain ⟨s, mode⟩ := c₁
    obtain rfl : mode = .stopped := hmode
    cases hs
  generalize taken (V.history past₁) = before at *
  generalize taken (V.history past₂) = handled at *
  by_cases hmode : c.mode = .stopped
  · rw [hmode] at hstops
    obtain ⟨l, m', heq, hm', hl⟩ := hstops
    suffices hall : handled = queue c₁.state ++ [m] from ⟨hall ▸ List.prefix_rfl, fun _ => hall, fun _ => hmode⟩
    rcases List.eq_nil_or_concat handled with rfl | ⟨rest, m'', rfl⟩
    · have hmem : m' ∈ before := by
        rw [List.append_nil] at heq
        rw [heq]
        exact List.mem_append_right _ (List.mem_singleton_self m')
      rw [hbefore m' hmem] at hm'
      cases hm'
    rw [List.concat_eq_append] at *
    rw [← List.append_assoc] at heq
    obtain ⟨rfl, hlast⟩ := List.append_inj' heq rfl
    obtain rfl := List.singleton_inj.1 hlast
    rcases List.prefix_or_prefix_of_prefix hserved (List.prefix_append _ _) with hp | hp
    · rcases List.prefix_concat_iff.1 hp with heq | hp
      · exact heq.symm
      · rw [hl m (List.mem_append_right _ (hp.subset (by simp)))] at hm
        cases hm
    · rcases List.prefix_concat_iff.1 hp with heq | hp
      · exact heq
      · rw [hfirst m'' (hp.subset (by simp))] at hm'
        cases hm'
  · have hall := hstops.unstopped hmode
    have hnot : ¬queue c₁.state ++ [m] <+: handled := by
      intro hp
      have hmem : m ∈ before ++ handled := List.mem_append_right _ (hp.subset (by simp))
      rw [hall m hmem] at hm
      cases hm
    refine ⟨(List.prefix_or_prefix_of_prefix hserved (List.prefix_append _ _)).resolve_left hnot, ?_⟩
    exact ⟨fun h => absurd h hmode, fun h => absurd (h ▸ List.prefix_rfl) hnot⟩

end Coop
