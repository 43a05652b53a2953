import RiverGang.Lib.Server

/-!
# Runs with their history

The history of a run is what came from outside, in order: the events, and the messages that were taken. An invariant that
speaks of it has to be kept by each stretch of a handler, and the phases say how a stretch goes.

* `Phases.Goes`: from a phase and a state, each stretch of a task goes by steps to a phase in which it may be suspended,
  to a result or to a crash. It is closed under the program constructors.
* `Phases.Follows.simulates`: then the handlers go by the phases.
* `Phases.history_says`: the invariant rule, for invariants that are indexed by phases and speak of the history.
-/

namespace Coop

variable {S : Sig} {ε σ μ η Φ α β : Type}

/-! ## Stretches -/

namespace Phases

/-- Steps of a handler, with no event between them. -/
abbrev Steps (A : Phases S ε σ μ Φ) (s : σ) (φ : Φ) (s' : σ) (φ' : Φ) : Prop :=
  Relation.ReflTransGen (fun p q : σ × Φ => A.work p.1 p.2 q.1 q.2) (s, φ) (s', φ')

/-- A task and how far it is accounted for: a phase and a state. Its stretch goes by steps: to a crash, to a phase in
which it may be suspended — and from there it goes on so, whatever the protocol allows —, or to a result in a state for
which `Q` holds of the phase and the state that are accounted for. -/
def Goes (A : Phases S ε σ μ Φ) (P : Proto S σ) (Q : α → σ → Φ → σ → Prop) : Res S ε σ α → Φ → σ → Prop
  | .ret a s', φ, s => ∃ φ' s₁, A.Steps s φ s₁ φ' ∧ Q a s' φ' s₁
  | .raise e s', φ, s => A.Steps s φ s' (A.crashed e)
  | .await r s' k, φ, s => ∃ φ', A.Steps s φ s' φ' ∧ A.awaits φ' ∧
      ∀ s'' x, P.rely s' s'' → P.answer s'' r x → A.Goes P Q (k x s'') φ' s''

/-- All is accounted for. -/
abbrev Exact (Q : α → Φ → σ → Prop) (a : α) (s : σ) (φ : Φ) (s₁ : σ) : Prop := s₁ = s ∧ Q a φ s

variable {A : Phases S ε σ μ Φ} {P : Proto S σ} {Q : α → σ → Φ → σ → Prop} {φ φ' : Φ} {s s' : σ}

theorem Goes.ret {Q : α → Φ → σ → Prop} {a : α} (h : Q a φ s) : A.Goes P (Exact Q) (.ret a s) φ s :=
  ⟨φ, s, .refl, rfl, h⟩

/-- A last step. -/
theorem Goes.ret_step {Q : α → Φ → σ → Prop} {a : α} (h : A.work s φ s' φ') (hq : Q a φ' s') :
    A.Goes P (Exact Q) (.ret a s') φ s := ⟨φ', s', .single h, rfl, hq⟩

theorem Goes.crash {e : ε} (h : A.work s φ s' (A.crashed e)) : A.Goes P Q (.raise e s' : Res S ε σ α) φ s := .single h

/-- What comes before counts. -/
theorem Goes.after (h : A.Steps s φ s' φ') : ∀ {t : Res S ε σ α}, A.Goes P Q t φ' s' → A.Goes P Q t φ s
  | .ret _ _, ht => by
    obtain ⟨φ₁, s₁, hs, hq⟩ := ht
    exact ⟨φ₁, s₁, h.trans hs, hq⟩
  | .raise _ _, ht => h.trans ht
  | .await _ _ _, ht => by
    obtain ⟨φ₁, hs, ha⟩ := ht
    exact ⟨φ₁, h.trans hs, ha⟩

theorem Goes.step {t : Res S ε σ α} (h : A.work s φ s' φ') (ht : A.Goes P Q t φ' s') : A.Goes P Q t φ s :=
  ht.after (.single h)

/-- The rule of consequence. -/
theorem Goes.mono {Q' : α → σ → Φ → σ → Prop} (hQ : ∀ a s φ s₁, Q a s φ s₁ → Q' a s φ s₁) :
    ∀ {t : Res S ε σ α} {φ : Φ} {s : σ}, A.Goes P Q t φ s → A.Goes P Q' t φ s
  | .ret a _, _, _, h => by
    obtain ⟨φ₁, s₁, hs, hq⟩ := h
    exact ⟨φ₁, s₁, hs, hQ a _ φ₁ s₁ hq⟩
  | .raise _ _, _, _, h => h
  | .await _ _ _, _, _, h => by
    obtain ⟨φ₁, hs, ha, hk⟩ := h
    exact ⟨φ₁, hs, ha, fun s'' x hr hx => (hk s'' x hr hx).mono hQ⟩

/-- The rule of sequencing. -/
theorem Goes.bind {Q' : β → σ → Φ → σ → Prop} {f : α → Task S ε σ β}
    (hf : ∀ a s φ s₁, Q a s φ s₁ → A.Goes P Q' (f a s) φ s₁) :
    ∀ {t : Res S ε σ α} {φ : Φ} {s : σ}, A.Goes P Q t φ s → A.Goes P Q' (t.bind f) φ s
  | .ret a _, _, _, h => by
    obtain ⟨φ₁, s₁, hs, hq⟩ := h
    exact (hf a _ φ₁ s₁ hq).after hs
  | .raise _ _, _, _, h => h
  | .await _ _ _, _, _, h => by
    obtain ⟨φ₁, hs, ha, hk⟩ := h
    exact ⟨φ₁, hs, ha, fun s'' x hr hx => (hk s'' x hr hx).bind hf⟩

/-- The rule of sequencing, where all is accounted for. -/
theorem Goes.then {Q : α → Φ → σ → Prop} {Q' : β → σ → Φ → σ → Prop} {f : α → Task S ε σ β} {t : Res S ε σ α}
    (h : A.Goes P (Exact Q) t φ s) (hf : ∀ a φ s, Q a φ s → A.Goes P Q' (f a s) φ s) : A.Goes P Q' (t.bind f) φ s := by
  refine h.bind fun a s φ s₁ hq => ?_
  obtain ⟨rfl, hq⟩ := hq
  exact hf a φ _ hq

/-- A stretch that does not suspend goes where its outcome is. -/
theorem Goes.of_sync {Q : α → Φ → σ → Prop} : ∀ {t : Res S ε σ α}, t.Sync →
    (∀ a s', t = .ret a s' → ∃ φ', A.work s φ s' φ' ∧ Q a φ' s') →
    (∀ e s', t = .raise e s' → A.work s φ s' (A.crashed e)) → A.Goes P (Exact Q) t φ s
  | .ret a s', _, hq, _ => by
    obtain ⟨φ', hs, hq⟩ := hq a s' rfl
    exact .ret_step hs hq
  | .raise e s', _, _, hx => .crash (hx e s' rfl)

/-- The rule of requests. -/
theorem Goes.request_bind {r : S.Req} {f : S.Ans r → Task S ε σ α} (hφ : A.awaits φ)
    (hf : ∀ s' x, P.rely s s' → P.answer s' r x → A.Goes P Q (f x s') φ s') :
    A.Goes P Q ((Task.request r s).bind f) φ s := ⟨φ, .refl, hφ, hf⟩

/-- The rule of loops, for an invariant that speaks of the rounds so far. -/
theorem Goes.forEach_past {J : List β → Φ → σ → Prop} {f : β → Task S ε σ Unit} : ∀ {l p : List β},
    (∀ before x after, l = before ++ x :: after → ∀ φ s, J (p ++ before) φ s →
      A.Goes P (Exact fun _ => J (p ++ before ++ [x])) (f x s) φ s) →
    ∀ {φ : Φ} {s : σ}, J p φ s → A.Goes P (Exact fun _ => J (p ++ l)) (Task.forEach l f s) φ s
  | [], p, _, φ, s, hs => by
    rw [List.append_nil]
    exact .ret hs
  | x :: l, p, h, φ, s, hs => by
    have hx := h [] x l rfl φ s (by rwa [List.append_nil])
    rw [List.append_nil] at hx
    refine hx.then fun _ φ' s' hs' => ?_
    have hl := Goes.forEach_past (J := J) (f := f) (l := l) (p := p ++ [x]) (fun before y after hl φ s hs => ?_) hs'
    · rwa [List.append_assoc, List.singleton_append] at hl
    · have hy := h (x :: before) y after (by rw [hl]; rfl) φ s (by simpa using hs)
      simpa using hy

/-- The rule of loops: what each round keeps, the loop keeps. -/
theorem Goes.forEach {J : Φ → σ → Prop} {f : β → Task S ε σ Unit} {l : List β}
    (h : ∀ x ∈ l, ∀ φ s, J φ s → A.Goes P (Exact fun _ => J) (f x s) φ s) (hs : J φ s) :
    A.Goes P (Exact fun _ => J) (Task.forEach l f s) φ s :=
  Goes.forEach_past (J := fun _ => J) (p := []) (fun _ x _ hl φ s hs => h x (by simp [hl]) φ s hs) hs

/-! ## Handlers -/

variable {V : Server S ε σ μ η} {D : Discipline S σ μ η}

/-- Every handler goes from its entry to its exit. -/
def Follows (A : Phases S ε σ μ Φ) (V : Server S ε σ μ η) (D : Discipline S σ μ η) : Prop :=
  ∀ s m s', V.next s = some (m, s') → D.receive s m →
    A.Goes (V.proto D m) (Exact fun _ φ _ => φ = A.exit m) (V.handle m s') (A.enter m) s'

theorem Works.steps {s₀ : σ} {φ₀ : Φ} (h : A.Works V D s₀ φ₀ s φ) (hs : A.Steps s φ s' φ') :
    A.Works V D s₀ φ₀ s' φ' := by
  have hpairs : ∀ {p q : σ × Φ}, Relation.ReflTransGen (fun p q : σ × Φ => A.work p.1 p.2 q.1 q.2) p q →
      A.Works V D s₀ φ₀ p.1 p.2 → A.Works V D s₀ φ₀ q.1 q.2 := by
    intro p q hpq hp
    induction hpq with
    | refl => exact hp
    | tail _ hw ih => exact ih.work hw
  exact hpairs hs h

/-- What the steps of a task get to, its runs get to. -/
theorem Goes.sat {Q : α → Φ → σ → Prop} {m : μ} {s₀ : σ} {φ₀ : Φ} : ∀ {t : Res S ε σ α} {φ : Φ} {s : σ},
    A.Goes (V.proto D m) (Exact Q) t φ s →
    A.Works V D s₀ φ₀ s φ →
      t.Sat (V.proto D m) (fun s' => ∃ φ', A.awaits φ' ∧ A.Works V D s₀ φ₀ s' φ')
        (fun a s' => ∃ φ', A.Works V D s₀ φ₀ s' φ' ∧ Q a φ' s') (fun e s' => A.Works V D s₀ φ₀ s' (A.crashed e))
  | .ret _ _, _, _, h, hw => by
    obtain ⟨φ₁, s₁, hs, rfl, hq⟩ := h
    exact ⟨φ₁, hw.steps hs, hq⟩
  | .raise _ _, _, _, h, hw => hw.steps h
  | .await _ _ _, _, _, h, hw => by
    obtain ⟨φ₁, hs, ha, hk⟩ := h
    exact ⟨⟨φ₁, ha, hw.steps hs⟩, fun s'' x hr hx => (hk s'' x hr hx).sat ((hw.steps hs).drift ha hr)⟩

theorem Follows.simulates (h : A.Follows V D) : A.Simulates V D := by
  intro s m s' hn hd
  refine ((h s m s' hn hd).sat .refl).mono (fun _ h => h) (fun _ t hw => ?_) (fun _ _ h => h)
  obtain ⟨φ, hw, rfl⟩ := hw
  exact hw

end Phases

/-! ## Histories -/

/-- An event or the receipt of a message, with the state in which it came. -/
inductive Incident (σ μ η : Type) : Type
  | event (s : σ) (e : η)
  | receipt (s : σ) (m : μ)

namespace Server

variable (V : Server S ε σ μ η)

def incident? : Conf S ε σ μ × Label S η → Option (Incident σ μ η)
  | (c, .event e) => some (.event c.state e)
  | (⟨s, .idle⟩, .recv) => (V.next s).map fun p => .receipt s p.1
  | _ => none

/-- The incidents of a run, in order. -/
def history (past : List (Conf S ε σ μ × Label S η)) : List (Incident σ μ η) := past.filterMap V.incident?

theorem history_concat (past : List (Conf S ε σ μ × Label S η)) (c : Conf S ε σ μ) (l : Label S η) :
    V.history (past ++ [(c, l)]) = V.history past ++ (V.incident? (c, l)).toList := by
  rw [history, List.filterMap_append, List.filterMap_cons]
  cases V.incident? (c, l) <;> rfl

end Server

namespace Phases

variable {A : Phases S ε σ μ Φ} {V : Server S ε σ μ η} {D : Discipline S σ μ η}

/-- An invariant indexed by phases that speaks of the history: each step of a handler keeps it, and each event. -/
structure KeepsHistory (A : Phases S ε σ μ Φ) (V : Server S ε σ μ η) (D : Discipline S σ μ η)
    (K : List (Incident σ μ η) → Φ → σ → Prop) : Prop where
  work : ∀ {h s s' φ φ'}, K h φ s → A.work s φ s' φ' → K h φ' s'
  event : ∀ {h s s' φ e}, K h φ s → A.awaits φ → D.event s e → V.event e s = some s' → K (h ++ [.event s e]) φ s'

theorem KeepsHistory.steps {K : List (Incident σ μ η) → Φ → σ → Prop} (hK : A.KeepsHistory V D K)
    {h : List (Incident σ μ η)} {s s' : σ} {φ φ' : Φ} (hs : A.Steps s φ s' φ') (hk : K h φ s) : K h φ' s' := by
  have hpairs : ∀ {p q : σ × Φ}, Relation.ReflTransGen (fun p q : σ × Φ => A.work p.1 p.2 q.1 q.2) p q →
      K h p.2 p.1 → K h q.2 q.1 := by
    intro p q hpq hp
    induction hpq with
    | refl => exact hp
    | tail _ hw ih => exact hK.work ih hw
  exact hpairs hs hk

/-- What phases say of a configuration of a run: between messages `J`, otherwise `K` in the phase that it is in. A
suspended handler goes on by the phases. -/
def Tells (A : Phases S ε σ μ Φ) (V : Server S ε σ μ η) (D : Discipline S σ μ η) (J : σ → Prop) (K : Φ → σ → Prop) :
    Conf S ε σ μ → Prop
  | ⟨s, .idle⟩ => J s
  | ⟨s, .stopped⟩ => ∃ m, V.stops m = true ∧ K (A.exit m) s
  | ⟨s, .busy m r k⟩ => ∃ φ, A.awaits φ ∧ K φ s ∧ ∀ s' x, V.Drift D s s' → D.answer m s' r x →
      A.Goes (V.proto D m) (Exact fun _ φ' _ => φ' = A.exit m) (k x s') φ s'
  | ⟨s, .crashed e⟩ => K (A.crashed e) s

theorem tells_settle {J : σ → Prop} {K : Φ → σ → Prop} {m : μ} {t : Res S ε σ Unit} {φ : Φ} {s : σ}
    (hK : ∀ {s' φ'}, A.Steps s φ s' φ' → K φ' s') (hout : ∀ s, V.stops m = false → K (A.exit m) s → J s)
    (h : A.Goes (V.proto D m) (Exact fun _ φ' _ => φ' = A.exit m) t φ s) : A.Tells V D J K (V.settle m t) := by
  cases t with
  | ret a s' =>
    obtain ⟨φ', s₁, hs, rfl, rfl⟩ := h
    have hk := hK hs
    simp only [Server.settle]
    cases hm : V.stops m with
    | true => exact ⟨m, hm, hk⟩
    | false => exact hout _ hm hk
  | raise e s' => exact hK h
  | await r s' k =>
    obtain ⟨φ', hs, ha, hk⟩ := h
    exact ⟨φ', ha, hK hs, hk⟩

/-- **The invariant rule by phases, of runs with their history.** Each event and each step of a handler keeps the
invariant, which a receipt takes to the entry phase of the handler and each exit phase brings back. -/
theorem history_says (hA : A.Follows V D) {init : σ → Prop} {J : List (Incident σ μ η) → σ → Prop}
    {K : List (Incident σ μ η) → Φ → σ → Prop} (hK : A.KeepsHistory V D K)
    (h0 : ∀ s, init s → J [] s)
    (hJ : ∀ h s e s', J h s → D.event s e → V.event e s = some s' → J (h ++ [.event s e]) s')
    (hin : ∀ h s m s', J h s → V.next s = some (m, s') → D.receive s m → K (h ++ [.receipt s m]) (A.enter m) s')
    (hout : ∀ h s m, V.stops m = false → K h (A.exit m) s → J h s)
    {past : List (Conf S ε σ μ × Label S η)} {c : Conf S ε σ μ} (h : V.Trace D init past c) :
    A.Tells V D (J (V.history past)) (K (V.history past)) c := by
  induction h with
  | start hs => exact h0 _ hs
  | @step past c c' l _ ha hs ih =>
    rw [V.history_concat]
    obtain ⟨s, mode⟩ := c
    cases mode with
    | idle =>
      cases l with
      | event e =>
        obtain ⟨s', he, rfl⟩ := Option.map_eq_some_iff.1 hs
        exact hJ _ s e s' ih ha he
      | recv =>
        obtain ⟨⟨m, s'⟩, hn, rfl⟩ := Option.map_eq_some_iff.1 hs
        have hi : V.incident? (⟨s, .idle⟩, .recv) = some (.receipt s m) := by simp [Server.incident?, hn]
        rw [hi]
        have hk := hin _ s m s' ih hn (ha _ hn)
        exact tells_settle (fun hst => hK.steps hst hk) (fun s hm => hout _ s m hm) (hA s m s' hn (ha _ hn))
      | resume o => cases hs
    | busy m r k =>
      obtain ⟨φ, hφ, hk, hgo⟩ := ih
      cases l with
      | event e =>
        obtain ⟨s', he, rfl⟩ := Option.map_eq_some_iff.1 hs
        exact ⟨φ, hφ, hK.event hk hφ ha he, fun s'' x hd hx => hgo s'' x (.head ⟨e, ha, he⟩ hd) hx⟩
      | recv => cases hs
      | resume o =>
        cases hs
        have hi : V.incident? (⟨s, .busy m r k⟩, .resume o) = none := rfl
        rw [hi, Option.toList_none, List.append_nil]
        exact tells_settle (fun hst => hK.steps hst hk) (fun s hm => hout _ s m hm) (hgo s (o r) .refl ha)
    | stopped | crashed => cases l <;> cases hs

end Phases

end Coop
