import Mathlib.Algebra.BigOperators.Group.Multiset.Basic
import RiverGang.Lib.Task

/-!
# A pool of tasks

Any number of tasks over one state, each of one of the programs. A task that is started, or whose request is answered,
has the state to itself until it suspends again or ends. `step` is the labelled transition function, `Reach` its
reachable configurations under limits: which programs may be started, and which answers may come.

`Reach.rule` is the rule for invariants of the state: each program has to keep it at its suspensions, where the others may
do whatever keeps it. `Reach.heeded` is the rule for invariants of the state, of what the suspended tasks hold on to, such
as locks, and of what is done so far: what a task holds is there when it goes on. `Reach.keeps` is the case of an invariant
that does not look at what is done.
-/

namespace Coop

namespace Pool

/-- A suspended task, with what it is for. -/
structure Waiting (S : Sig) (ε σ μ α : Type) where
  call : μ
  req : S.Req
  rest : S.Ans req → σ → Res S ε σ α

structure Conf (S : Sig) (ε σ μ α : Type) where
  state : σ
  waiting : List (Waiting S ε σ μ α)
  finished : List (μ × Except ε α)

inductive Label (S : Sig) (μ : Type)
  | start (m : μ)
  | resume (i : Nat) (o : (r : S.Req) → S.Ans r)

/-- A restriction of the steps: which programs to start, and which answers to the task of one. -/
structure Limits (S : Sig) (σ μ : Type) where
  start : σ → μ → Prop
  answer : μ → σ → (r : S.Req) → S.Ans r → Prop

variable {S : Sig} {ε σ μ α : Type}

/-- A stretch of a task came to its end. -/
def Conf.put (c : Conf S ε σ μ α) (m : μ) : Res S ε σ α → Conf S ε σ μ α
  | .ret a s => { c with state := s, finished := c.finished ++ [(m, .ok a)] }
  | .raise e s => { c with state := s, finished := c.finished ++ [(m, .error e)] }
  | .await r s k => { c with state := s, waiting := c.waiting ++ [⟨m, r, k⟩] }

def step (program : μ → Task S ε σ α) (c : Conf S ε σ μ α) : Label S μ → Option (Conf S ε σ μ α)
  | .start m => some (c.put m (program m c.state))
  | .resume i o => c.waiting[i]?.map fun t =>
      Conf.put { c with waiting := c.waiting.eraseIdx i } t.call (t.rest (o t.req) c.state)

/-- The steps that the limits allow. -/
def Limits.Allows (L : Limits S σ μ) (c : Conf S ε σ μ α) : Label S μ → Prop
  | .start m => L.start c.state m
  | .resume i o => ∀ t, c.waiting[i]? = some t → L.answer t.call c.state t.req (o t.req)

inductive Reach (program : μ → Task S ε σ α) (L : Limits S σ μ) (init : σ → Prop) : Conf S ε σ μ α → Prop
  | init {s : σ} : init s → Reach program L init ⟨s, [], []⟩
  | step {c c' : Conf S ε σ μ α} {l : Label S μ} : Reach program L init c → L.Allows c l → step program c l = some c' →
      Reach program L init c'

/-- A run of given labels. -/
def run (program : μ → Task S ε σ α) : Conf S ε σ μ α → List (Label S μ) → Option (Conf S ε σ μ α)
  | c, [] => some c
  | c, l :: ls => (step program c l).bind fun c' => run program c' ls

variable {program : μ → Task S ε σ α} {L : Limits S σ μ} {init : σ → Prop}

/-- A run reaches what it ends in, if its labels are allowed wherever they come. -/
theorem Reach.run : ∀ {ls : List (Label S μ)} {c c' : Conf S ε σ μ α}, Reach program L init c →
    (∀ l ∈ ls, ∀ c : Conf S ε σ μ α, L.Allows c l) → Pool.run program c ls = some c' → Reach program L init c'
  | [], _, _, h, _, hr => by cases hr; exact h
  | l :: ls, c, c', h, hl, hr => by
    obtain ⟨c₁, hs, hr⟩ := Option.bind_eq_some_iff.1 hr
    exact Reach.run (.step h (hl l List.mem_cons_self c) hs) (fun l' hl' => hl l' (List.mem_cons_of_mem _ hl')) hr

/-! ## Invariants -/

/-- What a task for `m` may rely on: the others keep `J`, and it gets the answers of the limits. -/
def proto (L : Limits S σ μ) (J : σ → Prop) (m : μ) : Proto S σ where
  rely _ s' := J s'
  answer := L.answer m

/-- A task that keeps `J`, and whose outcome is as `Z` says. -/
abbrev Sound (L : Limits S σ μ) (J : σ → Prop) (Z : μ → Except ε α → Prop) (m : μ) (t : Res S ε σ α) : Prop :=
  t.Sat (proto L J m) J (fun a s => J s ∧ Z m (.ok a)) fun e s => J s ∧ Z m (.error e)

/-- A configuration whose tasks will keep `J`. -/
structure Holds (L : Limits S σ μ) (J : σ → Prop) (Z : μ → Except ε α → Prop) (c : Conf S ε σ μ α) : Prop where
  state : J c.state
  waiting : ∀ t ∈ c.waiting, ∀ s x, J s → L.answer t.call s t.req x → Sound L J Z t.call (t.rest x s)
  finished : ∀ p ∈ c.finished, Z p.1 p.2

/-- A task is done. -/
theorem Holds.finish {J : σ → Prop} {Z : μ → Except ε α → Prop} {c : Conf S ε σ μ α} (h : Holds L J Z c) {m : μ}
    {o : Except ε α} {s : σ} (hs : J s) (hz : Z m o) :
    Holds L J Z { c with state := s, finished := c.finished ++ [(m, o)] } := by
  refine ⟨hs, h.waiting, fun p hp => ?_⟩
  rcases List.mem_append.1 hp with hp | hp
  · exact h.finished p hp
  · rw [List.mem_singleton.1 hp]
    exact hz

theorem Holds.put {J : σ → Prop} {Z : μ → Except ε α → Prop} {c : Conf S ε σ μ α} (h : Holds L J Z c) {m : μ} :
    ∀ {t : Res S ε σ α}, Sound L J Z m t → Holds L J Z (c.put m t)
  | .ret _ _, ht => h.finish ht.1 ht.2
  | .raise _ _, ht => h.finish ht.1 ht.2
  | .await r s k, ht => by
    refine ⟨ht.1, fun t hmem s' x hs' hx => ?_, h.finished⟩
    rcases List.mem_append.1 hmem with hmem | hmem
    · exact h.waiting t hmem s' x hs' hx
    · obtain rfl := List.mem_singleton.1 hmem
      exact ht.2 s' x hs' hx

/-- **The invariant rule.** A program that is started where `J` holds keeps it at every suspension and at its end, as long
as the others do. -/
theorem Reach.rule {J : σ → Prop} {Z : μ → Except ε α → Prop} (h0 : ∀ s, init s → J s)
    (hp : ∀ m s, J s → L.start s m → Sound L J Z m (program m s)) {c : Conf S ε σ μ α} (h : Reach program L init c) :
    J c.state ∧ ∀ p ∈ c.finished, Z p.1 p.2 := by
  have hc : Holds L J Z c := by
    induction h with
    | init hs => exact ⟨h0 _ hs, by simp, by simp⟩
    | @step c c' l _ ha hs ih =>
      cases l with
      | start m =>
        cases hs
        exact ih.put (hp m _ ih.state ha)
      | resume i o =>
        obtain ⟨t, ht, rfl⟩ := Option.map_eq_some_iff.1 hs
        have hrest : Holds L J Z { c with waiting := c.waiting.eraseIdx i } :=
          ⟨ih.state, fun t' ht' => ih.waiting t' (List.mem_of_mem_eraseIdx ht'), ih.finished⟩
        exact hrest.put (ih.waiting t (List.mem_of_getElem? ht) _ _ ih.state (ha t ht))
  exact ⟨hc.state, hc.finished⟩

/-! ## Around a task -/

section Heeds

variable {Γ : Type} {A : σ → (r : S.Req) → S.Ans r → Prop} {J : S.Req → Γ → σ → Prop} {Q : α → Γ → σ → Prop}
  {X : ε → Γ → σ → Prop}

/-- A task with something around it: at its suspensions that is as `J` says, and when it goes on it is so again, whatever
has become of it by then. -/
def Heeds (A : σ → (r : S.Req) → S.Ans r → Prop) (J : S.Req → Γ → σ → Prop) (Q : α → Γ → σ → Prop)
    (X : ε → Γ → σ → Prop) : Res S ε σ α → Γ → Prop
  | .ret a s, γ => Q a γ s
  | .raise e s, γ => X e γ s
  | .await r s k, γ => J r γ s ∧ ∀ γ' s' x, J r γ' s' → A s' r x → Heeds A J Q X (k x s') γ'

namespace Heeds

/-- The rule of consequence. -/
theorem mono {Q' : α → Γ → σ → Prop} {X' : ε → Γ → σ → Prop} (hQ : ∀ a γ s, Q a γ s → Q' a γ s)
    (hX : ∀ e γ s, X e γ s → X' e γ s) :
    ∀ {t : Res S ε σ α} {γ : Γ}, Heeds A J Q X t γ → Heeds A J Q' X' t γ
  | .ret a s, γ, h => hQ a γ s h
  | .raise e s, γ, h => hX e γ s h
  | .await _ _ _, _, h => ⟨h.1, fun γ' s' x hj hx => (h.2 γ' s' x hj hx).mono hQ hX⟩

/-- The rule of sequencing. -/
theorem bind {β : Type} {Q' : β → Γ → σ → Prop} {f : α → Task S ε σ β}
    (hf : ∀ a γ s, Q a γ s → Heeds A J Q' X (f a s) γ) :
    ∀ {t : Res S ε σ α} {γ : Γ}, Heeds A J Q X t γ → Heeds A J Q' X (t.bind f) γ
  | .ret a s, γ, h => hf a γ s h
  | .raise _ _, _, h => h
  | .await _ _ _, _, h => ⟨h.1, fun γ' s' x hj hx => (h.2 γ' s' x hj hx).bind hf⟩

/-- The rule of `try … except`. -/
theorem tryExcept {X' : ε → Γ → σ → Prop} {c : ε → Bool} {h : ε → Task S ε σ α}
    (hc : ∀ e γ s, c e = true → X e γ s → Heeds A J Q X' (h e s) γ)
    (hn : ∀ e γ s, c e = false → X e γ s → X' e γ s) :
    ∀ {t : Res S ε σ α} {γ : Γ}, Heeds A J Q X t γ → Heeds A J Q X' (t.tryExcept c h) γ
  | .ret _ _, _, ht => ht
  | .raise e s, γ, ht => by
    rw [Res.tryExcept_raise]
    cases he : c e with
    | true => simpa using hc e γ s he ht
    | false =>
      simp only [Bool.false_eq_true, if_false]
      exact hn e γ s he ht
  | .await _ _ _, _, ht => ⟨ht.1, fun γ' s' x hj hx => (ht.2 γ' s' x hj hx).tryExcept hc hn⟩

/-- The rule of `try … finally`, for a final part that does not suspend. -/
theorem finallyDo {Q' : α → Γ → σ → Prop} {X' : ε → Γ → σ → Prop} {g : σ → σ}
    (hq : ∀ a γ s, Q a γ s → Q' a γ (g s)) (hx : ∀ e γ s, X e γ s → X' e γ (g s)) :
    ∀ {t : Res S ε σ α} {γ : Γ}, Heeds A J Q X t γ → Heeds A J Q' X' (t.finallyDo (Task.modify g)) γ
  | .ret a s, γ, h => hq a γ s h
  | .raise e s, γ, h => hx e γ s h
  | .await _ _ _, _, h => ⟨h.1, fun γ' s' x hj ha => (h.2 γ' s' x hj ha).finallyDo hq hx⟩

/-- The rule of requests. -/
theorem request_bind {β : Type} {Q' : β → Γ → σ → Prop} {r : S.Req} {f : S.Ans r → Task S ε σ β} {s : σ} {γ : Γ}
    (hj : J r γ s) (hf : ∀ γ' s' x, J r γ' s' → A s' r x → Heeds A J Q' X (f x s') γ') :
    Heeds A J Q' X ((Task.request r s).bind f) γ := ⟨hj, hf⟩

/-- What is around it may come with more, of which nothing is said. -/
theorem comap_iff {Δ : Type} {π : Δ → Γ} (hπ : Function.Surjective π) : ∀ {t : Res S ε σ α} {δ : Δ},
    Heeds A (fun r δ => J r (π δ)) (fun a δ => Q a (π δ)) (fun e δ => X e (π δ)) t δ ↔ Heeds A J Q X t (π δ)
  | .ret _ _, _ => Iff.rfl
  | .raise _ _, _ => Iff.rfl
  | .await _ _ _, _ => by
    refine and_congr Iff.rfl ?_
    rw [hπ.forall]
    exact forall_congr' fun _ => forall_congr' fun _ => forall_congr' fun _ => forall_congr' fun _ =>
      forall_congr' fun _ => comap_iff hπ

end Heeds

end Heeds

/-! ## What the tasks hold -/

variable {κ : Type}

/-- What the suspended tasks hold; one for `m` that waits for `r` holds `held m r`. -/
def Conf.holdings (held : μ → S.Req → Multiset κ) (c : Conf S ε σ μ α) : Multiset κ :=
  (c.waiting.map fun t => held t.call t.req).sum

section Heeding

variable {held : μ → S.Req → Multiset κ} {J : Multiset κ → List (μ × Except ε α) → σ → Prop} {m : μ}

/-- A task for `m`, of a pool in which the others hold `γ.1` and the calls of `γ.2` are done. -/
abbrev Heeding {β : Type} (L : Limits S σ μ) (held : μ → S.Req → Multiset κ)
    (J : Multiset κ → List (μ × Except ε α) → σ → Prop) (m : μ)
    (Q : β → Multiset κ × List (μ × Except ε α) → σ → Prop) (X : ε → Multiset κ × List (μ × Except ε α) → σ → Prop)
    (t : Res S ε σ β) (γ : Multiset κ × List (μ × Except ε α)) : Prop :=
  Heeds (L.answer m) (fun r γ => J (held m r + γ.1) γ.2) Q X t γ

/-- All of a call: with its end `J` holds of what is done then. -/
abbrev HeedsAll (L : Limits S σ μ) (held : μ → S.Req → Multiset κ)
    (J : Multiset κ → List (μ × Except ε α) → σ → Prop) (m : μ) (t : Res S ε σ α)
    (γ : Multiset κ × List (μ × Except ε α)) : Prop :=
  Heeding L held J m (fun a γ => J γ.1 (γ.2 ++ [(m, .ok a)])) (fun e γ => J γ.1 (γ.2 ++ [(m, .error e)])) t γ

/-- A configuration whose tasks will keep `J`. -/
structure Heeded (L : Limits S σ μ) (held : μ → S.Req → Multiset κ)
    (J : Multiset κ → List (μ × Except ε α) → σ → Prop) (c : Conf S ε σ μ α) : Prop where
  state : J (c.holdings held) c.finished c.state
  waiting : ∀ t ∈ c.waiting, ∀ γ s x, J (held t.call t.req + γ.1) γ.2 s → L.answer t.call s t.req x →
    HeedsAll L held J t.call (t.rest x s) γ

theorem Heeded.put {c : Conf S ε σ μ α} (hw : ∀ t ∈ c.waiting, ∀ γ s x, J (held t.call t.req + γ.1) γ.2 s →
      L.answer t.call s t.req x → HeedsAll L held J t.call (t.rest x s) γ) :
    ∀ {t : Res S ε σ α}, HeedsAll L held J m t (c.holdings held, c.finished) → Heeded L held J (c.put m t)
  | .ret _ _, ht => ⟨ht, hw⟩
  | .raise _ _, ht => ⟨ht, hw⟩
  | .await r s k, ht => by
    refine ⟨?_, fun t hmem => ?_⟩
    · have hsum : (c.put m (.await r s k)).holdings held = held m r + c.holdings held := by
        simp [Conf.holdings, Conf.put, add_comm]
      rw [hsum]
      exact ht.1
    · rcases List.mem_append.1 hmem with hmem | hmem
      · exact hw t hmem
      · obtain rfl := List.mem_singleton.1 hmem
        exact ht.2

/-- **The invariant rule, with what is held and what is done.** -/
theorem Reach.heeded (h0 : ∀ s, init s → J 0 [] s)
    (hp : ∀ m rest done s, J rest done s → L.start s m → HeedsAll L held J m (program m s) (rest, done))
    {c : Conf S ε σ μ α} (h : Reach program L init c) : Heeded L held J c := by
  induction h with
  | init hs => exact ⟨h0 _ hs, by simp⟩
  | @step c c' l _ ha hs ih =>
    cases l with
    | start m =>
      cases hs
      exact .put ih.waiting (hp m _ _ _ ih.state ha)
    | resume i o =>
      obtain ⟨t, ht, rfl⟩ := Option.map_eq_some_iff.1 hs
      obtain ⟨hi, rfl⟩ := List.getElem?_eq_some_iff.1 ht
      -- what it holds is part of what is held
      have hsum : c.holdings held = held c.waiting[i].call c.waiting[i].req +
          Conf.holdings held { c with waiting := c.waiting.eraseIdx i } := by
        have hperm := (List.getElem_cons_eraseIdx_perm hi).map fun t : Waiting S ε σ μ α => held t.call t.req
        exact hperm.sum_eq.symm
      have hj := ih.state
      rw [hsum] at hj
      refine .put (c := { c with waiting := c.waiting.eraseIdx i })
        (fun t' ht' => ih.waiting t' (List.mem_of_mem_eraseIdx ht')) ?_
      exact ih.waiting _ (List.getElem_mem hi) (_, _) _ _ hj (ha _ ht)

end Heeding

variable {held : μ → S.Req → Multiset κ} {J : Multiset κ → σ → Prop} {m : μ} {Q : α → Multiset κ → σ → Prop}
  {X : ε → Multiset κ → σ → Prop}

/-- A task for `m` where the others hold `rest`: at its suspensions it keeps `J` of the state and of what is held by all,
and when it goes on that holds again, with what it holds itself and whatever the others hold by then. -/
def Keeps (L : Limits S σ μ) (held : μ → S.Req → Multiset κ) (J : Multiset κ → σ → Prop) (m : μ)
    (Q : α → Multiset κ → σ → Prop) (X : ε → Multiset κ → σ → Prop) : Res S ε σ α → Multiset κ → Prop
  | .ret a s, rest => Q a rest s
  | .raise e s, rest => X e rest s
  | .await r s k, rest => J (held m r + rest) s ∧ ∀ rest' s' x, J (held m r + rest') s' → L.answer m s' r x →
      Keeps L held J m Q X (k x s') rest'

/-- What is around it is what the others hold. -/
theorem keeps_iff_heeds : ∀ {t : Res S ε σ α} {rest : Multiset κ}, Keeps L held J m Q X t rest ↔
    Heeds (L.answer m) (fun r rest => J (held m r + rest)) Q X t rest
  | .ret _ _, _ => Iff.rfl
  | .raise _ _, _ => Iff.rfl
  | .await _ _ _, _ => and_congr Iff.rfl <| forall_congr' fun _ => forall_congr' fun _ => forall_congr' fun _ =>
      forall_congr' fun _ => forall_congr' fun _ => keeps_iff_heeds

namespace Keeps

/-- The rule of sequencing. -/
theorem bind {β : Type} {Q' : β → Multiset κ → σ → Prop} {f : α → Task S ε σ β}
    (hf : ∀ a rest s, Q a rest s → Keeps L held J m Q' X (f a s) rest) {t : Res S ε σ α} {rest : Multiset κ}
    (ht : Keeps L held J m Q X t rest) : Keeps L held J m Q' X (t.bind f) rest :=
  keeps_iff_heeds.2 ((keeps_iff_heeds.1 ht).bind fun a rest s h => keeps_iff_heeds.1 (hf a rest s h))

/-- The rule of `try … except`. -/
theorem tryExcept {X' : ε → Multiset κ → σ → Prop} {c : ε → Bool} {h : ε → Task S ε σ α}
    (hc : ∀ e rest s, c e = true → X e rest s → Keeps L held J m Q X' (h e s) rest)
    (hn : ∀ e rest s, c e = false → X e rest s → X' e rest s) {t : Res S ε σ α} {rest : Multiset κ}
    (ht : Keeps L held J m Q X t rest) : Keeps L held J m Q X' (t.tryExcept c h) rest :=
  keeps_iff_heeds.2 <| (keeps_iff_heeds.1 ht).tryExcept (fun e rest s he hx => keeps_iff_heeds.1 (hc e rest s he hx)) hn

/-- The rule of `try … finally`, for a final part that does not suspend. -/
theorem finallyDo {Q' : α → Multiset κ → σ → Prop} {X' : ε → Multiset κ → σ → Prop} {g : σ → σ}
    (hq : ∀ a rest s, Q a rest s → Q' a rest (g s)) (hx : ∀ e rest s, X e rest s → X' e rest (g s)) {t : Res S ε σ α}
    {rest : Multiset κ} (ht : Keeps L held J m Q X t rest) :
    Keeps L held J m Q' X' (t.finallyDo (Task.modify g)) rest :=
  keeps_iff_heeds.2 ((keeps_iff_heeds.1 ht).finallyDo hq hx)

/-- The rule of requests. -/
theorem request_bind {β : Type} {Q' : β → Multiset κ → σ → Prop} {r : S.Req} {f : S.Ans r → Task S ε σ β} {s : σ}
    {rest : Multiset κ} (hj : J (held m r + rest) s)
    (hf : ∀ rest' s' x, J (held m r + rest') s' → L.answer m s' r x → Keeps L held J m Q' X (f x s') rest') :
    Keeps L held J m Q' X ((Task.request r s).bind f) rest := ⟨hj, hf⟩

end Keeps

/-- A configuration whose tasks will keep `J`. -/
structure Kept (L : Limits S σ μ) (held : μ → S.Req → Multiset κ) (J : Multiset κ → σ → Prop) (c : Conf S ε σ μ α) :
    Prop where
  state : J (c.holdings held) c.state
  waiting : ∀ t ∈ c.waiting, ∀ rest s x, J (held t.call t.req + rest) s → L.answer t.call s t.req x →
    Keeps L held J t.call (fun _ => J) (fun _ => J) (t.rest x s) rest

/-- All that can be reached is kept. -/
theorem Reach.kept (h0 : ∀ s, init s → J 0 s)
    (hp : ∀ m rest s, J rest s → L.start s m → Keeps L held J m (fun _ => J) (fun _ => J) (program m s) rest)
    {c : Conf S ε σ μ α} (h : Reach program L init c) : Kept L held J c := by
  have hfst : Function.Surjective (Prod.fst : Multiset κ × List (μ × Except ε α) → Multiset κ) :=
    fun rest => ⟨(rest, []), rfl⟩
  have hc : Heeded L held (fun rest _ => J rest) c := h.heeded h0 fun m rest done s hj hs =>
    (Heeds.comap_iff hfst).2 (keeps_iff_heeds.1 (hp m rest s hj hs))
  refine ⟨hc.state, fun t ht rest s x hj hx => keeps_iff_heeds.2 ?_⟩
  have hrest : HeedsAll L held (fun rest _ => J rest) t.call (t.rest x s) (rest, []) := hc.waiting t ht (rest, []) s x hj hx
  exact (Heeds.comap_iff (J := fun r rest => J (held t.call r + rest)) (Q := fun _ => J) (X := fun _ => J) hfst).1 hrest

/-- **The invariant rule, with what is held.** -/
theorem Reach.keeps (h0 : ∀ s, init s → J 0 s)
    (hp : ∀ m rest s, J rest s → L.start s m → Keeps L held J m (fun _ => J) (fun _ => J) (program m s) rest)
    {c : Conf S ε σ μ α} (h : Reach program L init c) : J (c.holdings held) c.state :=
  (h.kept h0 hp).state

end Pool

end Coop
