/-!
# Tasks that suspend

A cooperative task owns a shared state `σ` while it runs and gives it up only where it waits for an answer. `Res` is
what one uninterrupted stretch of a task comes to: a result, an exception, or a suspension that keeps the rest of the
task as a function of the answer and of the state at the time of the answer. `Task` is the state-passing monad over it.

* **Programs**: `bind`, the exception rules (`tryExcept`, `finallyDo`), loops (`forEach`, `loop`) and requests (`request`).
* **Runs**: `Runs P r o s` — some answers and some interference of others, both as the protocol `P` allows, take `r` to
  the outcome `o` in the state `s`; `exec` is the run under one function of answers and no interference. `Logged` keeps
  the calls of the run.
* **Rules**: `Sat P I Q X r` — whatever `P` allows, `I` holds at every suspension of `r`, `Q` at its results and `X` at
  its exceptions. It is closed under the program constructors (`Sat.bind`, `Sat.tryExcept`, `Sat.finallyDo`) and says
  what it should about runs (`Sat.runs`).
* **Relations**: `Keeps P R p` — whatever `P` allows, `p` leads to states that `R` relates to the one it started in.
* **Calls**: `Logs P L r` — whatever `P` allows, the calls, the outcome and the last state of `r` are as `L` says.
* **Requests**: `Requests P R r` — whatever `P` allows, every request is as `R` says.
-/

namespace Coop

/-- What the tasks of one kind wait for: requests, and the answers that each can get. -/
structure Sig where
  Req : Type
  Ans : Req → Type

/-- What an uninterrupted stretch of a task comes to. -/
inductive Res (S : Sig) (ε σ α : Type) : Type
  | ret (a : α) (s : σ)
  | raise (e : ε) (s : σ)
  | await (r : S.Req) (s : σ) (k : S.Ans r → σ → Res S ε σ α)

/-- A task, from the state in which it takes over. -/
def Task (S : Sig) (ε σ α : Type) : Type := σ → Res S ε σ α

variable {S : Sig} {ε σ α β : Type}

namespace Res

def bind : Res S ε σ α → (α → Task S ε σ β) → Res S ε σ β
  | .ret a s, f => f a s
  | .raise e s, _ => .raise e s
  | .await r s k, f => .await r s fun x s' => (k x s').bind f

/-- `try: … except …:` for the exceptions that `catches` selects. -/
def tryExcept (catches : ε → Bool) : Res S ε σ α → (ε → Task S ε σ α) → Res S ε σ α
  | .ret a s, _ => .ret a s
  | .raise e s, h => if catches e then h e s else .raise e s
  | .await r s k, h => .await r s fun x s' => (k x s').tryExcept catches h

/-- `try: … finally: …`: an exception of the final part replaces the outcome. -/
def finallyDo : Res S ε σ α → Task S ε σ Unit → Res S ε σ α
  | .ret a s, f => (f s).bind fun _ s' => .ret a s'
  | .raise e s, f => (f s).bind fun _ s' => .raise e s'
  | .await r s k, f => .await r s fun x s' => (k x s').finallyDo f

@[simp] theorem bind_ret (a : α) (s : σ) (f : α → Task S ε σ β) : (ret a s : Res S ε σ α).bind f = f a s := rfl

@[simp] theorem bind_raise (e : ε) (s : σ) (f : α → Task S ε σ β) :
    (raise e s : Res S ε σ α).bind f = .raise e s := rfl

@[simp] theorem bind_await (r : S.Req) (s : σ) (k : S.Ans r → σ → Res S ε σ α) (f : α → Task S ε σ β) :
    (await r s k).bind f = .await r s fun x s' => (k x s').bind f := rfl

@[simp] theorem tryExcept_ret (c : ε → Bool) (a : α) (s : σ) (h : ε → Task S ε σ α) :
    (ret a s).tryExcept c h = .ret a s := rfl

@[simp] theorem tryExcept_raise (c : ε → Bool) (e : ε) (s : σ) (h : ε → Task S ε σ α) :
    (raise e s).tryExcept c h = if c e then h e s else .raise e s := rfl

@[simp] theorem tryExcept_await (c : ε → Bool) (r : S.Req) (s : σ) (k : S.Ans r → σ → Res S ε σ α)
    (h : ε → Task S ε σ α) :
    (await r s k).tryExcept c h = .await r s fun x s' => (k x s').tryExcept c h := rfl

theorem bind_assoc {γ : Type} (f : α → Task S ε σ β) (g : β → Task S ε σ γ) :
    ∀ t : Res S ε σ α, (t.bind f).bind g = t.bind fun a s => (f a s).bind g
  | .ret _ _ => rfl
  | .raise _ _ => rfl
  | .await r s k => congrArg (Res.await r s) (funext fun x => funext fun s' => bind_assoc f g (k x s'))

theorem bind_pure : ∀ t : Res S ε σ α, t.bind .ret = t
  | .ret _ _ => rfl
  | .raise _ _ => rfl
  | .await r s k => congrArg (Res.await r s) (funext fun x => funext fun s' => bind_pure (k x s'))

end Res

namespace Task

instance : Monad (Task S ε σ) where
  pure a := fun s => .ret a s
  bind p f := fun s => (p s).bind f

def get : Task S ε σ σ := fun s => .ret s s

def modify (f : σ → σ) : Task S ε σ Unit := fun s => .ret () (f s)

def raise (e : ε) : Task S ε σ α := fun s => .raise e s

/-- Wait for the answer to `r`. -/
def request (r : S.Req) : Task S ε σ (S.Ans r) := fun s => .await r s fun x s' => .ret x s'

/-- An answer that is an exception is raised where the task waits. -/
def ofExcept : Except ε α → Task S ε σ α
  | .ok a => pure a
  | .error e => raise e

def tryExcept (catches : ε → Bool) (p : Task S ε σ α) (h : ε → Task S ε σ α) : Task S ε σ α :=
  fun s => (p s).tryExcept catches h

def finallyDo (p : Task S ε σ α) (f : Task S ε σ Unit) : Task S ε σ α := fun s => (p s).finallyDo f

/-- `for x in l: f(x)` -/
def forEach : List β → (β → Task S ε σ Unit) → Task S ε σ Unit
  | [], _ => pure ()
  | x :: l, f => f x >>= fun _ => forEach l f

/-- `while True: …`, where a round returns or goes on. The fuel bounds the rounds; without any left, `e` is raised. -/
def loop (e : ε) (body : Task S ε σ (Option α)) : Nat → Task S ε σ α
  | 0 => raise e
  | n + 1 => body >>= fun
    | some a => pure a
    | none => loop e body n

@[simp] theorem pure_apply (a : α) (s : σ) : (pure a : Task S ε σ α) s = .ret a s := rfl

@[simp] theorem bind_apply (p : Task S ε σ α) (f : α → Task S ε σ β) (s : σ) : (p >>= f) s = (p s).bind f := rfl

@[simp] theorem get_apply (s : σ) : (get : Task S ε σ σ) s = .ret s s := rfl

@[simp] theorem modify_apply (f : σ → σ) (s : σ) : (modify f : Task S ε σ Unit) s = .ret () (f s) := rfl

@[simp] theorem raise_apply (e : ε) (s : σ) : (raise e : Task S ε σ α) s = .raise e s := rfl

@[simp] theorem request_apply (r : S.Req) (s : σ) :
    (request r : Task S ε σ _) s = .await r s fun x s' => .ret x s' := rfl

@[simp] theorem ofExcept_ok (a : α) : (ofExcept (.ok a) : Task S ε σ α) = pure a := rfl

@[simp] theorem ofExcept_error (e : ε) : (ofExcept (.error e) : Task S ε σ α) = raise e := rfl

@[simp] theorem tryExcept_apply (c : ε → Bool) (p : Task S ε σ α) (h : ε → Task S ε σ α) (s : σ) :
    tryExcept c p h s = (p s).tryExcept c h := rfl

@[simp] theorem finallyDo_apply (p : Task S ε σ α) (f : Task S ε σ Unit) (s : σ) :
    finallyDo p f s = (p s).finallyDo f := rfl

/-- The laws of the monad; no instance, for they would change what `simp` makes of the programs. -/
theorem lawful : LawfulMonad (Task S ε σ) :=
  .mk' _ (fun p => funext fun s => (p s).bind_pure) (fun _ _ => rfl) fun p f g => funext fun s => Res.bind_assoc f g (p s)

end Task

/-! ## Runs -/

/-- What the others may do to the state of a suspended task, and which answers it may get. -/
structure Proto (S : Sig) (σ : Type) where
  rely : σ → σ → Prop
  answer : σ → (r : S.Req) → S.Ans r → Prop

/-- Some run of a task under a protocol. -/
inductive Runs (P : Proto S σ) : Res S ε σ α → Except ε α → σ → Prop
  | ret (a : α) (s : σ) : Runs P (.ret a s) (.ok a) s
  | raise (e : ε) (s : σ) : Runs P (.raise e s) (.error e) s
  | await {r : S.Req} {s s' : σ} {k : S.Ans r → σ → Res S ε σ α} {x : S.Ans r} {o : Except ε α} {s'' : σ} :
      P.rely s s' → P.answer s' r x → Runs P (k x s') o s'' → Runs P (.await r s k) o s''

/-- A run of a task and a run of what follows are a run of both. -/
theorem Runs.bind {P : Proto S σ} {f : α → Task S ε σ β} {t : Res S ε σ α} {a : α} {s s' : σ} {o : Except ε β}
    (h : Runs P t (.ok a) s) (h' : Runs P (f a s) o s') : Runs P (t.bind f) o s' := by
  generalize ho : (Except.ok a : Except ε α) = oa at h
  induction h with
  | ret b s => cases ho; exact h'
  | raise e s => cases ho
  | await hr ha _ ih => exact .await hr ha (ih h' ho)

/-- The run under a function of answers, nobody else touching the state. -/
def Res.exec (o : (r : S.Req) → S.Ans r) : Res S ε σ α → Except ε α × σ
  | .ret a s => (.ok a, s)
  | .raise e s => (.error e, s)
  | .await r s k => (k (o r) s).exec o

/-- What has a result is one. -/
theorem eq_ok_of_toOption {ε α : Type} {x : Except ε α} {a : α} (h : x.toOption = some a) : x = .ok a := by
  cases x with
  | ok b => cases h; rfl
  | error e => cases h

/-- `exec` is a run when the answers are allowed and standing still is. -/
theorem runs_exec {P : Proto S σ} {o : (r : S.Req) → S.Ans r} (hr : ∀ s, P.rely s s) (ho : ∀ s r, P.answer s r (o r)) :
    ∀ t : Res S ε σ α, Runs P t (t.exec o).1 (t.exec o).2
  | .ret a s => .ret a s
  | .raise e s => .raise e s
  | .await r s k => .await (hr s) (ho s r) (runs_exec hr ho (k (o r) s))

/-- The run under answers that may depend on the state, nobody else touching it. -/
def Res.execWith (o : σ → (r : S.Req) → S.Ans r) : Res S ε σ α → Except ε α × σ
  | .ret a s => (.ok a, s)
  | .raise e s => (.error e, s)
  | .await r s k => (k (o s r) s).execWith o

/-- `execWith` is a run when the answers are allowed and standing still is. -/
theorem runs_execWith {P : Proto S σ} {o : σ → (r : S.Req) → S.Ans r} (hr : ∀ s, P.rely s s)
    (ho : ∀ s r, P.answer s r (o s r)) : ∀ t : Res S ε σ α, Runs P t (t.execWith o).1 (t.execWith o).2
  | .ret a s => .ret a s
  | .raise e s => .raise e s
  | .await r s k => .await (hr s) (ho s r) (runs_execWith hr ho (k (o s r) s))

/-! ## Requests that do not suspend -/

/-- What it comes to, if it does so without suspending. -/
def Res.atOnce : Res S ε σ α → Option (Except ε α)
  | .ret a _ => some (.ok a)
  | .raise e _ => some (.error e)
  | .await _ _ _ => none

/-- A request that has its answer at once, by `f`, does not suspend. -/
def Res.inlined (f : (r : S.Req) → Option (S.Ans r)) : Res S ε σ α → Res S ε σ α
  | .ret a s => .ret a s
  | .raise e s => .raise e s
  | .await r s k =>
    match f r with
    | some x => (k x s).inlined f
    | none => .await r s fun x s' => (k x s').inlined f

theorem Res.inlined_some {f : (r : S.Req) → Option (S.Ans r)} {r : S.Req} {x : S.Ans r} (h : f r = some x) (s : σ)
    (k : S.Ans r → σ → Res S ε σ α) : (Res.await r s k).inlined f = (k x s).inlined f := by
  simp only [Res.inlined, h]

/-! ## Runs with their calls -/

/-- A request with the answer that it got. -/
abbrev Sig.Call (S : Sig) : Type := (r : S.Req) × S.Ans r

/-- Some run of a task under a protocol, with its calls in order. -/
inductive Logged (P : Proto S σ) : Res S ε σ α → List S.Call → Except ε α → σ → Prop
  | ret (a : α) (s : σ) : Logged P (.ret a s) [] (.ok a) s
  | raise (e : ε) (s : σ) : Logged P (.raise e s) [] (.error e) s
  | await {r : S.Req} {s s' : σ} {k : S.Ans r → σ → Res S ε σ α} {x : S.Ans r} {calls : List S.Call} {o : Except ε α}
      {s'' : σ} : P.rely s s' → P.answer s' r x → Logged P (k x s') calls o s'' →
      Logged P (.await r s k) (⟨r, x⟩ :: calls) o s''

/-- Calls or no calls, it is a run. -/
theorem Logged.runs {P : Proto S σ} {t : Res S ε σ α} {calls : List S.Call} {o : Except ε α} {s : σ}
    (h : Logged P t calls o s) : Runs P t o s := by
  induction h with
  | ret a s => exact .ret a s
  | raise e s => exact .raise e s
  | await hr ha _ ih => exact .await hr ha ih

/-- `execWith` with the calls. -/
def Res.execLogged (o : σ → (r : S.Req) → S.Ans r) : Res S ε σ α → List S.Call × Except ε α × σ
  | .ret a s => ([], .ok a, s)
  | .raise e s => ([], .error e, s)
  | .await r s k =>
    let rest := (k (o s r) s).execLogged o
    (⟨r, o s r⟩ :: rest.1, rest.2)

theorem logged_execLogged {P : Proto S σ} {o : σ → (r : S.Req) → S.Ans r} (hr : ∀ s, P.rely s s)
    (ho : ∀ s r, P.answer s r (o s r)) : ∀ t : Res S ε σ α,
      Logged P t (t.execLogged o).1 (t.execLogged o).2.1 (t.execLogged o).2.2
  | .ret a s => .ret a s
  | .raise e s => .raise e s
  | .await r s k => .await (hr s) (ho s r) (logged_execLogged hr ho (k (o s r) s))

/-- Its calls are answered as the function says. -/
theorem answer_of_execLogged {o : σ → (r : S.Req) → S.Ans r} : ∀ {t : Res S ε σ α} {r : S.Req} {x : S.Ans r},
    ⟨r, x⟩ ∈ (t.execLogged o).1 → ∃ s, x = o s r
  | .await r' s k, r, x, h => by
    rcases List.mem_cons.1 h with h | h
    · cases h
      exact ⟨s, rfl⟩
    · exact answer_of_execLogged h

/-! ## Rules -/

namespace Res

/-- It comes to an end without suspending. -/
def Sync : Res S ε σ α → Prop
  | .await _ _ _ => False
  | _ => True

@[simp] theorem sync_ret (a : α) (s : σ) : (ret a s : Res S ε σ α).Sync := trivial

@[simp] theorem sync_raise (e : ε) (s : σ) : (raise e s : Res S ε σ α).Sync := trivial

theorem Sync.bind {f : α → Task S ε σ β} : ∀ {t : Res S ε σ α}, t.Sync → (∀ a s, (f a s).Sync) → (t.bind f).Sync
  | .ret a s, _, hf => hf a s
  | .raise _ _, _, _ => trivial

/-- Under `P`, every suspension meets `I`, every result `Q` and every exception `X`. -/
def Sat (P : Proto S σ) (I : σ → Prop) (Q : α → σ → Prop) (X : ε → σ → Prop) : Res S ε σ α → Prop
  | .ret a s => Q a s
  | .raise e s => X e s
  | .await r s k => I s ∧ ∀ s' x, P.rely s s' → P.answer s' r x → (k x s').Sat P I Q X

variable {P : Proto S σ} {I : σ → Prop} {Q : α → σ → Prop} {X : ε → σ → Prop}

/-- A stretch that does not suspend has one run. -/
theorem Sync.runs {t : Res S ε σ α} {a : α} {s : σ} (h : t.Sync) (hr : Runs P t (.ok a) s) : t = .ret a s := by
  cases hr with
  | ret => rfl
  | await => exact h.elim

@[simp] theorem sat_ret {a : α} {s : σ} : (ret a s : Res S ε σ α).Sat P I Q X ↔ Q a s := Iff.rfl

@[simp] theorem sat_raise {e : ε} {s : σ} : (raise e s : Res S ε σ α).Sat P I Q X ↔ X e s := Iff.rfl

/-- A stretch that does not suspend meets what its outcome meets. -/
theorem Sat.of_sync : ∀ {t : Res S ε σ α}, t.Sync → (∀ a s, t = .ret a s → Q a s) →
    (∀ e s, t = .raise e s → X e s) → t.Sat P I Q X
  | .ret a s, _, hq, _ => hq a s rfl
  | .raise e s, _, _, hx => hx e s rfl

theorem sat_request_bind {r : S.Req} {f : S.Ans r → Task S ε σ α} {s : σ} :
    ((Task.request r s).bind f).Sat P I Q X ↔
      I s ∧ ∀ s' x, P.rely s s' → P.answer s' r x → (f x s').Sat P I Q X := Iff.rfl

/-- The rule of consequence. -/
theorem Sat.mono {I' : σ → Prop} {Q' : α → σ → Prop} {X' : ε → σ → Prop} (hI : ∀ s, I s → I' s)
    (hQ : ∀ a s, Q a s → Q' a s) (hX : ∀ e s, X e s → X' e s) :
    ∀ {t : Res S ε σ α}, t.Sat P I Q X → t.Sat P I' Q' X'
  | .ret a s, h => hQ a s h
  | .raise e s, h => hX e s h
  | .await _ s _, h => ⟨hI s h.1, fun s' x hr ha => (h.2 s' x hr ha).mono hI hQ hX⟩

/-- What says nothing is met. -/
theorem Sat.trivial : ∀ t : Res S ε σ α, t.Sat P (fun _ => True) (fun _ _ => True) (fun _ _ => True)
  | .ret _ _ => True.intro
  | .raise _ _ => True.intro
  | .await _ _ k => ⟨True.intro, fun s' x _ _ => Sat.trivial (k x s')⟩

/-- The rule of sequencing. -/
theorem Sat.bind {Q' : β → σ → Prop} {f : α → Task S ε σ β} (hf : ∀ a s, Q a s → (f a s).Sat P I Q' X) :
    ∀ {t : Res S ε σ α}, t.Sat P I Q X → (t.bind f).Sat P I Q' X
  | .ret a s, h => hf a s h
  | .raise _ _, h => h
  | .await _ _ _, h => ⟨h.1, fun s' x hr ha => (h.2 s' x hr ha).bind hf⟩

/-- The rule of `try … except`: the handler starts from what held at the exception. -/
theorem Sat.tryExcept {X' : ε → σ → Prop} {c : ε → Bool} {h : ε → Task S ε σ α}
    (hc : ∀ e s, c e = true → X e s → (h e s).Sat P I Q X') (hn : ∀ e s, c e = false → X e s → X' e s) :
    ∀ {t : Res S ε σ α}, t.Sat P I Q X → (t.tryExcept c h).Sat P I Q X'
  | .ret _ _, ht => ht
  | .raise e s, ht => by
    rw [tryExcept_raise]
    cases he : c e with
    | true => simpa using hc e s he ht
    | false => simpa using hn e s he ht
  | .await _ _ _, ht => ⟨ht.1, fun s' x hr ha => (ht.2 s' x hr ha).tryExcept hc hn⟩

/-- The rule of `try … finally`: the final part has to meet each postcondition from where the body met its own. -/
theorem Sat.finallyDo {Q' : α → σ → Prop} {X' : ε → σ → Prop} {f : Task S ε σ Unit}
    (hq : ∀ a s, Q a s → (f s).Sat P I (fun _ s' => Q' a s') X')
    (hx : ∀ e s, X e s → (f s).Sat P I (fun _ s' => X' e s') X') :
    ∀ {t : Res S ε σ α}, t.Sat P I Q X → (t.finallyDo f).Sat P I Q' X'
  | .ret a s, h => (hq a s h).bind fun _ _ h' => h'
  | .raise e s, h => (hx e s h).bind fun _ _ h' => h'
  | .await _ _ _, h => ⟨h.1, fun s' x hr ha => (h.2 s' x hr ha).finallyDo hq hx⟩

/-- The rule of loops, for an invariant that speaks of the rounds so far. -/
theorem Sat.forEach_past {J : List β → σ → Prop} {f : β → Task S ε σ Unit} : ∀ {l p : List β},
    (∀ before x after, l = before ++ x :: after → ∀ s, J (p ++ before) s →
      (f x s).Sat P I (fun _ => J (p ++ before ++ [x])) X) →
    ∀ {s : σ}, J p s → (Task.forEach l f s).Sat P I (fun _ => J (p ++ l)) X
  | [], p, _, s, hs => by
    rw [List.append_nil]
    exact hs
  | x :: l, p, h, s, hs => by
    have hx := h [] x l rfl s (by rwa [List.append_nil])
    rw [List.append_nil] at hx
    refine hx.bind fun _ s' hs' => ?_
    have hl := Sat.forEach_past (J := J) (f := f) (l := l) (p := p ++ [x]) (fun before y after hl s'' hs'' => ?_) hs'
    · rwa [List.append_assoc, List.singleton_append] at hl
    · have hy := h (x :: before) y after (by rw [hl]; rfl) s'' (by simpa using hs'')
      simpa using hy

/-- The rule of loops: what each round keeps, the loop keeps. -/
theorem Sat.forEach {J : σ → Prop} {f : β → Task S ε σ Unit} {l : List β}
    (h : ∀ x ∈ l, ∀ s, J s → (f x s).Sat P I (fun _ => J) X) {s : σ} (hs : J s) :
    (Task.forEach l f s).Sat P I (fun _ => J) X :=
  Sat.forEach_past (J := fun _ => J) (p := []) (fun _ x _ hl s hs => h x (by simp [hl]) s hs) hs

/-- The rule of `while True`: a round leads from the invariant to itself, with less fuel, or to the postcondition. -/
theorem Sat.loop {J : Nat → σ → Prop} {e : ε} {body : Task S ε σ (Option α)}
    (hb : ∀ n s, J (n + 1) s → (body s).Sat P I (fun a s' => a.elim (J n s') fun a => Q a s') X)
    (h0 : ∀ s, J 0 s → X e s) : ∀ (n : Nat) {s : σ}, J n s → (Task.loop e body n s).Sat P I Q X
  | 0, s, hs => h0 s hs
  | n + 1, s, hs => by
    refine (hb n s hs).bind fun a s' ha => ?_
    cases a with
    | none => exact Sat.loop hb h0 n ha
    | some a => exact ha

/-- The two postconditions as one, on outcomes. -/
def Post (Q : α → σ → Prop) (X : ε → σ → Prop) : Except ε α → σ → Prop
  | .ok a, s => Q a s
  | .error e, s => X e s

/-- What `Sat` says, it says of every run. -/
theorem Sat.runs {t : Res S ε σ α} {o : Except ε α} {s : σ} (h : t.Sat P I Q X) (hr : Runs P t o s) : Post Q X o s := by
  induction hr with
  | ret a s => exact h
  | raise e s => exact h
  | await hrel hans _ ih => exact ih (h.2 _ _ hrel hans)

/-- What holds at every end. -/
theorem Sat.ends {G : σ → Prop} {t : Res S ε σ α} {o : Except ε α} {s : σ} (h : t.Sat P I (fun _ => G) (fun _ => G))
    (hr : Runs P t o s) : G s := by
  have hpost := h.runs hr
  cases o with
  | ok a => exact hpost
  | error e => exact hpost

/-- What is known of every run may be used as a rule. -/
theorem Sat.of_runs : ∀ {t : Res S ε σ α}, (∀ o s, Runs P t o s → Post Q X o s) → t.Sat P (fun _ => True) Q X
  | .ret a s, h => h _ _ (.ret a s)
  | .raise e s, h => h _ _ (.raise e s)
  | .await _ _ _, h => ⟨True.intro, fun _ _ hr ha => Sat.of_runs fun o s hk => h o s (.await hr ha hk)⟩

end Res

/-! ### Relations -/

namespace Task

variable {P : Proto S σ} {R : σ → σ → Prop}

/-- Under `P`, a run leads to a state that `R` relates to the one in which it starts. -/
def Keeps (P : Proto S σ) (R : σ → σ → Prop) (p : Task S ε σ α) : Prop :=
  ∀ s, (p s).Sat P (fun _ => True) (fun _ => R s) (fun _ => R s)

theorem Keeps.runs {p : Task S ε σ α} {o : Except ε α} {s s' : σ} (h : Keeps P R p) (hr : Runs P (p s) o s') :
    R s s' := (h s).ends hr

theorem keeps_pure (hrefl : ∀ s, R s s) (a : α) : Keeps P R (pure a : Task S ε σ α) := hrefl

theorem keeps_raise (hrefl : ∀ s, R s s) (e : ε) : Keeps P R (raise e : Task S ε σ α) := hrefl

theorem keeps_ofExcept (hrefl : ∀ s, R s s) (x : Except ε α) : Keeps P R (ofExcept x : Task S ε σ α) := by
  cases x with
  | ok a => exact keeps_pure hrefl a
  | error e => exact keeps_raise hrefl e

theorem keeps_modify {f : σ → σ} (h : ∀ s, R s (f s)) : Keeps P R (modify f : Task S ε σ Unit) := h

/-- A wait keeps what its rely keeps, for every answer. -/
theorem keeps_request (h : ∀ s s', P.rely s s' → R s s') (r : S.Req) : Keeps P R (request r : Task S ε σ _) :=
  fun s => ⟨trivial, fun s' _ hr _ => h s s' hr⟩

section

variable (htrans : ∀ s s' s'', R s s' → R s' s'' → R s s'')

include htrans

/-- From a state on the way, the rest keeps the relation to the start. -/
theorem Keeps.after {p : Task S ε σ α} {s s' : σ} (h : Keeps P R p) (hs : R s s') :
    (p s').Sat P (fun _ => True) (fun _ => R s) (fun _ => R s) :=
  (h s').mono (fun _ => id) (fun _ s'' => htrans s s' s'' hs) fun _ s'' => htrans s s' s'' hs

theorem Keeps.bind {p : Task S ε σ α} {f : α → Task S ε σ β} (h : Keeps P R p) (hf : ∀ a, Keeps P R (f a)) :
    Keeps P R (p >>= f) := fun s => (h s).bind fun a _ hs => (hf a).after htrans hs

/-- A task that looks at the state first. -/
theorem Keeps.get_bind {f : σ → Task S ε σ β} (hrefl : ∀ s, R s s) (hf : ∀ s, Keeps P R (f s)) :
    Keeps P R (get >>= f) := Keeps.bind htrans (fun s => hrefl s) hf

theorem Keeps.tryExcept {c : ε → Bool} {p : Task S ε σ α} {h : ε → Task S ε σ α} (hp : Keeps P R p)
    (hh : ∀ e, Keeps P R (h e)) : Keeps P R (tryExcept c p h) :=
  fun s => (hp s).tryExcept (fun e _ _ hs => (hh e).after htrans hs) fun _ _ _ => id

theorem Keeps.loop (hrefl : ∀ s, R s s) {e : ε} {body : Task S ε σ (Option α)} (h : Keeps P R body) :
    ∀ n, Keeps P R (loop e body n)
  | 0 => keeps_raise hrefl e
  | n + 1 => Keeps.bind htrans h fun
    | some a => keeps_pure hrefl a
    | none => Keeps.loop hrefl h n

end

end Task

namespace Res

variable {P : Proto S σ}

/-! ### Calls -/

/-- Under `P`, every run has calls, an outcome and a last state as `L` says. -/
def Logs (P : Proto S σ) : Res S ε σ α → (List S.Call → Except ε α → σ → Prop) → Prop
  | .ret a s, L => L [] (.ok a) s
  | .raise e s, L => L [] (.error e) s
  | .await r s k, L => ∀ s' x, P.rely s s' → P.answer s' r x → (k x s').Logs P fun calls o t => L (⟨r, x⟩ :: calls) o t

theorem logs_request_bind {r : S.Req} {f : S.Ans r → Task S ε σ α} {s : σ}
    {L : List S.Call → Except ε α → σ → Prop} : ((Task.request r s).bind f).Logs P L ↔
      ∀ s' x, P.rely s s' → P.answer s' r x → (f x s').Logs P fun calls o t => L (⟨r, x⟩ :: calls) o t := Iff.rfl

theorem Logs.mono {L L' : List S.Call → Except ε α → σ → Prop} (hL : ∀ calls o s, L calls o s → L' calls o s) :
    ∀ {t : Res S ε σ α}, t.Logs P L → t.Logs P L'
  | .ret _ _, h => hL _ _ _ h
  | .raise _ _, h => hL _ _ _ h
  | .await _ _ _, h => fun s' x hr ha => (h s' x hr ha).mono fun _ _ _ => hL _ _ _

/-- The rule of sequencing: the calls of the second part come after those of the first. -/
theorem Logs.bind {M : List S.Call → Except ε α → σ → Prop} {L : List S.Call → Except ε β → σ → Prop}
    {f : α → Task S ε σ β} {t : Res S ε σ α} (h : t.Logs P M)
    (hok : ∀ calls a s, M calls (.ok a) s → (f a s).Logs P fun calls' => L (calls ++ calls'))
    (herr : ∀ calls e s, M calls (.error e) s → L calls (.error e) s) : (t.bind f).Logs P L := by
  induction t generalizing M L with
  | ret a s => exact hok [] a s h
  | raise e s => exact herr [] e s h
  | await r s k ih =>
    intro s' x hr ha
    exact ih x s' (h s' x hr ha) (fun calls => hok (⟨r, x⟩ :: calls)) fun calls => herr (⟨r, x⟩ :: calls)

/-- The rule of `try … except`. -/
theorem Logs.tryExcept {M L : List S.Call → Except ε α → σ → Prop} {c : ε → Bool} {handler : ε → Task S ε σ α}
    {t : Res S ε σ α} (h : t.Logs P M) (hok : ∀ calls a s, M calls (.ok a) s → L calls (.ok a) s)
    (hc : ∀ calls e s, c e = true → M calls (.error e) s → (handler e s).Logs P fun calls' => L (calls ++ calls'))
    (hn : ∀ calls e s, c e = false → M calls (.error e) s → L calls (.error e) s) :
    (t.tryExcept c handler).Logs P L := by
  induction t generalizing M L with
  | ret a s => exact hok [] a s h
  | raise e s =>
    rw [tryExcept_raise]
    cases he : c e with
    | true => simpa using hc [] e s he h
    | false =>
      simp only [Bool.false_eq_true, if_false]
      exact hn [] e s he h
  | await r s k ih =>
    intro s' x hr ha
    exact ih x s' (h s' x hr ha) (fun calls => hok (⟨r, x⟩ :: calls)) (fun calls => hc (⟨r, x⟩ :: calls))
      fun calls => hn (⟨r, x⟩ :: calls)

/-- The rule of `try … finally`, for a final part that does not suspend. -/
theorem Logs.finallyDo {L : List S.Call → Except ε α → σ → Prop} {g : σ → σ} {t : Res S ε σ α}
    (h : t.Logs P fun calls o s => L calls o (g s)) : (t.finallyDo (Task.modify g)).Logs P L := by
  induction t generalizing L with
  | ret a s => exact h
  | raise e s => exact h
  | await r s k ih => exact fun s' x hr ha => ih x s' (h s' x hr ha)

/-- What `Logs` says, it says of every run. -/
theorem Logs.logged {t : Res S ε σ α} {L : List S.Call → Except ε α → σ → Prop} {calls : List S.Call} {o : Except ε α}
    {s : σ} (h : t.Logs P L) (hl : Logged P t calls o s) : L calls o s := by
  induction hl generalizing L with
  | ret a s => exact h
  | raise e s => exact h
  | await hrel hans _ ih => exact ih (h _ _ hrel hans)

/-! ### Requests -/

/-- Under `P`, every request is as `R` says of it and of the state in which it is made. -/
def Requests (P : Proto S σ) (R : σ → S.Req → Prop) : Res S ε σ α → Prop
  | .ret _ _ => True
  | .raise _ _ => True
  | .await r s k => R s r ∧ ∀ s' x, P.rely s s' → P.answer s' r x → (k x s').Requests P R

variable {R : σ → S.Req → Prop}

theorem Sync.requests : ∀ {t : Res S ε σ α}, t.Sync → t.Requests P R
  | .ret _ _, _ => trivial
  | .raise _ _, _ => trivial

theorem requests_ofExcept {x : Except ε α} {s : σ} : (Task.ofExcept x s : Res S ε σ α).Requests P R := by
  cases x <;> trivial

theorem Requests.bind {f : α → Task S ε σ β} (hf : ∀ a s, (f a s).Requests P R) :
    ∀ {t : Res S ε σ α}, t.Requests P R → (t.bind f).Requests P R
  | .ret a s, _ => hf a s
  | .raise _ _, _ => trivial
  | .await _ _ _, h => ⟨h.1, fun s' x hr ha => (h.2 s' x hr ha).bind hf⟩

theorem Requests.request_bind {r : S.Req} {f : S.Ans r → Task S ε σ α} {s : σ} (hr : R s r)
    (hf : ∀ s' x, P.answer s' r x → (f x s').Requests P R) : ((Task.request r s).bind f).Requests P R :=
  ⟨hr, fun s' x _ ha => hf s' x ha⟩

theorem Requests.forEach {f : β → Task S ε σ Unit} (hf : ∀ x s, (f x s).Requests P R) :
    ∀ {l : List β} {s : σ}, (Task.forEach l f s).Requests P R
  | [], _ => trivial
  | x :: _, s => (hf x s).bind fun _ _ => Requests.forEach hf

end Res

end Coop
