import Mathlib.Logic.Function.Basic

/-!
# Alarms

Keys wait for alarms. To set the alarm of a key stops the one that was set for it before; an alarm that is due rings, and
its ring waits in a queue until it is answered. An entry may be dropped without stopping its alarm.

`InStep` holds as long as alarms are set only where no ring waits, and entries are dropped only when their own ring is
answered: then every entry has its own alarm armed, or its own ring waiting and is due, and nothing else is armed. So a
ring that is answered is that of the entry it finds (`InStep.answer`).
-/

namespace Coop

structure Alarm (κ : Type) where
  id : Nat
  due : Int
  key : κ

@[ext] structure Alarms (κ : Type) where
  /-- the number and the date of the alarm that a key waits for -/
  entry : κ → Option (Nat × Int)
  armed : List (Alarm κ)
  rings : List (κ × Nat)
  now : Int
  /-- numbers from here on were not given yet -/
  next : Nat

namespace Alarms

variable {κ : Type} [DecidableEq κ] {A : Alarms κ} {k j : κ} {e : Option κ}

def cancel (A : Alarms κ) (k : κ) : Alarms κ :=
  { A with
    entry := Function.update A.entry k none
    armed := A.armed.filter fun a => (A.entry k).all fun p => p.1 ≠ a.id }

def drop (A : Alarms κ) (k : κ) : Alarms κ := { A with entry := Function.update A.entry k none }

def set (A : Alarms κ) (k : κ) (delay : Int) : Alarms κ :=
  { A.cancel k with
    entry := Function.update A.entry k (some (A.next, A.now + delay))
    armed := (A.cancel k).armed ++ [⟨A.next, A.now + delay, k⟩]
    next := A.next + 1 }

def ring (A : Alarms κ) (a : Alarm κ) : Alarms κ :=
  { A with armed := A.armed.filter fun b => b.id ≠ a.id, rings := A.rings ++ [(a.key, a.id)] }

/-- The ring at the head of the queue is taken. -/
def answer (A : Alarms κ) (rest : List (κ × Nat)) : Alarms κ := { A with rings := rest }

/-- Time passes, and numbers are given to others. -/
def wait (A : Alarms κ) (d n : Nat) : Alarms κ := { A with now := A.now + d, next := A.next + n }

def armedFor (A : Alarms κ) (k : κ) : List (Alarm κ) := A.armed.filter fun a => a.key = k

def ringsFor (A : Alarms κ) (k : κ) : List Nat := (A.rings.filter fun p => p.1 = k).map Prod.snd

/-- A key has no entry and no alarm; or the alarm of its entry; or the ring of its entry, which is due. -/
inductive Kept (A : Alarms κ) (k : κ) : Prop
  | free : A.entry k = none → A.armedFor k = [] → Kept A k
  | armed {h : Nat} {d : Int} : A.entry k = some (h, d) → A.armedFor k = [⟨h, d, k⟩] → A.ringsFor k = [] → Kept A k
  | rung {h : Nat} {d : Int} : A.entry k = some (h, d) → A.armedFor k = [] → A.ringsFor k = [h] → d ≤ A.now → Kept A k

/-- All keys are kept, but for one. -/
structure InStep (A : Alarms κ) (e : Option κ) : Prop where
  kept : ∀ k, e ≠ some k → A.Kept k
  fresh : ∀ {k h d}, A.entry k = some (h, d) → h < A.next
  inj : ∀ {k j h d d'}, A.entry k = some (h, d) → A.entry j = some (h, d') → k = j

/-! ## What is armed and what rings -/

omit [DecidableEq κ] in
theorem Kept.congr [DecidableEq κ] {A' : Alarms κ} (h : A.Kept k) (he : A'.entry k = A.entry k)
    (ha : A'.armedFor k = A.armedFor k) (hr : A'.ringsFor k = A.ringsFor k) (hn : A.now ≤ A'.now) : A'.Kept k := by
  cases h with
  | free h₁ h₂ => exact .free (he.trans h₁) (ha.trans h₂)
  | armed h₁ h₂ h₃ => exact .armed (he.trans h₁) (ha.trans h₂) (hr.trans h₃)
  | rung h₁ h₂ h₃ h₄ => exact .rung (he.trans h₁) (ha.trans h₂) (hr.trans h₃) (Int.le_trans h₄ hn)

/-- What is armed for a key is the alarm of its entry. -/
theorem Kept.of_armed {a : Alarm κ} (h : A.Kept a.key) (ha : a ∈ A.armed) :
    A.entry a.key = some (a.id, a.due) ∧ A.armedFor a.key = [a] ∧ A.ringsFor a.key = [] := by
  have hm : a ∈ A.armedFor a.key := List.mem_filter.2 ⟨ha, decide_eq_true rfl⟩
  cases h with
  | free _ hn => rw [hn] at hm; cases hm
  | armed he hs hr =>
    rw [hs] at hm ⊢
    have heq := List.mem_singleton.1 hm
    rw [he, heq]
    exact ⟨rfl, rfl, hr⟩
  | rung _ hn => rw [hn] at hm; cases hm

/-- What rings for an entry is its own alarm, when it is due. -/
theorem Kept.of_ring {h h' : Nat} {d : Int} (hk : A.Kept k) (hr : (k, h) ∈ A.rings) (he : A.entry k = some (h', d)) :
    h = h' ∧ A.armedFor k = [] ∧ A.ringsFor k = [h] ∧ d ≤ A.now := by
  have hm : h ∈ A.ringsFor k := List.mem_map.2 ⟨(k, h), List.mem_filter.2 ⟨hr, decide_eq_true rfl⟩, rfl⟩
  cases hk with
  | free hn => rw [hn] at he; cases he
  | armed _ _ hn => rw [hn] at hm; cases hm
  | rung he' ha hs hd =>
    rw [hs] at hm
    obtain rfl := List.mem_singleton.1 hm
    rw [he'] at he
    cases he
    exact ⟨rfl, ha, hs, hd⟩

theorem entry_cancel (A : Alarms κ) (k j : κ) : (A.cancel k).entry j = if j = k then none else A.entry j :=
  Function.update_apply ..

/-- What is armed for a key, after all alarms of one number are stopped. -/
theorem armedFor_filter (A : Alarms κ) (p : Alarm κ → Bool) (k : κ) :
    ({ A with armed := A.armed.filter p } : Alarms κ).armedFor k = (A.armedFor k).filter p := by
  simp only [armedFor, List.filter_filter, Bool.and_comm]

/-- Alarms of other numbers are not stopped. -/
theorem InStep.armedFor_filter_of_ne (h : A.InStep e) (hj : e ≠ some j) {n : Nat} {d : Int}
    (hk : A.entry k = some (n, d)) (hne : j ≠ k) (p : Alarm κ → Bool) (hp : ∀ a, a.id ≠ n → p a = true) :
    ({ A with armed := A.armed.filter p } : Alarms κ).armedFor j = A.armedFor j := by
  rw [armedFor_filter]
  refine List.filter_eq_self.2 fun a ha => hp a fun hid => hne ?_
  obtain ⟨harmed, hkey⟩ := List.mem_filter.1 ha
  have hkey : a.key = j := of_decide_eq_true hkey
  subst hkey
  have he := ((h.kept a.key hj).of_armed harmed).1
  rw [hid] at he
  exact h.inj he hk

/-! ## The operations -/

theorem InStep.cancel (h : A.InStep e) (k : κ) (hk : e ≠ some k) : (A.cancel k).InStep e := by
  refine ⟨fun j hj => ?_, fun {j n d} he => ?_, fun {j j' n d d'} he he' => ?_⟩
  · by_cases hjk : j = k
    · subst hjk
      refine .free (by rw [entry_cancel, if_pos rfl]) ?_
      change ({ A with armed := A.armed.filter _ } : Alarms κ).armedFor j = []
      rw [armedFor_filter]
      cases h.kept j hj with
      | free _ ha => rw [ha]; rfl
      | armed he ha => simp [he, ha]
      | rung _ ha => rw [ha]; rfl
    · refine (h.kept j hj).congr (by rw [entry_cancel, if_neg hjk]) ?_ rfl (Int.le_refl _)
      cases he : A.entry k with
      | none =>
        change ({ A with armed := A.armed.filter _ } : Alarms κ).armedFor j = _
        rw [armedFor_filter, he]
        simp
      | some p =>
        obtain ⟨n, d⟩ := p
        refine h.armedFor_filter_of_ne hj he hjk _ fun a ha => ?_
        rw [he]
        simpa using fun heq => ha heq.symm
  · rw [entry_cancel] at he
    split at he
    · cases he
    · exact h.fresh he
  · rw [entry_cancel] at he he'
    split at he
    · cases he
    · split at he'
      · cases he'
      · exact h.inj he he'

/-- An entry is dropped that has no alarm armed. -/
theorem InStep.drop (h : A.InStep (some k)) (ha : A.armedFor k = []) : (A.drop k).InStep none := by
  have hentry : ∀ j, (A.drop k).entry j = if j = k then none else A.entry j := fun j => Function.update_apply ..
  refine ⟨fun j _ => ?_, fun {j n d} he => ?_, fun {j j' n d d'} he he' => ?_⟩
  · by_cases hjk : j = k
    · subst hjk
      exact .free (by rw [hentry, if_pos rfl]) ha
    · exact (h.kept j (by simpa using fun heq => hjk heq.symm)).congr (by rw [hentry, if_neg hjk]) rfl rfl (Int.le_refl _)
  · rw [hentry] at he
    split at he
    · cases he
    · exact h.fresh he
  · rw [hentry] at he he'
    split at he
    · cases he
    · split at he'
      · cases he'
      · exact h.inj he he'

/-- An alarm is set where no ring waits. -/
theorem InStep.set (h : A.InStep none) (hr : A.ringsFor k = []) (delay : Int) : (A.set k delay).InStep none := by
  have hc := h.cancel k (by simp)
  have hentry : ∀ j, (A.set k delay).entry j = if j = k then some (A.next, A.now + delay) else A.entry j :=
    fun j => Function.update_apply ..
  have harmed : ∀ j, (A.set k delay).armedFor j =
      (A.cancel k).armedFor j ++ [⟨A.next, A.now + delay, k⟩].filter fun a : Alarm κ => a.key = j :=
    fun j => List.filter_append ..
  refine ⟨fun j _ => ?_, fun {j n d} he => ?_, fun {j j' n d d'} he he' => ?_⟩
  · by_cases hjk : j = k
    · subst hjk
      refine .armed (by rw [hentry, if_pos rfl]) ?_ hr
      rw [harmed]
      cases hc.kept j (by simp) with
      | free _ ha => rw [ha]; simp
      | armed he => rw [entry_cancel, if_pos rfl] at he; cases he
      | rung he => rw [entry_cancel, if_pos rfl] at he; cases he
    · refine (hc.kept j (by simp)).congr ?_ ?_ rfl (Int.le_refl _)
      · rw [hentry, if_neg hjk, entry_cancel, if_neg hjk]
      · rw [harmed]
        simpa using fun heq => hjk heq.symm
  · rw [hentry] at he
    change n < A.next + 1
    split at he
    · cases he
      exact Nat.lt_succ_self _
    · exact Nat.lt_succ_of_lt (h.fresh he)
  · rw [hentry] at he he'
    split at he
    · split at he'
      · rename_i hjk hjk'
        rw [hjk, hjk']
      · cases he
        exact absurd (h.fresh he') (Nat.lt_irrefl _)
    · split at he'
      · cases he'
        exact absurd (h.fresh he) (Nat.lt_irrefl _)
      · exact h.inj he he'

/-- An alarm rings that is due. -/
theorem InStep.ring {a : Alarm κ} (h : A.InStep none) (ha : a ∈ A.armed) (hd : a.due ≤ A.now) : (A.ring a).InStep none := by
  obtain ⟨hentry, harmed, hrings⟩ := (h.kept a.key (by simp)).of_armed ha
  refine ⟨fun j _ => ?_, h.fresh, h.inj⟩
  by_cases hj : j = a.key
  · subst hj
    refine .rung hentry ?_ ?_ hd
    · change ({ A with armed := A.armed.filter _ } : Alarms κ).armedFor _ = []
      rw [armedFor_filter, harmed]
      simp
    · change ((A.rings ++ [_]).filter _).map _ = _
      rw [List.filter_append, List.map_append, show (A.rings.filter _).map Prod.snd = [] from hrings]
      simp
  · refine (h.kept j (by simp)).congr rfl ?_ ?_ (Int.le_refl _)
    · exact h.armedFor_filter_of_ne (by simp) hentry hj _ fun b hb => decide_eq_true hb
    · change ((A.rings ++ [_]).filter _).map _ = _
      rw [List.filter_append, List.map_append]
      have hne : ¬ a.key = j := fun heq => hj heq.symm
      simp [hne, ringsFor]

theorem InStep.wait (h : A.InStep e) (d n : Nat) : (A.wait d n).InStep e :=
  ⟨fun k hk => (h.kept k hk).congr rfl rfl rfl (Int.le_add_of_nonneg_right (Int.natCast_nonneg d)),
    fun he => Nat.lt_add_right n (h.fresh he), h.inj⟩

/-- **A ring that is answered is that of the entry it finds**, which is due; and nothing else waits for the key. -/
theorem InStep.answer {n : Nat} {rest : List (κ × Nat)} (h : A.InStep none) (hr : A.rings = (k, n) :: rest) :
    (A.answer rest).InStep (some k) ∧ (A.answer rest).armedFor k = [] ∧
      ∀ n' d, A.entry k = some (n', d) → n = n' ∧ d ≤ A.now ∧ (A.answer rest).ringsFor k = [] := by
  have hmem : (k, n) ∈ A.rings := hr ▸ List.mem_cons_self
  refine ⟨⟨fun j hj => (h.kept j (by simp)).congr rfl rfl ?_ (Int.le_refl _), h.fresh, h.inj⟩, ?_, fun n' d he => ?_⟩
  · have hkj : ¬ k = j := fun heq => hj (by rw [heq])
    change (rest.filter _).map _ = (A.rings.filter _).map _
    rw [hr, List.filter_cons_of_neg (by simpa using hkj)]
  · change A.armedFor k = []
    cases h.kept k (by simp) with
    | free _ ha => exact ha
    | armed _ _ hn => simp [ringsFor, hr] at hn
    | rung _ ha => exact ha
  · obtain ⟨rfl, -, hs, hd⟩ := (h.kept k (by simp)).of_ring hmem he
    refine ⟨rfl, hd, ?_⟩
    rw [ringsFor, hr, List.filter_cons_of_pos (by simp), List.map_cons] at hs
    exact (List.cons.inj hs).2

end Alarms

end Coop
