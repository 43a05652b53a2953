import Mathlib.Data.Finset.Basic
import Mathlib.Logic.Function.Basic

/-!
# Attempts and their reports

Someone starts attempts on keys and keeps a register of the attempt that each key is at. Attempts end by themselves, or
after they were told to stop; reports on them wait in a queue, and a key is released when a report on it is handled.

* `Sound`: attempts are on the keys they were started for.
* `Reported`: an attempt in the register that ended or is about to has its report in the queue — so none is forgotten.
* `Attributed`: a report is on the attempt that its key is at, if at any — so none is handled for another attempt.
* `Manned`: an attempt that goes on is the one that its key is at.

Each operation keeps them, on the conditions that its lemmas name.
-/

namespace Coop

structure Register (κ : Type) where
  current : κ → Option Nat
  /-- the key of each attempt -/
  keys : List κ
  /-- the attempts told to stop before they ended -/
  stopped : Finset Nat
  ended : Finset Nat
  reports : List (κ × Nat)

namespace Register

variable {κ : Type} [DecidableEq κ] {r : Register κ} {k : κ} {t : Nat} {e : Option κ}

def start (r : Register κ) (k : κ) : Register κ :=
  { r with current := Function.update r.current k (some r.keys.length), keys := r.keys ++ [k] }

def release (r : Register κ) (k : κ) : Register κ := { r with current := Function.update r.current k none }

omit [DecidableEq κ] in
def stop (r : Register κ) (t : Nat) : Register κ :=
  { r with stopped := if t ∈ r.ended then r.stopped else insert t r.stopped }

omit [DecidableEq κ] in
def finish (r : Register κ) (t : Nat) : Register κ := { r with ended := insert t r.ended }

omit [DecidableEq κ] in
def report (r : Register κ) (k : κ) (t : Nat) : Register κ := { r with reports := r.reports ++ [(k, t)] }

/-- The report at the head of the queue is taken. -/
def take (r : Register κ) (rest : List (κ × Nat)) : Register κ := { r with reports := rest }

/-- An attempt that ended or was told to. -/
def Over (r : Register κ) (t : Nat) : Prop := t ∈ r.stopped ∨ t ∈ r.ended

structure Sound (r : Register κ) : Prop where
  current : ∀ {k t}, r.current k = some t → r.keys[t]? = some k
  range : ∀ {t}, r.Over t → t < r.keys.length
  reports : ∀ {k t}, (k, t) ∈ r.reports → r.keys[t]? = some k

/-- All that is over is reported, but for one key. -/
def Reported (r : Register κ) (e : Option κ) : Prop :=
  ∀ k t, e ≠ some k → r.current k = some t → r.Over t → (k, t) ∈ r.reports

/-- A report on an attempt that is over and has no successor. -/
def Due (r : Register κ) (k : κ) (t : Nat) : Prop := (r.current k = none ∨ r.current k = some t) ∧ r.Over t

def Attributed (r : Register κ) : Prop := ∀ k t, (k, t) ∈ r.reports → r.Due k t

def Manned (r : Register κ) : Prop := ∀ k t, r.keys[t]? = some k → ¬ r.Over t → r.current k = some t

/-! ## What is over -/

omit [DecidableEq κ]

theorem over_stop {u : Nat} (h : (r.stop t).Over u) : r.Over u ∨ u = t := by
  rcases h with h | h
  · change u ∈ ite _ _ _ at h
    split at h
    · exact .inl (.inl h)
    · rcases Finset.mem_insert.1 h with rfl | h
      · exact .inr rfl
      · exact .inl (.inl h)
  · exact .inl (.inr h)

theorem Over.stop {u : Nat} (h : r.Over u) (t : Nat) : (r.stop t).Over u := by
  rcases h with h | h
  · refine .inl ?_
    change u ∈ ite _ _ _
    split
    · exact h
    · exact Finset.mem_insert_of_mem h
  · exact .inr h

theorem over_stop_self (r : Register κ) (t : Nat) : (r.stop t).Over t := by
  by_cases h : t ∈ r.ended
  · exact .inr h
  · refine .inl ?_
    change t ∈ ite _ _ _
    rw [if_neg h]
    exact Finset.mem_insert_self ..

theorem over_finish {u : Nat} (h : (r.finish t).Over u) : r.Over u ∨ u = t := by
  rcases h with h | h
  · exact .inl (.inl h)
  · rcases Finset.mem_insert.1 h with rfl | h
    · exact .inr rfl
    · exact .inl (.inr h)

theorem Over.finish {u : Nat} (h : r.Over u) (t : Nat) : (r.finish t).Over u :=
  h.imp_right Finset.mem_insert_of_mem

theorem over_finish_self (r : Register κ) (t : Nat) : (r.finish t).Over t := .inr (Finset.mem_insert_self ..)

/-! ## The attempts are on their keys -/

theorem Sound.lt (h : r.Sound) (hk : r.current k = some t) : t < r.keys.length :=
  (List.getElem?_eq_some_iff.1 (h.current hk)).1

/-- An attempt is on one key only. -/
theorem Sound.inj (h : r.Sound) {k' : κ} (hk : r.current k = some t) (hk' : r.current k' = some t) : k = k' :=
  Option.some.inj ((h.current hk).symm.trans (h.current hk'))

theorem Sound.stop (h : r.Sound) (ht : t < r.keys.length) : (r.stop t).Sound :=
  ⟨h.current, fun hu => (over_stop hu).elim h.range fun hu => hu ▸ ht, h.reports⟩

theorem Sound.finish (h : r.Sound) (ht : t < r.keys.length) : (r.finish t).Sound :=
  ⟨h.current, fun hu => (over_finish hu).elim h.range fun hu => hu ▸ ht, h.reports⟩

theorem Sound.report (h : r.Sound) (hk : r.keys[t]? = some k) : (r.report k t).Sound := by
  refine ⟨h.current, h.range, fun {j u} hm => ?_⟩
  rcases List.mem_append.1 hm with hm | hm
  · exact h.reports hm
  · cases List.mem_singleton.1 hm
    exact hk

theorem Sound.take (h : r.Sound) {rest : List (κ × Nat)} (hr : ∀ p ∈ rest, p ∈ r.reports) : (r.take rest).Sound :=
  ⟨h.current, h.range, fun hm => h.reports (hr _ hm)⟩

variable [DecidableEq κ]

theorem current_start (r : Register κ) (k j : κ) :
    (r.start k).current j = if j = k then some r.keys.length else r.current j := Function.update_apply ..

theorem current_release (r : Register κ) (k j : κ) :
    (r.release k).current j = if j = k then none else r.current j := Function.update_apply ..

omit [DecidableEq κ] in
theorem getElem?_concat_of_some {l : List κ} {j : κ} {i : Nat} (h : l[i]? = some j) : (l ++ [k])[i]? = some j := by
  rw [List.getElem?_append_left (List.getElem?_eq_some_iff.1 h).1]
  exact h

theorem Sound.start (h : r.Sound) (k : κ) : (r.start k).Sound := by
  refine ⟨fun {j t} hj => ?_, fun hu => ?_, fun hm => getElem?_concat_of_some (h.reports hm)⟩
  · rw [current_start] at hj
    split at hj
    · rename_i hjk
      cases hj
      rw [hjk]
      exact List.getElem?_concat_length ..
    · exact getElem?_concat_of_some (h.current hj)
  · have hlt := h.range (t := _) hu
    change _ < (r.keys ++ [k]).length
    rw [List.length_append]
    omega

theorem Sound.release (h : r.Sound) (k : κ) : (r.release k).Sound := by
  refine ⟨fun {j t} hj => ?_, h.range, h.reports⟩
  rw [current_release] at hj
  split at hj
  · cases hj
  · exact h.current hj

/-! ## None is forgotten -/

omit [DecidableEq κ] in
/-- To stop an attempt that is reported on. -/
theorem Reported.stop (h : r.Reported e) (hr : ∀ k, e ≠ some k → r.current k = some t → (k, t) ∈ r.reports) :
    (r.stop t).Reported e := by
  intro k u he hk hu
  rcases over_stop hu with hu | rfl
  · exact h k u he hk hu
  · exact hr k he hk

omit [DecidableEq κ] in
/-- The end of an attempt that was told to stop. -/
theorem Reported.finish (h : r.Reported e) (ht : r.Over t) : (r.finish t).Reported e := by
  intro k u he hk hu
  rcases over_finish hu with hu | rfl
  · exact h k u he hk hu
  · exact h k u he hk ht

omit [DecidableEq κ] in
theorem Reported.mono {rest : List (κ × Nat)} (h : r.Reported e) (hr : ∀ p ∈ r.reports, p ∈ rest) :
    (r.take rest).Reported e := fun k u he hk hu => hr _ (h k u he hk hu)

omit [DecidableEq κ] in
/-- To stop an attempt and report on it. -/
theorem Reported.stop_report (h : r.Reported e) (hs : r.Sound) (hk : r.current k = some t) :
    ((r.stop t).report k t).Reported e := by
  intro j u he hj hu
  rcases over_stop hu with hu | rfl
  · exact List.mem_append_left _ (h j u he hj hu)
  · cases hs.inj hk hj
    exact List.mem_append_right _ List.mem_cons_self

omit [DecidableEq κ] in
/-- The end of an attempt that reports on itself. -/
theorem Reported.finish_report (h : r.Reported e) (hs : r.Sound) (hk : r.keys[t]? = some k) :
    ((r.finish t).report k t).Reported e := by
  intro j u he hj hu
  rcases over_finish (show (r.finish t).Over u from hu) with hu | rfl
  · exact List.mem_append_left _ (h j u he hj hu)
  · cases hk.symm.trans (hs.current hj)
    exact List.mem_append_right _ List.mem_cons_self

theorem Reported.start (h : r.Reported e) (hs : r.Sound) (k : κ) : (r.start k).Reported e := by
  intro j u he hj hu
  rw [current_start] at hj
  split at hj
  · cases hj
    exact absurd (hs.range (t := r.keys.length) hu) (lt_irrefl _)
  · exact h j u he hj hu

omit [DecidableEq κ] in
/-- With the report on a key taken, all other keys are accounted for; and all, once the key is released. -/
theorem Reported.taken {rest : List (κ × Nat)} (h : r.Reported none) (hr : r.reports = (k, t) :: rest) :
    (r.take rest).Reported (some k) := by
  intro j u he hj hu
  have hm := h j u (by simp) hj hu
  rw [hr] at hm
  rcases List.mem_cons.1 hm with heq | hm
  · cases heq
    exact absurd rfl he
  · exact hm

theorem Reported.release (h : r.Reported (some k)) : (r.release k).Reported none := by
  intro j u _ hj hu
  rw [current_release] at hj
  split at hj
  · cases hj
  · rename_i hne
    exact h j u (fun heq => hne (Option.some.inj heq).symm) hj hu

/-! ## None is taken for another -/

omit [DecidableEq κ] in
theorem Due.stop (h : r.Due k t) (u : Nat) : (r.stop u).Due k t := ⟨h.1, h.2.stop u⟩

omit [DecidableEq κ] in
theorem Due.finish (h : r.Due k t) (u : Nat) : (r.finish u).Due k t := ⟨h.1, h.2.finish u⟩

theorem Due.release (h : r.Due k t) (j : κ) : (r.release j).Due k t := by
  refine ⟨?_, h.2⟩
  rw [current_release]
  split
  · exact .inl rfl
  · exact h.1

theorem Due.start {j : κ} (h : r.Due k t) (hj : k ≠ j) : (r.start j).Due k t := by
  refine ⟨?_, h.2⟩
  rw [current_start, if_neg hj]
  exact h.1

omit [DecidableEq κ] in
theorem Attributed.report (h : r.Attributed) (hk : r.Due k t) : (r.report k t).Attributed := by
  intro j u hm
  rcases List.mem_append.1 hm with hm | hm
  · exact h j u hm
  · cases List.mem_singleton.1 hm
    exact hk

theorem Attributed.start {j : κ} (h : r.Attributed) (hj : ∀ t, (j, t) ∉ r.reports) : (r.start j).Attributed :=
  fun k t hm => (h k t hm).start fun hk => hj t (hk ▸ hm)

omit [DecidableEq κ] in
theorem Manned.stop (h : r.Manned) (t : Nat) : (r.stop t).Manned :=
  fun k u hk hu => h k u hk fun ho => hu (ho.stop t)

omit [DecidableEq κ] in
theorem Manned.finish (h : r.Manned) (t : Nat) : (r.finish t).Manned :=
  fun k u hk hu => h k u hk fun ho => hu (ho.finish t)

/-- A key is released when its attempt is over. -/
theorem Manned.release (h : r.Manned) (hk : r.Due k t) : (r.release k).Manned := by
  intro j u hj hu
  have hc := h j u hj hu
  rw [current_release]
  split
  · rename_i hjk
    rw [hjk] at hc
    rcases hk.1 with hn | hs
    · cases hn.symm.trans hc
    · cases hs.symm.trans hc
      exact absurd hk.2 hu
  · exact hc

/-- An attempt is started on a key that is at none. -/
theorem Manned.start (h : r.Manned) (hk : r.current k = none) : (r.start k).Manned := by
  intro j u hj hu
  rw [current_start]
  change (r.keys ++ [k])[u]? = some j at hj
  by_cases hlt : u < r.keys.length
  · rw [List.getElem?_append_left hlt] at hj
    have hc := h j u hj hu
    rw [if_neg fun hjk : j = k => by rw [hjk, hk] at hc; cases hc]
    exact hc
  · have hu' : u = r.keys.length := by
      have := (List.getElem?_eq_some_iff.1 hj).1
      rw [List.length_append, List.length_singleton] at this
      omega
    subst hu'
    rw [List.getElem?_concat_length] at hj
    rw [if_pos (Option.some.inj hj).symm]

end Register

end Coop
