import Mathlib.Data.Finset.Basic
import Mathlib.Data.List.Nodup

/-!
# Tenants and clearings

Tenants move into places and leave them; a place is cleared on account of a tenant that had it. A clearing is ordered,
begins at some time and is done at some later time.

`Safe` holds as long as clearings are ordered for vacant places only and once for each tenant, and nobody moves into a
place whose clearing is not done. Then no clearing goes on where there is a tenant (`Safe.vacant`).
-/

namespace Coop

/-- Tenants and clearings are known by number. -/
structure Tenancy (κ : Type) where
  places : List κ
  left : Finset Nat
  /-- the place of each clearing, and the tenant on whose account it was ordered -/
  clearings : List (κ × Nat)
  clearing : Finset Nat
  cleared : Finset Nat

namespace Tenancy

variable {κ : Type} {T : Tenancy κ} {k : κ} {t n : Nat}

def enter (T : Tenancy κ) (k : κ) : Tenancy κ := { T with places := T.places ++ [k] }

def leave (T : Tenancy κ) (t : Nat) : Tenancy κ := { T with left := insert t T.left }

def order (T : Tenancy κ) (k : κ) (t : Nat) : Tenancy κ := { T with clearings := T.clearings ++ [(k, t)] }

def start (T : Tenancy κ) (n : Nat) : Tenancy κ := { T with clearing := insert n T.clearing }

def finish (T : Tenancy κ) (n : Nat) : Tenancy κ :=
  { T with clearing := T.clearing.erase n, cleared := insert n T.cleared }

/-- Nobody is in the place. -/
def Vacant (T : Tenancy κ) (k : κ) : Prop := ∀ t : Nat, T.places[t]? = some k → t ∈ T.left

/-- Every clearing of the place is done. -/
def Clear (T : Tenancy κ) (k : κ) : Prop := ∀ (n t : Nat), T.clearings[n]? = some (k, t) → n ∈ T.cleared

/-- Nothing was cleared on account of the tenant. -/
def Uncharged (T : Tenancy κ) (t : Nat) : Prop := ∀ p ∈ T.clearings, p.2 ≠ t

structure Safe (T : Tenancy κ) : Prop where
  vacated : ∀ (n : Nat) (k : κ) (t : Nat), T.clearings[n]? = some (k, t) → n ∉ T.cleared → T.Vacant k
  once : (T.clearings.map Prod.snd).Nodup
  undone : ∀ n ∈ T.clearing, n ∉ T.cleared

/-- What is in a list that has grown was there before, or is new. -/
theorem getElem?_concat_or {α : Type} {l : List α} {a b : α} {i : Nat} (h : (l ++ [a])[i]? = some b) :
    l[i]? = some b ∨ b = a := by
  rw [List.getElem?_append] at h
  split at h
  · exact .inl h
  · rw [List.getElem?_singleton] at h
    split at h
    · exact .inr (Option.some.inj h).symm
    · cases h

theorem Safe.empty : (⟨[], ∅, [], ∅, ∅⟩ : Tenancy κ).Safe where
  vacated n k t h := by simp at h
  once := List.nodup_nil
  undone n h := absurd h (Finset.notMem_empty n)

/-- What is being cleared is vacant. -/
theorem Safe.vacant (h : T.Safe) (hn : n ∈ T.clearing) (hk : T.clearings[n]? = some (k, t)) : T.Vacant k :=
  h.vacated n k t hk (h.undone n hn)

theorem Safe.enter (h : T.Safe) (hk : T.Clear k) : (T.enter k).Safe where
  vacated n j t hn hc u hu := by
    change T.clearings[n]? = _ at hn
    change (T.places ++ [k])[u]? = _ at hu
    rcases getElem?_concat_or hu with hu | rfl
    · exact h.vacated n j t hn hc u hu
    · exact absurd (hk n t hn) hc
  once := h.once
  undone := h.undone

theorem Safe.leave (h : T.Safe) (t : Nat) : (T.leave t).Safe where
  vacated n k u hn hc v hv := Finset.mem_insert_of_mem (h.vacated n k u hn hc v hv)
  once := h.once
  undone := h.undone

theorem Safe.order (h : T.Safe) (hk : T.Vacant k) (ht : T.Uncharged t) : (T.order k t).Safe where
  vacated n j u hn hc := by
    change (T.clearings ++ [(k, t)])[n]? = _ at hn
    rcases getElem?_concat_or hn with hn | hn
    · exact h.vacated n j u hn hc
    · cases hn
      exact hk
  once := by
    change ((T.clearings ++ [(k, t)]).map Prod.snd).Nodup
    rw [List.map_append, List.nodup_append]
    refine ⟨h.once, List.nodup_singleton t, ?_⟩
    intro u hu v hv
    obtain ⟨p, hp, rfl⟩ := List.mem_map.1 hu
    rw [List.mem_singleton.1 hv]
    exact ht p hp
  undone := h.undone

theorem Safe.start (h : T.Safe) (hn : n ∉ T.cleared) : (T.start n).Safe where
  vacated := h.vacated
  once := h.once
  undone m hm := by
    rcases Finset.mem_insert.1 hm with rfl | hm
    · exact hn
    · exact h.undone m hm

theorem Safe.finish (h : T.Safe) (n : Nat) : (T.finish n).Safe where
  vacated m k t hm hc := h.vacated m k t hm fun hc' => hc (Finset.mem_insert_of_mem hc')
  once := h.once
  undone m hm hc := by
    obtain ⟨hne, hm⟩ := Finset.mem_erase.1 hm
    rcases Finset.mem_insert.1 hc with rfl | hc
    · exact hne rfl
    · exact h.undone m hm hc

end Tenancy

end Coop
