import Mathlib.Algebra.BigOperators.Group.Finset.Piecewise
import Mathlib.Algebra.Order.Group.Int

/-!
# Meters

Many meters are read in any order. The log has each reading with its meter; a meter that was not read stands at zero
(`last`). Where no meter goes back (`Cumulative`), a reading adds to the sum over the meters what it exceeds the last
reading of its meter by (`sum_last_concat`), so that a total of these excesses is the sum of the last readings.
-/

namespace Meter

variable {τ : Type} [DecidableEq τ] {l : List (τ × Int)} {t : τ} {n : Int}

/-- The readings of one meter, in order. -/
def readings (l : List (τ × Int)) (t : τ) : List Int := (l.filter fun p => p.1 = t).map Prod.snd

def last (l : List (τ × Int)) (t : τ) : Int := (readings l t).getLast?.getD 0

/-- No meter goes back, nor below zero. -/
def Cumulative (l : List (τ × Int)) : Prop := ∀ t, (0 :: readings l t).Pairwise (· ≤ ·)

theorem readings_concat_self (l : List (τ × Int)) (t : τ) (n : Int) :
    readings (l ++ [(t, n)]) t = readings l t ++ [n] := by
  simp [readings]

theorem readings_concat_of_ne {u : τ} (h : t ≠ u) : readings (l ++ [(t, n)]) u = readings l u := by
  simp [readings, h]

@[simp] theorem last_nil (t : τ) : last ([] : List (τ × Int)) t = 0 := rfl

/-- A meter that is not in the log. -/
theorem last_of_not_mem (h : ∀ p ∈ l, p.1 ≠ t) : last l t = 0 := by
  have hnone : readings l t = [] := by
    simpa [readings] using fun u n hn => h (u, n) hn
  rw [last, hnone]
  rfl

/-- A reading changes the last reading of its meter, and of no other. -/
theorem last_concat (l : List (τ × Int)) (t : τ) (n : Int) : last (l ++ [(t, n)]) = Function.update (last l) t n := by
  funext u
  by_cases h : t = u
  · subst h
    rw [Function.update_self, last, readings_concat_self, List.getLast?_concat]
    rfl
  · rw [Function.update_of_ne (Ne.symm h), last, readings_concat_of_ne h]
    rfl

theorem Cumulative.of_concat (h : Cumulative (l ++ [(t, n)])) : Cumulative l := by
  intro u
  have hu := h u
  by_cases htu : t = u
  · subst htu
    rw [readings_concat_self, ← List.cons_append] at hu
    exact (List.pairwise_append.1 hu).1
  · rwa [readings_concat_of_ne htu] at hu

/-- The next reading of a meter is not less than the last. -/
theorem Cumulative.last_le (h : Cumulative (l ++ [(t, n)])) : last l t ≤ n := by
  have ht := h t
  rw [readings_concat_self, ← List.cons_append] at ht
  have hle := (List.pairwise_append.1 ht).2.2
  rw [last]
  cases hlast : (readings l t).getLast? with
  | none => exact hle 0 List.mem_cons_self n (List.mem_singleton_self n)
  | some m => exact hle m (List.mem_cons_of_mem _ (List.mem_of_getLast? hlast)) n (List.mem_singleton_self n)

/-- A reading adds to the sum what it adds to its meter. -/
theorem sum_last_concat {s : Finset τ} (h : t ∈ s) :
    ∑ u ∈ s, last (l ++ [(t, n)]) u = ∑ u ∈ s, last l u + (n - last l t) := by
  have hold := Finset.sum_eq_add_sum_sdiff_singleton_of_mem h (last l)
  rw [last_concat, Finset.sum_update_of_mem h, hold]
  omega

end Meter
