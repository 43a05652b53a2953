import Mathlib.Data.List.Basic

/-!
# Bounded buffers

A buffer that keeps the last `n` of what is appended to it (`window`), and what it has dropped (`dropped`). A count over
the buffer is the count over all as long as nothing that counts is dropped (`countP_window_iff`).
-/

namespace Window

variable {α : Type} {p : α → Bool} {n : Nat} {l l' : List α}

/-- The last `n`. -/
def window (n : Nat) (l : List α) : List α := l.drop (l.length - n)

/-- All but the last `n`. -/
def dropped (n : Nat) (l : List α) : List α := l.take (l.length - n)

theorem dropped_append_window (n : Nat) (l : List α) : dropped n l ++ window n l = l := List.take_append_drop ..

theorem window_nil (n : Nat) : window n ([] : List α) = [] := by simp [window]

theorem length_window (n : Nat) (l : List α) : (window n l).length = min n l.length := by
  rw [window, List.length_drop]
  omega

/-- What a full buffer drops for a new element. -/
theorem window_concat (hn : 0 < n) (l : List α) (x : α) :
    window n (l ++ [x]) = (window n l ++ [x]).drop ((window n l).length + 1 - n) := by
  have hsub : l.length + 1 - n = (l.length - n) + ((window n l).length + 1 - n) := by
    rw [length_window]
    omega
  have hle : l.length - n ≤ l.length := by omega
  rw [window, List.length_append, List.length_singleton, hsub, ← List.drop_drop, List.drop_append_of_le_length hle]
  rfl

theorem countP_window_add (p : α → Bool) (n : Nat) (l : List α) :
    (dropped n l).countP p + (window n l).countP p = l.countP p := by
  rw [← List.countP_append, dropped_append_window]

/-- Nothing that counts is dropped. -/
theorem countP_window_iff : (window n l).countP p = l.countP p ↔ ∀ x ∈ dropped n l, p x = false := by
  have hadd := countP_window_add p n l
  have hzero : (window n l).countP p = l.countP p ↔ (dropped n l).countP p = 0 := by omega
  rw [hzero, List.countP_eq_zero]
  exact forall₂_congr fun x _ => Bool.not_eq_true _ ▸ Iff.rfl

/-- What is dropped stays dropped. -/
theorem dropped_mono (h : l <+: l') : dropped n l <+: dropped n l' := by
  obtain ⟨t, rfl⟩ := h
  have hle : l.length - n ≤ (l ++ t).length - n := by
    rw [List.length_append]
    omega
  have htake : dropped n l = (l ++ t).take (l.length - n) := by
    rw [dropped, List.take_append_of_le_length (Nat.sub_le ..)]
  rw [htake]
  exact List.take_prefix_take_left hle

/-- As long as nothing that counts is dropped, the count does not fall. -/
theorem countP_window_mono (h : l <+: l') (hd : ∀ x ∈ dropped n l', p x = false) :
    (window n l).countP p ≤ (window n l').countP p := by
  have hl := (countP_window_iff (p := p)).2 fun x hx => hd x ((dropped_mono (n := n) h).subset hx)
  rw [hl, countP_window_iff.2 hd]
  exact h.sublist.countP_le

end Window
