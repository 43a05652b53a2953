import Mathlib.Data.List.Perm.Basic
import Mathlib.Order.Lattice

/-!
# Sorting with a comparison that can fail

A stable insertion sort over a comparison `lt : α → α → Except ε Bool`: a comparison that fails ends the sort. What is
known of any result is that it is a permutation of the input (`sorted_perm`); the sort succeeds as soon as no two
elements of the input are incomparable (`sorted_total`). Where it compares ranks, what is sorted is in their order, and
does not depend on the order of the input (`sorted_eq_of_perm`).
-/

namespace Coop

variable {ε α : Type} (lt : α → α → Except ε Bool)

/-- Insert `x` before the first element that is greater. -/
def insertBy (x : α) : List α → Except ε (List α)
  | [] => .ok [x]
  | y :: ys =>
    match lt x y with
    | .error e => .error e
    | .ok true => .ok (x :: y :: ys)
    | .ok false => (insertBy x ys).map (y :: ·)

def sortInto : List α → List α → Except ε (List α)
  | acc, [] => .ok acc
  | acc, x :: xs =>
    match insertBy lt x acc with
    | .error e => .error e
    | .ok acc' => sortInto acc' xs

/-- The elements in ascending order, equal ones in the order of the input. -/
def sorted (l : List α) : Except ε (List α) := sortInto lt [] l

variable {lt}

theorem insertBy_perm {x : α} : ∀ {l l' : List α}, insertBy lt x l = .ok l' → l'.Perm (x :: l)
  | [], l', h => by cases h; exact .refl _
  | y :: ys, l', h => by
    unfold insertBy at h
    cases hxy : lt x y with
    | error e => rw [hxy] at h; cases h
    | ok b =>
      rw [hxy] at h
      cases b with
      | true => cases h; exact .refl _
      | false =>
        dsimp only at h
        cases hi : insertBy lt x ys with
        | error e => rw [hi] at h; cases h
        | ok zs =>
          rw [hi] at h
          cases h
          exact ((insertBy_perm hi).cons y).trans (.swap x y ys)

theorem sortInto_perm : ∀ {l acc l' : List α}, sortInto lt acc l = .ok l' → l'.Perm (acc ++ l)
  | [], acc, l', h => by cases h; simp
  | x :: xs, acc, l', h => by
    unfold sortInto at h
    cases hi : insertBy lt x acc with
    | error e => rw [hi] at h; cases h
    | ok acc' =>
      rw [hi] at h
      calc l'.Perm (acc' ++ xs) := sortInto_perm h
        _ |>.Perm (x :: acc ++ xs) := (insertBy_perm hi).append_right xs
        _ |>.Perm (acc ++ x :: xs) := List.perm_middle.symm

/-- The result is a permutation of the input. -/
theorem sorted_perm {l l' : List α} (h : sorted lt l = .ok l') : l'.Perm l := sortInto_perm h

theorem insertBy_total {x : α} : ∀ {l : List α}, (∀ y ∈ l, ∃ b, lt x y = .ok b) → ∃ l', insertBy lt x l = .ok l'
  | [], _ => ⟨[x], rfl⟩
  | y :: ys, h => by
    obtain ⟨b, hb⟩ := h y List.mem_cons_self
    unfold insertBy
    rw [hb]
    cases b with
    | true => exact ⟨_, rfl⟩
    | false =>
      obtain ⟨zs, hz⟩ := insertBy_total fun z hz => h z (List.mem_cons_of_mem _ hz)
      exact ⟨y :: zs, by simp [hz, Except.map]⟩

theorem sortInto_total : ∀ {l acc : List α}, (∀ x ∈ acc ++ l, ∀ y ∈ acc ++ l, ∃ b, lt x y = .ok b) →
    ∃ l', sortInto lt acc l = .ok l'
  | [], acc, _ => ⟨acc, rfl⟩
  | x :: xs, acc, h => by
    have hi : ∃ acc', insertBy lt x acc = .ok acc' :=
      insertBy_total fun y hy => h x (by simp) y (List.mem_append_left _ hy)
    obtain ⟨acc', ha⟩ := hi
    have hp : (acc' ++ xs).Perm (acc ++ x :: xs) :=
      ((insertBy_perm ha).append_right xs).trans List.perm_middle.symm
    unfold sortInto
    rw [ha]
    exact sortInto_total fun y hy z hz => h y (hp.mem_iff.1 hy) z (hp.mem_iff.1 hz)

/-- Where every two elements can be compared, the sort succeeds. -/
theorem sorted_total {l : List α} (h : ∀ x ∈ l, ∀ y ∈ l, ∃ b, lt x y = .ok b) : ∃ l', sorted lt l = .ok l' := by
  unfold sorted
  exact sortInto_total h

/-! ## Sorting by a rank -/

section Rank

variable {K : Type} [LinearOrder K] {rank : α → K}

/-- On a list, the comparison is that of the ranks. -/
def Ranks (lt : α → α → Except ε Bool) (rank : α → K) (l : List α) : Prop :=
  ∀ x ∈ l, ∀ y ∈ l, lt x y = .ok (decide (rank x < rank y))

theorem insertBy_ascending {x : α} : ∀ {l l' : List α}, (∀ y ∈ l, lt x y = .ok (decide (rank x < rank y))) →
    l.Pairwise (rank · ≤ rank ·) → insertBy lt x l = .ok l' → l'.Pairwise (rank · ≤ rank ·)
  | [], l', _, _, h => by
    cases h
    exact List.pairwise_singleton ..
  | y :: ys, l', hlt, hl, h => by
    obtain ⟨hy, hys⟩ := List.pairwise_cons.1 hl
    unfold insertBy at h
    rw [hlt y List.mem_cons_self] at h
    by_cases hxy : rank x < rank y
    · rw [decide_eq_true hxy] at h
      cases h
      refine .cons (fun z hz => ?_) hl
      rcases List.mem_cons.1 hz with rfl | hz
      · exact le_of_lt hxy
      · exact le_trans (le_of_lt hxy) (hy z hz)
    · rw [decide_eq_false hxy] at h
      dsimp only at h
      cases hi : insertBy lt x ys with
      | error e =>
        rw [hi] at h
        cases h
      | ok zs =>
        rw [hi] at h
        cases h
        refine .cons (fun z hz => ?_) (insertBy_ascending (fun z hz => hlt z (List.mem_cons_of_mem _ hz)) hys hi)
        rcases List.mem_cons.1 ((insertBy_perm hi).mem_iff.1 hz) with rfl | hz
        · exact not_lt.1 hxy
        · exact hy z hz

theorem sortInto_ascending : ∀ {l acc l' : List α}, Ranks lt rank (acc ++ l) → acc.Pairwise (rank · ≤ rank ·) →
    sortInto lt acc l = .ok l' → l'.Pairwise (rank · ≤ rank ·)
  | [], acc, l', _, hacc, h => by
    cases h
    exact hacc
  | x :: xs, acc, l', hr, hacc, h => by
    unfold sortInto at h
    cases hi : insertBy lt x acc with
    | error e =>
      rw [hi] at h
      cases h
    | ok acc' =>
      rw [hi] at h
      have hp : (acc' ++ xs).Perm (acc ++ x :: xs) :=
        ((insertBy_perm hi).append_right xs).trans List.perm_middle.symm
      refine sortInto_ascending (fun y hy z hz => hr y (hp.mem_iff.1 hy) z (hp.mem_iff.1 hz)) ?_ h
      exact insertBy_ascending (fun y hy => hr x (by simp) y (List.mem_append_left _ hy)) hacc hi

/-- The result is in ascending order of the ranks. -/
theorem sorted_ascending {l l' : List α} (hr : Ranks lt rank l) (h : sorted lt l = .ok l') :
    l'.Pairwise (rank · ≤ rank ·) :=
  sortInto_ascending hr .nil h

/-- **What is sorted does not depend on the order of the input**, where no two elements have a rank. -/
theorem sorted_eq_of_perm {l l' : List α} (hr : Ranks lt rank l) (hp : l.Perm l')
    (hinj : ∀ x ∈ l, ∀ y ∈ l, rank x = rank y → x = y) : ∃ s, sorted lt l = .ok s ∧ sorted lt l' = .ok s := by
  have hr' : Ranks lt rank l' := fun x hx y hy => hr x (hp.mem_iff.2 hx) y (hp.mem_iff.2 hy)
  obtain ⟨s, hs⟩ := sorted_total fun x hx y hy => ⟨_, hr x hx y hy⟩
  obtain ⟨s', hs'⟩ := sorted_total fun x hx y hy => ⟨_, hr' x hx y hy⟩
  have hss' : s.Perm s' := ((sorted_perm hs).trans hp).trans (sorted_perm hs').symm
  have hmem : ∀ x ∈ s, x ∈ l := fun x hx => (sorted_perm hs).mem_iff.1 hx
  refine ⟨s, hs, ?_⟩
  rw [hs', hss'.eq_of_pairwise (fun x y hx hy hxy hyx => hinj x (hmem x hx) y (hmem y (hss'.mem_iff.2 hy))
    (le_antisymm hxy hyx)) (sorted_ascending hr hs) (sorted_ascending hr' hs')]

end Rank

end Coop
