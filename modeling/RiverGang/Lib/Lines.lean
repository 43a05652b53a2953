import Mathlib.Data.List.Basic

/-!
# Lines

A text is cut after each of its terminators, which stay at the ends of their lines (`cut`). Nothing is lost
(`flatten_cut`), all lines but the last are terminated (`ends_of_cut_eq`), and a cut at more terminators cuts each line
further (`cut_refine`). A line of the coarser cut ends in one last piece of the finer one (`exists_last_piece`), so what
is looked for among the pieces and has no terminator inside is looked for at the ends of the lines.
-/

namespace Lines

variable {α : Type} {p q : α → Bool}

/-- The lines of a text, with their terminators. -/
def cut (p : α → Bool) : List α → List (List α)
  | [] => []
  | c :: s =>
    if p c then [c] :: cut p s
    else
      match cut p s with
      | [] => [[c]]
      | l :: ls => (c :: l) :: ls

theorem flatten_cut (p : α → Bool) : ∀ s : List α, (cut p s).flatten = s
  | [] => rfl
  | c :: s => by
    have ih := flatten_cut p s
    unfold cut
    cases hc : p c with
    | true => simp [ih]
    | false =>
      cases hs : cut p s with
      | nil =>
        rw [hs] at ih
        simp [← ih]
      | cons l ls =>
        rw [hs] at ih
        simp [← ih]

theorem cut_eq_nil {s : List α} : cut p s = [] ↔ s = [] := by
  constructor
  · intro h
    rw [← flatten_cut p s, h, List.flatten_nil]
  · rintro rfl
    rfl

/-- The last letter is a terminator. -/
def Ends (p : α → Bool) (s : List α) : Prop := ∃ x c, s = x ++ [c] ∧ p c = true

theorem Ends.concat {x : List α} {c : α} (h : p c = true) : Ends p (x ++ [c]) := ⟨x, c, rfl, h⟩

/-- The end of a line. -/
theorem cut_append {l : List α} (h : Ends p l) (s : List α) : cut p (l ++ s) = cut p l ++ cut p s := by
  obtain ⟨x, c, rfl, hc⟩ := h
  induction x with
  | nil => simp [cut, hc]
  | cons d x ih =>
    rw [List.cons_append, List.cons_append, cut, cut, ih]
    cases hd : p d with
    | true => rfl
    | false =>
      cases hx : cut p (x ++ [c]) with
      | nil => simp [cut_eq_nil] at hx
      | cons l ls => rfl

theorem cut_append_of {l : List α} (h : l = [] ∨ Ends p l) (s : List α) : cut p (l ++ s) = cut p l ++ cut p s := by
  rcases h with rfl | h
  · rfl
  · exact cut_append h s

/-- No terminator but at the end: one line. -/
theorem cut_piece {t u : List α} (ht : ∀ c ∈ t, p c = false) (hu : u = [] ∨ ∃ c, u = [c]) (hne : t ++ u ≠ []) :
    cut p (t ++ u) = [t ++ u] := by
  induction t with
  | nil =>
    rcases hu with rfl | ⟨c, rfl⟩
    · exact absurd rfl hne
    · cases hc : p c <;> simp [cut, hc]
  | cons d t ih =>
    have hd : p d = false := ht d (by simp)
    rw [List.cons_append, cut]
    by_cases hnil : t ++ u = []
    · rw [hnil, hd]
      rfl
    · rw [ih (fun c hc => ht c (by simp [hc])) hnil, hd]
      rfl

/-- A text that ends in a terminator is cut into lines that do. -/
theorem ends_of_mem_cut : ∀ {s : List α}, s = [] ∨ Ends p s → ∀ l ∈ cut p s, Ends p l
  | [], _, l, hl => by simp [cut] at hl
  | c :: s, h, l, hl => by
    have hs : s = [] ∧ p c = true ∨ Ends p s := by
      obtain h | ⟨x, d, hx, hd⟩ := h
      · cases h
      · cases x with
        | nil =>
          cases hx
          exact .inl ⟨rfl, hd⟩
        | cons e x =>
          cases hx
          exact .inr (.concat hd)
    have ih := ends_of_mem_cut (s := s) (hs.imp And.left id)
    unfold cut at hl
    cases hc : p c with
    | true =>
      rw [hc, if_pos rfl, List.mem_cons] at hl
      rcases hl with rfl | hl
      · exact .concat (x := []) hc
      · exact ih l hl
    | false =>
      have hse : Ends p s := hs.resolve_left fun h => by simp [hc] at h
      rw [hc, if_neg (by simp)] at hl
      cases hcut : cut p s with
      | nil =>
        obtain ⟨x, d, rfl, -⟩ := hse
        simp [cut_eq_nil] at hcut
      | cons m ms =>
        rw [hcut] at hl ih
        rcases List.mem_cons.1 hl with rfl | hl
        · obtain ⟨x, d, rfl, hd⟩ := ih m (by simp)
          exact .concat (x := c :: x) hd
        · exact ih l (by simp [hl])

/-- A line that another one follows is terminated. -/
theorem ends_of_cut_eq : ∀ {s : List α} {a b : List (List α)} {l : List α}, cut p s = a ++ l :: b → b ≠ [] → Ends p l
  | [], a, b, l, h, _ => by simp [cut] at h
  | c :: s, a, b, l, h, hb => by
    unfold cut at h
    cases hc : p c with
    | true =>
      rw [hc, if_pos rfl] at h
      cases a with
      | nil =>
        cases h
        exact .concat (x := []) hc
      | cons m a =>
        rw [List.cons_append, List.cons.injEq] at h
        exact ends_of_cut_eq h.2 hb
    | false =>
      rw [hc, if_neg (by simp)] at h
      cases hcut : cut p s with
      | nil =>
        rw [hcut] at h
        cases a with
        | nil =>
          cases h
          exact absurd rfl hb
        | cons m a => simp at h
      | cons m ms =>
        rw [hcut] at h
        cases a with
        | nil =>
          cases h
          obtain ⟨x, d, rfl, hd⟩ := ends_of_cut_eq (a := []) hcut hb
          exact .concat (x := c :: x) hd
        | cons m' a =>
          rw [List.cons_append, List.cons.injEq] at h
          rw [h.2] at hcut
          exact ends_of_cut_eq (a := m :: a) hcut hb

/-- A line: not empty, and without terminators but at its end. -/
def Line (p : α → Bool) (l : List α) : Prop :=
  l ≠ [] ∧ ∃ t u, l = t ++ u ∧ (∀ c ∈ t, p c = false) ∧ (u = [] ∨ ∃ c, u = [c] ∧ p c = true)

theorem line_of_mem_cut : ∀ {s : List α}, ∀ l ∈ cut p s, Line p l
  | [], l, hl => by simp [cut] at hl
  | c :: s, l, hl => by
    have ih := @line_of_mem_cut s
    unfold cut at hl
    cases hc : p c with
    | true =>
      rw [hc, if_pos rfl] at hl
      rcases List.mem_cons.1 hl with rfl | hl
      · exact ⟨by simp, [], [c], rfl, by simp, .inr ⟨c, rfl, hc⟩⟩
      · exact ih l hl
    | false =>
      rw [hc, if_neg (by simp)] at hl
      cases hs : cut p s with
      | nil =>
        rw [hs, List.mem_singleton] at hl
        exact hl ▸ ⟨by simp, [c], [], rfl, by simpa using hc, .inl rfl⟩
      | cons m ms =>
        rw [hs] at hl ih
        rcases List.mem_cons.1 hl with rfl | hl
        · obtain ⟨-, t, u, rfl, ht, hu⟩ := ih m (by simp)
          refine ⟨by simp, c :: t, u, rfl, fun d hd => ?_, hu⟩
          rcases List.mem_cons.1 hd with rfl | hd
          · exact hc
          · exact ht d hd
        · exact ih l (by simp [hl])

theorem Line.cut {l : List α} (h : Line p l) : cut p l = [l] := by
  obtain ⟨hne, t, u, rfl, ht, hu⟩ := h
  exact cut_piece ht (hu.imp_right fun ⟨c, hc⟩ => ⟨c, hc.1⟩) hne

/-- Terminated lines in a row are cut as they are. -/
theorem cut_flatten : ∀ {ls : List (List α)}, (∀ l ∈ ls, Line p l ∧ Ends p l) → cut p ls.flatten = ls
  | [], _ => rfl
  | l :: ls, h => by
    have ih : cut p ls.flatten = ls := cut_flatten fun m hm => h m (by simp [hm])
    rw [List.flatten_cons, cut_append (h l (by simp)).2, (h l (by simp)).1.cut, ih]
    rfl

theorem ends_flatten {ls : List (List α)} (h : ∀ l ∈ ls, Ends p l) : ls.flatten = [] ∨ Ends p ls.flatten := by
  rcases List.eq_nil_or_concat ls with rfl | ⟨ms, l, rfl⟩
  · exact .inl rfl
  · obtain ⟨x, c, rfl, hc⟩ := h l (by simp)
    refine .inr ⟨ms.flatten ++ x, c, ?_, hc⟩
    simp

/-- More terminators cut each line further. -/
theorem cut_refine (h : ∀ c, q c = true → p c = true) : ∀ s : List α, cut p s = (cut q s).flatMap (cut p)
  | [] => rfl
  | c :: s => by
    have ih := cut_refine h s
    cases hq : q c with
    | true => simp [cut, hq, h c hq, ih]
    | false =>
      cases hs : cut q s with
      | nil => simp [cut, hq, cut_eq_nil.1 hs]
      | cons l ls =>
        have hmem : l ∈ cut q s := by simp [hs]
        have hl : cut p l ≠ [] := fun hnil => (line_of_mem_cut l hmem).1 (cut_eq_nil.1 hnil)
        rw [hs, List.flatMap_cons] at ih
        have hcut : cut q (c :: s) = (c :: l) :: ls := by simp [cut, hq, hs]
        rw [hcut, List.flatMap_cons, cut, cut, ih]
        cases hp : p c with
        | true => rfl
        | false =>
          cases hm : cut p l with
          | nil => exact absurd hm hl
          | cons m ms => rfl

/-- Up to its last terminator, and the rest. -/
theorem exists_last_piece (p : α → Bool) : ∀ s : List α, ∃ x t, s = x ++ t ∧ (x = [] ∨ Ends p x) ∧ ∀ c ∈ t, p c = false
  | [] => ⟨[], [], rfl, .inl rfl, by simp⟩
  | c :: s => by
    obtain ⟨x, t, rfl, hx, ht⟩ := exists_last_piece p s
    rcases hx with rfl | ⟨y, d, rfl, hd⟩
    · cases hc : p c with
      | true => exact ⟨[c], t, rfl, .inr (.concat (x := []) hc), ht⟩
      | false =>
        refine ⟨[], c :: t, rfl, .inl rfl, fun d hd => ?_⟩
        rcases List.mem_cons.1 hd with rfl | hd
        · exact hc
        · exact ht d hd
    · exact ⟨c :: (y ++ [d]), t, rfl, .inr (.concat (x := c :: y) hd), ht⟩

theorem last_piece_le {x t a : List α} (hx : x ++ a = [] ∨ Ends p (x ++ a)) (ht : ∀ c ∈ a ++ t, p c = false) :
    a = [] := by
  rcases List.eq_nil_or_concat a with ha | ⟨b, c, rfl⟩
  · exact ha
  · obtain hx | ⟨y, d, hy, hd⟩ := hx
    · simp at hx
    · rw [List.concat_eq_append, ← List.append_assoc] at hy
      obtain ⟨-, hcd⟩ := List.append_inj' hy rfl
      cases hcd
      rw [ht c (by simp)] at hd
      cases hd

/-- There is one such last piece. -/
theorem last_piece_unique {x t y s : List α} (hx : x = [] ∨ Ends p x) (hy : y = [] ∨ Ends p y)
    (ht : ∀ c ∈ t, p c = false) (hs : ∀ c ∈ s, p c = false) (h : x ++ t = y ++ s) : x = y ∧ t = s := by
  obtain ⟨a, rfl, rfl⟩ | ⟨a, rfl, rfl⟩ := List.append_eq_append_iff.1 h
  · obtain rfl := last_piece_le hy ht
    simp
  · obtain rfl := last_piece_le hx hs
    simp

end Lines
