import Mathlib.Data.List.Basic

/-!
# Loops over pages

A client asks for one page after the other, each by the cursor that the page before it gave, and collects their items.

* `play`: what the loop does against given answers: its requests, and its outcome if it comes to one.
* `play_cases`: whatever the answers are, it has read some pages in order and then waits for the next answer, fails at a
  page that it cannot read, or returns all items at a last page.
* `stops_iff`: against a server whose answers may depend on all requests so far, it comes to an outcome exactly if some
  answer on its way is the last page or one that it cannot read.
-/

/-- The request for the page at a cursor, and what an answer comes to: an error, or the items of a page and the cursor of
the next, if there is one. -/
structure Pager (Q A ε ν κ : Type) where
  request : Option κ → Q
  page : A → Except ε (List ν × Option κ)

namespace Pager

variable {Q A ε ν κ : Type} (P : Pager Q A ε ν κ)

/-- The loop against given answers; without an outcome it waits for one more. -/
def play (results : List ν) (cursor : Option κ) : List A → List Q × Option (Except ε (List ν))
  | [] => ([P.request cursor], none)
  | answer :: answers =>
    match P.page answer with
    | .error e => ([P.request cursor], some (.error e))
    | .ok (items, none) => ([P.request cursor], some (.ok (results ++ items)))
    | .ok (items, some next) =>
      let rest := play (results ++ items) (some next) answers
      (P.request cursor :: rest.1, rest.2)

/-- Answers that are pages with a next one: their items and its cursor. -/
def Pages (turns : List (A × List ν × κ)) : Prop := ∀ t ∈ turns, P.page t.1 = .ok (t.2.1, some t.2.2)

/-- The request for a page and those for the pages after it. -/
def requests (cursor : Option κ) (turns : List (A × List ν × κ)) : List Q :=
  P.request cursor :: turns.map fun t => P.request (some t.2.2)

def items (turns : List (A × List ν × κ)) : List ν := turns.flatMap fun t => t.2.1

variable {P} {results : List ν} {cursor : Option κ}

theorem Pages.cons {t : A × List ν × κ} {turns : List (A × List ν × κ)} (ht : P.page t.1 = .ok (t.2.1, some t.2.2))
    (h : P.Pages turns) : P.Pages (t :: turns) := List.forall_mem_cons.2 ⟨ht, h⟩

/-- **What a run of the loop is**: pages with a next one, read in order, and then the end of the answers, an answer that
is no page, or a last page. -/
theorem play_cases : ∀ (script : List A) (results : List ν) (cursor : Option κ), ∃ turns, P.Pages turns ∧
    ((script = turns.map Prod.fst ∧ P.play results cursor script = (P.requests cursor turns, none)) ∨
    (∃ last rest e, script = turns.map Prod.fst ++ last :: rest ∧ P.page last = .error e ∧
      P.play results cursor script = (P.requests cursor turns, some (.error e))) ∨
    ∃ last rest final, script = turns.map Prod.fst ++ last :: rest ∧ P.page last = .ok (final, none) ∧
      P.play results cursor script = (P.requests cursor turns, some (.ok (results ++ items turns ++ final))))
  | [], results, cursor => ⟨[], by simp [Pages], .inl ⟨rfl, rfl⟩⟩
  | answer :: script, results, cursor => by
    cases hp : P.page answer with
    | error e => exact ⟨[], by simp [Pages], .inr (.inl ⟨answer, script, e, rfl, hp, by simp [play, hp, requests]⟩)⟩
    | ok page =>
      obtain ⟨new, next⟩ := page
      cases next with
      | none =>
        exact ⟨[], by simp [Pages], .inr (.inr ⟨answer, script, new, rfl, hp, by simp [play, hp, requests, items]⟩)⟩
      | some next =>
        have hplay : P.play results cursor (answer :: script) =
            (P.request cursor :: (P.play (results ++ new) (some next) script).1,
              (P.play (results ++ new) (some next) script).2) := by simp [play, hp]
        obtain ⟨turns, hturns, h⟩ := play_cases script (results ++ new) (some next)
        refine ⟨(answer, new, next) :: turns, .cons hp hturns, ?_⟩
        rcases h with ⟨rfl, h⟩ | ⟨last, rest, e, rfl, hl, h⟩ | ⟨last, rest, final, rfl, hl, h⟩
        · exact .inl ⟨rfl, by rw [hplay, h]; rfl⟩
        · exact .inr (.inl ⟨last, rest, e, rfl, hl, by rw [hplay, h]; rfl⟩)
        · exact .inr (.inr ⟨last, rest, final, rfl, hl, by rw [hplay, h]; simp [requests, items]⟩)

/-- It waits for more exactly if every answer is a page with a next one. -/
theorem play_waits_iff {script : List A} : (P.play results cursor script).2 = none ↔
    ∀ answer ∈ script, ∃ new next, P.page answer = .ok (new, some next) := by
  induction script generalizing results cursor with
  | nil => simp [play]
  | cons answer script ih =>
    rw [List.forall_mem_cons]
    cases hp : P.page answer with
    | error e => simp [play, hp]
    | ok page =>
      obtain ⟨new, next⟩ := page
      cases next with
      | none => simp [play, hp]
      | some next =>
        have hplay : (P.play results cursor (answer :: script)).2 = (P.play (results ++ new) (some next) script).2 := by
          simp [play, hp]
        rw [hplay, ih]
        simp

/-! ## Servers -/

section Servers

variable (P) (server : List Q → A)

/-- The first `n` answers of a server that sees all requests. -/
def answers : Nat → List A
  | 0 => []
  | n + 1 => answers n ++ [server (P.play [] none (answers n)).1]

/-- The loop against the server, after `n` answers. -/
def against (n : Nat) : List Q × Option (Except ε (List ν)) := P.play [] none (P.answers server n)

/-- The answer to the request that is made after `n` answers. -/
def reply (n : Nat) : A := server (P.against server n).1

variable {P server}

theorem answers_succ (n : Nat) : P.answers server (n + 1) = P.answers server n ++ [P.reply server n] := rfl

theorem mem_answers {n : Nat} {answer : A} : answer ∈ P.answers server n ↔ ∃ m < n, answer = P.reply server m := by
  induction n with
  | zero => simp [answers]
  | succ n ih =>
    rw [answers_succ, List.mem_append, List.mem_singleton, ih]
    constructor
    · rintro (⟨m, hm, rfl⟩ | rfl)
      · exact ⟨m, by omega, rfl⟩
      · exact ⟨n, by omega, rfl⟩
    · rintro ⟨m, hm, rfl⟩
      rcases Nat.lt_succ_iff_lt_or_eq.1 hm with hm | rfl
      · exact .inl ⟨m, hm, rfl⟩
      · exact .inr rfl

/-- The loop has no outcome after `n` answers exactly if they are pages with a next one each. -/
theorem waits_iff {n : Nat} : (P.against server n).2 = none ↔
    ∀ m < n, ∃ new next, P.page (P.reply server m) = .ok (new, some next) := by
  unfold against
  rw [play_waits_iff]
  constructor
  · exact fun h m hm => h _ (mem_answers.2 ⟨m, hm, rfl⟩)
  · intro h answer ha
    obtain ⟨m, hm, rfl⟩ := mem_answers.1 ha
    exact h m hm

/-- Until then it makes one more request with each answer. -/
theorem length_requests {n : Nat} (h : (P.against server n).2 = none) : (P.against server n).1.length = n + 1 := by
  have hlength : ∀ n, (P.answers server n).length = n := by
    intro n
    induction n with
    | zero => rfl
    | succ n ih => rw [answers_succ, List.length_append, ih, List.length_singleton]
  obtain ⟨turns, -, ⟨hs, hp⟩ | ⟨_, _, _, -, -, hp⟩ | ⟨_, _, _, -, -, hp⟩⟩ :=
    P.play_cases (P.answers server n) [] none
  · have hn := congrArg List.length hs
    rw [hlength, List.length_map] at hn
    unfold against
    rw [hp, requests, List.length_cons, List.length_map, hn]
  · rw [against, hp] at h
    cases h
  · rw [against, hp] at h
    cases h

/-- **Termination**: some answer on the way is no page with a next one. -/
theorem stops_iff : (∃ n, (P.against server n).2 ≠ none) ↔
    ∃ n, ∀ new next, P.page (P.reply server n) ≠ .ok (new, some next) := by
  constructor
  · rintro ⟨n, hn⟩
    rw [Ne, waits_iff] at hn
    push Not at hn
    obtain ⟨m, -, hm⟩ := hn
    exact ⟨m, hm⟩
  · rintro ⟨n, hn⟩
    refine ⟨n + 1, fun hw => ?_⟩
    obtain ⟨new, next, h⟩ := waits_iff.1 hw n (by omega)
    exact hn new next h

/-- What it returns ends in a last page. -/
theorem returned_last {n : Nat} {all : List ν} (h : (P.against server n).2 = some (.ok all)) :
    ∃ m < n, ∃ final, P.page (P.reply server m) = .ok (final, none) := by
  obtain ⟨turns, -, ⟨-, hp⟩ | ⟨_, _, _, -, -, hp⟩ | ⟨last, rest, final, hs, hl, -⟩⟩ :=
    P.play_cases (P.answers server n) [] none
  · rw [against, hp] at h
    cases h
  · rw [against, hp] at h
    cases h
  · obtain ⟨m, hm, rfl⟩ := mem_answers.1 (show last ∈ P.answers server n by rw [hs]; simp)
    exact ⟨m, hm, final, hl⟩

/-- What it raises is the error of an answer. -/
theorem raised_error {n : Nat} {e : ε} (h : (P.against server n).2 = some (.error e)) :
    ∃ m < n, P.page (P.reply server m) = .error e := by
  obtain ⟨turns, -, ⟨-, hp⟩ | ⟨last, rest, e', hs, hl, hp⟩ | ⟨_, _, _, -, -, hp⟩⟩ :=
    P.play_cases (P.answers server n) [] none
  · rw [against, hp] at h
    cases h
  · rw [against, hp] at h
    cases h
    obtain ⟨m, hm, rfl⟩ := mem_answers.1 (show last ∈ P.answers server n by rw [hs]; simp)
    exact ⟨m, hm, hl⟩
  · rw [against, hp] at h
    cases h

end Servers

end Pager
