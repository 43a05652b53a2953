import RiverGang.Codex.Framing

/-!
# The drain of stderr

`_drain_stderr` of `codex/process.py`: a task that reads the lines of stderr and logs them until the stream ends. Its
handler is for `LimitOverrunError`, but `readline` raises `ValueError` for a line that is too long, and that ends the task.

* `drainStderr_drains`: what the task logs and how it ends, however the bytes arrive.
* `stderr_drained_iff`: it gets to the end of the stream exactly if nothing is too long.
-/

namespace RiverGang

open Py StreamReader

/-- How the task stands at last: it has returned, it has raised, or it waits for bytes that do not come. -/
inductive DrainEnd
  | returned
  | raised (exc : ReadlineError)
  | waits
  deriving DecidableEq

/-- `line.rstrip(b"\n")` -/
def rstripNewline (line : Bytes) : Bytes := (line.reverse.dropWhile (· = NEWLINE)).reverse

theorem readsLine_of {limit : Nat} {r r' : StreamReader UInt8} {x : Option (Except ReadlineError Bytes)}
    (h : r.readline NEWLINE limit = (x, r')) :
    ReadsLine NEWLINE limit r.ends r.stream x r'.stream ∧ r'.ends = r.ends := by
  have hr : ReadsLine NEWLINE limit r.ends r.stream (r.readline NEWLINE limit).1
      (r.readline NEWLINE limit).2.stream ∧ (r.readline NEWLINE limit).2.ends = r.ends := readline_reads r
  rwa [h] at hr

theorem length_lt_of_readline {limit : Nat} {r r' : StreamReader UInt8} {c : UInt8} {line : Bytes}
    (h : r.readline NEWLINE limit = (some (.ok (c :: line)), r')) : r'.stream.length < r.stream.length := by
  obtain ⟨hr, -⟩ := readsLine_of h
  generalize r.stream = s at hr
  generalize r'.stream = s' at hr
  generalize hx : some (Except.ok (c :: line)) = x at hr
  cases hr with
  | line _ _ =>
    simp only [List.length_append, List.length_cons]
    omega
  | last _ _ _ =>
    cases hx
    simp
  | waits _ _ _ => cases hx
  | overrun _ _ => cases hx
  | overrunTail _ _ => cases hx

theorem not_limitOverrun {limit : Nat} {r r' : StreamReader UInt8} {found : Bool} :
    r.readline NEWLINE limit ≠ (some (.error (.limitOverrun found)), r') := by
  intro h
  obtain ⟨hr, -⟩ := readsLine_of h
  generalize r.stream = s at hr
  cases hr

/-- `_drain_stderr`: the lines that it logs, and how it ends. -/
def drainStderr (limit : Nat) (r : StreamReader UInt8) : List Bytes × DrainEnd :=
  match _h : r.readline NEWLINE limit with
  | (none, _) => ([], .waits)
  | (some (.ok []), _) => ([], .returned)
  | (some (.ok (c :: line)), r') =>
    let rest := drainStderr limit r'
    (rstripNewline (c :: line) :: rest.1, rest.2)
  -- never taken: it would not come to an end
  | (some (.error (.limitOverrun _)), r') => drainStderr limit (r'.readSome 1024)
  | (some (.error (.valueError found)), _) => ([], .raised (.valueError found))
termination_by r.stream.length
decreasing_by
  · exact length_lt_of_readline _h
  · exact absurd _h not_limitOverrun

/-! ## What it comes to -/

/-- The lines and the unfinished one of a stream, as they are drained. -/
inductive Drains (limit : Nat) (ends : Bool) : List Bytes → Bytes → List Bytes → DrainEnd → Prop
  | line {l : Bytes} {ls logged : List Bytes} {t : Bytes} {e : DrainEnd} : l.length ≤ limit →
      Drains limit ends ls t logged e → Drains limit ends (l :: ls) t (l :: logged) e
  | overlong {l : Bytes} {ls : List Bytes} {t : Bytes} (found : Bool) : limit < l.length →
      Drains limit ends (l :: ls) t [] (.raised (.valueError found))
  | overlongTail {t : Bytes} (found : Bool) : limit < t.length → Drains limit ends [] t [] (.raised (.valueError found))
  | tail {t : Bytes} : t ≠ [] → t.length ≤ limit → ends = true → Drains limit ends [] t [t] .returned
  | returned : ends = true → Drains limit ends [] [] [] .returned
  | waits {t : Bytes} : t.length ≤ limit → ends = false → Drains limit ends [] t [] .waits

theorem rstripNewline_of_not_mem {l : Bytes} (h : NEWLINE ∉ l) : rstripNewline l = l := by
  have hnone : l.reverse.dropWhile (· = NEWLINE) = l.reverse := by
    cases hl : l.reverse with
    | nil => rfl
    | cons c s =>
      have hc : c ≠ NEWLINE := by
        rintro rfl
        exact h (List.mem_reverse.1 (by rw [hl]; simp))
      simp [hc]
  rw [rstripNewline, hnone, List.reverse_reverse]

theorem rstripNewline_line {l : Bytes} (h : NEWLINE ∉ l) : rstripNewline (l ++ [NEWLINE]) = l := by
  have hdrop : rstripNewline (l ++ [NEWLINE]) = rstripNewline l := by
    simp [rstripNewline, List.reverse_append]
  rw [hdrop, rstripNewline_of_not_mem h]

/-- What a drain makes of what `readline` gives. -/
theorem drainStderr_of {limit : Nat} {r r' : StreamReader UInt8} {x : Option (Except ReadlineError Bytes)}
    (h : r.readline NEWLINE limit = (x, r')) : drainStderr limit r =
      match x with
      | none => ([], .waits)
      | some (.ok []) => ([], .returned)
      | some (.ok (c :: line)) => (rstripNewline (c :: line) :: (drainStderr limit r').1, (drainStderr limit r').2)
      | some (.error (.limitOverrun _)) => drainStderr limit (r'.readSome 1024)
      | some (.error (.valueError found)) => ([], .raised (.valueError found)) := by
  rw [drainStderr]
  split <;> rename_i h' <;> rw [h] at h' <;> cases h' <;> rfl

/-- At the end of a stream a drain returns. -/
theorem drainStderr_nil {limit : Nat} {r : StreamReader UInt8} (hs : r.stream = []) (he : r.ends = true) :
    drainStderr limit r = ([], .returned) := by
  obtain ⟨x, r', h⟩ : ∃ x r', r.readline NEWLINE limit = (x, r') := ⟨_, _, rfl⟩
  obtain ⟨hr, -⟩ := readsLine_of h
  rw [hs, he] at hr
  have hx : x = some (.ok []) := by
    generalize hn : ([] : Bytes) = s at hr
    generalize r'.stream = s' at hr
    cases hr with
    | line _ _ => simp at hn
    | last _ _ _ => rfl
    | waits _ _ hno => cases hno
    | overrun _ _ => simp at hn
    | overrunTail _ hlong =>
      subst hn
      simp at hlong
  subst hx
  exact drainStderr_of h

/-- **A drain**, however the bytes arrive. -/
theorem drainStderr_drains (limit : Nat) (r : StreamReader UInt8) :
    Drains limit r.ends (lines NEWLINE r.stream).1 (lines NEWLINE r.stream).2 (drainStderr limit r).1
      (drainStderr limit r).2 := by
  fun_induction drainStderr limit r with
  | case1 r r' h =>
    obtain ⟨hr, -⟩ := readsLine_of h
    generalize r.stream = s at hr
    cases hr with
    | waits hs hshort he =>
      rw [lines_of_not_mem hs]
      exact .waits hshort he
  | case2 r r' h =>
    obtain ⟨hr, -⟩ := readsLine_of h
    generalize r.stream = s at hr
    generalize hx : some (Except.ok ([] : Bytes)) = x at hr
    generalize r'.stream = s' at hr
    cases hr with
    | line _ _ => simp at hx
    | last hs _ he =>
      cases hx
      exact .returned he
    | waits _ _ _ => cases hx
    | overrun _ _ => cases hx
    | overrunTail _ _ => cases hx
  | case3 r c line r' h rest ih =>
    obtain ⟨hr, hends⟩ := readsLine_of h
    rw [hends] at ih
    generalize r.stream = s at hr
    generalize hx : some (Except.ok (c :: line)) = x at hr
    generalize hs' : r'.stream = s' at hr ih
    cases hr with
    | @line l rest' hl hshort =>
      simp only [Option.some.injEq, Except.ok.injEq] at hx
      rw [hx, rstripNewline_line hl, lines_append hl]
      exact .line hshort ih
    | last hs hshort he =>
      cases hx
      have hnil : drainStderr limit r' = ([], .returned) := drainStderr_nil hs' (hends.trans he)
      rw [lines_of_not_mem hs, rstripNewline_of_not_mem hs, show rest = _ from hnil]
      exact .tail (by simp) hshort he
    | waits _ _ _ => cases hx
    | overrun _ _ => cases hx
    | overrunTail _ _ => cases hx
  | case4 r found r' h => exact absurd h not_limitOverrun
  | case5 r found r' h =>
    obtain ⟨hr, -⟩ := readsLine_of h
    generalize r.stream = s at hr
    generalize r'.stream = s' at hr
    cases hr with
    | overrun hl hlong =>
      rw [lines_append hl]
      exact .overlong found hlong
    | overrunTail hl hlong =>
      rw [lines_of_not_mem hl]
      exact .overlongTail found hlong

/-! ## When it gets to the end -/

variable {limit : Nat} {ends : Bool} {ls logged : List Bytes} {t : Bytes} {e : DrainEnd}

/-- Nothing of the stream is too long. -/
def AllShort (limit : Nat) (ls : List Bytes) (t : Bytes) : Prop := (∀ l ∈ ls, l.length ≤ limit) ∧ t.length ≤ limit

theorem Drains.returned_iff (h : Drains limit ends ls t logged e) : e = .returned ↔ ends = true ∧ AllShort limit ls t := by
  induction h with
  | line hl _ ih => rw [ih, AllShort, AllShort, List.forall_mem_cons, and_iff_right hl]
  | overlong found hlong =>
    refine ⟨by simp, fun h => ?_⟩
    have hl := h.2.1 _ List.mem_cons_self
    omega
  | overlongTail found hlong =>
    refine ⟨by simp, fun h => ?_⟩
    have ht := h.2.2
    omega
  | tail _ ht he => exact ⟨fun _ => ⟨he, by simp, ht⟩, fun _ => rfl⟩
  | returned he => exact ⟨fun _ => ⟨he, by simp, Nat.zero_le _⟩, fun _ => rfl⟩
  | waits _ he =>
    refine ⟨by simp, fun h => ?_⟩
    rw [he] at h
    cases h.1

/-- What is logged by a drain that gets to the end. -/
theorem Drains.logged_of_returned (h : Drains limit ends ls t logged e) (he : e = .returned) :
    logged = ls ++ if t = [] then [] else [t] := by
  induction h with
  | line _ _ ih => rw [ih he, List.cons_append]
  | overlong found hlong => cases he
  | overlongTail found hlong => cases he
  | tail ht _ _ => rw [if_neg ht, List.nil_append]
  | returned _ => rfl
  | waits _ _ => cases he

/-- And by one that meets something too long: what was before it. -/
theorem Drains.logged_of_overlong (h : Drains limit ends ls t logged e) : ∀ {before after : List Bytes} {l : Bytes},
    ls ++ [t] = before ++ l :: after → (∀ l' ∈ before, l'.length ≤ limit) → limit < l.length →
      logged = before ∧ ∃ exc, e = .raised exc := by
  induction h with
  | @line m ls logged t e hm _ ih =>
    intro before after l hs hb hl
    cases before with
    | nil =>
      cases hs
      omega
    | cons b before =>
      rw [List.cons_append, List.cons_append, List.cons.injEq] at hs
      obtain ⟨rfl, hs⟩ := hs
      obtain ⟨hlogged, hexc⟩ := ih hs (List.forall_mem_cons.1 hb).2 hl
      exact ⟨by rw [hlogged], hexc⟩
  | overlong found hlong =>
    intro before after l hs hb hl
    cases before with
    | nil => exact ⟨rfl, _, rfl⟩
    | cons b before =>
      rw [List.cons_append, List.cons_append, List.cons.injEq] at hs
      have hb := hb b List.mem_cons_self
      rw [← hs.1] at hb
      omega
  | overlongTail found hlong =>
    intro before after l hs hb hl
    cases before with
    | nil => exact ⟨rfl, _, rfl⟩
    | cons b before => simp at hs
  | tail _ ht _ | waits ht _ =>
    intro before after l hs hb hl
    cases before with
    | nil =>
      cases hs
      omega
    | cons b before => simp at hs
  | returned _ =>
    intro before after l hs hb hl
    cases before with
    | nil =>
      cases hs
      simp at hl
    | cons b before => simp at hs

/-- **The drain of stderr**, for every stream, however it is cut into chunks. It returns exactly if the stream ends and
nothing in it is too long, and has logged every line then. Else it logs what comes before the first line that is too long,
and raises. -/
theorem stderr_drained_iff (limit : Nat) (r : StreamReader UInt8) :
    ((drainStderr limit r).2 = .returned ↔
      r.ends = true ∧ AllShort limit (lines NEWLINE r.stream).1 (lines NEWLINE r.stream).2) ∧
    ((drainStderr limit r).2 = .returned → (drainStderr limit r).1 = (lines NEWLINE r.stream).1 ++
      if (lines NEWLINE r.stream).2 = [] then [] else [(lines NEWLINE r.stream).2]) ∧
    ∀ before l after, (lines NEWLINE r.stream).1 ++ [(lines NEWLINE r.stream).2] = before ++ l :: after →
      (∀ l' ∈ before, l'.length ≤ limit) → limit < l.length →
      (drainStderr limit r).1 = before ∧ ∃ exc, (drainStderr limit r).2 = .raised exc := by
  have h := drainStderr_drains limit r
  exact ⟨h.returned_iff, h.logged_of_returned, fun _ _ _ hs hb hl => h.logged_of_overlong hs hb hl⟩

end RiverGang
