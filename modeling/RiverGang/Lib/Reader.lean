import Mathlib.Data.List.Basic

/-!
# Reading lines from a stream that arrives in chunks

A reader has a buffer, to which what arrives is appended, and a bound on the length of a line. It gives the first line of
the buffer, without its delimiter, as soon as there is one. A line over the bound it does not give, and it leaves that line
where it is.

* `Reads`: what a read comes to, said of the bytes of the stream alone.
* `readuntil_reads`: a read of the reader comes to that, however the stream is cut into chunks.
* `lines`: the lines of a stream and its unfinished tail (`lines_append`, `lines_of_not_mem`).
* `ReadsLine`, `readline_reads`: the same for `readline`, which gives a line with its delimiter, or what is left at the
  end. A line over the bound is an error of another class there, and what has arrived of it is dropped.
-/

/-- A stream: what has arrived, and the chunks that are still to come, after which it may end. -/
structure StreamReader (α : Type) where
  buffer : List α
  incoming : List (List α)
  ends : Bool

/-- What a read comes to. -/
inductive LineResult (α : Type)
  | line (l : List α)
  /-- no delimiter within the bound; whether one has been found behind it -/
  | overrun (found : Bool)
  /-- the stream has ended, and what was left is dropped -/
  | incomplete
  /-- there is nothing more to come, and no end either -/
  | waits

namespace StreamReader

variable {α : Type}

/-- The bytes that are there and those to come. -/
def stream (r : StreamReader α) : List α := r.buffer ++ r.incoming.flatten

/-- A chunk arrives. -/
def feed (r : StreamReader α) : StreamReader α :=
  match r.incoming with
  | [] => r
  | chunk :: incoming => { r with buffer := r.buffer ++ chunk, incoming := incoming }

@[simp] theorem stream_feed (r : StreamReader α) : r.feed.stream = r.stream := by
  unfold feed stream
  split
  · rfl
  · rename_i h
    simp [h]

@[simp] theorem ends_feed (r : StreamReader α) : r.feed.ends = r.ends := by
  unfold feed
  split <;> rfl

section Reading

variable [DecidableEq α] (d : α) (limit : Nat)

/-- The text up to a delimiter, and what comes after it. -/
def cutAt : List α → Option (List α × List α)
  | [] => none
  | c :: s => if c = d then some ([], s) else (cutAt s).map fun p => (c :: p.1, p.2)

/-- A read, from what is in the buffer and what is to come. -/
def readFrom (ends : Bool) (buffer : List α) (incoming : List (List α)) : LineResult α × StreamReader α :=
  match cutAt d buffer with
  | some (line, rest) =>
    if limit < line.length then (.overrun true, ⟨buffer, incoming, ends⟩) else (.line line, ⟨rest, incoming, ends⟩)
  | none =>
    if limit < buffer.length then (.overrun false, ⟨buffer, incoming, ends⟩)
    else
      match incoming with
      | [] => if ends then (.incomplete, ⟨[], [], ends⟩) else (.waits, ⟨buffer, [], ends⟩)
      | chunk :: incoming => readFrom ends (buffer ++ chunk) incoming

/-- `readuntil` -/
def readuntil (r : StreamReader α) : LineResult α × StreamReader α := readFrom d limit r.ends r.buffer r.incoming

variable {d limit}

theorem cutAt_eq_some_iff {l rest : List α} : ∀ {s : List α}, cutAt d s = some (l, rest) ↔ s = l ++ d :: rest ∧ d ∉ l
  | [] => by simp [cutAt]
  | c :: s => by
    rw [cutAt]
    by_cases hc : c = d
    · rw [if_pos hc]
      cases l with
      | nil => simp [hc, eq_comm]
      | cons e l =>
        simp only [Option.some.injEq, Prod.mk.injEq, reduceCtorEq, false_and, List.cons_append, List.cons.injEq,
          List.mem_cons, not_or, false_iff, not_and, not_not]
        rintro ⟨rfl, -⟩ h
        exact absurd hc.symm h
    · rw [if_neg hc, Option.map_eq_some_iff]
      constructor
      · rintro ⟨⟨l', rest'⟩, h, he⟩
        obtain ⟨rfl, hl⟩ := cutAt_eq_some_iff.1 h
        cases he
        exact ⟨rfl, by simp [hl, Ne.symm hc]⟩
      · rintro ⟨h, hl⟩
        cases l with
        | nil =>
          cases h
          exact absurd rfl hc
        | cons e l =>
          cases h
          exact ⟨(l, rest), cutAt_eq_some_iff.2 ⟨rfl, fun hm => hl (List.mem_cons_of_mem _ hm)⟩, rfl⟩

theorem cutAt_eq_none_iff {s : List α} : cutAt d s = none ↔ d ∉ s := by
  constructor
  · intro h hd
    obtain ⟨l, rest, rfl, hl⟩ := List.eq_append_cons_of_mem hd
    rw [cutAt_eq_some_iff.2 ⟨rfl, hl⟩] at h
    cases h
  · intro h
    cases hc : cutAt d s with
    | none => rfl
    | some p =>
      obtain ⟨rfl, -⟩ := cutAt_eq_some_iff.1 hc
      exact absurd (by simp) h

/-! ## What a read comes to -/

/-- A read of a stream: its outcome and the stream after it. -/
inductive Reads (d : α) (limit : Nat) (ends : Bool) : List α → LineResult α → List α → Prop
  | line {l rest : List α} : d ∉ l → l.length ≤ limit → Reads d limit ends (l ++ d :: rest) (.line l) rest
  | overrun {l rest : List α} {found : Bool} : d ∉ l → limit < l.length →
      Reads d limit ends (l ++ d :: rest) (.overrun found) (l ++ d :: rest)
  | overrunTail {s : List α} {found : Bool} : d ∉ s → limit < s.length → Reads d limit ends s (.overrun found) s
  | incomplete {s : List α} : d ∉ s → s.length ≤ limit → ends = true → Reads d limit ends s .incomplete []
  | waits {s : List α} : d ∉ s → s.length ≤ limit → ends = false → Reads d limit ends s .waits s

/-- More than the bound without a delimiter, whatever comes after it. -/
theorem Reads.of_long {ends found : Bool} {s : List α} (hs : d ∉ s) (hlong : limit < s.length) (t : List α) :
    Reads d limit ends (s ++ t) (.overrun found) (s ++ t) := by
  by_cases ht : d ∈ t
  · obtain ⟨l, rest, rfl, hl⟩ := List.eq_append_cons_of_mem ht
    rw [← List.append_assoc]
    refine .overrun ?_ ?_
    · simp [hs, hl]
    · rw [List.length_append]
      omega
  · refine .overrunTail ?_ ?_
    · simp [hs, ht]
    · rw [List.length_append]
      omega

theorem readFrom_reads {ends : Bool} : ∀ (incoming : List (List α)) (buffer : List α),
    Reads d limit ends (buffer ++ incoming.flatten) (readFrom d limit ends buffer incoming).1
      (readFrom d limit ends buffer incoming).2.stream ∧ (readFrom d limit ends buffer incoming).2.ends = ends := by
  have hcut : ∀ {buffer line rest : List α} (incoming : List (List α)), cutAt d buffer = some (line, rest) →
      Reads d limit ends (buffer ++ incoming.flatten) (readFrom d limit ends buffer incoming).1
        (readFrom d limit ends buffer incoming).2.stream ∧ (readFrom d limit ends buffer incoming).2.ends = ends := by
    intro buffer line rest incoming hc
    obtain ⟨hb, hl⟩ := cutAt_eq_some_iff.1 hc
    unfold readFrom
    rw [hc]
    dsimp only
    split
    · rename_i hlong
      exact ⟨by simpa [stream, hb] using Reads.of_long hl hlong (d :: rest ++ incoming.flatten), rfl⟩
    · rename_i hshort
      refine ⟨?_, rfl⟩
      rw [hb, List.append_assoc]
      exact .line hl (Nat.le_of_not_lt hshort)
  intro incoming
  induction incoming with
  | nil =>
    intro buffer
    cases hc : cutAt d buffer with
    | some p => exact hcut [] hc
    | none =>
      have hd : d ∉ buffer := cutAt_eq_none_iff.1 hc
      unfold readFrom
      rw [hc, List.flatten_nil, List.append_nil]
      dsimp only
      split
      · rename_i hlong
        exact ⟨by simpa [stream] using Reads.of_long hd hlong [], rfl⟩
      · rename_i hshort
        cases he : ends with
        | true => exact ⟨.incomplete hd (Nat.le_of_not_lt hshort) rfl, rfl⟩
        | false => exact ⟨by simpa [stream] using Reads.waits hd (Nat.le_of_not_lt hshort) rfl, rfl⟩
  | cons chunk incoming ih =>
    intro buffer
    cases hc : cutAt d buffer with
    | some p => exact hcut _ hc
    | none =>
      have hd : d ∉ buffer := cutAt_eq_none_iff.1 hc
      unfold readFrom
      rw [hc]
      dsimp only
      split
      · rename_i hlong
        exact ⟨.of_long hd hlong _, rfl⟩
      · have h := ih (buffer ++ chunk)
        rwa [List.append_assoc] at h

/-- **A read**, however the stream arrives. -/
theorem readuntil_reads (r : StreamReader α) :
    Reads d limit r.ends r.stream (r.readuntil d limit).1 (r.readuntil d limit).2.stream ∧
      (r.readuntil d limit).2.ends = r.ends := readFrom_reads r.incoming r.buffer

/-! ## Lines -/

/-- The lines of a stream, without their delimiters, and what comes after the last one. -/
def lines (d : α) : List α → List (List α) × List α
  | [] => ([], [])
  | c :: s =>
    let rest := lines d s
    if c = d then ([] :: rest.1, rest.2)
    else
      match rest.1 with
      | [] => ([], c :: rest.2)
      | l :: ls => ((c :: l) :: ls, rest.2)

theorem lines_append {l s : List α} (h : d ∉ l) : lines d (l ++ d :: s) = (l :: (lines d s).1, (lines d s).2) := by
  induction l with
  | nil => simp [lines]
  | cons c l ih =>
    rw [List.mem_cons, not_or] at h
    rw [List.cons_append, lines, ih h.2]
    simp [Ne.symm h.1]

theorem lines_of_not_mem {s : List α} (h : d ∉ s) : lines d s = ([], s) := by
  induction s with
  | nil => rfl
  | cons c s ih =>
    rw [List.mem_cons, not_or] at h
    rw [lines, ih h.2]
    simp [Ne.symm h.1]

/-! ## `readline` -/

/-- What `readline` raises. -/
inductive ReadlineError
  | limitOverrun (found : Bool)
  | valueError (found : Bool)
  deriving DecidableEq

variable (d limit)

/-- What is dropped of a line over the bound: the line, or all that has arrived. -/
def dropOverrun (r : StreamReader α) : StreamReader α :=
  match cutAt d r.buffer with
  | some (_, rest) => { r with buffer := rest }
  | none => { r with buffer := [] }

/-- `readline`: it turns a `LimitOverrunError` into a `ValueError`; `none` while there is nothing more to come. -/
def readline (r : StreamReader α) : Option (Except ReadlineError (List α)) × StreamReader α :=
  match r.readuntil d limit with
  | (.line l, r') => (some (.ok (l ++ [d])), r')
  | (.incomplete, r') => (some (.ok r.stream), r')
  | (.waits, r') => (none, r')
  | (.overrun found, r') => (some (.error (.valueError found)), r'.dropOverrun d)

variable {d limit}

/-- `read(n)`, the part that changes the reader: some bytes of what has arrived, or of the next chunk. -/
def readSome (n : Nat) (r : StreamReader α) : StreamReader α :=
  match r.buffer, r.incoming with
  | [], chunk :: incoming => { r with buffer := chunk.drop n, incoming := incoming }
  | buffer, _ => { r with buffer := buffer.drop n }

/-- A `readline` of a stream: its outcome and the stream after it. How much is dropped of a line over the bound depends
on how it arrives. -/
inductive ReadsLine (d : α) (limit : Nat) (ends : Bool) :
    List α → Option (Except ReadlineError (List α)) → List α → Prop
  | line {l rest : List α} : d ∉ l → l.length ≤ limit → ReadsLine d limit ends (l ++ d :: rest) (some (.ok (l ++ [d]))) rest
  | last {s : List α} : d ∉ s → s.length ≤ limit → ends = true → ReadsLine d limit ends s (some (.ok s)) []
  | waits {s : List α} : d ∉ s → s.length ≤ limit → ends = false → ReadsLine d limit ends s none s
  | overrun {l rest s : List α} {found : Bool} : d ∉ l → limit < l.length →
      ReadsLine d limit ends (l ++ d :: rest) (some (.error (.valueError found))) s
  | overrunTail {l s : List α} {found : Bool} : d ∉ l → limit < l.length →
      ReadsLine d limit ends l (some (.error (.valueError found))) s

@[simp] theorem ends_dropOverrun (r : StreamReader α) : (r.dropOverrun d).ends = r.ends := by
  unfold dropOverrun
  split <;> rfl

/-- **A `readline`**, however the stream arrives. -/
theorem readline_reads (r : StreamReader α) :
    ReadsLine d limit r.ends r.stream (r.readline d limit).1 (r.readline d limit).2.stream ∧
      (r.readline d limit).2.ends = r.ends := by
  obtain ⟨hr, hends⟩ : Reads d limit r.ends r.stream (r.readuntil d limit).1 (r.readuntil d limit).2.stream ∧
    (r.readuntil d limit).2.ends = r.ends := readuntil_reads r
  unfold readline
  generalize r.readuntil d limit = p at hr hends
  obtain ⟨x, r'⟩ := p
  dsimp only at hr hends
  generalize hs : r.stream = s at hr
  cases x with
  | line l =>
    generalize r'.stream = t at hr ⊢
    cases hr with
    | line hl hlong => exact ⟨.line hl hlong, hends⟩
  | overrun found =>
    refine ⟨?_, by rw [ends_dropOverrun, hends]⟩
    generalize r'.stream = t at hr
    cases hr with
    | overrun hl hlong => exact .overrun hl hlong
    | overrunTail hl hlong => exact .overrunTail hl hlong
  | incomplete =>
    generalize r'.stream = t at hr ⊢
    cases hr with
    | incomplete hd hlong he => exact ⟨.last hd hlong he, hends⟩
  | waits =>
    generalize r'.stream = t at hr ⊢
    cases hr with
    | waits hd hlong he => exact ⟨.waits hd hlong he, hends⟩

end Reading

end StreamReader
