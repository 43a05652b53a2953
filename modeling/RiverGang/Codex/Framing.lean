import RiverGang.Codex.Process
import RiverGang.Lib.Reader

/-!
# Framing

`CodexProcess.read_frame`, from the bytes of stdout on: a line is read, blank ones are passed over, and `json.loads` makes
a value of the rest. What it comes to answers the client's request for a line.

* `readLine_receives`: what one call makes of the lines that are left, however the bytes arrive.
* `framing_iff`: repeated calls are as they should be exactly for the streams that are `Readable`: nothing is read that
  `json.loads` fails on with another exception than `JSONDecodeError`, and nothing follows a line that is too long.
-/

namespace RiverGang

open Py StreamReader

abbrev Bytes := List UInt8

def NEWLINE : UInt8 := 10

/-- What `json.loads` makes of bytes. -/
inductive LoadedBytes
  | value (v : Json)
  /-- `JSONDecodeError` -/
  | malformed (msg : Str)
  /-- another exception, such as `UnicodeDecodeError` -/
  | raised (msg : Str)

/-- The subprocess and the library. -/
structure Subprocess where
  loads : Bytes → LoadedBytes
  /-- what `proc.wait()` returns, if it does -/
  returncode : Option Int

section Framing

variable (p : ClientParams) (q : Subprocess)

/-- The limit of the reader. -/
def frameLimit : Nat := p.maxFrameBytes.toNat

def decodeLine (line : Bytes) : LineRead :=
  match q.loads line with
  | .value v => .value v
  | .malformed msg => .malformed msg line.length
  | .raised msg => .undecodable msg

/-- `str(exc)` of a `LimitOverrunError` -/
def overrunDetail (found : Bool) : Str :=
  if found then py "Separator is found, but chunk is longer than limit"
  else py "Separator is not found, and chunk exceed the limit"

/-- The line of a call of `read_frame`; without one the call waits. -/
def readLine (r : StreamReader UInt8) : Option LineRead × StreamReader UInt8 :=
  match _h : r.readuntil NEWLINE (frameLimit p) with
  | (.overrun found, r') => (some (.overlong (overrunDetail found)), r')
  | (.incomplete, r') => (q.returncode.map .eof, r')
  | (.waits, r') => (none, r')
  | (.line [], r') => readLine r'
  | (.line (c :: line), r') => (some (decodeLine q (c :: line)), r')
termination_by r.stream.length
decreasing_by
  have hr : Reads NEWLINE (frameLimit p) r.ends r.stream (r.readuntil NEWLINE (frameLimit p)).1
    (r.readuntil NEWLINE (frameLimit p)).2.stream := (readuntil_reads r).1
  rw [_h] at hr
  generalize hs : r.stream = s at hr
  cases hr
  simp

/-- What happens at stdout: a chunk arrives, or `read_frame` is called. -/
inductive StdoutAction
  | feed
  | read

/-- The lines of the calls. -/
def linesOfCalls : List StdoutAction → StreamReader UInt8 → List (Option LineRead)
  | [], _ => []
  | .feed :: actions, r => linesOfCalls actions r.feed
  | .read :: actions, r => (readLine p q r).1 :: linesOfCalls actions (readLine p q r).2

/-! ## The lines of a stream -/

/-- The lines that are not blank. -/
def frameLines (s : Bytes) : List Bytes := (lines NEWLINE s).1.filter (· ≠ [])

/-- What comes after the last newline. -/
def unfinished (s : Bytes) : Bytes := (lines NEWLINE s).2

/-- A call, of the lines and the unfinished one that are left before and after it. -/
inductive Receives (ends : Bool) : List Bytes → Bytes → Option LineRead → List Bytes → Bytes → Prop
  | line {l : Bytes} {ls : List Bytes} {t : Bytes} : l.length ≤ frameLimit p →
      Receives ends (l :: ls) t (some (decodeLine q l)) ls t
  | overlong {l : Bytes} {ls : List Bytes} {t : Bytes} (detail : Str) : frameLimit p < l.length →
      Receives ends (l :: ls) t (some (.overlong detail)) (l :: ls) t
  | overlongTail {t : Bytes} (detail : Str) : frameLimit p < t.length →
      Receives ends [] t (some (.overlong detail)) [] t
  | eof {t : Bytes} : t.length ≤ frameLimit p → ends = true → Receives ends [] t (q.returncode.map .eof) [] []
  | waits {t : Bytes} : t.length ≤ frameLimit p → ends = false → Receives ends [] t none [] t

variable {p q}

theorem frameLines_append {l s : Bytes} (h : NEWLINE ∉ l) :
    frameLines (l ++ NEWLINE :: s) = if l = [] then frameLines s else l :: frameLines s := by
  rw [frameLines, lines_append h]
  cases l <;> simp [frameLines]

theorem unfinished_append {l s : Bytes} (h : NEWLINE ∉ l) : unfinished (l ++ NEWLINE :: s) = unfinished s := by
  rw [unfinished, lines_append h, unfinished]

theorem frameLines_of_not_mem {s : Bytes} (h : NEWLINE ∉ s) : frameLines s = [] := by
  rw [frameLines, lines_of_not_mem h]
  rfl

theorem unfinished_of_not_mem {s : Bytes} (h : NEWLINE ∉ s) : unfinished s = s := by
  rw [unfinished, lines_of_not_mem h]

/-- A read of the reader, as a call: a blank line changes nothing. -/
theorem receives_of_reads {ends : Bool} {s s' : Bytes} {x : LineResult UInt8}
    (h : Reads NEWLINE (frameLimit p) ends s x s') :
    match x with
    | .overrun found => Receives p q ends (frameLines s) (unfinished s) (some (.overlong (overrunDetail found)))
        (frameLines s') (unfinished s')
    | .incomplete => Receives p q ends (frameLines s) (unfinished s) (q.returncode.map .eof) (frameLines s')
        (unfinished s')
    | .waits => Receives p q ends (frameLines s) (unfinished s) none (frameLines s') (unfinished s')
    | .line [] => frameLines s = frameLines s' ∧ unfinished s = unfinished s'
    | .line (c :: line) => Receives p q ends (frameLines s) (unfinished s) (some (decodeLine q (c :: line)))
        (frameLines s') (unfinished s') := by
  cases h with
  | @line l _ hl hshort =>
    cases l with
    | nil => exact ⟨by rw [frameLines_append hl, if_pos rfl], unfinished_append hl⟩
    | cons c l =>
      dsimp only
      rw [frameLines_append hl, unfinished_append hl, if_neg (by simp)]
      exact .line hshort
  | @overrun l rest _ hl hlong =>
    have hne : l ≠ [] := by
      rintro rfl
      simp at hlong
    dsimp only
    rw [frameLines_append hl, if_neg hne]
    exact .overlong _ hlong
  | overrunTail hs hlong =>
    dsimp only
    rw [frameLines_of_not_mem hs, unfinished_of_not_mem hs]
    exact .overlongTail _ hlong
  | incomplete hs hshort he =>
    dsimp only
    rw [frameLines_of_not_mem hs, unfinished_of_not_mem hs]
    exact .eof hshort he
  | waits hs hshort he =>
    dsimp only
    rw [frameLines_of_not_mem hs, unfinished_of_not_mem hs]
    exact .waits hshort he

theorem reads_of {r r' : StreamReader UInt8} {x : LineResult UInt8}
    (h : r.readuntil NEWLINE (frameLimit p) = (x, r')) :
    Reads NEWLINE (frameLimit p) r.ends r.stream x r'.stream ∧ r'.ends = r.ends := by
  have hr : Reads NEWLINE (frameLimit p) r.ends r.stream (r.readuntil NEWLINE (frameLimit p)).1
      (r.readuntil NEWLINE (frameLimit p)).2.stream ∧ (r.readuntil NEWLINE (frameLimit p)).2.ends = r.ends :=
    readuntil_reads r
  rwa [h] at hr

/-- What a call makes of what the reader gives. -/
theorem readLine_of {r r' : StreamReader UInt8} {x : LineResult UInt8}
    (h : r.readuntil NEWLINE (frameLimit p) = (x, r')) : readLine p q r =
      match x with
      | .overrun found => (some (.overlong (overrunDetail found)), r')
      | .incomplete => (q.returncode.map .eof, r')
      | .waits => (none, r')
      | .line [] => readLine p q r'
      | .line (c :: line) => (some (decodeLine q (c :: line)), r') := by
  rw [readLine]
  split <;> rename_i h' <;> rw [h] at h' <;> cases h' <;> rfl

/-- **A call**, however the bytes arrive and however many blank lines there are. -/
theorem readLine_receives (r : StreamReader UInt8) :
    Receives p q r.ends (frameLines r.stream) (unfinished r.stream) (readLine p q r).1
      (frameLines (readLine p q r).2.stream) (unfinished (readLine p q r).2.stream) ∧
    (readLine p q r).2.ends = r.ends := by
  fun_induction readLine p q r with
  | case1 r found r' h =>
    obtain ⟨hr, hends⟩ := reads_of h
    exact ⟨receives_of_reads hr, hends⟩
  | case2 r r' h =>
    obtain ⟨hr, hends⟩ := reads_of h
    exact ⟨receives_of_reads hr, hends⟩
  | case3 r r' h =>
    obtain ⟨hr, hends⟩ := reads_of h
    exact ⟨receives_of_reads hr, hends⟩
  | case4 r r' h ih =>
    obtain ⟨hr, hends⟩ := reads_of h
    obtain ⟨hls, ht⟩ := receives_of_reads (q := q) hr
    rw [hls, ht, ← hends]
    exact ih
  | case5 r c line r' h =>
    obtain ⟨hr, hends⟩ := reads_of h
    exact ⟨receives_of_reads hr, hends⟩

/-! ## What the calls should come to -/

/-- A line within the limit that is a JSON object. -/
def IsFrameLine (p : ClientParams) (q : Subprocess) (l : Bytes) (frame : Payload) : Prop :=
  l.length ≤ frameLimit p ∧ q.loads l = .value (.obj frame)

/-- `ResponseError`, `PortExit` or `CodexNotFound`. -/
def Failure.IsFraming (f : Failure) : Prop :=
  ∃ cls msg, f = .codex cls msg ∧ (cls = .responseError ∨ cls = .portExit ∨ cls = .codexNotFound)

/-- A call, for the line that it is the turn of: a frame is yielded, any other line is an error; without a line the call
waits until the stream ends, and is an error then. -/
inductive Fits (p : ClientParams) (q : Subprocess) (ends : Bool) : Option Bytes → Option (Except Failure Payload) → Prop
  | frame {l : Bytes} {frame : Payload} : IsFrameLine p q l frame → Fits p q ends (some l) (some (.ok frame))
  | noFrame {l : Bytes} {f : Failure} : (∀ frame, ¬ IsFrameLine p q l frame) → f.IsFraming →
      Fits p q ends (some l) (some (.error f))
  | over {f : Failure} : f.IsFraming → Fits p q ends none (some (.error f))
  | waits : ends = false → Fits p q ends none none

/-- Repeated calls yield the frames of the stream in order, and errors in the places of the other lines. -/
def Faithful (p : ClientParams) (q : Subprocess) (r : StreamReader UInt8) : Prop :=
  ∀ (actions : List StdoutAction) (n : Nat) (line : Option LineRead), (linesOfCalls p q actions r)[n]? = some line →
    Fits p q r.ends (frameLines r.stream)[n]? (line.map (frameOf p))

/-- The streams for which that is so: of the lines up to the first that is too long, `json.loads` raises nothing but
`JSONDecodeError`; none of those after it is a frame; and the process exits if the stream comes to its end. -/
structure Readable (p : ClientParams) (q : Subprocess) (ends : Bool) (ls : List Bytes) (t : Bytes) : Prop where
  decodes : ∀ before l after, ls = before ++ l :: after → (∀ l' ∈ before, l'.length ≤ frameLimit p) →
    l.length ≤ frameLimit p → ∀ msg, q.loads l ≠ .raised msg
  nothing : ∀ before l after, ls = before ++ l :: after → frameLimit p < l.length →
    ∀ l' ∈ after, ∀ frame, ¬ IsFrameLine p q l' frame
  exits : ends = true → (∀ l ∈ ls, l.length ≤ frameLimit p) → t.length ≤ frameLimit p → q.returncode.isSome

theorem readable_cons {ends : Bool} {l : Bytes} {ls : List Bytes} {t : Bytes} (hl : l.length ≤ frameLimit p) :
    Readable p q ends (l :: ls) t ↔ (∀ msg, q.loads l ≠ .raised msg) ∧ Readable p q ends ls t := by
  constructor
  · intro h
    refine ⟨h.decodes [] l ls rfl (by simp) hl, ?_, ?_, ?_⟩
    · exact fun before m after hs hb hm => h.decodes (l :: before) m after (by rw [hs]; rfl)
        (List.forall_mem_cons.2 ⟨hl, hb⟩) hm
    · exact fun before m after hs hm => h.nothing (l :: before) m after (by rw [hs]; rfl) hm
    · exact fun he hls ht => h.exits he (List.forall_mem_cons.2 ⟨hl, hls⟩) ht
  · rintro ⟨hload, h⟩
    refine ⟨?_, ?_, fun he hls ht => h.exits he (List.forall_mem_cons.1 hls).2 ht⟩
    · intro before m after hs hb hm
      cases before with
      | nil =>
        cases hs
        exact hload
      | cons b before =>
        cases hs
        exact h.decodes before m after rfl (List.forall_mem_cons.1 hb).2 hm
    · intro before m after hs hm
      cases before with
      | nil =>
        cases hs
        omega
      | cons b before =>
        cases hs
        exact h.nothing before m after rfl hm

/-- Without a line only the end matters. -/
theorem readable_nil {ends : Bool} {t : Bytes} :
    Readable p q ends [] t ↔ (ends = true → t.length ≤ frameLimit p → q.returncode.isSome) := by
  constructor
  · exact fun h he ht => h.exits he (by simp) ht
  · exact fun h => ⟨by simp, by simp, fun he _ => h he⟩

/-- After a line that is too long only the frames matter. -/
theorem readable_long {ends : Bool} {l : Bytes} {ls : List Bytes} {t : Bytes} (hl : frameLimit p < l.length) :
    Readable p q ends (l :: ls) t ↔ ∀ l' ∈ ls, ∀ frame, ¬ IsFrameLine p q l' frame := by
  constructor
  · exact fun h => h.nothing [] l ls rfl hl
  · intro h
    refine ⟨?_, ?_, fun _ hshort => absurd (hshort l (by simp)) (by omega)⟩
    · intro before m after hs hb hm
      cases before with
      | nil =>
        cases hs
        omega
      | cons b before =>
        cases hs
        exact absurd (hb l (by simp)) (by omega)
    · intro before m after hs _ l' hl'
      cases before with
      | nil =>
        cases hs
        exact h l' hl'
      | cons b before =>
        cases hs
        exact h l' (by simp [hl'])

/-- The next thing to read is too long. -/
def Overlong (p : ClientParams) (ls : List Bytes) (t : Bytes) : Prop :=
  (∃ l rest, ls = l :: rest ∧ frameLimit p < l.length) ∨ ls = [] ∧ frameLimit p < t.length

theorem Receives.stuck {ends : Bool} {ls ls' : List Bytes} {t t' : Bytes} {x : Option LineRead}
    (h : Receives p q ends ls t x ls' t') (hs : Overlong p ls t) :
    (∃ detail, x = some (.overlong detail)) ∧ ls' = ls ∧ t' = t := by
  cases h with
  | line hl =>
    rcases hs with ⟨_, _, he, hlong⟩ | ⟨he, -⟩
    · cases he
      omega
    · cases he
  | overlong detail _ => exact ⟨⟨detail, rfl⟩, rfl, rfl⟩
  | overlongTail detail _ => exact ⟨⟨detail, rfl⟩, rfl, rfl⟩
  | eof ht _ | waits ht _ =>
    rcases hs with ⟨_, _, he, -⟩ | ⟨-, hlong⟩
    · cases he
    · omega

/-- A line within the limit is read. -/
theorem Receives.short {ends : Bool} {l : Bytes} {ls ls' : List Bytes} {t t' : Bytes} {x : Option LineRead}
    (h : Receives p q ends (l :: ls) t x ls' t') (hl : l.length ≤ frameLimit p) :
    x = some (decodeLine q l) ∧ ls' = ls ∧ t' = t := by
  cases h with
  | line => exact ⟨rfl, rfl, rfl⟩
  | overlong _ hlong => omega

/-- It stays the next thing to read. -/
theorem stuck_of_overlong : ∀ (actions : List StdoutAction) {r : StreamReader UInt8},
    Overlong p (frameLines r.stream) (unfinished r.stream) → ∀ line ∈ linesOfCalls p q actions r,
      ∃ detail, line = some (.overlong detail)
  | [], _, _, _, h => by cases h
  | .feed :: actions, r, hr, line, h => stuck_of_overlong actions (r := r.feed) (by simpa using hr) line h
  | .read :: actions, r, hr, line, h => by
    obtain ⟨hx, hls, ht⟩ := (readLine_receives (p := p) (q := q) r).1.stuck hr
    rcases List.mem_cons.1 h with rfl | h
    · exact hx
    · exact stuck_of_overlong actions (by rwa [hls, ht]) line h

theorem isFraming_responseError (msg : Str) : (Failure.responseError msg).IsFraming := ⟨_, msg, rfl, .inl rfl⟩

theorem frameOf_eof (code : Int) : ∃ f, frameOf p (.eof code) = .error f ∧ f.IsFraming := by
  rw [frameOf]
  split
  · exact ⟨_, rfl, _, _, rfl, .inr (.inr rfl)⟩
  · exact ⟨_, rfl, _, _, rfl, .inr (.inl rfl)⟩

/-- A line within the limit on which nothing else is raised. -/
theorem fits_decodeLine {ends : Bool} {l : Bytes} (hl : l.length ≤ frameLimit p) (h : ∀ msg, q.loads l ≠ .raised msg) :
    Fits p q ends (some l) (some (frameOf p (decodeLine q l))) := by
  have hno : ∀ {v}, q.loads l = v → (∀ frame, v ≠ .value (.obj frame)) → ∀ frame, ¬ IsFrameLine p q l frame :=
    fun hv hne frame hf => hne frame (hv.symm.trans hf.2)
  unfold decodeLine
  cases hload : q.loads l with
  | raised msg => exact absurd hload (h msg)
  | malformed msg => exact .noFrame (hno hload (by simp)) (isFraming_responseError _)
  | value v =>
    cases v with
    | obj frame => exact .frame ⟨hl, hload⟩
    | null | bool | int | float | str | arr => exact .noFrame (hno hload (by simp)) (isFraming_responseError _)

/-- **Enough**: of a readable stream, every run is as it should be. -/
theorem faithful_of_readable : ∀ (actions : List StdoutAction) (r : StreamReader UInt8),
    Readable p q r.ends (frameLines r.stream) (unfinished r.stream) → ∀ (n : Nat) (line : Option LineRead),
      (linesOfCalls p q actions r)[n]? = some line →
        Fits p q r.ends (frameLines r.stream)[n]? (line.map (frameOf p))
  | [], _, _, n, line, hline => by simp [linesOfCalls] at hline
  | .feed :: actions, r, h, n, line, hline => by
    have ih := faithful_of_readable actions r.feed (by simpa using h) n line hline
    simpa using ih
  | .read :: actions, r, h, n, line, hline => by
    obtain ⟨hreceives, hends⟩ := readLine_receives (p := p) (q := q) r
    have ih := faithful_of_readable actions (readLine p q r).2
    rw [hends] at ih
    have hstuck := stuck_of_overlong (p := p) (q := q) (.read :: actions) (r := r)
    have hmem := List.mem_of_getElem? hline
    rw [linesOfCalls] at hline
    generalize frameLines r.stream = ls at *
    generalize unfinished r.stream = t at *
    generalize frameLines (readLine p q r).2.stream = ls' at *
    generalize unfinished (readLine p q r).2.stream = t' at *
    generalize (readLine p q r).1 = x at *
    cases hreceives with
    | @line l ls _ hl =>
      rw [readable_cons hl] at h
      cases n with
      | zero =>
        cases hline
        exact fits_decodeLine hl h.1
      | succ n => exact ih h.2 n line hline
    | @overlong l ls _ detail hlong =>
      obtain ⟨detail', rfl⟩ := hstuck (.inl ⟨l, ls, rfl, hlong⟩) line hmem
      cases n with
      | zero => exact .noFrame (fun frame hf => by have := hf.1; omega) (isFraming_responseError _)
      | succ n =>
        rw [List.getElem?_cons_succ]
        cases hl' : ls[n]? with
        | none => exact .over (isFraming_responseError _)
        | some l' =>
          exact .noFrame ((readable_long hlong).1 h l' (List.mem_of_getElem? hl')) (isFraming_responseError _)
    | overlongTail detail hlong =>
      obtain ⟨detail', rfl⟩ := hstuck (.inr ⟨rfl, hlong⟩) line hmem
      exact .over (isFraming_responseError _)
    | eof ht he =>
      cases n with
      | zero =>
        cases hline
        obtain ⟨code, hcode⟩ := Option.isSome_iff_exists.1 (readable_nil.1 h he ht)
        obtain ⟨f, hf, hframing⟩ := frameOf_eof (p := p) code
        rw [hcode, Option.map_some, Option.map_some, hf]
        exact .over hframing
      | succ n =>
        exact ih (readable_nil.2 fun he _ => readable_nil.1 h he ht) n line hline
    | waits ht he =>
      cases n with
      | zero =>
        cases hline
        exact .waits he
      | succ n => exact ih h n line hline

theorem length_linesOfCalls (n : Nat) : ∀ r : StreamReader UInt8,
    (linesOfCalls p q (List.replicate n .read) r).length = n := by
  induction n with
  | zero => exact fun _ => rfl
  | succ n ih => exact fun r => by rw [List.replicate_succ, linesOfCalls, List.length_cons, ih]

theorem Faithful.next {r : StreamReader UInt8} {l : Bytes} {ls : List Bytes} (h : Faithful p q r)
    (hls : frameLines r.stream = l :: ls) (hnext : frameLines (readLine p q r).2.stream = ls)
    (hends : (readLine p q r).2.ends = r.ends) : Faithful p q (readLine p q r).2 := by
  intro actions n line hline
  have hfits := h (.read :: actions) (n + 1) line hline
  rwa [hls, List.getElem?_cons_succ, ← hnext, ← hends] at hfits

/-- After a line that is too long every call is an error, so no later line is a frame. -/
theorem Faithful.nothing {r : StreamReader UInt8} {l : Bytes} {ls : List Bytes} (h : Faithful p q r)
    (hls : frameLines r.stream = l :: ls) (hlong : frameLimit p < l.length) :
    ∀ l' ∈ ls, ∀ frame, ¬ IsFrameLine p q l' frame := by
  intro l' hl'
  obtain ⟨n, hn⟩ := List.mem_iff_getElem?.1 hl'
  have hlength := length_linesOfCalls (p := p) (q := q) (n + 2) r
  obtain ⟨line, hline⟩ : ∃ line, (linesOfCalls p q (List.replicate (n + 2) .read) r)[n + 1]? = some line :=
    ⟨_, List.getElem?_eq_getElem (by omega)⟩
  have hfits := h _ _ line hline
  obtain ⟨detail, rfl⟩ := stuck_of_overlong _ (.inl ⟨l, ls, hls, hlong⟩) line (List.mem_of_getElem? hline)
  rw [hls, List.getElem?_cons_succ, hn] at hfits
  cases hfits with
  | noFrame hno _ => exact hno

/-- At the end of the stream a call is an error, so the process has exited. -/
theorem Faithful.exits {r : StreamReader UInt8} (h : Faithful p q r) (hls : frameLines r.stream = [])
    (he : r.ends = true) (ht : (unfinished r.stream).length ≤ frameLimit p) : q.returncode.isSome := by
  have hfits := h [.read] 0 (readLine p q r).1 rfl
  obtain ⟨hreceives, -⟩ := readLine_receives (p := p) (q := q) r
  rw [hls] at hfits hreceives
  generalize unfinished r.stream = t at *
  generalize frameLines (readLine p q r).2.stream = ls' at *
  generalize unfinished (readLine p q r).2.stream = t' at *
  generalize (readLine p q r).1 = x at *
  cases hreceives with
  | overlongTail _ hlong => omega
  | waits _ hno =>
    rw [hno] at he
    cases he
  | eof _ _ =>
    cases hcode : q.returncode with
    | some code => rfl
    | none =>
      rw [hcode] at hfits
      cases hfits with
      | waits hno =>
        rw [hno] at he
        cases he

/-- **And necessary**: calls one after the other tell. -/
theorem readable_of_faithful : ∀ (ls : List Bytes) {r : StreamReader UInt8}, frameLines r.stream = ls →
    Faithful p q r → Readable p q r.ends ls (unfinished r.stream)
  | [], r, hls, h => readable_nil.2 fun he ht => h.exits hls he ht
  | l :: ls, r, hls, h => by
    by_cases hlong : frameLimit p < l.length
    · exact (readable_long hlong).2 (h.nothing hls hlong)
    · have hl : l.length ≤ frameLimit p := Nat.le_of_not_lt hlong
      obtain ⟨hreceives, hends⟩ := readLine_receives (p := p) (q := q) r
      rw [hls] at hreceives
      obtain ⟨hline, hnext, hrest⟩ := hreceives.short hl
      have ih := readable_of_faithful ls hnext (h.next hls hnext hends)
      rw [hends, hrest] at ih
      refine (readable_cons hl).2 ⟨fun msg hmsg => ?_, ih⟩
      have hfits := h [.read] 0 (readLine p q r).1 rfl
      rw [hline, hls] at hfits
      simp only [decodeLine, hmsg, Option.map_some, frameOf] at hfits
      cases hfits with
      | noFrame _ hframing =>
        obtain ⟨_, _, hf, -⟩ := hframing
        cases hf

/-- **Framing**, for every stream, however it is cut into chunks and whenever they arrive. -/
theorem framing_iff (p : ClientParams) (q : Subprocess) (r : StreamReader UInt8) : Faithful p q r ↔
    Readable p q r.ends (frameLines r.stream) (unfinished r.stream) :=
  ⟨readable_of_faithful _ rfl, fun h actions n line => faithful_of_readable actions r h n line⟩

end Framing

section Sample

/-- A client with a limit of four bytes. -/
def shortClient : ClientParams := ⟨42, py "never", false, [], py "1.0", 4⟩

/-- `{}` is an object, bytes from 128 on are no UTF-8 here, and the rest is no JSON. -/
def sampleLoads (line : Bytes) : LoadedBytes :=
  if line = [123, 125] then .value (.obj [])
  else if line.any (128 ≤ ·) then .raised (py "'utf-8' codec can't decode byte 0xff in position 0: invalid start byte")
  else .malformed (py "Expecting value")

def sampleSubprocess : Subprocess := ⟨sampleLoads, some 0⟩

/-- A blank line, the byte 255, and an object, in two chunks. -/
def undecodableStream : StreamReader UInt8 := ⟨[], [[10, 255], [10, 123, 125, 10]], true⟩

/-- Five bytes, and an object. -/
def overlongStream : StreamReader UInt8 := ⟨[], [[97, 97, 97, 97, 97, 10], [123, 125, 10]], true⟩

/-- **Escapes**: invalid UTF-8 is raised as it is, and after a line that is too long the object on the next line is never
yielded. -/
theorem framing_escapes :
    frameLines undecodableStream.stream = [[255], [123, 125]] ∧
    (linesOfCalls shortClient sampleSubprocess [.read] undecodableStream).map (Option.map (frameOf shortClient)) =
      [some (.error (.raised ⟨.other, py "'utf-8' codec can't decode byte 0xff in position 0: invalid start byte"⟩))] ∧
    frameLines overlongStream.stream = [[97, 97, 97, 97, 97], [123, 125]] ∧
    sampleSubprocess.loads [123, 125] = .value (.obj []) ∧
    linesOfCalls shortClient sampleSubprocess [.read, .read, .read] overlongStream =
      [some (.overlong (overrunDetail true)), some (.overlong (overrunDetail true)),
        some (.overlong (overrunDetail true))] := by
  have hblank : readLine shortClient sampleSubprocess undecodableStream =
      (some (decodeLine sampleSubprocess [255]), ⟨[123, 125, 10], [], true⟩) := by
    have hread : undecodableStream.readuntil NEWLINE (frameLimit shortClient) =
        (.line [], ⟨[255], [[10, 123, 125, 10]], true⟩) := rfl
    rw [readLine_of hread]
    exact readLine_of (x := .line [255]) rfl
  have hoverrun : readLine shortClient sampleSubprocess ⟨[97, 97, 97, 97, 97, 10], [[123, 125, 10]], true⟩ =
      (some (.overlong (overrunDetail true)), ⟨[97, 97, 97, 97, 97, 10], [[123, 125, 10]], true⟩) :=
    readLine_of (x := .overrun true) rfl
  have hfirst : readLine shortClient sampleSubprocess overlongStream =
      (some (.overlong (overrunDetail true)), ⟨[97, 97, 97, 97, 97, 10], [[123, 125, 10]], true⟩) :=
    readLine_of (x := .overrun true) rfl
  refine ⟨by decide +kernel, ?_, by decide +kernel, rfl, ?_⟩
  · rw [linesOfCalls, hblank]
    rfl
  · simp only [linesOfCalls, hfirst, hoverrun]

end Sample

end RiverGang
