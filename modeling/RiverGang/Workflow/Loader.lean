import Mathlib.Data.List.TakeWhile
import RiverGang.Config.Defaults
import RiverGang.Lib.Lines

/-!
# The workflow file

`workflow/loader.py`. `_split_front_matter` cuts the text with `str.splitlines`, which ends a line at form feeds, NEL, the
Unicode separators and others too, and takes off newlines only before it compares with the fence. So a piece is taken for
the closing fence that is only the end of a line of the file.

* `segments`: the pieces of one line of the file, and which of them can be a fence (`Parts`).
* `scanFence_lines`: the scan over the pieces, said over the lines.
* `splitFrontMatter_iff`: the file is split by its lines exactly if no line before the closing fence ends in one of the
  other separators and `---` (`falseFence`).
-/

open Py

namespace RiverGang

/-! ## Lines -/

/-- Where `str.splitlines` ends a line. -/
def isLineBreak (c : CodePoint) : Bool :=
  (10 ≤ c.val && c.val ≤ 13) || (28 ≤ c.val && c.val ≤ 30) || c.val == 0x85 || c.val == 0x2028 || c.val == 0x2029

/-- `text.splitlines(keepends=True)`; a carriage return and a newline are one end. -/
def splitlines : Str → List Str
  | [] => []
  | c :: s =>
    if isLineBreak c && !(c == 13 && s.head? == some 10) then [c] :: splitlines s
    else
      match splitlines s with
      | [] => [[c]]
      | l :: ls => (c :: l) :: ls

def isNewline (c : CodePoint) : Bool := c == 13 || c == 10

/-- `line.rstrip("\r\n")` -/
def rstripNewlines (line : Str) : Str := (line.reverse.dropWhile isNewline).reverse

/-- What a file opened as text makes of its line ends. -/
def universalNewlines : Str → Str
  | [] => []
  | c :: s => if c = 13 then (if s.head? = some 10 then universalNewlines s else 10 :: universalNewlines s)
    else c :: universalNewlines s

/-! ## The loader -/

/-- What `load_workflow` raises: the errors of `workflow/errors.py`, and what it does not catch. -/
inductive WorkflowError
  | missingWorkflowFile (msg : Str)
  | workflowParseError (msg : Str)
  | frontMatterNotAMap (msg : Str)
  | raised (exc : Exn)

structure WorkflowDefinition where
  config : Entries
  promptTemplate : Str

def FRONT_MATTER_FENCE : Str := py "---"

/-- The loop over the lines after the first; `before` are those it has passed. -/
def scanFence (before : List Str) : List Str → Option (Str × Str)
  | [] => none
  | line :: after =>
    if rstripNewlines line = FRONT_MATTER_FENCE then some (before.flatten, after.flatten)
    else scanFence (before ++ [line]) after

/-- `_split_front_matter` -/
def splitFrontMatter (text : Str) : Except WorkflowError (Option Str × Str) :=
  match splitlines text with
  | [] => .ok (none, [])
  | first :: rest =>
    if rstripNewlines first ≠ FRONT_MATTER_FENCE then .ok (none, text)
    else
      match scanFence [] rest with
      | some (frontMatter, body) => .ok (some frontMatter, body)
      | none => .error (.workflowParseError
          (py "WORKFLOW.md begins with '---' but is missing the closing front-matter fence"))

/-- What `yaml.safe_load` comes to: a value, a `YAMLError` with its text, or another exception, such as the `ValueError`
of a date that there is not. -/
inductive LoadedYaml
  | value (decoded : Yaml)
  | yamlError (exc : Str)
  | raised (exc : Exn)

/-- `_parse_front_matter`; `safeLoad` is `yaml.safe_load`. -/
def parseFrontMatter (safeLoad : Str → LoadedYaml) (frontMatterText : Str) : Except WorkflowError Entries :=
  match safeLoad frontMatterText with
  | .raised exc => .error (.raised exc)
  | .yamlError exc => .error (.workflowParseError (py "invalid YAML front matter: " ++ exc))
  | .value .null => .ok []
  | .value (.map entries) => .ok entries
  | .value decoded => .error (.frontMatterNotAMap
      (py "YAML front matter must decode to a map, got " ++ decoded.typeName))

/-- What `read_text` comes to: the decoded bytes, an `OSError` with its text, or another exception, such as
`UnicodeDecodeError`. -/
inductive FileRead
  | content (raw : Str)
  | fileNotFound
  | osError (exc : Str)
  | raised (exc : Exn)

/-- `load_workflow` -/
def loadWorkflow (safeLoad : Str → LoadedYaml) (path : Str) (read : FileRead) :
    Except WorkflowError WorkflowDefinition :=
  match read with
  | .fileNotFound => .error (.missingWorkflowFile path)
  | .osError exc => .error (.missingWorkflowFile (path ++ py ": " ++ exc))
  | .raised exc => .error (.raised exc)
  | .content raw => do
    let (frontMatterText, body) ← splitFrontMatter (universalNewlines raw)
    let config ←
      match frontMatterText with
      | none => pure []
      | some frontMatterText => parseFrontMatter safeLoad frontMatterText
    pure ⟨config, strip body⟩

/-- A text that was read has no carriage returns. -/
theorem cr_not_mem_universalNewlines : ∀ raw : Str, 13 ∉ universalNewlines raw
  | [] => by simp [universalNewlines]
  | c :: raw => by
    have ih := cr_not_mem_universalNewlines raw
    unfold universalNewlines
    split_ifs with hc hn
    · exact ih
    · simp [ih]
    · simp [ih, Ne.symm hc]

/-- Then `splitlines` cuts at each separator. -/
theorem splitlines_eq : ∀ {text : Str}, 13 ∉ text → splitlines text = Lines.cut isLineBreak text
  | [], _ => rfl
  | c :: s, h => by
    have hc : (c == 13) = false := by
      simp only [List.mem_cons, not_or] at h
      simpa using Ne.symm h.1
    have ih : splitlines s = Lines.cut isLineBreak s := splitlines_eq fun hs => h (by simp [hs])
    rw [splitlines, Lines.cut, ih, hc]
    simp only [Bool.false_and, Bool.not_false, Bool.and_true]
    cases isLineBreak c <;> cases Lines.cut isLineBreak s <;> rfl

/-! ## Lines of the file -/

/-- The lines of the file, each with its newline. -/
def physicalLines (text : Str) : List Str := Lines.cut (· == 10) text

/-- A line without its newline. -/
def lineContent (line : Str) : Str := if line.getLast? = some 10 then line.dropLast else line

/-- The line ends in a separator that is no newline, and the fence. -/
def endsInFence (line : Str) : Bool :=
  let t := lineContent line
  t.drop (t.length - 3) == FRONT_MATTER_FENCE && (t.take (t.length - 3)).getLast?.any isLineBreak

/-- There is front matter, and one of its lines ends in another separator and the fence. -/
def falseFence (text : Str) : Bool :=
  match physicalLines text with
  | [] => false
  | first :: rest => lineContent first == FRONT_MATTER_FENCE &&
      (rest.takeWhile fun line => lineContent line != FRONT_MATTER_FENCE).any endsInFence

/-- The front matter is what stands between the first line and the next that is a fence, the body what follows it. -/
structure SplitsByLines (text : Str) (r : Except WorkflowError (Option Str × Str)) : Prop where
  /-- no front matter without a fence on the first line -/
  bodyOnly : (∀ first rest, physicalLines text = first :: rest → lineContent first ≠ FRONT_MATTER_FENCE) →
    r = .ok (none, text)
  /-- up to the first line that is a fence -/
  split : ∀ first before close after, physicalLines text = first :: (before ++ close :: after) →
    lineContent first = FRONT_MATTER_FENCE → (∀ line ∈ before, lineContent line ≠ FRONT_MATTER_FENCE) →
    lineContent close = FRONT_MATTER_FENCE → r = .ok (some before.flatten, after.flatten)
  /-- nothing is lost, and no fence is left inside -/
  lossless : ∀ frontMatter body, r = .ok (some frontMatter, body) →
    (∃ close, text = FRONT_MATTER_FENCE ++ 10 :: (frontMatter ++ (close ++ body)) ∧
      (close = FRONT_MATTER_FENCE ++ [10] ∨ close = FRONT_MATTER_FENCE ∧ body = [])) ∧
    ∀ line ∈ physicalLines frontMatter, lineContent line ≠ FRONT_MATTER_FENCE
  /-- an error exactly if no line closes the front matter -/
  unclosed : (∃ msg, r = .error (.workflowParseError msg)) ↔ ∃ first rest, physicalLines text = first :: rest ∧
    lineContent first = FRONT_MATTER_FENCE ∧ ∀ line ∈ rest, lineContent line ≠ FRONT_MATTER_FENCE

/-! ## Pieces of a line -/

/-- A line of the file: up to its last other separator, the rest, and its newline. -/
structure Parts (line x t u : Str) : Prop where
  eq : line = x ++ t ++ u
  ne : line ≠ []
  head : x = [] ∨ Lines.Ends isLineBreak x
  head_plain : ∀ c ∈ x, c ≠ 10 ∧ c ≠ 13
  tail : ∀ c ∈ t, isLineBreak c = false
  newline : u = [] ∨ u = [10]

theorem exists_parts {line : Str} (h : Lines.Line (· == 10) line) (hcr : 13 ∉ line) : ∃ x t u, Parts line x t u := by
  obtain ⟨hne, s, u, rfl, hs, hu⟩ := h
  obtain ⟨x, t, rfl, hx, ht⟩ := Lines.exists_last_piece isLineBreak s
  refine ⟨x, t, u, rfl, hne, hx, fun c hc => ⟨?_, ?_⟩, ht, hu.imp_right ?_⟩
  · simpa using hs c (by simp [hc])
  · rintro rfl
    exact hcr (by simp [hc])
  · rintro ⟨c, rfl, hc⟩
    rw [beq_iff_eq.1 hc]

theorem plain_of_not_break {t : Str} (h : ∀ c ∈ t, isLineBreak c = false) : 10 ∉ t ∧ 13 ∉ t :=
  ⟨fun hc => absurd (h 10 hc) (by decide), fun hc => absurd (h 13 hc) (by decide)⟩

theorem rstripNewlines_of_plain {t : Str} (hn : 10 ∉ t) (hr : 13 ∉ t) (u : Str) (hu : u = [] ∨ u = [10]) :
    rstripNewlines (t ++ u) = t := by
  have ht : t.reverse.dropWhile isNewline = t.reverse := by
    cases h : t.reverse with
    | nil => rfl
    | cons c s =>
      have hc : c ∈ t := by
        rw [← List.mem_reverse, h]
        simp
      have hnl : isNewline c = false := by
        simp only [isNewline, Bool.or_eq_false_iff, beq_eq_false_iff_ne]
        exact ⟨fun he => hr (he ▸ hc), fun he => hn (he ▸ hc)⟩
      simp [hnl]
  unfold rstripNewlines
  rcases hu with rfl | rfl
  · rw [List.append_nil, ht, List.reverse_reverse]
  · rw [List.reverse_append, List.reverse_singleton, List.singleton_append, List.dropWhile_cons,
      if_pos (by decide), ht, List.reverse_reverse]

theorem fence_not_break : ∀ c ∈ FRONT_MATTER_FENCE, isLineBreak c = false := by
  intro c hc
  have h : c = 45 := by simpa [FRONT_MATTER_FENCE, py] using hc
  rw [h]
  decide

namespace Parts

variable {line x t u : Str} (h : Parts line x t u)

include h

theorem content : lineContent line = x ++ t := by
  have hlast : (x ++ t).getLast? ≠ some 10 := by
    intro hl
    have hmem := List.mem_of_getLast? hl
    rcases List.mem_append.1 hmem with hx | ht
    · exact (h.head_plain 10 hx).1 rfl
    · exact (plain_of_not_break h.tail).1 ht
  unfold lineContent
  rcases h.newline with hu | hu
  · rw [h.eq, hu, List.append_nil, if_neg hlast]
  · rw [h.eq, hu, if_pos (by simp), List.dropLast_concat]

/-- The pieces up to the last separator, and the last piece. -/
theorem pieces : Lines.cut isLineBreak line = Lines.cut isLineBreak x ++ if t ++ u = [] then [] else [t ++ u] := by
  rw [h.eq, List.append_assoc, Lines.cut_append_of h.head]
  congr 1
  split_ifs with hne
  · rw [hne]
    rfl
  · refine Lines.cut_piece h.tail ?_ hne
    rcases h.newline with hu | hu
    · exact .inl hu
    · exact .inr ⟨10, hu⟩

/-- Pieces that end in another separator are no fences. -/
theorem head_ne_fence : ∀ piece ∈ Lines.cut isLineBreak x, rstripNewlines piece ≠ FRONT_MATTER_FENCE := by
  intro piece hp hf
  obtain ⟨y, c, rfl, hc⟩ := Lines.ends_of_mem_cut h.head piece hp
  have hx : ∀ d ∈ y ++ [c], d ∈ x := by
    intro d hd
    rw [← Lines.flatten_cut isLineBreak x]
    exact List.mem_flatten.2 ⟨_, hp, hd⟩
  have hplain : 10 ∉ y ++ [c] ∧ 13 ∉ y ++ [c] :=
    ⟨fun hd => (h.head_plain 10 (hx 10 hd)).1 rfl, fun hd => (h.head_plain 13 (hx 13 hd)).2 rfl⟩
  have hstrip := rstripNewlines_of_plain hplain.1 hplain.2 [] (.inl rfl)
  rw [List.append_nil, hf] at hstrip
  have hbreak := fence_not_break c (by rw [hstrip]; simp)
  rw [hc] at hbreak
  cases hbreak

theorem rstrip_tail : rstripNewlines (t ++ u) = t :=
  rstripNewlines_of_plain (plain_of_not_break h.tail).1 (plain_of_not_break h.tail).2 u h.newline

theorem content_eq_fence_iff : lineContent line = FRONT_MATTER_FENCE ↔ x = [] ∧ t = FRONT_MATTER_FENCE := by
  rw [h.content]
  constructor
  · exact fun he => Lines.last_piece_unique (y := []) h.head (.inl rfl) h.tail fence_not_break he
  · rintro ⟨rfl, rfl⟩
    rfl

theorem endsInFence_iff : endsInFence line = true ↔ x ≠ [] ∧ t = FRONT_MATTER_FENCE := by
  unfold endsInFence
  rw [h.content, Bool.and_eq_true, beq_iff_eq]
  constructor
  · rintro ⟨hdrop, htake⟩
    cases hl : ((x ++ t).take ((x ++ t).length - 3)).getLast? with
    | none =>
      rw [hl] at htake
      cases htake
    | some c =>
      rw [hl, Option.any_some] at htake
      obtain ⟨y, hy⟩ := List.getLast?_eq_some_iff.1 hl
      have heq : x ++ t = (y ++ [c]) ++ FRONT_MATTER_FENCE := by
        rw [← hy, ← hdrop, List.take_append_drop]
      obtain ⟨rfl, rfl⟩ := Lines.last_piece_unique h.head (.inr (.concat htake)) h.tail fence_not_break heq
      exact ⟨by simp, rfl⟩
  · rintro ⟨hx, rfl⟩
    obtain ⟨y, c, rfl, hc⟩ := h.head.resolve_left hx
    have hlen : (y ++ [c] ++ FRONT_MATTER_FENCE).length - 3 = (y ++ [c]).length := by
      simp [FRONT_MATTER_FENCE, py]
    rw [hlen, List.drop_left, List.take_left]
    simp [hc]

end Parts

/-! ## The scan -/

theorem scanFence_none : ∀ {before pieces : List Str},
    (∀ piece ∈ pieces, rstripNewlines piece ≠ FRONT_MATTER_FENCE) → scanFence before pieces = none
  | _, [], _ => rfl
  | before, piece :: pieces, h => by
    rw [scanFence, if_neg (h piece (by simp))]
    exact scanFence_none fun p hp => h p (by simp [hp])

theorem scanFence_hit : ∀ {before passed after : List Str} {piece : Str},
    (∀ p ∈ passed, rstripNewlines p ≠ FRONT_MATTER_FENCE) → rstripNewlines piece = FRONT_MATTER_FENCE →
      scanFence before (passed ++ piece :: after) = some (before.flatten ++ passed.flatten, after.flatten)
  | before, [], after, piece, _, hp => by
    rw [List.nil_append, scanFence, if_pos hp]
    simp
  | before, p :: passed, after, piece, h, hp => by
    rw [List.cons_append, scanFence, if_neg (h p (by simp)), scanFence_hit (fun q hq => h q (by simp [hq])) hp]
    simp

/-- A line of the file that the scan passes. -/
theorem pieces_ne_fence {line : Str} (h : Lines.Line (· == 10) line) (hcr : 13 ∉ line)
    (hc : lineContent line ≠ FRONT_MATTER_FENCE) (he : endsInFence line = false) :
    ∀ piece ∈ Lines.cut isLineBreak line, rstripNewlines piece ≠ FRONT_MATTER_FENCE := by
  obtain ⟨x, t, u, hp⟩ := exists_parts h hcr
  have ht : t ≠ FRONT_MATTER_FENCE := by
    rintro rfl
    by_cases hx : x = []
    · exact hc (hp.content_eq_fence_iff.2 ⟨hx, rfl⟩)
    · rw [hp.endsInFence_iff.2 ⟨hx, rfl⟩] at he
      cases he
  intro piece hpiece
  rw [hp.pieces] at hpiece
  rcases List.mem_append.1 hpiece with hpiece | hpiece
  · exact hp.head_ne_fence piece hpiece
  · split_ifs at hpiece
    · simp at hpiece
    · rw [List.mem_singleton.1 hpiece, hp.rstrip_tail]
      exact ht

/-- A line that is a fence is one piece. -/
theorem pieces_of_fence {line : Str} (h : Lines.Line (· == 10) line) (hcr : 13 ∉ line)
    (hc : lineContent line = FRONT_MATTER_FENCE) :
    Lines.cut isLineBreak line = [line] ∧ rstripNewlines line = FRONT_MATTER_FENCE := by
  obtain ⟨x, t, u, hp⟩ := exists_parts h hcr
  obtain ⟨rfl, rfl⟩ := hp.content_eq_fence_iff.1 hc
  have hne : FRONT_MATTER_FENCE ++ u ≠ [] := by simp [FRONT_MATTER_FENCE, py]
  have heq : line = FRONT_MATTER_FENCE ++ u := hp.eq
  refine ⟨?_, heq ▸ hp.rstrip_tail⟩
  rw [hp.pieces, if_neg hne, ← heq]
  rfl

/-- A line that ends in a fence is taken for one at its end, after a separator that is no newline. -/
theorem pieces_of_endsInFence {line : Str} (h : Lines.Line (· == 10) line) (hcr : 13 ∉ line)
    (he : endsInFence line = true) : ∃ passed piece y c, Lines.cut isLineBreak line = passed ++ [piece] ∧
      (∀ p ∈ passed, rstripNewlines p ≠ FRONT_MATTER_FENCE) ∧ rstripNewlines piece = FRONT_MATTER_FENCE ∧
      passed.flatten = y ++ [c] ∧ c ≠ 10 := by
  obtain ⟨x, t, u, hp⟩ := exists_parts h hcr
  obtain ⟨hx, rfl⟩ := hp.endsInFence_iff.1 he
  have hne : FRONT_MATTER_FENCE ++ u ≠ [] := by simp [FRONT_MATTER_FENCE, py]
  obtain ⟨y, c, hy, -⟩ := hp.head.resolve_left hx
  refine ⟨Lines.cut isLineBreak x, FRONT_MATTER_FENCE ++ u, y, c, ?_, hp.head_ne_fence, hp.rstrip_tail, ?_, ?_⟩
  · rw [hp.pieces, if_neg hne]
  · rw [Lines.flatten_cut, hy]
  · exact (hp.head_plain c (by rw [hy]; simp)).1

/-- The first piece of a line that is no fence is none either. -/
theorem head_piece_ne_fence {line : Str} (h : Lines.Line (· == 10) line) (hcr : 13 ∉ line)
    (hc : lineContent line ≠ FRONT_MATTER_FENCE) :
    ∃ piece pieces, Lines.cut isLineBreak line = piece :: pieces ∧ rstripNewlines piece ≠ FRONT_MATTER_FENCE := by
  obtain ⟨x, t, u, hp⟩ := exists_parts h hcr
  cases hx : Lines.cut isLineBreak x with
  | nil =>
    obtain rfl := Lines.cut_eq_nil.1 hx
    have hne : t ++ u ≠ [] := fun hnil => hp.ne (by rw [hp.eq, List.append_assoc, hnil]; rfl)
    refine ⟨t ++ u, [], by rw [hp.pieces, hx, if_neg hne]; rfl, ?_⟩
    rw [hp.rstrip_tail]
    exact fun ht => hc (hp.content_eq_fence_iff.2 ⟨rfl, ht⟩)
  | cons piece pieces =>
    exact ⟨piece, _, by rw [hp.pieces, hx]; rfl, hp.head_ne_fence piece (by simp [hx])⟩

/-! ## The file by its lines -/

section Text

variable {text : Str}

theorem line_of_mem {line : Str} (h : line ∈ physicalLines text) : Lines.Line (· == 10) line :=
  Lines.line_of_mem_cut line h

theorem cr_not_mem_line (hcr : 13 ∉ text) {line : Str} (h : line ∈ physicalLines text) : 13 ∉ line := by
  intro hc
  apply hcr
  rw [← Lines.flatten_cut (· == 10) text]
  exact List.mem_flatten.2 ⟨line, h, hc⟩

/-- `splitlines` cuts each line of the file further. -/
theorem splitlines_eq_flatMap (hcr : 13 ∉ text) :
    splitlines text = (physicalLines text).flatMap (Lines.cut isLineBreak) := by
  rw [splitlines_eq hcr]
  refine Lines.cut_refine (fun c hc => ?_) text
  rw [beq_iff_eq.1 hc]
  decide

theorem fence_line {line : Str} (h : Lines.Line (· == 10) line) (hcr : 13 ∉ line)
    (hc : lineContent line = FRONT_MATTER_FENCE) :
    line = FRONT_MATTER_FENCE ++ [10] ∨ line = FRONT_MATTER_FENCE ∧ ¬ Lines.Ends (· == 10) line := by
  obtain ⟨x, t, u, hp⟩ := exists_parts h hcr
  obtain ⟨rfl, rfl⟩ := hp.content_eq_fence_iff.1 hc
  rcases hp.newline with rfl | rfl
  · refine .inr ⟨by simpa using hp.eq, ?_⟩
    rintro ⟨y, c, hy, hc10⟩
    have hline : line = FRONT_MATTER_FENCE := by simpa using hp.eq
    have hc' := fence_not_break c (by rw [← hline, hy]; simp)
    rw [beq_iff_eq.1 hc10] at hc'
    exact absurd hc' (by decide)
  · exact .inl hp.eq

theorem flatten_flatMap_cut (ls : List Str) : (ls.flatMap (Lines.cut isLineBreak)).flatten = ls.flatten := by
  induction ls with
  | nil => rfl
  | cons l ls ih => rw [List.flatMap_cons, List.flatten_append, ih, Lines.flatten_cut, List.flatten_cons]

/-- No fence among the pieces of the lines that the scan passes. -/
theorem flatMap_ne_fence {ls : List Str} (hl : ∀ line ∈ ls, Lines.Line (· == 10) line ∧ 13 ∉ line)
    (hc : ∀ line ∈ ls, lineContent line ≠ FRONT_MATTER_FENCE) (he : ∀ line ∈ ls, endsInFence line = false) :
    ∀ piece ∈ ls.flatMap (Lines.cut isLineBreak), rstripNewlines piece ≠ FRONT_MATTER_FENCE := by
  intro piece hp
  obtain ⟨line, hline, hp⟩ := List.mem_flatMap.1 hp
  exact pieces_ne_fence (hl line hline).1 (hl line hline).2 (hc line hline) (he line hline) piece hp

/-! ## The three outcomes -/

/-- The lines of a text, with what is known of them. -/
theorem lines_of_eq (hcr : 13 ∉ text) {ls : List Str} (h : physicalLines text = ls) :
    ∀ line ∈ ls, Lines.Line (· == 10) line ∧ 13 ∉ line := by
  subst h
  exact fun line hline => ⟨line_of_mem hline, cr_not_mem_line hcr hline⟩

/-- The first line that is a fence, or none. -/
theorem exists_close (rest : List Str) : (∀ line ∈ rest, lineContent line ≠ FRONT_MATTER_FENCE) ∨
    ∃ before close after, rest = before ++ close :: after ∧
      (∀ line ∈ before, lineContent line ≠ FRONT_MATTER_FENCE) ∧ lineContent close = FRONT_MATTER_FENCE := by
  induction rest with
  | nil => exact .inl (by simp)
  | cons line rest ih =>
    by_cases hl : lineContent line = FRONT_MATTER_FENCE
    · exact .inr ⟨[], line, rest, rfl, by simp, hl⟩
    · rcases ih with ih | ⟨before, close, after, rfl, hb, hc⟩
      · exact .inl (by simpa [hl] using ih)
      · exact .inr ⟨line :: before, close, after, rfl, by simpa [hl] using hb, hc⟩

/-- It is determined. -/
theorem close_unique : ∀ {before before' after after' : List Str} {close close' : Str},
    before ++ close :: after = before' ++ close' :: after' →
    (∀ line ∈ before, lineContent line ≠ FRONT_MATTER_FENCE) → lineContent close = FRONT_MATTER_FENCE →
    (∀ line ∈ before', lineContent line ≠ FRONT_MATTER_FENCE) → lineContent close' = FRONT_MATTER_FENCE →
    before = before' ∧ close = close' ∧ after = after'
  | [], [], _, _, _, _, h, _, _, _, _ => by
    cases h
    exact ⟨rfl, rfl, rfl⟩
  | [], line :: _, _, _, _, _, h, _, hc, hb', _ => by
    cases h
    exact absurd hc (hb' _ (by simp))
  | line :: _, [], _, _, _, _, h, hb, _, _, hc' => by
    cases h
    exact absurd hc' (hb _ (by simp))
  | line :: before, line' :: before', _, _, _, _, h, hb, hc, hb', hc' => by
    rw [List.cons_append, List.cons_append, List.cons.injEq] at h
    obtain ⟨rfl, rfl, rfl⟩ := close_unique h.2 (fun l hl => hb l (by simp [hl])) hc
      (fun l hl => hb' l (by simp [hl])) hc'
    exact ⟨by rw [h.1], rfl, rfl⟩

/-- What `falseFence` looks through are the lines before the first fence. -/
theorem takeWhile_close {before after : List Str} {close : Str}
    (hb : ∀ line ∈ before, lineContent line ≠ FRONT_MATTER_FENCE) (hc : lineContent close = FRONT_MATTER_FENCE) :
    (before ++ close :: after).takeWhile (fun line => lineContent line != FRONT_MATTER_FENCE) = before := by
  rw [List.takeWhile_append_of_pos (by simpa using hb), List.takeWhile_cons_of_neg (by simp [hc]), List.append_nil]

/-- A first line that is no fence: no front matter. -/
theorem splitsByLines_bodyOnly (h : ∀ first rest, physicalLines text = first :: rest →
    lineContent first ≠ FRONT_MATTER_FENCE) : SplitsByLines text (.ok (none, text)) where
  bodyOnly _ := rfl
  split first before close after he hf _ _ := absurd hf (h first _ he)
  lossless frontMatter body he := by simp at he
  unclosed := by
    constructor
    · rintro ⟨msg, hm⟩
      cases hm
    · rintro ⟨first, rest, he, hf, -⟩
      exact absurd hf (h first rest he)

/-- No line closes the front matter. -/
theorem splitsByLines_unclosed {first : Str} {rest : List Str} {msg : Str} (he : physicalLines text = first :: rest)
    (hf : lineContent first = FRONT_MATTER_FENCE) (hr : ∀ line ∈ rest, lineContent line ≠ FRONT_MATTER_FENCE) :
    SplitsByLines text (.error (.workflowParseError msg)) where
  bodyOnly h := absurd hf (h first rest he)
  split first' before close after he' _ _ hc := by
    rw [he, List.cons.injEq] at he'
    exact absurd hc (hr close (by rw [he'.2]; simp))
  lossless frontMatter body h := by cases h
  unclosed := ⟨fun _ => ⟨first, rest, he, hf, hr⟩, fun _ => ⟨msg, rfl⟩⟩

/-- A line closes the front matter. -/
theorem splitsByLines_split (hcr : 13 ∉ text) {first close : Str} {before after : List Str}
    (he : physicalLines text = first :: (before ++ close :: after)) (hf : lineContent first = FRONT_MATTER_FENCE)
    (hb : ∀ line ∈ before, lineContent line ≠ FRONT_MATTER_FENCE) (hc : lineContent close = FRONT_MATTER_FENCE) :
    SplitsByLines text (.ok (some before.flatten, after.flatten)) where
  bodyOnly h := absurd hf (h first _ he)
  split first' before' close' after' he' _ hb' hc' := by
    rw [he, List.cons.injEq] at he'
    obtain ⟨rfl, -, rfl⟩ := close_unique he'.2 hb hc hb' hc'
    rfl
  lossless frontMatter body h := by
    simp only [Except.ok.injEq, Prod.mk.injEq, Option.some.injEq] at h
    obtain ⟨rfl, rfl⟩ := h
    have hlines := lines_of_eq hcr he
    have hends : ∀ line ∈ before, Lines.Line (· == 10) line ∧ Lines.Ends (· == 10) line := by
      intro line hline
      obtain ⟨a, b, rfl⟩ := List.append_of_mem hline
      exact ⟨(hlines line (by simp)).1, Lines.ends_of_cut_eq (a := first :: a) (b := b ++ close :: after)
        (by rw [← physicalLines, he]; simp) (by simp)⟩
    have hfirst : first = FRONT_MATTER_FENCE ++ [10] := by
      refine (fence_line (hlines first (by simp)).1 (hlines first (by simp)).2 hf).resolve_right fun h => h.2 ?_
      exact Lines.ends_of_cut_eq (a := []) he (by simp)
    have htext : text = first ++ (before.flatten ++ (close ++ after.flatten)) := by
      rw [← Lines.flatten_cut (· == 10) text, ← physicalLines, he]
      simp
    refine ⟨⟨close, by rw [htext, hfirst]; simp, ?_⟩, ?_⟩
    · refine (fence_line (hlines close (by simp)).1 (hlines close (by simp)).2 hc).imp_right fun h => ⟨h.1, ?_⟩
      by_contra hne
      refine h.2 (Lines.ends_of_cut_eq (a := first :: before) (b := after) (by rw [← physicalLines, he]; simp) ?_)
      rintro rfl
      exact hne rfl
    · intro line hline
      rw [physicalLines, Lines.cut_flatten hends] at hline
      exact hb line hline
  unclosed := by
    constructor
    · rintro ⟨msg, hm⟩
      cases hm
    · rintro ⟨first', rest, he', -, hr⟩
      rw [he, List.cons.injEq] at he'
      exact absurd hc (hr close (by rw [← he'.2]; simp))

/-! ## The scan over the lines -/

theorem splitFrontMatter_bodyOnly (hcr : 13 ∉ text) (h : ∀ first rest, physicalLines text = first :: rest →
    lineContent first ≠ FRONT_MATTER_FENCE) : splitFrontMatter text = .ok (none, text) := by
  unfold splitFrontMatter
  rw [splitlines_eq_flatMap hcr]
  cases he : physicalLines text with
  | nil =>
    obtain rfl := Lines.cut_eq_nil.1 he
    rfl
  | cons first rest =>
    obtain ⟨hl, hr⟩ := lines_of_eq hcr he first (by simp)
    obtain ⟨piece, pieces, hp, hne⟩ := head_piece_ne_fence hl hr (h first rest he)
    rw [List.flatMap_cons, hp, List.cons_append]
    dsimp only
    rw [if_pos hne]

/-- After a fence on the first line, the scan goes over the pieces of the others. -/
theorem splitFrontMatter_fence (hcr : 13 ∉ text) {first : Str} {rest : List Str}
    (he : physicalLines text = first :: rest) (hf : lineContent first = FRONT_MATTER_FENCE) :
    splitFrontMatter text = match scanFence [] (rest.flatMap (Lines.cut isLineBreak)) with
      | some (frontMatter, body) => .ok (some frontMatter, body)
      | none => .error (.workflowParseError
          (py "WORKFLOW.md begins with '---' but is missing the closing front-matter fence")) := by
  obtain ⟨hl, hr⟩ := lines_of_eq hcr he first (by simp)
  obtain ⟨hp, hs⟩ := pieces_of_fence hl hr hf
  unfold splitFrontMatter
  rw [splitlines_eq_flatMap hcr, he, List.flatMap_cons, hp, List.singleton_append]
  dsimp only
  rw [if_neg (not_not.2 hs)]

/-- Where no line before the closing fence ends in a false one, the text is split by its lines. -/
theorem splitsByLines_of_noFalseFence (hcr : 13 ∉ text) (h : falseFence text = false) :
    SplitsByLines text (splitFrontMatter text) := by
  by_cases hbody : ∀ first rest, physicalLines text = first :: rest → lineContent first ≠ FRONT_MATTER_FENCE
  · rw [splitFrontMatter_bodyOnly hcr hbody]
    exact splitsByLines_bodyOnly hbody
  simp only [not_forall, not_not] at hbody
  obtain ⟨first, rest, he, hf⟩ := hbody
  have hlines := lines_of_eq hcr he
  have hnone : ∀ line ∈ rest.takeWhile (fun line => lineContent line != FRONT_MATTER_FENCE),
      endsInFence line = false := by
    simpa [falseFence, he, hf] using h
  rw [splitFrontMatter_fence hcr he hf]
  rcases exists_close rest with hr | ⟨before, close, after, rfl, hb, hc⟩
  · rw [List.takeWhile_eq_self_iff.2 (by simpa using hr)] at hnone
    rw [scanFence_none (flatMap_ne_fence (fun l hl => hlines l (by simp [hl])) hr hnone)]
    exact splitsByLines_unclosed he hf hr
  · rw [takeWhile_close hb hc] at hnone
    obtain ⟨hcl, hccr⟩ := hlines close (by simp)
    obtain ⟨hp, hs⟩ := pieces_of_fence hcl hccr hc
    rw [List.flatMap_append, List.flatMap_cons, hp, List.singleton_append,
      scanFence_hit (flatMap_ne_fence (fun l hl => hlines l (by simp [hl])) hb hnone) hs, flatten_flatMap_cut,
      flatten_flatMap_cut]
    exact splitsByLines_split hcr he hf hb hc

/-- The first line that ends in a false fence. -/
theorem exists_endsInFence {ls : List Str} (h : ls.any endsInFence = true) :
    ∃ a line b, ls = a ++ line :: b ∧ (∀ l ∈ a, endsInFence l = false) ∧ endsInFence line = true := by
  induction ls with
  | nil => simp at h
  | cons l ls ih =>
    cases hl : endsInFence l with
    | true => exact ⟨[], l, ls, rfl, by simp, hl⟩
    | false =>
      rw [List.any_cons, hl, Bool.false_or] at h
      obtain ⟨a, line, b, rfl, ha, hline⟩ := ih h
      exact ⟨l :: a, line, b, rfl, by simpa [hl] using ha, hline⟩

/-- A false fence closes the front matter in the middle of a line. -/
theorem splitFrontMatter_of_falseFence (hcr : 13 ∉ text) (h : falseFence text = true) :
    ∃ y c body, splitFrontMatter text = .ok (some (y ++ [c]), body) ∧ c ≠ 10 := by
  unfold falseFence at h
  cases he : physicalLines text with
  | nil => simp [he] at h
  | cons first rest =>
    simp only [he, Bool.and_eq_true, beq_iff_eq] at h
    obtain ⟨hf, hany⟩ := h
    have hlines := lines_of_eq hcr he
    obtain ⟨a, line, b, htake, ha, hline⟩ := exists_endsInFence hany
    have hrest : rest = a ++ line :: (b ++ rest.dropWhile fun line => lineContent line != FRONT_MATTER_FENCE) := by
      conv_lhs => rw [← List.takeWhile_append_dropWhile
        (p := fun line => lineContent line != FRONT_MATTER_FENCE) (l := rest), htake]
      simp
    have hne : ∀ l ∈ a, lineContent l ≠ FRONT_MATTER_FENCE := by
      intro l hl
      have hmem : l ∈ rest.takeWhile fun line => lineContent line != FRONT_MATTER_FENCE := by
        rw [htake]
        simp [hl]
      have himp := List.mem_takeWhile_imp hmem
      exact bne_iff_ne.1 himp
    generalize b ++ rest.dropWhile (fun line => lineContent line != FRONT_MATTER_FENCE) = after at hrest
    subst hrest
    obtain ⟨hl, hr⟩ := hlines line (by simp)
    obtain ⟨passed, piece, y, c, hp, hpassed, hpiece, hy, hc⟩ := pieces_of_endsInFence hl hr hline
    have hskip : ∀ p ∈ a.flatMap (Lines.cut isLineBreak) ++ passed, rstripNewlines p ≠ FRONT_MATTER_FENCE := by
      intro p hpm
      rcases List.mem_append.1 hpm with hpm | hpm
      · exact flatMap_ne_fence (fun l hl => hlines l (by simp [hl])) hne ha p hpm
      · exact hpassed p hpm
    refine ⟨a.flatten ++ y, c, after.flatten, ?_, hc⟩
    rw [splitFrontMatter_fence hcr he hf, List.flatMap_append, List.flatMap_cons, hp, List.append_assoc,
      List.singleton_append, ← List.append_assoc, scanFence_hit hskip hpiece, List.flatten_append,
      flatten_flatMap_cut, flatten_flatMap_cut, hy]
    simp

/-- The lines before the closing fence are complete: what is between ends in a newline. -/
theorem frontMatter_ends {first close : Str} {before after : List Str}
    (he : physicalLines text = first :: (before ++ close :: after)) :
    before.flatten = [] ∨ Lines.Ends (· == 10) before.flatten := by
  refine Lines.ends_flatten fun line hline => ?_
  obtain ⟨a, b, rfl⟩ := List.append_of_mem hline
  exact Lines.ends_of_cut_eq (a := first :: a) (b := b ++ close :: after) (by rw [← physicalLines, he]; simp) (by simp)

/-- A newline-normalised text is split by its lines exactly if it has no false fence. -/
theorem splitFrontMatter_iff (text : Str) (hcr : 13 ∉ text) :
    SplitsByLines text (splitFrontMatter text) ↔ falseFence text = false := by
  refine ⟨fun h => ?_, splitsByLines_of_noFalseFence hcr⟩
  by_contra hfalse
  rw [Bool.not_eq_false] at hfalse
  obtain ⟨y, c, body, hr, hc⟩ := splitFrontMatter_of_falseFence hcr hfalse
  rw [hr] at h
  by_cases hbody : ∀ first rest, physicalLines text = first :: rest → lineContent first ≠ FRONT_MATTER_FENCE
  · cases h.bodyOnly hbody
  simp only [not_forall, not_not] at hbody
  obtain ⟨first, rest, he, hf⟩ := hbody
  rcases exists_close rest with hrest | ⟨before, close, after, rfl, hb, hclose⟩
  · obtain ⟨msg, hm⟩ := h.unclosed.2 ⟨first, rest, he, hf, hrest⟩
    cases hm
  · have hsplit := h.split first before close after he hf hb hclose
    simp only [Except.ok.injEq, Prod.mk.injEq, Option.some.injEq] at hsplit
    obtain hnil | ⟨x, d, hx, hd⟩ := frontMatter_ends he
    · rw [← hsplit.1] at hnil
      simp at hnil
    · rw [← hsplit.1] at hx
      obtain ⟨-, hcd⟩ := List.append_inj' hx rfl
      cases hcd
      exact hc (beq_iff_eq.1 hd)

/-- With a value that goes over two lines by a line separator and ends in dashes. -/
theorem splitFrontMatter_iff_separator :
    SplitsByLines (py "---\na: b\u2028c\n---\nbody\n") (splitFrontMatter (py "---\na: b\u2028c\n---\nbody\n")) ↔
      falseFence (py "---\na: b\u2028c\n---\nbody\n") = false :=
  splitFrontMatter_iff (py "---\na: b\u2028c\n---\nbody\n") (by decide)

/-- Dashes after a line separator are taken for the closing fence. -/
theorem separator_closes : 13 ∉ py "---\na: 'b\u2028---\n  c'\n---\nbody\n" ∧
    splitFrontMatter (py "---\na: 'b\u2028---\n  c'\n---\nbody\n") =
      .ok (some (py "a: 'b\u2028"), py "  c'\n---\nbody\n") ∧
    ¬ SplitsByLines (py "---\na: 'b\u2028---\n  c'\n---\nbody\n")
      (splitFrontMatter (py "---\na: 'b\u2028---\n  c'\n---\nbody\n")) := by
  have hr : splitFrontMatter (py "---\na: 'b\u2028---\n  c'\n---\nbody\n") =
      .ok (some (py "a: 'b\u2028"), py "  c'\n---\nbody\n") := by rfl
  refine ⟨by decide, hr, fun h => ?_⟩
  have hsplit := h.split (py "---\n") [py "a: 'b\u2028---\n", py "  c'\n"] (py "---\n") [py "body\n"] (by decide +kernel)
    (by decide) (by decide) (by decide)
  rw [hr] at hsplit
  simp [py] at hsplit

/-- A file without a fence on its first line is all body. -/
theorem loadWorkflow_bodyOnly (safeLoad : Str → LoadedYaml) (path : Str) {raw : Str}
    (h : ∀ first rest, physicalLines (universalNewlines raw) = first :: rest →
      lineContent first ≠ FRONT_MATTER_FENCE) :
    loadWorkflow safeLoad path (.content raw) = .ok ⟨[], strip (universalNewlines raw)⟩ := by
  unfold loadWorkflow
  dsimp only
  rw [splitFrontMatter_bodyOnly (cr_not_mem_universalNewlines raw) h]
  rfl

/-- Without a false fence, the configuration is read between the fences and the body after them. -/
theorem loadWorkflow_split (safeLoad : Str → LoadedYaml) (path : Str) {raw first close : Str}
    {before after : List Str} (he : physicalLines (universalNewlines raw) = first :: (before ++ close :: after))
    (hf : lineContent first = FRONT_MATTER_FENCE) (hb : ∀ line ∈ before, lineContent line ≠ FRONT_MATTER_FENCE)
    (hc : lineContent close = FRONT_MATTER_FENCE) (hno : falseFence (universalNewlines raw) = false) :
    loadWorkflow safeLoad path (.content raw) =
      (parseFrontMatter safeLoad before.flatten).map (⟨·, strip after.flatten⟩) := by
  have hsplit := (splitsByLines_of_noFalseFence (cr_not_mem_universalNewlines raw) hno).split first before close after he
    hf hb hc
  unfold loadWorkflow
  dsimp only
  rw [hsplit]
  cases hp : parseFrontMatter safeLoad before.flatten <;> simp [bind, Except.bind, pure, Except.pure, Except.map, hp]

end Text

end RiverGang
