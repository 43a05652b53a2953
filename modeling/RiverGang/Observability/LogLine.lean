import RiverGang.Lib.Escape
import RiverGang.Lib.Encoding

/-!
# Log lines

`_KeyValueFormatter` renders a record as `key=value` columns after `_ContextFilter` has put the context variables on it.
A value is quoted where it has a space, a quote or a control character, and escaped inside its quotes.

* `decodes_format_value`: a value is read off the front of what follows `key=`.
* `format_filter_inj`: with a level and a logger without spaces, the line determines the message and the context.
* `newline_mem_format`: the only line breaks of a line are those of its level and its logger, which are not quoted.
-/

open Py

namespace RiverGang

/-! ## The formatter -/

/-- The context fields. -/
inductive CtxKey
  | issueId
  | issueIdentifier
  | sessionId
  deriving DecidableEq

/-- The names under which `_CTX_PAIRS` has them. -/
def CtxKey.name : CtxKey → Str
  | .issueId => py "issue_id"
  | .issueIdentifier => py "issue_identifier"
  | .sessionId => py "session_id"

def CTX_PAIRS : List CtxKey := [.issueId, .issueIdentifier, .sessionId]

/-- The values of the context variables; an unset one is `None`. -/
abbrev LogContext := CtxKey → Option Str

/-- A `LogRecord`: `message` is what `getMessage()` gives, `attrs` the record's attributes of the reserved names, and
`exc_info` the exception as `formatException` renders it. -/
structure LogRecord where
  levelname : Str
  name : Str
  message : Str
  attrs : CtxKey → Option Str
  exc_info : Option Str

/-- `setattr(record, key, val)`, or `delattr(record, key)` for `None`. -/
def LogRecord.setattr (record : LogRecord) (key : CtxKey) (val : Option Str) : LogRecord :=
  { record with attrs := fun k => if k = key then val else record.attrs k }

/-- One turn of the filter's loop: a variable that is set overwrites the attribute, one that is unset removes it. -/
def filterAttr (ctx : LogContext) (record : LogRecord) (key : CtxKey) : LogRecord :=
  match ctx key with
  | some val => record.setattr key (some val)
  | none => record.setattr key none

/-- `_ContextFilter.filter` -/
def filter (ctx : LogContext) (record : LogRecord) : LogRecord := CTX_PAIRS.foldl (filterAttr ctx) record

def needsQuote (text : Str) : Bool := text.any fun c => c = 32 || c = 34 || c.val < 32

def formatValue (text : Str) : Str :=
  if needsQuote text then
    let escaped := replaceChar 9 (py "\\t") (replaceChar 13 (py "\\r") (replaceChar 10 (py "\\n")
      (replaceChar 34 (py "\\\"") (replaceChar 92 (py "\\\\") text))))
    py "\"" ++ escaped ++ py "\""
  else text

/-- `_KeyValueFormatter.format` -/
def format (record : LogRecord) : Str :=
  let parts := [py "level=" ++ record.levelname, py "logger=" ++ record.name,
    py "msg=" ++ formatValue record.message] ++
    CTX_PAIRS.filterMap fun key => (record.attrs key).map fun val => key.name ++ py "=" ++ formatValue val
  let line := join (py " ") parts
  match record.exc_info with
  | some exc => line ++ py "\n" ++ exc
  | none => line

theorem filterAttr_eq (ctx : LogContext) (record : LogRecord) (key : CtxKey) :
    filterAttr ctx record key = record.setattr key (ctx key) := by
  unfold filterAttr
  cases ctx key <;> rfl

/-- Only the attributes change, and they are those of the context. -/
@[simp] theorem filter_eq (ctx : LogContext) (record : LogRecord) : filter ctx record = { record with attrs := ctx } := by
  simp only [filter, CTX_PAIRS, List.foldl_cons, List.foldl_nil, filterAttr_eq, LogRecord.setattr]
  congr 1
  funext k
  cases k <;> rfl

/-! ## Values -/

/-- What the replacements make of one character, all together. -/
def escapeOf (c : CodePoint) : Str :=
  if c = 92 then [92, 92] else if c = 34 then [92, 34] else if c = 10 then [92, 110] else if c = 13 then [92, 114]
  else if c = 9 then [92, 116] else [c]

/-- One after the other, the replacements do not meet each other's results. -/
theorem replace_escapes (c : CodePoint) : replaceChar 9 (py "\\t") (replaceChar 13 (py "\\r") (replaceChar 10 (py "\\n")
    (replaceChar 34 (py "\\\"") (replaceChar 92 (py "\\\\") [c])))) = escapeOf c := by
  by_cases h₁ : c = 92
  · subst h₁
    decide
  by_cases h₂ : c = 34
  · subst h₂
    decide
  by_cases h₃ : c = 10
  · subst h₃
    decide
  by_cases h₄ : c = 13
  · subst h₄
    decide
  by_cases h₅ : c = 9
  · subst h₅
    decide
  simp [replaceChar, escapeOf, h₁, h₂, h₃, h₄, h₅]

theorem replaceChar_append (c : CodePoint) (t s s' : Str) :
    replaceChar c t (s ++ s') = replaceChar c t s ++ replaceChar c t s' := List.flatMap_append

theorem replace_eq_flatMap : ∀ text : Str, replaceChar 9 (py "\\t") (replaceChar 13 (py "\\r")
    (replaceChar 10 (py "\\n") (replaceChar 34 (py "\\\"") (replaceChar 92 (py "\\\\") text)))) = text.flatMap escapeOf
  | [] => rfl
  | c :: text => by
    rw [← List.singleton_append, replaceChar_append, replaceChar_append, replaceChar_append, replaceChar_append,
      replaceChar_append, replace_escapes, replace_eq_flatMap text, List.flatMap_append, List.flatMap_singleton]

theorem formatValue_eq (text : Str) : formatValue text = Escape.quoted needsQuote escapeOf 34 text := by
  unfold formatValue Escape.quoted
  rw [replace_eq_flatMap]
  rfl

/-- An escape is a backslash and a letter of its own; every other character stands for itself. -/
theorem prefixFree_escapeOf : Escape.PrefixFree escapeOf := by
  intro a b t u h
  unfold escapeOf at h
  split_ifs at h <;> simp_all

theorem escapeOf_ne_quote (c : CodePoint) (t u : Str) : escapeOf c ++ t ≠ 34 :: u := by
  unfold escapeOf
  split_ifs <;> simp_all

/-- What stays bare has no space, no quote and no control character. -/
theorem bare_of_needsQuote {text : Str} (h : needsQuote text = false) :
    ∀ c ∈ text, c ≠ 32 ∧ c ≠ 34 ∧ 32 ≤ c.val := by
  intro c hc
  simp only [needsQuote, List.any_eq_false, Bool.or_eq_true, decide_eq_true_eq, not_or, Nat.not_lt] at h
  obtain ⟨⟨h₁, h₂⟩, h₃⟩ := h c hc
  exact ⟨h₁, h₂, h₃⟩

/-- A value is read off up to a space or the end. -/
theorem decodes_formatValue : Escape.Decodes (fun _ => True) (Escape.Ends 32) formatValue := by
  have h := @Escape.decodes_quoted _ needsQuote escapeOf 34 32 prefixFree_escapeOf escapeOf_ne_quote (by decide)
    fun v hv => ⟨fun hc => (bare_of_needsQuote hv _ hc).1 rfl, fun hc => (bare_of_needsQuote hv _ hc).2.1 rfl⟩
  rwa [show Escape.quoted needsQuote escapeOf 34 = formatValue from funext fun v => (formatValue_eq v).symm] at h

/-- A line break: a newline or a carriage return. -/
def IsBreak (c : CodePoint) : Prop := c = 10 ∨ c = 13

instance (c : CodePoint) : Decidable (IsBreak c) := inferInstanceAs (Decidable (_ ∨ _))

theorem not_break_escapeOf (a : CodePoint) : ∀ c ∈ escapeOf a, ¬ IsBreak c := by
  unfold escapeOf IsBreak
  split_ifs <;> simp_all

theorem not_break_of {t : Str} (hn : 10 ∉ t) (hr : 13 ∉ t) : ∀ c ∈ t, ¬ IsBreak c := by
  rintro c hc (rfl | rfl)
  · exact hn hc
  · exact hr hc

/-- A value stays on its line. -/
theorem not_break_formatValue (text : Str) : ∀ c ∈ formatValue text, ¬ IsBreak c := by
  intro c hc
  rw [formatValue_eq, Escape.quoted] at hc
  cases h : needsQuote text with
  | true =>
    simp only [h, if_true, List.mem_cons, List.mem_append, List.mem_flatMap, List.not_mem_nil, or_false] at hc
    rcases hc with rfl | ⟨a, -, hc⟩ | rfl
    · decide
    · exact not_break_escapeOf a c hc
    · decide
  | false =>
    simp only [h, Bool.false_eq_true, if_false] at hc
    rintro (rfl | rfl)
    · exact absurd (bare_of_needsQuote h _ hc).2.2 (by decide)
    · exact absurd (bare_of_needsQuote h _ hc).2.2 (by decide)

/-! ## Lines -/

theorem join_cons_eq (sep s : Str) : ∀ l : List Str, join sep (s :: l) = s ++ l.flatMap (sep ++ ·)
  | [] => by simp [join]
  | t :: l => by
    rw [join, join_cons_eq sep t l, List.flatMap_cons, List.append_assoc, List.append_assoc]

/-- The context fields of a line. -/
abbrev ctxFields (ctx : LogContext) : Str := Escape.fields 32 61 CtxKey.name formatValue ctx CTX_PAIRS

/-- The parts of the set fields, each after a space. -/
theorem ctxParts_flatMap (ctx : LogContext) (keys : List CtxKey) :
    (keys.filterMap fun key => (ctx key).map fun val => key.name ++ py "=" ++ formatValue val).flatMap (py " " ++ ·) =
      Escape.fields 32 61 CtxKey.name formatValue ctx keys := by
  induction keys with
  | nil => rfl
  | cons key keys ih =>
    cases h : ctx key with
    | none =>
      rw [List.filterMap_cons_none (by simp [h]), Escape.fields_none h]
      exact ih
    | some val =>
      rw [List.filterMap_cons, h, Escape.fields_some h, ← ih]
      simp only [Option.map_some, List.flatMap_cons, List.append_assoc]
      rfl

/-- A line without an exception: the three columns, then the fields that are set. -/
theorem format_eq {record : LogRecord} (h : record.exc_info = none) : format record =
    py "level=" ++ (record.levelname ++ 32 :: (py "logger=" ++ (record.name ++ 32 :: (py "msg=" ++
      (formatValue record.message ++ ctxFields record.attrs))))) := by
  unfold format
  dsimp only
  rw [h, List.cons_append, join_cons_eq, List.cons_append, List.flatMap_cons, List.cons_append, List.flatMap_cons,
    List.nil_append, ctxParts_flatMap]
  simp only [List.append_assoc]
  rfl

theorem name_nodup : (CTX_PAIRS.map CtxKey.name).Nodup := by decide

theorem eq_not_mem_name (key : CtxKey) : (61 : CodePoint) ∉ key.name := by
  cases key <;> decide

/-- The whole line is read back. -/
theorem format_inj {r s : LogRecord} (hr : r.exc_info = none) (hs : s.exc_info = none) (hrl : 32 ∉ r.levelname)
    (hsl : 32 ∉ s.levelname) (hrn : 32 ∉ r.name) (hsn : 32 ∉ s.name) (h : format r = format s) : r = s := by
  rw [format_eq hr, format_eq hs, List.append_cancel_left_eq] at h
  obtain ⟨hlevel, h⟩ := Escape.decodes_word 32 _ _ _ _ hrl hsl .cons .cons h
  rw [List.cons.injEq, List.append_cancel_left_eq] at h
  obtain ⟨hname, h⟩ := Escape.decodes_word 32 _ _ _ _ hrn hsn .cons .cons h.2
  rw [List.cons.injEq, List.append_cancel_left_eq] at h
  obtain ⟨hmsg, h⟩ := decodes_formatValue _ _ _ _ trivial trivial (Escape.ends_fields _) (Escape.ends_fields _) h.2
  have hattrs := Escape.decodes_fields eq_not_mem_name decodes_formatValue name_nodup h
  have hall : r.attrs = s.attrs := by
    funext k
    exact hattrs k (by cases k <;> decide)
  cases r
  cases s
  simp only at hr hs hlevel hname hmsg hall
  rw [hr, hs, hlevel, hname, hmsg, hall]

/-- No field has a line break. -/
theorem not_break_ctxFields (ctx : LogContext) : ∀ c ∈ ctxFields ctx, ¬ IsBreak c := by
  have hname : ∀ key : CtxKey, ∀ c ∈ key.name, ¬ IsBreak c := by
    intro key
    cases key <;> exact not_break_of (by decide) (by decide)
  intro c hc
  obtain ⟨key, -, hc⟩ := List.mem_flatMap.1 hc
  cases h : ctx key with
  | none => simp [h] at hc
  | some val =>
    simp only [h, Option.elim_some, List.mem_cons, List.mem_append] at hc
    rcases hc with rfl | hc | rfl | hc
    · decide
    · exact hname key c hc
    · decide
    · exact not_break_formatValue val c hc

/-- The line breaks of a line are those of its level and its logger. -/
theorem break_mem_format {record : LogRecord} (h : record.exc_info = none) {c : CodePoint} (hb : IsBreak c) :
    c ∈ format record ↔ c ∈ record.levelname ∨ c ∈ record.name := by
  have hout : ∀ t : Str, (∀ d ∈ t, ¬ IsBreak d) → c ∉ t := fun t ht hc => ht c hc hb
  have hspace : c ≠ 32 := by
    rintro rfl
    exact absurd hb (by decide)
  rw [format_eq h]
  simp only [List.mem_append, List.mem_cons, hspace, hout _ (not_break_formatValue _), hout _ (not_break_ctxFields _),
    hout (py "level=") (not_break_of (by decide) (by decide)), hout (py "logger=") (not_break_of (by decide) (by decide)),
    hout (py "msg=") (not_break_of (by decide) (by decide)), false_or, or_false]

/-- Two lines alike, of levels and loggers without spaces, have the same message and the same context, whatever was set
on the records before the filter; and line breaks come from the level and the logger only. -/
theorem format_filter_inj (ctx ctx' : LogContext) (r s : LogRecord) (hr : r.exc_info = none) (hs : s.exc_info = none)
    (hrl : 32 ∉ r.levelname) (hsl : 32 ∉ s.levelname) (hrn : 32 ∉ r.name) (hsn : 32 ∉ s.name)
    (h : format (filter ctx r) = format (filter ctx' s)) :
    (r.message = s.message ∧ ∀ key, ctx key = ctx' key) ∧
      ∀ c, IsBreak c → (c ∈ format (filter ctx r) ↔ c ∈ r.levelname ∨ c ∈ r.name) := by
  rw [filter_eq, filter_eq] at h
  have hall := @format_inj { r with attrs := ctx } { s with attrs := ctx' } hr hs hrl hsl hrn hsn h
  simp only [LogRecord.mk.injEq] at hall
  refine ⟨⟨hall.2.2.1, fun key => congrFun hall.2.2.2.1 key⟩, fun c hc => ?_⟩
  rw [filter_eq]
  exact @break_mem_format { r with attrs := ctx } hr c hc

section Sample

/-- A record of a logger, with the level `INFO`. -/
def sampleRecord (name message : Str) : LogRecord := ⟨py "INFO", name, message, fun _ => none, none⟩

def sampleLogContext : LogContext := fun key => if key = .issueId then some (py "ABC-1") else none

/-- A message that looks like a field, once on a record that brings its own attributes. -/
theorem format_filter_inj_forged :
    (py "x issue_id=ABC-1" = py "x issue_id=ABC-1" ∧ ∀ key, sampleLogContext key = sampleLogContext key) ∧
      ∀ c, IsBreak c → (c ∈ format (filter sampleLogContext (sampleRecord (py "a.b") (py "x issue_id=ABC-1"))) ↔
        c ∈ py "INFO" ∨ c ∈ py "a.b") :=
  format_filter_inj sampleLogContext sampleLogContext (sampleRecord (py "a.b") (py "x issue_id=ABC-1"))
    { sampleRecord (py "a.b") (py "x issue_id=ABC-1") with attrs := fun _ => some (py "ABC-2") } rfl rfl (by decide)
    (by decide) (by decide) (by decide) (by decide +kernel)

/-- A logger's name is not escaped: without spaces in it, it starts a new line. -/
theorem logger_newline : ∃ record : LogRecord, record.exc_info = none ∧ 32 ∉ record.levelname ∧ 32 ∉ record.name ∧
    10 ∈ format (filter (fun _ => none) record) :=
  ⟨sampleRecord (py "a\nb") (py "x"), rfl, by decide, by decide, by decide⟩

end Sample

end RiverGang
