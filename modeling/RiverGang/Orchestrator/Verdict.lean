import RiverGang.Orchestrator.World

/-!
# The model's verdict

`parse_clarification_decision_payload` of `orchestrator/clarification.py`: what the gate makes of the last message of the
analysis. It looks at the first string that contains a brace, and reads it as JSON, or else the part of it from the first
brace to the last.

* `verdict_found`: a verdict is found where no brace comes before it, and sufficiency is always some string's word.
* `verdict_missed`: a verdict behind a fragment of code, and one in the middle of a sentence.
-/

namespace RiverGang

open Py Coop

/-- `{` -/
def OPEN_BRACE : CodePoint := 0x7B

/-- `}` -/
def CLOSE_BRACE : CodePoint := 0x7D

/-- The dict of some pairs: a key keeps its first place and its last value. -/
def dictOf {α : Type} (pairs : List (Str × α)) : Dict Str α := pairs.foldl (fun d p => d.insert p.1 p.2) ∅

mutual

/-- `_walk_strings` -/
def walkStrings : Json → List Str
  | .str s => [s]
  | .obj entries => (dictOf (walkValues entries)).values.flatten
  | .arr l => walkItems l
  | _ => []

/-- The strings of the values of a dict. -/
def walkValues : List (Str × Json) → List (Str × List Str)
  | [] => []
  | (key, child) :: entries => (key, walkStrings child) :: walkValues entries

/-- The strings of the items of a list. -/
def walkItems : List Json → List Str
  | [] => []
  | child :: l => walkStrings child ++ walkItems l

end

/-- `_extract_first_json_text`. That the text starts with a brace is one way to contain one. -/
def extractFirstJsonText (payload : Json) : Option Str :=
  ((walkStrings payload).map strip).find? fun stripped => contains [OPEN_BRACE] stripped

/-- `re.search(r"\x7b.*\x7d", text, flags=re.DOTALL)`: from the first opening brace to the last closing one. -/
def searchBraces (text : Str) : Option Str :=
  match ((text.dropWhile (· ≠ OPEN_BRACE)).reverse.dropWhile (· ≠ CLOSE_BRACE)).reverse with
  | [] => none
  | found => some found

def missingJsonDecision : ClarificationDecision where
  sufficient := false
  questions := [py "The pre-implementation analysis did not return valid JSON. Please clarify the expected final result and edge cases."]
  rationale := some (py "missing model JSON")

def malformedJsonDecision : ClarificationDecision where
  sufficient := false
  questions := [py "The pre-implementation analysis returned malformed JSON. Please clarify the expected final result and edge cases."]
  rationale := some (py "malformed model JSON")

/-- `data.get(key) if isinstance(data, dict) else None` -/
def jsonField (data : Json) (key : String) : Option Json := data.obj?.bind fun entries => Json.get? entries (py key)

/-- The decision that decoded JSON states. -/
def decisionOf (data : Json) : ClarificationDecision where
  sufficient := match jsonField data "sufficient" with
    | some (.bool true) => true
    | _ => false
  questions := match jsonField data "questions" with
    | some (.arr l) => (l.filterMap Json.str?).filter fun q => strip q ≠ []
    | _ => []
  rationale := (jsonField data "rationale").bind Json.str?

section Parse

variable [Builtins]

def parseClarificationDecisionPayload (payload : Payload) : Except Exn ClarificationDecision :=
  match extractFirstJsonText (.obj payload) with
  | none => .ok missingJsonDecision
  | some text =>
    match Builtins.loads text with
    | .value data => .ok (decisionOf data)
    | .failed msg => .error ⟨.other, msg⟩
    | .malformed =>
      match searchBraces text with
      | none => .ok malformedJsonDecision
      | some inner =>
        match Builtins.loads inner with
        | .value data => .ok (decisionOf data)
        | .failed msg => .error ⟨.other, msg⟩
        | .malformed => .ok malformedJsonDecision

/-- A text is a JSON object with a verdict. -/
def IsVerdict (text : Str) (entries : List (Str × Json)) (sufficient : Bool) : Prop :=
  Builtins.loads text = .value (.obj entries) ∧ Json.get? entries (py "sufficient") = some (.bool sufficient)

/-- The text of a JSON object has an opening brace. -/
def ObjectsHaveBraces : Prop := ∀ text entries, Builtins.loads text = .value (.obj entries) → OPEN_BRACE ∈ text

end Parse

/-! ## What it looks at -/

theorem contains_singleton {c : CodePoint} : ∀ {s : Str}, contains [c] s = true ↔ c ∈ s
  | [] => by simp [contains]
  | d :: s => by
    unfold contains
    rw [Bool.or_eq_true, contains_singleton, List.mem_cons]
    simp only [List.isPrefixOf, Bool.and_true, beq_iff_eq]

/-- Trimming takes no brace away. -/
theorem mem_of_mem_strip {c : CodePoint} {s : Str} (h : c ∈ strip s) : c ∈ s := by
  unfold strip at h
  rw [List.mem_reverse] at h
  have h := (List.dropWhile_sublist _).mem h
  rw [List.mem_reverse] at h
  exact (List.dropWhile_sublist _).mem h

/-- The first string with a brace, where none comes before it. -/
theorem extractFirstJsonText_eq {payload : Json} {before after : List Str} {s : Str}
    (hw : walkStrings payload = before ++ s :: after) (hb : ∀ t ∈ before, OPEN_BRACE ∉ t) (hs : OPEN_BRACE ∈ strip s) :
    extractFirstJsonText payload = some (strip s) := by
  unfold extractFirstJsonText
  rw [hw, List.map_append, List.find?_append, List.map_cons, List.find?_cons_of_pos (contains_singleton.2 hs)]
  have hnone : (before.map strip).find? (fun stripped => contains [OPEN_BRACE] stripped) = none := by
    rw [List.find?_eq_none]
    intro t ht hc
    obtain ⟨u, hu, rfl⟩ := List.mem_map.1 ht
    exact hb u hu (mem_of_mem_strip (contains_singleton.1 hc))
  rw [hnone]
  rfl

theorem of_extractFirstJsonText {payload : Json} {text : Str} (h : extractFirstJsonText payload = some text) :
    ∃ s ∈ walkStrings payload, text = strip s := by
  obtain ⟨s, hs, rfl⟩ := List.mem_map.1 (List.mem_of_find?_eq_some h)
  exact ⟨s, hs, rfl⟩

/-- A decision is sufficient where the JSON says so. -/
theorem sufficient_decisionOf {data : Json} (h : (decisionOf data).sufficient = true) :
    ∃ entries, data = .obj entries ∧ Json.get? entries (py "sufficient") = some (.bool true) := by
  cases data with
  | obj entries =>
    refine ⟨entries, rfl, ?_⟩
    simp only [decisionOf, jsonField, Json.obj?, Option.bind_some] at h
    split at h
    · assumption
    · cases h
  | null | bool | int | float | str | arr => cases h

theorem decisionOf_verdict {entries : List (Str × Json)} {b : Bool}
    (h : Json.get? entries (py "sufficient") = some (.bool b)) : (decisionOf (.obj entries)).sufficient = b := by
  simp only [decisionOf, jsonField, Json.obj?, Option.bind_some, h]
  cases b <;> rfl

section Found

variable [Builtins]

/-- **The verdict is found** where no brace comes before it. And if the issue is found ready, some string says so: all of
it, or the part of it between the outermost braces, is a JSON object with that verdict. -/
theorem verdict_found (hobj : ObjectsHaveBraces) (payload : Payload) :
    (∀ before s after entries b, walkStrings (.obj payload) = before ++ s :: after → (∀ t ∈ before, OPEN_BRACE ∉ t) →
      IsVerdict (strip s) entries b →
      parseClarificationDecisionPayload payload = .ok (decisionOf (.obj entries)) ∧
        (decisionOf (.obj entries)).sufficient = b) ∧
    ∀ decision, parseClarificationDecisionPayload payload = .ok decision → decision.sufficient = true →
      ∃ s ∈ walkStrings (.obj payload), ∃ text entries, (text = strip s ∨ searchBraces (strip s) = some text) ∧
        IsVerdict text entries true ∧ decision = decisionOf (.obj entries) := by
  constructor
  · rintro before s after entries b hw hb ⟨hl, hv⟩
    refine ⟨?_, decisionOf_verdict hv⟩
    unfold parseClarificationDecisionPayload
    simp only [extractFirstJsonText_eq hw hb (hobj _ _ hl), hl]
  · intro decision hp hd
    have hof : ∀ {data : Json} {text : Str}, Builtins.loads text = .value data → .ok (decisionOf data) =
        (.ok decision : Except Exn ClarificationDecision) → ∃ entries, IsVerdict text entries true ∧
          decision = decisionOf (.obj entries) := by
      intro data text hl he
      cases he
      obtain ⟨entries, rfl, hv⟩ := sufficient_decisionOf hd
      exact ⟨entries, ⟨hl, hv⟩, rfl⟩
    have hfail : ∀ {d : ClarificationDecision}, d.sufficient = false → (.ok d : Except Exn _) ≠ .ok decision := by
      intro d hd' he
      cases he
      rw [hd] at hd'
      cases hd'
    unfold parseClarificationDecisionPayload at hp
    cases ht : extractFirstJsonText (.obj payload) with
    | none =>
      rw [ht] at hp
      exact absurd hp (hfail rfl)
    | some text =>
      obtain ⟨s, hs, rfl⟩ := of_extractFirstJsonText ht
      simp only [ht] at hp
      refine ⟨s, hs, ?_⟩
      cases hl : Builtins.loads (strip s) with
      | failed msg => rw [hl] at hp; cases hp
      | value data =>
        rw [hl] at hp
        obtain ⟨entries, hv, he⟩ := hof hl hp
        exact ⟨strip s, entries, .inl rfl, hv, he⟩
      | malformed =>
        simp only [hl] at hp
        cases hi : searchBraces (strip s) with
        | none =>
          rw [hi] at hp
          exact absurd hp (hfail rfl)
        | some inner =>
          simp only [hi] at hp
          cases hl' : Builtins.loads inner with
          | failed msg => rw [hl'] at hp; cases hp
          | malformed =>
            rw [hl'] at hp
            exact absurd hp (hfail rfl)
          | value data =>
            rw [hl'] at hp
            obtain ⟨entries, hv, he⟩ := hof hl' hp
            exact ⟨inner, entries, .inr rfl, hv, he⟩

end Found

section Sample

/-- The text of a verdict. -/
def sampleVerdict : Str := py "\x7b\"sufficient\": true\x7d"

/-- Built-ins that read this text, and no other of the sample. -/
@[reducible] def sampleReader : Builtins :=
  { sampleBuiltins with
    loads := fun text => if text = sampleVerdict then .value (.obj [(py "sufficient", .bool true)]) else .malformed }

attribute [local instance] sampleReader

theorem sampleReader_braces : ObjectsHaveBraces := by
  intro text entries h
  change (if text = sampleVerdict then _ else _) = _ at h
  split at h
  · rename_i ht
    rw [ht]
    decide
  · cases h

theorem sampleVerdict_isVerdict : IsVerdict (strip sampleVerdict) [(py "sufficient", .bool true)] true := by
  have hs : strip sampleVerdict = sampleVerdict := by decide
  rw [hs]
  exact ⟨if_pos rfl, rfl⟩

/-- No other text is read. -/
theorem not_isVerdict {text : Str} (h : text ≠ sampleVerdict) (entries : List (Str × Json)) (b : Bool) :
    ¬ IsVerdict text entries b := fun ⟨hl, _⟩ => by
  change (if text = sampleVerdict then _ else _) = _ at hl
  rw [if_neg h] at hl
  cases hl

/-- A verdict after a sentence. -/
theorem verdict_found_sample :
    (parseClarificationDecisionPayload [(py "note", .str (py "done")), (py "message", .str sampleVerdict)]).toOption =
      some (decisionOf (.obj [(py "sufficient", .bool true)])) := by
  have h := (verdict_found sampleReader_braces [(py "note", .str (py "done")), (py "message", .str sampleVerdict)]).1
    [py "done"] sampleVerdict [] [(py "sufficient", .bool true)] true rfl (fun t ht => by
      rw [List.mem_singleton.1 ht]
      decide) sampleVerdict_isVerdict
  rw [h.1]
  rfl

/-- A verdict behind a fragment of code, and one in the middle of a sentence. -/
def sampleFragment : Payload := [(py "note", .str (py "if (x) \x7b y \x7d")), (py "message", .str sampleVerdict)]

def sampleSentence : Payload := [(py "message", .str (py "Ready: " ++ sampleVerdict))]

/-- **The verdict missed.** The fragment is what is read, and the verdict behind it is not; and the issue is found ready
by a sentence that is no JSON object itself. -/
theorem verdict_missed :
    (sampleVerdict ∈ walkStrings (.obj sampleFragment) ∧ IsVerdict (strip sampleVerdict) [(py "sufficient", .bool true)] true ∧
      ∃ decision, parseClarificationDecisionPayload sampleFragment = .ok decision ∧ decision.sufficient = false) ∧
    (∃ decision, parseClarificationDecisionPayload sampleSentence = .ok decision ∧ decision.sufficient = true) ∧
      ∀ s ∈ walkStrings (.obj sampleSentence), ∀ entries b, ¬ IsVerdict (strip s) entries b := by
  refine ⟨⟨by decide, sampleVerdict_isVerdict, malformedJsonDecision, by rfl, rfl⟩,
    ⟨decisionOf (.obj [(py "sufficient", .bool true)]), by rfl, by rfl⟩, fun s hs entries b => ?_⟩
  have hw : walkStrings (.obj sampleSentence) = [py "Ready: " ++ sampleVerdict] := by decide
  rw [hw] at hs
  rw [List.mem_singleton.1 hs]
  exact not_isVerdict (by decide) entries b

end Sample

end RiverGang
