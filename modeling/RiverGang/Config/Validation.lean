import RiverGang.Config.Schema

/-!
# Dispatch preflight validation

`config/validation.py`: `validateForDispatch` collects the errors of all checks, and accepts where there are none.
`validateForDispatch_ok_iff` is what it accepts.
-/

namespace RiverGang

open Py

def SUPPORTED_TRACKER_KINDS : List Str := [py "linear"]

structure ValidationResult where
  ok : Bool
  errors : List Str

/-- `value is None or value == ""` -/
def isMissing (value : Option Str) : Bool := value.all (·.isEmpty)

/-- A check of a field, with its error. -/
def check (path : Str) (failed : Bool) (problem : Str) : List Str := if failed then [path ++ py ": " ++ problem] else []

def validateForDispatch [Builtins] (config : EffectiveConfig) : ValidationResult :=
  let kind := config.tracker.kind
  let errors :=
    check (py "tracker.kind") (isMissing kind) (py "missing or empty (REQUIRED)") ++
    check (py "tracker.kind") (!isMissing kind && !kind.any (· ∈ SUPPORTED_TRACKER_KINDS))
      (py "unsupported value " ++ Builtins.repr (.str (kind.getD [])) ++ py " (supported: " ++
        join (py ", ") SUPPORTED_TRACKER_KINDS ++ py ")") ++
    check (py "tracker.api_key") (isMissing config.tracker.apiKey)
      (py "missing after $-resolution (set LINEAR_API_KEY or provide a literal token)") ++
    check (py "tracker.project_slug") (kind = some (py "linear") && isMissing config.tracker.projectSlug)
      (py "REQUIRED when tracker.kind=linear") ++
    check (py "codex.command") config.codex.command.isEmpty (py "must be a non-empty shell command") ++
    check (py "agent.max_turns") (config.agent.maxTurns ≤ 0)
      (py "must be a positive integer (got " ++ decimalInt config.agent.maxTurns ++ py ")") ++
    check (py "hooks.timeout_ms") (config.hooks.timeoutMs ≤ 0)
      (py "must be a positive integer (got " ++ decimalInt config.hooks.timeoutMs ++ py ")")
  ⟨errors.isEmpty, errors⟩

/-- The fields that a worker and its tracker cannot do without. -/
structure EffectiveConfig.Dispatchable (config : EffectiveConfig) : Prop where
  kind : config.tracker.kind = some (py "linear")
  apiKey : isMissing config.tracker.apiKey = false
  projectSlug : isMissing config.tracker.projectSlug = false
  command : config.codex.command ≠ []
  maxTurns : 0 < config.agent.maxTurns
  timeoutMs : 0 < config.hooks.timeoutMs

@[simp] theorem check_eq_nil {path problem : Str} {failed : Bool} : check path failed problem = [] ↔ failed = false := by
  cases failed <;> simp [check]

variable [Builtins] {config : EffectiveConfig}

theorem validateForDispatch_ok_iff : (validateForDispatch config).ok = true ↔ config.Dispatchable := by
  simp only [validateForDispatch, List.isEmpty_iff, List.append_eq_nil_iff, check_eq_nil]
  constructor
  · rintro ⟨⟨⟨⟨⟨⟨h1, h2⟩, h3⟩, h4⟩, h5⟩, h6⟩, h7⟩
    have hk : config.tracker.kind = some (py "linear") := by
      rw [h1, Bool.not_false, Bool.true_and, Bool.not_eq_false', Option.any_eq_true] at h2
      obtain ⟨k, hk, hmem⟩ := h2
      rw [hk, List.mem_singleton.1 (of_decide_eq_true hmem)]
    rw [hk] at h4
    exact ⟨hk, h3, by simpa using h4, by simpa using h5, by simpa using h6, by simpa using h7⟩
  · intro h
    have hk := h.kind
    have hlinear : py "linear" ≠ [] := by decide
    refine ⟨⟨⟨⟨⟨⟨?_, ?_⟩, h.apiKey⟩, ?_⟩, ?_⟩, ?_⟩, ?_⟩
    · simp [hk, isMissing, hlinear]
    · simp [hk, SUPPORTED_TRACKER_KINDS]
    · simp [h.projectSlug]
    · simpa using h.command
    · simpa using h.maxTurns
    · simpa using h.timeoutMs

/-- Every error begins with the path of the field that it is about. -/
theorem validateForDispatch_errors {error : Str} (h : error ∈ (validateForDispatch config).errors) :
    ∃ path ∈ [py "tracker.kind", py "tracker.api_key", py "tracker.project_slug", py "codex.command",
      py "agent.max_turns", py "hooks.timeout_ms"], path ++ py ": " <+: error := by
  have hcheck : ∀ {path problem : Str} {failed : Bool}, error ∈ check path failed problem → path ++ py ": " <+: error := by
    intro path problem failed he
    cases failed with
    | false => cases he
    | true => exact ⟨problem, (List.mem_singleton.1 he).symm⟩
  simp only [validateForDispatch, List.mem_append] at h
  rcases h with (((((h | h) | h) | h) | h) | h) | h <;> exact ⟨_, by simp, hcheck h⟩

end RiverGang
