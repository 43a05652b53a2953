import RiverGang.Config.Schema
import RiverGang.Errors
import RiverGang.Lib.Dict

/-!
# Defaults and coercion

`config/defaults.py`: from the map of a front matter to an `EffectiveConfig`, section by section. A field that is absent
has its default; one that is present has to be of its type, and `null` is none but for the optional fields.
`applyDefaults_empty` is the configuration of an empty front matter.
-/

namespace RiverGang

open Py Coop

/-! ## Front matter -/

/-- A value of a front matter; of what has no place in a configuration, such as a date, only the name of its type. -/
inductive Yaml
  | null
  | bool (b : Bool)
  | int (n : Int)
  | float
  | str (s : Str)
  | seq (l : List Yaml)
  | map (entries : List (Yaml × Yaml))
  | other (typeName : Str)

namespace Yaml

/-- `type(value).__name__` -/
def typeName : Yaml → Str
  | .null => py "NoneType"
  | .bool _ => py "bool"
  | .int _ => py "int"
  | .float => py "float"
  | .str _ => py "str"
  | .seq _ => py "list"
  | .map _ => py "dict"
  | .other name => name

def isKey (key : Str) : Yaml → Bool
  | .str s => s = key
  | _ => false

/-- `section.get(key)` -/
def get? (entries : List (Yaml × Yaml)) (key : Str) : Option Yaml :=
  (entries.reverse.find? fun p => p.1.isKey key).map Prod.snd

end Yaml

/-- The entries of a section. -/
abbrev Entries := List (Yaml × Yaml)

/-- `ConfigCoercionError` -/
def coercionError (path problem : Str) : Exn := ⟨.valueError, path ++ py ": " ++ problem⟩

/-! ## Coercion -/

def requireMap (value : Option Yaml) (path : Str) : Except Exn Entries :=
  match value.getD .null with
  | .null => .ok []
  | .map entries => .ok entries
  | v => .error (coercionError path (py "expected a map/object, got " ++ v.typeName))

def coerceInt [Builtins] (value : Yaml) (path : Str) : Except Exn Int :=
  match value with
  | .bool _ => .error (coercionError path (py "expected int, got bool"))
  | .int n => .ok n
  | .str s =>
    match Builtins.strInt (strip s) with
    | .ok n => .ok n
    | .error _ => .error (coercionError path (py "cannot coerce " ++ Builtins.repr (.str s) ++ py " to int"))
  | v => .error (coercionError path (py "cannot coerce " ++ v.typeName ++ py " to int"))

def coerceOptionalStr (value : Yaml) (path : Str) : Except Exn (Option Str) :=
  match value with
  | .null => .ok none
  | .str s => .ok (some s)
  | v => .error (coercionError path (py "expected string or null, got " ++ v.typeName))

def coerceRequiredStr (value : Yaml) (path : Str) : Except Exn Str :=
  match value with
  | .str s => .ok s
  | v => .error (coercionError path (py "expected string, got " ++ v.typeName))

/-- The items of a list of strings, from a given index on. -/
def coerceItems (path : Str) : Nat → List Yaml → Except Exn (List Str)
  | _, [] => .ok []
  | n, .str s :: l => (coerceItems path (n + 1) l).map (s :: ·)
  | n, v :: _ =>
    .error (coercionError (path ++ py "[" ++ decimal n ++ py "]") (py "expected string, got " ++ v.typeName))

def coerceStrTuple (value : Yaml) (path : Str) : Except Exn (List Str) :=
  match value with
  | .seq l => coerceItems path 0 l
  | v => .error (coercionError path (py "expected list of strings, got " ++ v.typeName))

/-- An empty name counts as none. -/
def coerceStateName (value : Yaml) (path : Str) : Except Exn (Option Str) :=
  (coerceOptionalStr value path).map (·.filter (· ≠ []))

/-- One entry of `max_concurrent_agents_by_state`; a cap that is no positive integer is dropped. -/
def addStateCap [Unicode] (caps : Dict Str Int) (entry : Yaml × Yaml) : Dict Str Int :=
  match entry with
  | (.str key, .int cap) => if 0 < cap then caps.insert (lower key) cap else caps
  | _ => caps

def normalizeAgentsByState [Unicode] (value : Option Yaml) (path : Str) : Except Exn (List (Str × Int)) :=
  (requireMap value path).map fun entries => (entries.foldl addStateCap ∅).entries

/-! ## Sections -/

def DEFAULT_TRACKER_ENDPOINT : Str := py "https://api.linear.app/graphql"

def DEFAULT_ACTIVE_STATES : List Str := [py "Todo", py "In Progress"]

def DEFAULT_TERMINAL_STATES : List Str :=
  [py "Closed", py "Cancelled", py "Canceled", py "Duplicate", py "Done"]

def DEFAULT_START_STATE : Str := py "In Progress"

def DEFAULT_SUCCESS_STATE : Str := py "In Review"

/-- `section.get(key)` -/
def field (entries : Entries) (key : String) : Yaml := (Yaml.get? entries (py key)).getD .null

/-- `section.get(key, default)` -/
def fieldOr (entries : Entries) (key : String) (default : Yaml) : Yaml := (Yaml.get? entries (py key)).getD default

def strings (l : List Str) : Yaml := .seq (l.map .str)

def buildTracker (raw : Entries) : Except Exn TrackerConfig := do
  let tracker ← requireMap (Yaml.get? raw (py "tracker")) (py "tracker")
  pure {
    kind := ← coerceOptionalStr (field tracker "kind") (py "tracker.kind")
    endpoint := ← coerceOptionalStr (fieldOr tracker "endpoint" (.str DEFAULT_TRACKER_ENDPOINT)) (py "tracker.endpoint")
    apiKey := ← coerceOptionalStr (field tracker "api_key") (py "tracker.api_key")
    projectSlug := ← coerceOptionalStr (field tracker "project_slug") (py "tracker.project_slug")
    activeStates := ← coerceStrTuple (fieldOr tracker "active_states" (strings DEFAULT_ACTIVE_STATES))
      (py "tracker.active_states")
    terminalStates := ← coerceStrTuple (fieldOr tracker "terminal_states" (strings DEFAULT_TERMINAL_STATES))
      (py "tracker.terminal_states")
    startState := ← coerceStateName (fieldOr tracker "start_state" (.str DEFAULT_START_STATE)) (py "tracker.start_state")
    successState := ← coerceStateName (fieldOr tracker "success_state" (.str DEFAULT_SUCCESS_STATE))
      (py "tracker.success_state") }

/-- `defaultRoot` is the directory "symphony_workspaces" in that of the temporary files. -/
def buildWorkspace (raw : Entries) (defaultRoot : Str) : Except Exn WorkspaceConfig := do
  let workspace ← requireMap (Yaml.get? raw (py "workspace")) (py "workspace")
  pure {
    root := ← coerceRequiredStr (fieldOr workspace "root" (.str defaultRoot)) (py "workspace.root")
    repository := ← coerceOptionalStr (field workspace "repository") (py "workspace.repository") }

section Numbers

variable [Builtins]

def buildPolling (raw : Entries) : Except Exn PollingConfig := do
  let polling ← requireMap (Yaml.get? raw (py "polling")) (py "polling")
  pure { intervalMs := ← coerceInt (fieldOr polling "interval_ms" (.int 30000)) (py "polling.interval_ms") }

def buildHooks (raw : Entries) : Except Exn HooksConfig := do
  let hooks ← requireMap (Yaml.get? raw (py "hooks")) (py "hooks")
  pure {
    afterCreate := ← coerceOptionalStr (field hooks "after_create") (py "hooks.after_create")
    beforeRun := ← coerceOptionalStr (field hooks "before_run") (py "hooks.before_run")
    afterRun := ← coerceOptionalStr (field hooks "after_run") (py "hooks.after_run")
    beforeRemove := ← coerceOptionalStr (field hooks "before_remove") (py "hooks.before_remove")
    timeoutMs := ← coerceInt (fieldOr hooks "timeout_ms" (.int 60000)) (py "hooks.timeout_ms") }

def buildAgent [Unicode] (raw : Entries) : Except Exn AgentConfig := do
  let agent ← requireMap (Yaml.get? raw (py "agent")) (py "agent")
  pure {
    maxConcurrentAgents := ← coerceInt (fieldOr agent "max_concurrent_agents" (.int 10))
      (py "agent.max_concurrent_agents")
    maxTurns := ← coerceInt (fieldOr agent "max_turns" (.int 20)) (py "agent.max_turns")
    maxRetryBackoffMs := ← coerceInt (fieldOr agent "max_retry_backoff_ms" (.int 300000))
      (py "agent.max_retry_backoff_ms")
    maxConcurrentAgentsByState := ← normalizeAgentsByState (Yaml.get? agent (py "max_concurrent_agents_by_state"))
      (py "agent.max_concurrent_agents_by_state") }

def buildCodex (raw : Entries) : Except Exn CodexConfig := do
  let codex ← requireMap (Yaml.get? raw (py "codex")) (py "codex")
  pure {
    command := ← coerceRequiredStr (fieldOr codex "command" (.str (py "codex app-server"))) (py "codex.command")
    approvalPolicy := ← coerceOptionalStr (field codex "approval_policy") (py "codex.approval_policy")
    threadSandbox := ← coerceOptionalStr (field codex "thread_sandbox") (py "codex.thread_sandbox")
    turnSandboxPolicy := ← coerceOptionalStr (field codex "turn_sandbox_policy") (py "codex.turn_sandbox_policy")
    turnTimeoutMs := ← coerceInt (fieldOr codex "turn_timeout_ms" (.int 3600000)) (py "codex.turn_timeout_ms")
    readTimeoutMs := ← coerceInt (fieldOr codex "read_timeout_ms" (.int 5000)) (py "codex.read_timeout_ms")
    stallTimeoutMs := ← coerceInt (fieldOr codex "stall_timeout_ms" (.int 300000)) (py "codex.stall_timeout_ms") }

def applyDefaults [Unicode] (raw : Entries) (defaultRoot : Str) : Except Exn EffectiveConfig := do
  pure {
    tracker := ← buildTracker raw
    polling := ← buildPolling raw
    workspace := ← buildWorkspace raw defaultRoot
    hooks := ← buildHooks raw
    agent := ← buildAgent raw
    codex := ← buildCodex raw }

/-- The configuration of an empty front matter. -/
def defaultConfig (defaultRoot : Str) : EffectiveConfig where
  tracker := ⟨none, some DEFAULT_TRACKER_ENDPOINT, none, none, DEFAULT_ACTIVE_STATES, DEFAULT_TERMINAL_STATES,
    some DEFAULT_START_STATE, some DEFAULT_SUCCESS_STATE⟩
  polling := ⟨30000⟩
  workspace := ⟨defaultRoot, none⟩
  hooks := ⟨none, none, none, none, 60000⟩
  agent := ⟨10, 20, 300000, []⟩
  codex := ⟨py "codex app-server", none, none, none, 3600000, 5000, 300000⟩

theorem applyDefaults_empty [Unicode] (defaultRoot : Str) :
    applyDefaults [] defaultRoot = .ok (defaultConfig defaultRoot) := rfl

end Numbers

end RiverGang
