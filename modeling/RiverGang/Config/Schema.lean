import RiverGang.Lib.Py

/-!
# The typed configuration

`config/schema.py`. A map from states to caps is the list of its items.
-/

namespace RiverGang

open Py

structure TrackerConfig where
  kind : Option Str
  endpoint : Option Str
  apiKey : Option Str
  projectSlug : Option Str
  activeStates : List Str
  terminalStates : List Str
  startState : Option Str
  successState : Option Str
  deriving DecidableEq

structure PollingConfig where
  intervalMs : Int
  deriving DecidableEq

structure WorkspaceConfig where
  root : Str
  repository : Option Str
  deriving DecidableEq

structure HooksConfig where
  afterCreate : Option Str
  beforeRun : Option Str
  afterRun : Option Str
  beforeRemove : Option Str
  timeoutMs : Int
  deriving DecidableEq

structure AgentConfig where
  maxConcurrentAgents : Int
  maxTurns : Int
  maxRetryBackoffMs : Int
  maxConcurrentAgentsByState : List (Str × Int)
  deriving DecidableEq

structure CodexConfig where
  command : Str
  approvalPolicy : Option Str
  threadSandbox : Option Str
  turnSandboxPolicy : Option Str
  turnTimeoutMs : Int
  readTimeoutMs : Int
  stallTimeoutMs : Int
  deriving DecidableEq

structure EffectiveConfig where
  tracker : TrackerConfig
  polling : PollingConfig
  workspace : WorkspaceConfig
  hooks : HooksConfig
  agent : AgentConfig
  codex : CodexConfig
  deriving DecidableEq

/-- A configuration to run with; stall detection is off. -/
def sampleConfig : EffectiveConfig where
  tracker := ⟨some (py "linear"), none, some (py "key"), some (py "proj"), [py "Todo", py "In Progress"],
    [py "Done"], some (py "In Progress"), some (py "In Review")⟩
  polling := ⟨30000⟩
  workspace := ⟨py "/tmp/ws", none⟩
  hooks := ⟨none, none, none, none, 60000⟩
  agent := ⟨10, 20, 300000, []⟩
  codex := ⟨py "codex app-server", none, none, none, 3600000, 5000, 0⟩

end RiverGang
