import RiverGang.Lib.Sort
import RiverGang.Lib.Admission
import RiverGang.Lib.Encoding
import RiverGang.Codex.Approvals
import RiverGang.Codex.Delivery
import RiverGang.Orchestrator.DoubleDispatch
import RiverGang.Orchestrator.Backoff
import RiverGang.Orchestrator.Gate
import RiverGang.Orchestrator.Evaluation
import RiverGang.Orchestrator.Fingerprint
import RiverGang.Orchestrator.Waiting
import RiverGang.Orchestrator.Verdict
import RiverGang.Orchestrator.Eligibility
import RiverGang.Orchestrator.Order
import RiverGang.Orchestrator.Tokens
import RiverGang.Orchestrator.PollLoop
import RiverGang.Worker.Service
import RiverGang.Worker.Turn
import RiverGang.Worker.Policy
import RiverGang.Worker.Subprocess
import RiverGang.Worker.AfterRun
import RiverGang.Worker.BlankHooks
import RiverGang.Orchestrator.Leak
import RiverGang.Orchestrator.Attribution
import RiverGang.Orchestrator.Cleanup
import RiverGang.Orchestrator.Completed
import RiverGang.Orchestrator.Timers
import RiverGang.Orchestrator.Failures
import RiverGang.Orchestrator.Reload
import RiverGang.Tracker.Transitions
import RiverGang.Tracker.Pagination
import RiverGang.Orchestrator.Handover
import RiverGang.Workspace.Isolation
import RiverGang.Workspace.Unwinding
import RiverGang.Orchestrator.Roots
import RiverGang.Workflow.Loader
import RiverGang.Observability.Snapshot
import RiverGang.Observability.LogLine
import RiverGang.Orchestrator.Refresh
import RiverGang.Tools.LinearGraphql
import RiverGang.Codex.Framing
import RiverGang.Observability.Redaction
import RiverGang.Codex.Frames
import RiverGang.Codex.ToolReply
import RiverGang.Codex.Stderr
import RiverGang.Observability.Endpoints
import RiverGang.Orchestrator.Stages
import RiverGang.Observability.Replay
import RiverGang.Orchestrator.Startup
import RiverGang.Orchestrator.Shutdown
import RiverGang.Config.Resolution
import RiverGang.Codex.Closing
