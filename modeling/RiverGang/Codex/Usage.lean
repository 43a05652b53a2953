import RiverGang.Lib.Binary64
import RiverGang.Lib.Py

/-!
# Codex events

The notification record of `codex/client.py`, token and rate-limit snapshots of `codex/usage.py`, the session id of
`codex/protocol.py` and the stall test of `codex/stall.py`.
-/

namespace RiverGang

open Py

structure TokenSnapshot where
  inputTokens : Int
  outputTokens : Int
  totalTokens : Int
  deriving DecidableEq

structure RateLimitSnapshot where
  limit : Option Int
  remaining : Option Int
  resetAt : Option Str
  deriving DecidableEq

structure RuntimeEvent where
  event : Str
  timestamp : Instant
  codexAppServerPid : Int
  payload : Payload
  usage : Option Payload

/-- `_first_present` -/
def firstPresent (obj : Payload) : List Str → Option Json
  | [] => none
  | k :: ks => (Json.get? obj k).or (firstPresent obj ks)

/-- `_coerce_token_int`: strict, a `bool` is no count. -/
def coerceTokenInt : Option Json → Option Int
  | some (.int n) => some n
  | _ => none

def METHOD_TOKEN_USAGE_UPDATED : Str := py "thread/tokenUsage/updated"

/-- What `_read_int_field` finds under the first alias that is there. -/
inductive IntField
  | ok (value : Int)
  | absent
  | invalid
  deriving DecidableEq

/-- `_read_int_field` -/
def readIntField (obj : Payload) : List Str → IntField
  | [] => .absent
  | k :: ks =>
    match Json.get? obj k with
    | some value => (coerceTokenInt (some value)).elim .invalid .ok
    | none => readIntField obj ks

/-- Its value, or 0. -/
def IntField.value : IntField → Int
  | .ok value => value
  | _ => 0

/-- `_read_token_object` -/
def readTokenObject (obj : Payload) : Option TokenSnapshot :=
  let input := readIntField obj [py "inputTokens", py "input_tokens"]
  let output := readIntField obj [py "outputTokens", py "output_tokens"]
  let total := readIntField obj [py "totalTokens", py "total_tokens"]
  if input = .invalid ∨ output = .invalid ∨ total = .invalid then none
  else if input = .absent ∧ output = .absent ∧ total = .absent then none
  else some ⟨input.value, output.value, if total = .absent then input.value + output.value else total.value⟩

def extractCumulativeTokens (method : Str) (payload : Payload) : Option TokenSnapshot :=
  if method ≠ METHOD_TOKEN_USAGE_UPDATED then none
  else
    match firstPresent payload [py "tokenUsage", py "token_usage"] with
    | some (.obj tokenUsage) =>
      match firstPresent tokenUsage [py "total"] with
      | some (.obj total) => readTokenObject total
      | _ => none
    | _ => none

/-- `dataclasses.asdict` -/
def TokenSnapshot.asdict (t : TokenSnapshot) : Payload :=
  [(py "input_tokens", .int t.inputTokens), (py "output_tokens", .int t.outputTokens),
    (py "total_tokens", .int t.totalTokens)]

def extractRateLimits (payload : Payload) : Option RateLimitSnapshot :=
  match firstPresent payload [py "rate_limit", py "rateLimit"] with
  | some (.obj (p :: ps)) =>
    let raw := p :: ps
    let limit := coerceTokenInt (firstPresent raw [py "limit"])
    let remaining := coerceTokenInt (firstPresent raw [py "remaining"])
    let resetAt := (firstPresent raw [py "reset_at", py "resetAt"]).bind Json.str?
    if limit = none ∧ remaining = none ∧ resetAt = none then none else some ⟨limit, remaining, resetAt⟩
  | _ => none

def composeSessionId (threadId turnId : Str) : Str := threadId ++ py "-" ++ turnId

/-- `(now - reference).total_seconds() * 1000.0`, in floats; a reference in the future counts as no time at all. -/
def elapsedMs (now reference : Instant) : ℚ :=
  Binary64.round (Binary64.round ((max (now - reference) 0 : Int) / 1000000) * 1000)

/-- `should_terminate_for_stall`, on aware instants. -/
def shouldTerminateForStall (now : Instant) (lastEventAt : Option Instant) (startedAt : Instant)
    (stallTimeoutMs : Int) : Bool :=
  if stallTimeoutMs ≤ 0 then false else (stallTimeoutMs : ℚ) ≤ elapsedMs now (lastEventAt.getD startedAt)

-- a float that is less than the time
example : shouldTerminateForStall 1001000 none 0 1001 = false := by decide +kernel

/-- Up to 142 years, rounding makes nobody late. -/
theorem elapsedMs_lt {now reference : Instant} {timeout : Int} (hpos : 0 < timeout) (hlt : now - reference < timeout * 1000)
    (hyears : now - reference < 2 ^ 52) : elapsedMs now reference < timeout := by
  have htimeout : 0 < timeout * 1000 := by omega
  have hmax : max (now - reference) 0 < timeout * 1000 := max_lt hlt htimeout
  have hmax' : max (now - reference) 0 < 2 ^ 52 := max_lt hyears (by norm_num)
  have hnonneg : (0 : Int) ≤ max (now - reference) 0 := le_max_right _ _
  unfold elapsedMs
  generalize max (now - reference) 0 = elapsed at *
  have h₀ : (0 : ℚ) ≤ elapsed := by exact_mod_cast hnonneg
  have h₁ : (elapsed : ℚ) + 1 ≤ timeout * 1000 := by exact_mod_cast hmax
  have h₂ : (elapsed : ℚ) + 1 ≤ 2 ^ 52 := by exact_mod_cast hmax'
  have hseconds : (0 : ℚ) ≤ elapsed / 1000000 := by positivity
  have hround := Binary64.round_le hseconds
  have hround' := Binary64.round_le (mul_nonneg (Binary64.round_nonneg hseconds) (by norm_num : (0 : ℚ) ≤ 1000))
  -- both roundings together are off by less than a microsecond
  linarith

end RiverGang
