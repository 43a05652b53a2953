import RiverGang.Codex.Client
import RiverGang.Codex.Frames

/-!
# Tool calls, as text

`_handle_item_tool_call` on both sides of the tool: the arguments may come as the text of a JSON value, and the outcome
goes back as the text of one.

* `toolCall_text`: the tool gets the value that the text was made of, and the text of the reply is read as the fields of
  the result.
-/

namespace RiverGang

open Py Coop Task

/-- The built-ins with `json` as it is; `json.dumps` as far as it does not raise. -/
@[reducible] def textBuiltins [JsonText.Floats] (base : Builtins) : Builtins :=
  { base with
    loads := fun text =>
      match JsonText.loads text with
      | .ok v => .value v
      | .error (.malformed _) => .malformed
      | .error (.raised msg) => .failed msg
    dumps := fun v => (JsonText.dumps JsonText.sortedKeys v).toOption.getD [] }

/-- The object that a result is written as. -/
def resultFields (r : ToolResult) : Payload :=
  if r.success then [(py "data", r.data.elim .null .obj)]
  else
    (r.errorMessage.map fun m => (py "error", Json.str m)).toList ++
      (r.errors.map fun l => (py "errors", Json.arr l)).toList ++
      (r.data.map fun d => (py "data", Json.obj d)).toList

/-- The value that comes of writing one with sorted keys and reading it again. -/
def throughText [JsonText.Floats] (v : Json) : Json := JsonText.normal JsonText.sortedKeys v

section ToolCall

variable [JsonText.Floats] (base : Builtins)

theorem serialise_eq (r : ToolResult) :
    @serialiseToolResultText (textBuiltins base) r =
      ((JsonText.dumps JsonText.sortedKeys (.obj (resultFields r))).toOption.getD []) := by
  unfold serialiseToolResultText resultFields
  split <;> rfl

/-- What the tool gets for arguments that were written as text. -/
theorem decodeArguments_text {σ : JsonText.Style} {v : Json} {text : Str} (h : JsonText.dumps σ v = .ok text) :
    @decodeArguments (textBuiltins base) (.str text) = .ok (JsonText.normal σ v) := by
  have hloads : (textBuiltins base).loads text = .value (JsonText.normal σ v) := by
    unfold textBuiltins
    dsimp only
    rw [JsonText.loads_dumps h]
  unfold decodeArguments
  dsimp only
  rw [hloads]

/-- What is not a string is left as it is. -/
theorem decodeArguments_value {v : Json} (h : v.str? = none) : @decodeArguments (textBuiltins base) v = .ok v := by
  unfold decodeArguments
  cases v with
  | str => cases h
  | _ => rfl

/-- So is a string that is no JSON. -/
theorem decodeArguments_malformed {text msg : Str} (h : JsonText.loads text = .error (.malformed msg)) :
    @decodeArguments (textBuiltins base) (.str text) = .ok (.str text) := by
  have hloads : (textBuiltins base).loads text = .malformed := by
    unfold textBuiltins
    dsimp only
    rw [h]
  unfold decodeArguments
  dsimp only
  rw [hloads]

/-- The deadline of a call, if there is one, is a float of seconds. -/
def Client.DeadlineFits (s : Client) : Prop := ∀ ms, s.toolTimeoutMs = some ms → FloatFits ms

omit [JsonText.Floats] in
theorem executeTool_of_fits {arguments : Json} {s : Client} (h : s.DeadlineFits) :
    executeTool arguments s.toolTimeoutMs =
      Task.request (S := CodexSig) (.execute arguments s.toolTimeoutMs) >>= ofExcept := by
  unfold executeTool
  rw [if_pos (by simpa [Option.all_eq_true, Client.DeadlineFits] using h)]

omit [JsonText.Floats] in
theorem executeTool_of_not_fits {arguments : Json} {s : Client} (h : ¬ s.DeadlineFits) :
    executeTool arguments s.toolTimeoutMs =
      raise (.raised ⟨.overflowError, py "int too large to convert to float"⟩) := by
  unfold executeTool
  rw [if_neg (by simpa [Option.all_eq_true, Client.DeadlineFits] using h)]

/-- The calls of a handler of the tool: the one of the tool with the arguments as they are read, made exactly where they
can be read and the deadline fits. -/
theorem toolCall_logged {P : Proto CodexSig Client} {p : ClientParams} {params : Payload} {o : Except Failure Payload}
    {s s' : Client} {calls : List CodexSig.Call}
    (htool : Json.get? params (py "tool") = some (.str LINEAR_GRAPHQL_TOOL_NAME)) (hhas : p.hasLinearGraphqlTool = true)
    (h : Logged P (@handleItemToolCall (textBuiltins base) p params s) calls o s') :
    calls = [] ∧ (s.DeadlineFits → ∀ arguments,
        @decodeArguments (textBuiltins base) ((Json.get? params (py "arguments")).getD .null) ≠ .ok arguments) ∨
      ∃ arguments x, @decodeArguments (textBuiltins base) ((Json.get? params (py "arguments")).getD .null) = .ok arguments ∧
        calls = [⟨.execute arguments s.toolTimeoutMs, x⟩] ∧
        ∀ r, x = .ok (some r) → o = .ok (toolResponse r.success (@serialiseToolResultText (textBuiltins base) r)) := by
  unfold handleItemToolCall at h
  cases harguments : @decodeArguments (textBuiltins base) ((Json.get? params (py "arguments")).getD .null) with
  | error f =>
    rw [harguments] at h
    cases h
    exact .inl ⟨rfl, nofun⟩
  | ok arguments =>
    rw [harguments, htool, hhas] at h
    simp only [ofExcept_ok, pure_apply, bind_apply, Res.bind_ret, Option.getD_some, Json.str?, ne_eq, not_true_eq_false,
      Bool.not_true, Bool.false_eq_true, or_self, if_false, get_apply, tryExcept_apply] at h
    by_cases hfits : s.DeadlineFits
    · rw [executeTool_of_fits hfits] at h
      refine .inr ⟨arguments, ?_⟩
      cases h with
      | @await _ _ s₁ _ x calls _ _ _ _ h =>
        refine ⟨x, rfl, ?_⟩
        cases x with
        | error f =>
          by_cases hf : f.isException = true
          · simp [ofExcept_error, raise_apply, hf] at h
            cases h
            exact ⟨rfl, nofun⟩
          · simp [ofExcept_error, raise_apply, hf] at h
            cases h
            exact ⟨rfl, nofun⟩
        | ok r =>
          cases r with
          | none =>
            cases h
            exact ⟨rfl, nofun⟩
          | some r =>
            cases h
            refine ⟨rfl, ?_⟩
            rintro _ ⟨⟩
            rfl
    · rw [executeTool_of_not_fits hfits] at h
      cases h
      exact .inl ⟨rfl, fun hf => absurd hf hfits⟩

/-- **Nothing is lost in the text**, for every call of the tool and however it ends: the tool is called, once, with the
value that the arguments were written from, or with the arguments themselves where they are no text of JSON; and the text
of the reply is read as the data, the errors and the message of the result. -/
theorem toolCall_text {P : Proto CodexSig Client} {p : ClientParams} {params : Payload} {o : Except Failure Payload}
    {s s' : Client} {calls : List CodexSig.Call}
    (htool : Json.get? params (py "tool") = some (.str LINEAR_GRAPHQL_TOOL_NAME)) (hhas : p.hasLinearGraphqlTool = true)
    (hrun : Logged P (@handleItemToolCall (textBuiltins base) p params s) calls o s') :
    (s.DeadlineFits →
      (∀ σ v text, JsonText.dumps σ v = .ok text → Json.get? params (py "arguments") = some (.str text) →
        ∃ x, calls = [⟨.execute (JsonText.normal σ v) s.toolTimeoutMs, x⟩]) ∧
      (∀ text msg, JsonText.loads text = .error (.malformed msg) →
        Json.get? params (py "arguments") = some (.str text) →
        ∃ x, calls = [⟨.execute (.str text) s.toolTimeoutMs, x⟩]) ∧
      ∀ v, (Json.get? params (py "arguments")).getD .null = v → v.str? = none →
        ∃ x, calls = [⟨.execute v s.toolTimeoutMs, x⟩]) ∧
    ∀ arguments t r, ⟨.execute arguments t, .ok (some r)⟩ ∈ calls → ∀ text,
      JsonText.dumps JsonText.sortedKeys (.obj (resultFields r)) = .ok text →
      o = .ok (toolResponse r.success text) ∧ JsonText.loads text = .ok (throughText (.obj (resultFields r))) := by
  have hlog := toolCall_logged base htool hhas hrun
  have hmade : s.DeadlineFits → ∀ v, @decodeArguments (textBuiltins base) ((Json.get? params (py "arguments")).getD .null) =
      .ok v → ∃ x, calls = [⟨.execute v s.toolTimeoutMs, x⟩] := by
    intro hfits v hv
    obtain ⟨-, hnone⟩ | ⟨arguments, x, harguments, hcalls, -⟩ := hlog
    · exact absurd hv (hnone hfits v)
    · rw [hv] at harguments
      cases harguments
      exact ⟨x, hcalls⟩
  refine ⟨fun hfits => ⟨fun σ v text hdumps hparams => ?_, fun text msg hloads hparams => ?_, fun v hparams hv => ?_⟩, ?_⟩
  · exact hmade hfits _ (by rw [hparams, Option.getD_some, decodeArguments_text base hdumps])
  · exact hmade hfits _ (by rw [hparams, Option.getD_some, decodeArguments_malformed base hloads])
  · exact hmade hfits _ (by rw [hparams, decodeArguments_value base hv])
  · intro arguments t r hcall text hdumps
    obtain ⟨hcalls, -⟩ | ⟨arguments', x, -, hcalls, hreply⟩ := hlog
    · rw [hcalls] at hcall
      cases hcall
    · rw [hcalls] at hcall
      cases List.mem_singleton.1 hcall
      refine ⟨?_, JsonText.loads_dumps hdumps⟩
      rw [hreply r rfl, serialise_eq, hdumps]
      rfl

end ToolCall

section Sample

attribute [local instance] zeroFloats

def toolQuery : Json := .obj [(py "query", .str (py "query"))]

/-- The query as text. -/
def toolQueryText : Str := py "\x7b\"query\":\"query\"\x7d"

def toolCallParams : Payload := [(py "tool", .str LINEAR_GRAPHQL_TOOL_NAME), (py "arguments", .str toolQueryText)]

def toolResult : ToolResult := ⟨true, some [(py "viewer", .null)], none, none⟩

/-- A client with the tool. -/
def toolClient : ClientParams := ⟨42, py "never", true, [], py "1.0", 1024⟩

/-- The tool returns the result, and nothing else is asked for. -/
def toolAnswers (_ : Client) : (r : CodexReq) → CodexSig.Ans r
  | .receive => .error (.raised ⟨.other, []⟩)
  | .drain => .ok ()
  | .execute _ _ => .ok (some toolResult)
  | .handle _ _ => .ok []
  | .settle => .ok ()

def toolRun : List CodexSig.Call × Except Failure Payload × Client :=
  (@handleItemToolCall (textBuiltins sampleBuiltins) toolClient toolCallParams (Client.new 0)).execLogged toolAnswers

theorem toolQuery_written : JsonText.dumps JsonText.compact toolQuery = .ok toolQueryText :=
  eq_ok_of_toOption (by decide +kernel)

theorem toolQuery_plain : JsonText.Plain JsonText.compact toolQuery := by
  have hp : JsonText.NoPairs (py "query") := by simp [JsonText.NoPairs, py, JsonText.isHigh]
  refine .obj (List.nodup_singleton _) (fun _ => List.pairwise_singleton ..) ?_ ?_
  · rintro q hq
    obtain rfl := List.mem_singleton.1 hq
    exact hp
  · rintro q hq
    obtain rfl := List.mem_singleton.1 hq
    exact .str hp

theorem toolCall_text_sample : ∃ text, JsonText.dumps JsonText.sortedKeys (.obj (resultFields toolResult)) = .ok text ∧
    toolRun.1 = [⟨.execute toolQuery none, .ok (some toolResult)⟩] ∧ toolRun.2.1 = .ok (toolResponse true text) ∧
    JsonText.loads text = .ok (throughText (.obj (resultFields toolResult))) := by
  have hdumps : (JsonText.dumps JsonText.sortedKeys (.obj (resultFields toolResult))).toOption.isSome = true := by
    decide +kernel
  obtain ⟨text, htext⟩ := Option.isSome_iff_exists.1 hdumps
  replace htext := eq_ok_of_toOption htext
  have hlogged : Logged (⟨fun _ _ => True, fun _ _ _ => True⟩ : Proto CodexSig Client)
      (@handleItemToolCall (textBuiltins sampleBuiltins) toolClient toolCallParams (Client.new 0)) toolRun.1 toolRun.2.1
      toolRun.2.2 := by
    unfold toolRun
    exact logged_execLogged (fun _ => trivial) (fun _ _ => trivial) _
  have hfits : (Client.new 0).DeadlineFits := fun ms h => by cases h
  obtain ⟨hcalls, hreply⟩ := toolCall_text sampleBuiltins (by rfl) rfl hlogged
  obtain ⟨x, hx⟩ := (hcalls hfits).1 _ _ _ toolQuery_written (by rfl)
  obtain ⟨_, hresult⟩ := answer_of_execLogged (show ⟨_, x⟩ ∈ toolRun.1 from hx ▸ List.mem_singleton.2 rfl)
  rw [JsonText.normal_of_plain toolQuery_plain, show x = .ok (some toolResult) from hresult] at hx
  obtain ⟨hreply, hread⟩ := hreply toolQuery none toolResult (hx ▸ List.mem_singleton.2 rfl) text htext
  exact ⟨text, htext, hx, hreply, hread⟩

end Sample

end RiverGang
