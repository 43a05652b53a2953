import RiverGang.Codex.Framing
import RiverGang.Lib.JsonText

/-!
# Frames on the wire

`CodexProcess.write_frame`, down to the bytes: a payload becomes compact JSON in ASCII, with a newline after it. Read with
`read_frame`, however the bytes arrive, what was written comes back frame by frame.
-/

namespace RiverGang

open Py StreamReader

section Frames

variable [JsonText.Floats]

/-- `(json.dumps(payload, separators=(",", ":")) + "\n").encode("utf-8")` -/
def encodeFrame (payload : Payload) : Except BuiltinError Bytes :=
  (JsonText.dumps JsonText.compact (.obj payload)).bind fun text => encodeUtf8 (text ++ [10])

/-- The payloads that can be written: no integer has more digits than `int` writes. -/
def sent (payloads : List Payload) : List Payload := payloads.filter fun payload => (encodeFrame payload).toOption.isSome

/-- What calls of `write_frame` write; one that raises writes nothing. -/
def writtenBytes (payloads : List Payload) : Bytes :=
  (payloads.filterMap fun payload => (encodeFrame payload).toOption).flatten

/-- The payload that is read where a payload was written. -/
def asRead (payload : Payload) : Payload :=
  (JsonText.written JsonText.compact payload).map fun p => (JsonText.joinPairs p.1, JsonText.normal JsonText.compact p.2)

/-- `json.loads` of a line. -/
def loadsLine [JsonText.Codecs] (line : Bytes) : LoadedBytes :=
  match JsonText.loadsBytes line with
  | .ok v => .value v
  | .error (.malformed msg) => .malformed msg
  | .error (.raised msg) => .raised msg

/-- The subprocess, with the library as it is. -/
def textProcess [JsonText.Codecs] (returncode : Option Int) : Subprocess := ⟨loadsLine, returncode⟩

/-- A frame that is written is a line of ASCII, from which it is read. -/
theorem encodeFrame_eq_ok [JsonText.Codecs] {payload : Payload} {b : Bytes} (h : encodeFrame payload = .ok b) :
    ∃ line, b = line ++ [NEWLINE] ∧ NEWLINE ∉ line ∧ line ≠ [] ∧ loadsLine line = .value (.obj (asRead payload)) := by
  unfold encodeFrame at h
  cases ht : JsonText.dumps JsonText.compact (.obj payload) with
  | error e =>
    rw [ht] at h
    cases h
  | ok text =>
    rw [ht] at h
    have hprint := JsonText.printable_encode _ _ ht
    have hascii : ∀ c ∈ text ++ [10], c.val < 0x80 := by
      intro c hc
      rcases List.mem_append.1 hc with hc | hc
      · exact JsonText.ascii_of_printable hprint c hc
      · rw [List.mem_singleton.1 hc]
        decide
    change encodeUtf8 (text ++ [10]) = .ok b at h
    rw [JsonText.encodeUtf8_ascii hascii] at h
    cases h
    refine ⟨text.map fun c => .ofNat c.val, by rw [List.map_append]; rfl, ?_, ?_, ?_⟩
    · intro hm
      obtain ⟨c, hc, he⟩ := List.mem_map.1 hm
      have hp := hprint c hc
      simp only [JsonText.Printable, Bool.and_eq_true, decide_eq_true_eq] at hp
      have hval := congrArg UInt8.toNat he
      rw [toNat_ofNat (by omega)] at hval
      change c.val = 10 at hval
      omega
    · obtain ⟨c, u, rfl, -⟩ := (JsonText.readBack _ _ ht).head
      simp
    · rw [loadsLine, JsonText.loadsBytes_dumps ht, JsonText.normal_obj]
      rfl

/-- What was written, line by line. -/
theorem frameLines_written [JsonText.Codecs] (more : Bytes) : ∀ payloads : List Payload,
    ∃ ls, frameLines (writtenBytes payloads ++ more) = ls ++ frameLines more ∧
      List.Forall₂ (fun payload l => encodeFrame payload = .ok (l ++ [NEWLINE]) ∧
        loadsLine l = .value (.obj (asRead payload))) (sent payloads) ls
  | [] => ⟨[], rfl, .nil⟩
  | payload :: payloads => by
    obtain ⟨ls, hls, hread⟩ := frameLines_written more payloads
    cases h : encodeFrame payload with
    | error e =>
      refine ⟨ls, ?_, ?_⟩
      · rw [← hls]
        simp [writtenBytes, h, Except.toOption]
      · simpa [sent, h, Except.toOption] using hread
    | ok b =>
      obtain ⟨l, rfl, hl, hne, hload⟩ := encodeFrame_eq_ok h
      refine ⟨l :: ls, ?_, ?_⟩
      · have hbytes : writtenBytes (payload :: payloads) ++ more = l ++ NEWLINE :: (writtenBytes payloads ++ more) := by
          simp [writtenBytes, h, Except.toOption]
        rw [hbytes, frameLines_append hl, if_neg hne, hls, List.cons_append]
      · have hsent : sent (payload :: payloads) = payload :: sent payloads := by simp [sent, h, Except.toOption]
        rw [hsent]
        exact .cons ⟨h, hload⟩ hread

end Frames

/-! ## Lines within the limit -/

section Within

variable {p : ClientParams} {q : Subprocess}

/-- As long as no line is too long, the calls read the lines in order. -/
theorem linesOfCalls_getElem : ∀ (actions : List StdoutAction) (r : StreamReader UInt8) (n : Nat) (l : Bytes)
    (line : Option LineRead), (∀ m ≤ n, ∀ l, (frameLines r.stream)[m]? = some l → l.length ≤ frameLimit p) →
      (frameLines r.stream)[n]? = some l → (linesOfCalls p q actions r)[n]? = some line → line = some (decodeLine q l)
  | [], _, _, _, _, _, _, h => by simp [linesOfCalls] at h
  | .feed :: actions, r, n, l, line, hshort, hl, h =>
    linesOfCalls_getElem actions r.feed n l line (by simpa using hshort) (by simpa using hl) h
  | .read :: actions, r, n, l, line, hshort, hl, h => by
    obtain ⟨hreceives, -⟩ := readLine_receives (p := p) (q := q) r
    have ih := linesOfCalls_getElem actions (readLine p q r).2
    rw [linesOfCalls] at h
    cases hls : frameLines r.stream with
    | nil =>
      rw [hls] at hl
      cases hl
    | cons l' ls =>
      rw [hls] at hreceives hshort hl
      obtain ⟨hx, hnext, -⟩ := hreceives.short (hshort 0 (Nat.zero_le n) l' rfl)
      cases n with
      | zero =>
        cases hl
        cases h
        exact hx
      | succ n =>
        refine ih n l line (fun m hm l hl => ?_) (by rw [hnext]; exact hl) h
        rw [hnext] at hl
        exact hshort (m + 1) (Nat.succ_le_succ hm) l hl

end Within

/-! ## The round trip -/

theorem forall₂_getElem? {α β : Type} {R : α → β → Prop} {l : List α} {l' : List β} (h : List.Forall₂ R l l') :
    ∀ n : Nat, Option.Rel R l[n]? l'[n]? := by
  induction h with
  | nil => exact fun _ => .none
  | cons hR _ ih =>
    intro n
    cases n with
    | zero => exact .some hR
    | succ n => exact ih n

/-- **What `write_frame` writes, `read_frame` reads**: whatever is written after it, however the bytes arrive, the calls
yield the payloads that were written, in order; and those with distinct keys, without surrogate pairs and with floats as
they are printed, unchanged. -/
theorem read_written [JsonText.Floats] [JsonText.Codecs] (p : ClientParams) (returncode : Option Int)
    (payloads : List Payload) (more : Bytes) (r : StreamReader UInt8) (hr : r.stream = writtenBytes payloads ++ more)
    (hfit : ∀ payload ∈ payloads, ∀ b, encodeFrame payload = .ok b → b.length ≤ frameLimit p + 1)
    (actions : List StdoutAction) (n : Nat) (payload : Payload) (line : Option LineRead)
    (hpayload : (sent payloads)[n]? = some payload)
    (hline : (linesOfCalls p (textProcess returncode) actions r)[n]? = some line) :
    line.map (frameOf p) = some (.ok (asRead payload)) ∧
      (JsonText.Plain JsonText.compact (.obj payload) → asRead payload = payload) := by
  constructor
  · obtain ⟨ls, hls, hread⟩ := frameLines_written more payloads
    rw [← hr] at hls
    have hat := forall₂_getElem? hread
    obtain ⟨l, hl, hload⟩ : ∃ l, ls[n]? = some l ∧ loadsLine l = .value (.obj (asRead payload)) := by
      have hn := hat n
      rw [hpayload] at hn
      generalize ls[n]? = x at hn
      cases hn with
      | some h => exact ⟨_, rfl, h.2⟩
    have hlt : n < ls.length := (List.getElem?_eq_some_iff.1 hl).1
    have hshort : ∀ m ≤ n, ∀ l, (frameLines r.stream)[m]? = some l → l.length ≤ frameLimit p := by
      intro m hm l hl
      rw [hls, List.getElem?_append_left (by omega)] at hl
      have hm := hat m
      rw [hl] at hm
      generalize hs : (sent payloads)[m]? = x at hm
      cases hm with
      | some h =>
        have hmem := List.mem_of_mem_filter (List.mem_of_getElem? hs)
        have hle := hfit _ hmem _ h.1
        rw [List.length_append, List.length_singleton] at hle
        omega
    have hframe : (frameLines r.stream)[n]? = some l := by rw [hls, List.getElem?_append_left hlt, hl]
    rw [linesOfCalls_getElem actions r n l line hshort hframe hline]
    simp only [Option.map_some, decodeLine, textProcess, hload, frameOf]
  · intro hplain
    have hnormal := JsonText.normal_of_plain hplain
    rw [JsonText.normal_obj] at hnormal
    exact Json.obj.inj hnormal

section Sample

/-- Every float is printed as `0.0`. -/
@[reducible] def zeroFloats : JsonText.Floats where
  repr _ := py "0.0"
  token _ := .number (n := 0) false (show JsonText.IsFraction [46, 48] from .some (by simp [JsonText.isDigit])) .none
    (by simp)

/-- Only UTF-8. -/
@[reducible] def utf8Only : JsonText.Codecs where
  wide _ _ := none
  decodeError _ := py "'utf-8' codec can't decode byte"

attribute [local instance] zeroFloats utf8Only

def samplePayloads : List Payload :=
  [[(py "id", .int 1), (py "method", .str (py "initialize"))], [(py "id", .int 2), (py "result", .arr [.null, .obj []])]]

/-- A client with room for a kilobyte. -/
def kilobyteClient : ClientParams := ⟨42, py "never", false, [], py "1.0", 1024⟩

/-- The bytes of the payloads in two chunks, with a line after them. -/
def writtenStream : StreamReader UInt8 :=
  ⟨[], [(writtenBytes samplePayloads).take 5, (writtenBytes samplePayloads).drop 5 ++ [97, 10]], true⟩

theorem read_written_second : ∃ line,
    (linesOfCalls kilobyteClient (textProcess (some 0)) [.feed, .read, .read] writtenStream)[1]? = some line ∧
    line.map (frameOf kilobyteClient) =
      some (.ok (asRead [(py "id", .int 2), (py "result", .arr [.null, .obj []])])) ∧
    (JsonText.Plain JsonText.compact (.obj [(py "id", .int 2), (py "result", .arr [.null, .obj []])]) →
      asRead [(py "id", .int 2), (py "result", .arr [.null, .obj []])] =
        [(py "id", .int 2), (py "result", .arr [.null, .obj []])]) := by
  have hsome : ((linesOfCalls kilobyteClient (textProcess (some 0)) [.feed, .read, .read] writtenStream)[1]?).isSome =
      true := by decide +kernel
  obtain ⟨line, hline⟩ := Option.isSome_iff_exists.1 hsome
  have hstream : writtenStream.stream = writtenBytes samplePayloads ++ [97, 10] := by
    simp [writtenStream, stream, ← List.append_assoc]
  have hfit : ∀ payload ∈ samplePayloads, ∀ b, encodeFrame payload = .ok b → b.length ≤ frameLimit kilobyteClient + 1 := by
    have hall : samplePayloads.all (fun payload =>
        (encodeFrame payload).toOption.all (·.length ≤ frameLimit kilobyteClient + 1)) = true := by decide +kernel
    intro payload hp b hb
    have h := List.all_eq_true.1 hall payload hp
    rw [hb] at h
    exact of_decide_eq_true h
  have hsent : sent samplePayloads = samplePayloads := by
    have hall : samplePayloads.all (fun payload => (encodeFrame payload).toOption.isSome) = true := by decide +kernel
    exact List.filter_eq_self.2 (List.all_eq_true.1 hall)
  exact ⟨line, hline, read_written kilobyteClient (some 0) samplePayloads [97, 10] writtenStream hstream hfit
    [.feed, .read, .read] 1 _ line (by rw [hsent]; rfl) hline⟩

end Sample

end RiverGang
