import Mathlib.Data.Finset.Card
import Mathlib.Data.Finset.Range
import RiverGang.Lib.Graph
import RiverGang.Lib.Py

/-!
# Redaction of secrets

`observability/logging.py`, `redact_secrets`, over the objects of the interpreter: dicts and lists by their identities, and
everything else as a scalar. The call allocates a copy; the ids of the containers on its way are in `seen`.

* `redact_spec`: a call ends, and leaves a copy in the heap behind what was there.
* `redactSecrets_redacts`: what that is, position by position, for every graph.
-/

namespace RiverGang

open Py Graph

/-! ## Objects -/

/-- An object that is neither a dict nor a list. -/
inductive Scalar
  | none
  | bool (b : Bool)
  | int (n : Int)
  | float (text : Str)
  | str (s : Str)
  | other (i : Nat)
  deriving DecidableEq

abbrev PyValue := Graph.Value Scalar
abbrev PyHeap := Graph.Heap Scalar Scalar

/-- A reference to a container that is there. -/
def Rooted (n : Nat) : PyValue → Prop
  | .atom _ => True
  | .ref i => i < n

def Closed (heap : PyHeap) : Prop := ∀ node ∈ heap, ∀ c ∈ node.children, Rooted heap.length c.2

/-- A value with the containers that it may refer to. -/
structure ObjectGraph where
  heap : PyHeap
  root : PyValue
  closed : Closed heap
  rooted : Rooted heap.length root

/-! ## The call -/

def SECRET_EXACT : List Str :=
  [py "linear_api_key", py "api_key", py "auth_token", py "access_token", py "bearer_token", py "refresh_token",
    py "client_secret", py "password", py "secret", py "authorization"]

def SECRET_SUBSTRINGS : List Str :=
  [py "api_key", py "apikey", py "api-key", py "secret_key", py "secret-key", py "secretkey"]

def SECRET_PLACEHOLDER : Str := py "***"

def CYCLE_SENTINEL : Str := py "<cycle>"

section Redaction

variable [Unicode]

/-- `_is_secret_key` -/
def isSecretKey (key : Str) : Bool :=
  let lowered := lower key
  lowered ∈ SECRET_EXACT || SECRET_SUBSTRINGS.any fun needle => contains needle lowered

/-- The value under a key is a secret; the items of a list have no key. -/
def hidesValue : Option Scalar → Bool
  | some (.str key) => isSecretKey key
  | _ => false

/-- What a call works on. -/
structure Redactor where
  heap : PyHeap
  seen : Finset Nat

/-- The values of a dict or a list, one after the other. -/
def redactAll (redact : PyValue → Redactor → Option (PyValue × Redactor)) :
    List (Option Scalar × PyValue) → Redactor → Option (List PyValue × Redactor)
  | [], s => some ([], s)
  | (key, value) :: children, s =>
    if hidesValue key then
      (redactAll redact children s).map fun r => (.atom (.str SECRET_PLACEHOLDER) :: r.1, r.2)
    else
      (redact value s).bind fun r => (redactAll redact children r.2).map fun r' => (r.1 :: r'.1, r'.2)

/-- `_redact`. The fuel is for the recursion: each call in another one is for another container. -/
def redact : Nat → PyValue → Redactor → Option (PyValue × Redactor)
  | _, .atom a, s => some (.atom a, s)
  | 0, .ref _, _ => none
  | fuel + 1, .ref i, s =>
    if i ∈ s.seen then some (.atom (.str CYCLE_SENTINEL), s)
    else
      (s.heap[i]?).bind fun node =>
        (redactAll (redact fuel) node.children { s with seen := insert i s.seen }).map fun r =>
          (.ref r.2.heap.length, ⟨r.2.heap ++ [node.replace r.1], r.2.seen.erase i⟩)

def redactSecrets (value : PyValue) (heap : PyHeap) : Option (PyValue × PyHeap) :=
  (redact (heap.length + 1) value ⟨heap, ∅⟩).map fun r => (r.1, r.2.heap)

/-! ## A call leaves a copy -/

/-- What a call has left in the heap `H'`, from the heap `H`: copies of values of the heap `h`. -/
structure Left (h : PyHeap) (seen : Finset Nat) (cs : List (Option Scalar × PyValue)) (H : PyHeap)
    (vs : List PyValue) (H' : PyHeap) : Prop where
  grows : H <+: H'
  copies : Copies hidesValue h H' (.str SECRET_PLACEHOLDER) (.str CYCLE_SENTINEL) seen cs H.length H'.length vs
  closed : Closed H'
  rooted : ∀ v ∈ vs, Rooted H'.length v

omit [Unicode] in
theorem Rooted.mono {n m : Nat} {v : PyValue} (h : Rooted n v) (hnm : n ≤ m) : Rooted m v := by
  cases v with
  | atom => trivial
  | ref i => exact Nat.lt_of_lt_of_le h hnm

omit [Unicode] in
/-- A container of what is there may be added. -/
theorem Closed.concat {heap : PyHeap} {node : Node Scalar Scalar} {vs : List PyValue} (h : Closed heap)
    (hvs : ∀ v ∈ vs, Rooted heap.length v) (hlength : vs.length = node.children.length) :
    Closed (heap ++ [node.replace vs]) := by
  intro node' hn c hc
  rw [List.length_append]
  rcases List.mem_append.1 hn with hn | hn
  · exact (h node' hn c hc).mono (by omega)
  · cases List.mem_singleton.1 hn
    rw [children_replace hlength] at hc
    exact (hvs c.2 (List.of_mem_zip hc).2).mono (by omega)

/-- One call after the other. -/
theorem redactAll_spec {h : PyHeap} {fuel : Nat} {seen : Finset Nat}
    (hredact : ∀ {v : PyValue} {k : Option Scalar} {H : PyHeap}, hidesValue k = false → Rooted h.length v → h <+: H →
      Closed H → ∃ v' H', redact fuel v ⟨H, seen⟩ = some (v', ⟨H', seen⟩) ∧ Left h seen [(k, v)] H [v'] H') :
    ∀ (cs : List (Option Scalar × PyValue)) {H : PyHeap}, (∀ c ∈ cs, Rooted h.length c.2) → h <+: H → Closed H →
      ∃ vs H', redactAll (redact fuel) cs ⟨H, seen⟩ = some (vs, ⟨H', seen⟩) ∧ Left h seen cs H vs H'
  | [], H, _, _, hH => ⟨[], H, rfl, List.prefix_refl H, .nil, hH, by simp⟩
  | (k, v) :: cs, H, hcs, hbefore, hH => by
    obtain ⟨hv, hcs⟩ := List.forall_mem_cons.1 hcs
    cases hk : hidesValue k with
    | true =>
      obtain ⟨vs, H', hr, hl⟩ := redactAll_spec hredact cs hcs hbefore hH
      refine ⟨_, H', by rw [redactAll, if_pos hk, hr]; rfl, hl.grows, .hidden hk hl.copies, hl.closed, ?_⟩
      exact List.forall_mem_cons.2 ⟨trivial, hl.rooted⟩
    | false =>
      obtain ⟨v', H₁, hr₁, hl₁⟩ := hredact hk hv hbefore hH
      obtain ⟨vs, H', hr, hl⟩ := redactAll_spec hredact cs hcs (hbefore.trans hl₁.grows) hl₁.closed
      obtain ⟨more, rfl⟩ := hl.grows
      refine ⟨v' :: vs, _, ?_, hl₁.grows.trans hl.grows, ?_, hl.closed, ?_⟩
      · rw [redactAll, hk, if_neg (by simp), hr₁, Option.bind_some, hr]
        rfl
      · exact (hl₁.copies.append more).cons hl.copies
      · refine List.forall_mem_cons.2 ⟨?_, hl.rooted⟩
        exact (hl₁.rooted v' (by simp)).mono (by rw [List.length_append]; omega)

/-- **A call ends**, with the containers that are not on the way to it as the measure, and leaves a copy. -/
theorem redact_spec {h : PyHeap} (hh : Closed h) : ∀ (fuel : Nat) {v : PyValue} {seen : Finset Nat} {k : Option Scalar}
    {H : PyHeap}, (Finset.range h.length \ seen).card < fuel → hidesValue k = false → Rooted h.length v → h <+: H →
      Closed H → ∃ v' H', redact fuel v ⟨H, seen⟩ = some (v', ⟨H', seen⟩) ∧ Left h seen [(k, v)] H [v'] H' := by
  intro fuel
  induction fuel with
  | zero => exact fun hlt => absurd hlt (Nat.not_lt_zero _)
  | succ fuel ih =>
    intro v seen k H hlt hk hv hbefore hH
    cases v with
    | atom a => exact ⟨.atom a, H, rfl, List.prefix_refl H, .atom hk .nil, hH, by simp [Rooted]⟩
    | ref i =>
      by_cases hi : i ∈ seen
      · exact ⟨_, H, by rw [redact, if_pos hi], List.prefix_refl H, .cycle hk hi .nil, hH, by simp [Rooted]⟩
      have hn : h[i]? = some h[i] := List.getElem?_eq_getElem hv
      have hnH : H[i]? = some h[i] := by
        obtain ⟨more, rfl⟩ := hbefore
        rw [List.getElem?_append_left hv, hn]
      have hcard : (Finset.range h.length \ insert i seen).card < fuel := by
        have hmem : i ∈ Finset.range h.length \ seen := by simp [hi, show i < h.length from hv]
        have := Finset.card_erase_of_mem hmem
        rw [Finset.sdiff_insert]
        have hpos := Finset.card_pos.2 ⟨i, hmem⟩
        omega
      obtain ⟨us, H', hr, hl⟩ := redactAll_spec (fun hk hv => ih hcard hk hv) h[i].children
        (hh h[i] (List.getElem_mem hv)) hbefore hH
      have hlength := hl.copies.length
      refine ⟨.ref H'.length, H' ++ [h[i].replace us], ?_, hl.grows.trans (List.prefix_append _ _), ?_,
        hl.closed.concat hl.rooted hlength, ?_⟩
      · rw [redact, if_neg hi]
        simp only [hnH, Option.bind_some, hr, Option.map_some, Finset.erase_insert hi]
      · rw [List.length_append]
        exact .node hk hi hn (hl.copies.append _) (by simp) .nil
      · simp [Rooted]

/-! ## What the copy looks like -/

/-- A way down from the root of a graph through no secret key and twice through no container, with the containers on it. -/
abbrev ObjectGraph.Way (g : ObjectGraph) (π : List Nat) (anc : Finset Nat) (v : PyValue) : Prop :=
  Walk hidesValue g.heap ∅ g.root π anc v

/-- A position under a secret key, at the end of such a way. -/
abbrev ObjectGraph.SecretAt (g : ObjectGraph) (π : List Nat) : Prop := HiddenAt hidesValue g.heap ∅ g.root π

/-- The result of a redaction: a value in a heap. -/
structure IsRedaction (g : ObjectGraph) (v : PyValue) (heap : PyHeap) : Prop where
  /-- the containers of the graph are as they were -/
  unmodified : ∀ i < g.heap.length, heap[i]? = g.heap[i]?
  /-- none of them is reached from the result -/
  fresh : ∀ π i, valueAt heap v π = some (.ref i) → g.heap.length ≤ i
  /-- it is a tree, -/
  tree : ∀ π π' i, valueAt heap v π = some (.ref i) → valueAt heap v π' = some (.ref i) → π = π'
  /-- and a finite one -/
  finite : ∀ π, (valueAt heap v π).isSome → π.length ≤ heap.length
  secret : ∀ π, g.SecretAt π → view heap v π = some (.atom (.str SECRET_PLACEHOLDER))
  cycle : ∀ π anc i, g.Way π anc (.ref i) → i ∈ anc → view heap v π = some (.atom (.str CYCLE_SENTINEL))
  /-- the same atoms and containers with the same keys elsewhere -/
  kept : ∀ π anc u, g.Way π anc u → (∀ i, u = .ref i → i ∉ anc) → view heap v π = view g.heap g.root π
  only : ∀ π, (valueAt heap v π).isSome → (∃ anc u, g.Way π anc u) ∨ g.SecretAt π

/-- A copy of the root is one. -/
theorem Left.isRedaction {g : ObjectGraph} {v : PyValue} {heap : PyHeap}
    (h : Left g.heap ∅ [(none, g.root)] g.heap [v] heap) : IsRedaction g v heap where
  unmodified i hi := by
    obtain ⟨more, rfl⟩ := h.grows
    exact List.getElem?_append_left hi
  fresh π i hf := (h.copies.fresh (j := 0) rfl hf).1
  tree π π' i hf hf' := by
    have hv : [v][0]? = some v := rfl
    exact (h.copies.injective hv hv hf hf').2
  finite π hf := by
    obtain ⟨x, hx⟩ := Option.isSome_iff_exists.1 hf
    have := h.copies.depth (j := 0) rfl hx
    omega
  secret π hs := by
    obtain ⟨π₀, j, anc, i, node, k, u, rfl, hw, hi, hn, hj, hk⟩ := hs
    have hshown := h.copies.walks (j := 0) rfl rfl rfl hw
    generalize hf : valueAt heap v π₀ = x at hshown
    cases hshown with
    | cycle hi' => exact absurd hi' hi
    | @node _ m node' us _ hn' hm hlength hhidden =>
      rw [hn] at hn'
      cases hn'
      have hu := getElem?_children_replace hlength hj (hhidden j k u hj hk)
      rw [view, valueAt_append, hf, Option.bind_some, valueAt, hm, Option.bind_some, hu]
      rfl
  cycle π anc i hw hi := by
    have hshown := h.copies.walks (j := 0) rfl rfl rfl hw
    rw [view]
    generalize valueAt heap v π = x at hshown
    cases hshown with
    | cycle => rfl
    | node hi' => exact absurd hi hi'
  kept π anc u hw hu := by
    have hshown := h.copies.walks (j := 0) rfl rfl rfl hw
    rw [view, view, hw.valueAt_eq]
    generalize valueAt heap v π = x at hshown
    cases hshown with
    | atom => rfl
    | cycle hi => exact absurd hi (hu _ rfl)
    | node _ hn hm hlength _ => simp [look, hn, hm, view_replace hlength]
  only π hf := by
    obtain ⟨x, hx⟩ := Option.isSome_iff_exists.1 hf
    exact h.copies.only (j := 0) rfl rfl rfl hx

/-- The call on a graph. -/
theorem redactSecrets_left (g : ObjectGraph) : ∃ v heap, redactSecrets g.root g.heap = some (v, heap) ∧
    Left g.heap ∅ [(none, g.root)] g.heap [v] heap := by
  obtain ⟨v, heap, hr, hl⟩ : ∃ v heap, redact (g.heap.length + 1) g.root ⟨g.heap, ∅⟩ = some (v, ⟨heap, ∅⟩) ∧
      Left g.heap ∅ [(none, g.root)] g.heap [v] heap :=
    redact_spec g.closed _ (by simp) rfl g.rooted (List.prefix_refl _) g.closed
  exact ⟨v, heap, by rw [redactSecrets, hr]; rfl, hl⟩

/-- **Redaction**, of every graph, with everything shared or cyclic in it; and once more changes nothing. -/
theorem redactSecrets_redacts (g : ObjectGraph) : ∃ v heap, redactSecrets g.root g.heap = some (v, heap) ∧
    IsRedaction g v heap ∧
    ∃ v₂ heap₂, redactSecrets v heap = some (v₂, heap₂) ∧ (∀ i < heap.length, heap₂[i]? = heap[i]?) ∧
      ∀ π, view heap₂ v₂ π = view heap v π := by
  obtain ⟨v, heap, hr, hl⟩ := redactSecrets_left g
  obtain ⟨v₂, heap₂, hr₂, hl₂⟩ := redactSecrets_left ⟨heap, v, hl.closed, hl.rooted v (by simp)⟩
  exact ⟨v, heap, hr, hl.isRedaction, v₂, heap₂, hr₂, hl₂.isRedaction.unmodified,
    hl.copies.again hl₂.copies (by simp) (j := 0) rfl rfl⟩

end Redaction

section Sample

attribute [local instance] asciiTables

/-- A dict that contains itself, a list twice, and once more under a secret key. -/
example : redactSecrets (.ref 0)
    [.dict [(.str (py "API_KEY"), .ref 1), (.str (py "a"), .ref 1), (.int 1, .ref 0), (.str (py "b"), .ref 1)],
      .list [.atom (.int 7)]] =
    some (.ref 4,
      [.dict [(.str (py "API_KEY"), .ref 1), (.str (py "a"), .ref 1), (.int 1, .ref 0), (.str (py "b"), .ref 1)],
        .list [.atom (.int 7)], .list [.atom (.int 7)], .list [.atom (.int 7)],
        .dict [(.str (py "API_KEY"), .atom (.str (py "***"))), (.str (py "a"), .ref 2),
          (.int 1, .atom (.str (py "<cycle>"))), (.str (py "b"), .ref 3)]]) := rfl

end Sample

end RiverGang
