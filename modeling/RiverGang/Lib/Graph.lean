import Mathlib.Data.Finset.Insert

/-!
# Object graphs and their copies

A heap of containers, dicts and lists, that refer to each other: containers may be shared, and there may be cycles. A
position below a value is a list of indices (`valueAt`), and what is seen at one is an atom or the form of a container
(`view`).

A copy of a graph as a tree hides the values under some keys, and cuts each way down where it comes to a container for the
second time. `Walk` is a way down that does not; `Copies` says that some values are such copies, in a given stretch of the
heap: containers are put there after all that is below them. From that,

* `Copies.fresh` and `Copies.injective`: the copy is of new containers only, each at one position.
* `Copies.walks` and `Copies.only`: what is seen at its positions.
* `Copies.again`: a copy of the copy looks the same.
-/

namespace Graph

/-- An atom, or a reference to a container. -/
inductive Value (α : Type)
  | atom (a : α)
  | ref (i : Nat)
  deriving DecidableEq

inductive Node (κ α : Type)
  | dict (entries : List (κ × Value α))
  | list (items : List (Value α))

abbrev Heap (κ α : Type) := List (Node κ α)

variable {κ α : Type}

namespace Node

/-- The values of a container, those of a dict with their keys. -/
def children : Node κ α → List (Option κ × Value α)
  | .dict entries => entries.map fun p => (some p.1, p.2)
  | .list items => items.map fun v => (none, v)

/-- The same container with other values. -/
def replace : Node κ α → List (Value α) → Node κ α
  | .dict entries, vs => .dict ((entries.map Prod.fst).zip vs)
  | .list _, vs => .list vs

end Node

/-- What is seen of a value without looking into its children. -/
inductive View (κ α : Type)
  | atom (a : α)
  | dict (keys : List κ)
  | list (length : Nat)
  deriving DecidableEq

def Node.view : Node κ α → View κ α
  | .dict entries => .dict (entries.map Prod.fst)
  | .list items => .list items.length

/-- The value at a position. -/
def valueAt (h : Heap κ α) : Value α → List Nat → Option (Value α)
  | v, [] => some v
  | .atom _, _ :: _ => none
  | .ref i, j :: π => (h[i]?).bind fun node => (node.children[j]?).bind fun c => valueAt h c.2 π

def look (h : Heap κ α) : Value α → Option (View κ α)
  | .atom a => some (.atom a)
  | .ref i => (h[i]?).map Node.view

def view (h : Heap κ α) (v : Value α) (π : List Nat) : Option (View κ α) := (valueAt h v π).bind (look h)

/-- Nothing is below an atom. -/
theorem valueAt_atom {h : Heap κ α} {a : α} {π : List Nat} {x : Value α} :
    valueAt h (.atom a) π = some x ↔ π = [] ∧ x = .atom a := by
  cases π <;> simp [valueAt, eq_comm]

theorem valueAt_append (h : Heap κ α) : ∀ (π π' : List Nat) (v : Value α),
    valueAt h v (π ++ π') = (valueAt h v π).bind fun w => valueAt h w π'
  | [], _, _ => rfl
  | _ :: _, _, .atom _ => rfl
  | j :: π, π', .ref i => by
    rw [List.cons_append, valueAt, valueAt, Option.bind_assoc]
    congr 1
    funext node
    rw [Option.bind_assoc]
    congr 1
    funext c
    exact valueAt_append h π π' c.2

/-! ## Containers with other values -/

section Replace

variable {node : Node κ α} {vs : List (Value α)}

theorem view_replace (h : vs.length = node.children.length) : (node.replace vs).view = node.view := by
  cases node with
  | dict entries =>
    rw [Node.children, List.length_map] at h
    simp [Node.replace, Node.view, List.map_fst_zip, h]
  | list items =>
    rw [Node.children, List.length_map] at h
    simp [Node.replace, Node.view, h]

theorem children_replace (h : vs.length = node.children.length) :
    (node.replace vs).children = (node.children.map Prod.fst).zip vs := by
  cases node with
  | dict entries =>
    have hkeys : (Node.dict entries).children.map Prod.fst = (entries.map Prod.fst).map some := by
      simp [Node.children]
    rw [hkeys, List.zip_map_left]
    rfl
  | list items =>
    have hnone : ∀ (items vs : List (Value α)), vs.length = items.length →
        vs.map (fun v => ((none : Option κ), v)) = (items.map fun _ => none).zip vs := by
      intro items
      induction items with
      | nil => exact fun vs h => by simp [List.length_eq_zero_iff.1 h]
      | cons u items ih =>
        intro vs h
        cases vs with
        | nil => cases h
        | cons v vs => simp [ih vs (by simpa using h)]
    rw [Node.children, List.length_map] at h
    have hkeys : (Node.list (κ := κ) items).children.map Prod.fst = items.map fun _ => none := by
      simp [Node.children]
    rw [hkeys, ← hnone items vs h]
    rfl

/-- The child of a container and what has come in its place. -/
theorem getElem?_children_replace (h : vs.length = node.children.length) {j : Nat} {k : Option κ} {u v : Value α}
    (hu : node.children[j]? = some (k, u)) (hv : vs[j]? = some v) : (node.replace vs).children[j]? = some (k, v) := by
  rw [children_replace h, List.getElem?_zip_eq_some]
  exact ⟨by rw [List.getElem?_map, hu]; rfl, hv⟩

end Replace

/-! ## Ways down -/

section Copies

variable (hide : Option κ → Bool) (h h' : Heap κ α) (placeholder cycle : α)

/-- A way down from a value to a position, through no hidden key and twice through no container; it goes with the
containers above, and those of the way are added to them. -/
inductive Walk : Finset Nat → Value α → List Nat → Finset Nat → Value α → Prop
  | here {anc : Finset Nat} {v : Value α} : Walk anc v [] anc v
  | down {anc anc' : Finset Nat} {i j : Nat} {node : Node κ α} {k : Option κ} {u w : Value α} {π : List Nat} : i ∉ anc →
      h[i]? = some node → node.children[j]? = some (k, u) → hide k = false → Walk (insert i anc) u π anc' w →
      Walk anc (.ref i) (j :: π) anc' w

theorem Walk.valueAt_eq {hide : Option κ → Bool} {h : Heap κ α} {anc anc' : Finset Nat} {v w : Value α} {π : List Nat}
    (hw : Walk hide h anc v π anc' w) : valueAt h v π = some w := by
  induction hw with
  | here => rfl
  | down _ hn hj _ _ ih => rw [valueAt, hn, Option.bind_some, hj, Option.bind_some, ih]

/-- A position under a hidden key. -/
def HiddenAt (anc : Finset Nat) (v : Value α) (π : List Nat) : Prop :=
  ∃ π₀ j anc' i node k u, π = π₀ ++ [j] ∧ Walk hide h anc v π₀ anc' (.ref i) ∧ i ∉ anc' ∧ h[i]? = some node ∧
    node.children[j]? = some (k, u) ∧ hide k = true

/-- Values in the heap `h'` that are copies of children in the heap `h`, below some containers. What the copies are made
of is in a stretch of `h'`, each container behind what is below it. -/
inductive Copies : Finset Nat → List (Option κ × Value α) → Nat → Nat → List (Value α) → Prop
  | nil {anc : Finset Nat} {lo : Nat} : Copies anc [] lo lo []
  | hidden {anc : Finset Nat} {k : Option κ} {u : Value α} {cs : List (Option κ × Value α)} {lo hi : Nat}
      {vs : List (Value α)} : hide k = true → Copies anc cs lo hi vs →
      Copies anc ((k, u) :: cs) lo hi (.atom placeholder :: vs)
  | atom {anc : Finset Nat} {k : Option κ} {a : α} {cs : List (Option κ × Value α)} {lo hi : Nat}
      {vs : List (Value α)} : hide k = false → Copies anc cs lo hi vs →
      Copies anc ((k, .atom a) :: cs) lo hi (.atom a :: vs)
  | cycle {anc : Finset Nat} {k : Option κ} {i : Nat} {cs : List (Option κ × Value α)} {lo hi : Nat}
      {vs : List (Value α)} : hide k = false → i ∈ anc → Copies anc cs lo hi vs →
      Copies anc ((k, .ref i) :: cs) lo hi (.atom cycle :: vs)
  | node {anc : Finset Nat} {k : Option κ} {i : Nat} {node : Node κ α} {cs : List (Option κ × Value α)}
      {lo mid hi : Nat} {us vs : List (Value α)} : hide k = false → i ∉ anc → h[i]? = some node →
      Copies (insert i anc) node.children lo mid us → h'[mid]? = some (node.replace us) →
      Copies anc cs (mid + 1) hi vs → Copies anc ((k, .ref i) :: cs) lo hi (.ref mid :: vs)

/-- What is in the place of a value, at the end of a way down: the atom itself, the mark of a cycle, or a container with
the same keys, with what is hidden in it replaced. -/
inductive Shown (anc : Finset Nat) : Value α → Option (Value α) → Prop
  | atom {a : α} : Shown anc (.atom a) (some (.atom a))
  | cycle {i : Nat} : i ∈ anc → Shown anc (.ref i) (some (.atom cycle))
  | node {i m : Nat} {node : Node κ α} {us : List (Value α)} : i ∉ anc → h[i]? = some node →
      h'[m]? = some (node.replace us) → us.length = node.children.length →
      (∀ (j : Nat) (k : Option κ) (u : Value α), node.children[j]? = some (k, u) → hide k = true →
        us[j]? = some (Value.atom placeholder)) →
      Shown anc (.ref i) (some (.ref m))

variable {hide h h' placeholder cycle} {anc : Finset Nat} {cs : List (Option κ × Value α)} {lo hi : Nat}
  {vs : List (Value α)}

namespace Copies

theorem length (hc : Copies hide h h' placeholder cycle anc cs lo hi vs) : vs.length = cs.length := by
  induction hc with
  | nil => rfl
  | hidden _ _ ih | atom _ _ ih | cycle _ _ _ ih => rw [List.length_cons, List.length_cons, ih]
  | node _ _ _ _ _ _ _ ih => rw [List.length_cons, List.length_cons, ih]

theorem le (hc : Copies hide h h' placeholder cycle anc cs lo hi vs) : lo ≤ hi := by
  induction hc with
  | nil => exact Nat.le_refl _
  | hidden _ _ ih | atom _ _ ih | cycle _ _ _ ih => exact ih
  | node _ _ _ _ _ _ ih ih' => omega

/-- What is put behind them changes nothing. -/
theorem append (hc : Copies hide h h' placeholder cycle anc cs lo hi vs) (new : List (Node κ α)) :
    Copies hide h (h' ++ new) placeholder cycle anc cs lo hi vs := by
  induction hc with
  | nil => exact .nil
  | hidden hk _ ih => exact .hidden hk ih
  | atom hk _ ih => exact .atom hk ih
  | cycle hk hi _ ih => exact .cycle hk hi ih
  | node hk hi hn _ hm _ ih ih' =>
    exact .node hk hi hn ih (by rw [List.getElem?_append_left (List.getElem?_eq_some_iff.1 hm).1]; exact hm) ih'

theorem valueAt_child {us : List (Value α)} {node : Node κ α} {anc : Finset Nat} {lo mid j : Nat} {u : Value α}
    {π : List Nat} (hus : Copies hide h h' placeholder cycle anc node.children lo mid us)
    (hm : h'[mid]? = some (node.replace us)) (hu : us[j]? = some u) :
    valueAt h' (.ref mid) (j :: π) = valueAt h' u π := by
  have hj : j < node.children.length := hus.length ▸ (List.getElem?_eq_some_iff.1 hu).1
  rw [valueAt, hm, Option.bind_some, getElem?_children_replace hus.length (List.getElem?_eq_getElem hj) hu,
    Option.bind_some]

theorem cons {k : Option κ} {u v : Value α} {mid : Nat}
    (hc : Copies hide h h' placeholder cycle anc [(k, u)] lo mid [v])
    (hrest : Copies hide h h' placeholder cycle anc cs mid hi vs) :
    Copies hide h h' placeholder cycle anc ((k, u) :: cs) lo hi (v :: vs) := by
  cases hc with
  | hidden hk hnil =>
    cases hnil
    exact .hidden hk hrest
  | atom hk hnil =>
    cases hnil
    exact .atom hk hrest
  | cycle hk hi hnil =>
    cases hnil
    exact .cycle hk hi hrest
  | node hk hi hn hus hm hnil =>
    cases hnil
    exact .node hk hi hn hus hm hrest

/-- Below a copied container are the copies of its children, and nothing else. -/
theorem valueAt_node {us : List (Value α)} {node : Node κ α} {anc : Finset Nat} {lo mid j : Nat} {x : Value α}
    {π : List Nat} (hus : Copies hide h h' placeholder cycle anc node.children lo mid us)
    (hm : h'[mid]? = some (node.replace us)) : valueAt h' (.ref mid) (j :: π) = some x ↔
      ∃ u, us[j]? = some u ∧ valueAt h' u π = some x := by
  constructor
  · intro hf
    rw [valueAt, hm, Option.bind_some, Option.bind_eq_some_iff] at hf
    obtain ⟨c, hc, hf⟩ := hf
    rw [children_replace hus.length, List.getElem?_zip_eq_some] at hc
    exact ⟨c.2, hc.2, hf⟩
  · rintro ⟨u, hu, hf⟩
    rw [valueAt_child hus hm hu, hf]

theorem valueAt_none {us : List (Value α)} {node : Node κ α} {anc : Finset Nat} {lo mid j : Nat} {π : List Nat}
    (hus : Copies hide h h' placeholder cycle anc node.children lo mid us) (hm : h'[mid]? = some (node.replace us))
    (hu : us[j]? = none) : valueAt h' (.ref mid) (j :: π) = none := by
  refine Option.eq_none_iff_forall_ne_some.2 fun x hf => ?_
  obtain ⟨u, hu', -⟩ := (valueAt_node hus hm).1 hf
  rw [hu] at hu'
  cases hu'

/-- Only containers of the stretch are below the copies. -/
theorem fresh (hc : Copies hide h h' placeholder cycle anc cs lo hi vs) {j i : Nat} {v : Value α} {π : List Nat}
    (hv : vs[j]? = some v) (hf : valueAt h' v π = some (.ref i)) : lo ≤ i ∧ i < hi := by
  induction hc generalizing j v π with
  | nil => simp at hv
  | hidden _ _ ih | atom _ _ ih | cycle _ _ _ ih =>
    cases j with
    | zero =>
      cases hv
      cases (valueAt_atom.1 hf).2
    | succ j => exact ih hv hf
  | @node _ _ _ node _ lo mid hi us _ _ _ _ hus hm hcs ih ih' =>
    have hlo := hus.le
    have hhi := hcs.le
    cases j with
    | zero =>
      cases hv
      cases π with
      | nil =>
        cases hf
        omega
      | cons j π =>
        obtain ⟨u, hu, hf⟩ := (valueAt_node hus hm).1 hf
        have := ih hu hf
        omega
    | succ j =>
      have := ih' hv hf
      omega

/-- No container is at two positions. -/
theorem injective (hc : Copies hide h h' placeholder cycle anc cs lo hi vs) {j j' i : Nat} {v v' : Value α}
    {π π' : List Nat} (hv : vs[j]? = some v) (hv' : vs[j']? = some v') (hf : valueAt h' v π = some (.ref i))
    (hf' : valueAt h' v' π' = some (.ref i)) : j = j' ∧ π = π' := by
  induction hc generalizing j j' v v' π π' with
  | nil => simp at hv
  | hidden _ _ ih | atom _ _ ih | cycle _ _ _ ih =>
    cases j with
    | zero =>
      cases hv
      cases (valueAt_atom.1 hf).2
    | succ j =>
      cases j' with
      | zero =>
        cases hv'
        cases (valueAt_atom.1 hf').2
      | succ j' =>
        obtain ⟨rfl, rfl⟩ := ih hv hv' hf hf'
        exact ⟨rfl, rfl⟩
  | @node _ _ _ node _ lo mid hi us _ _ _ _ hus hm hcs ih ih' =>
    -- the first copy is below `mid`, with `mid` itself at the top, and the others are behind it
    have hfirst : ∀ {π : List Nat}, valueAt h' (.ref mid) π = some (.ref i) →
        π = [] ∧ i = mid ∨ ∃ j π' u, π = j :: π' ∧ us[j]? = some u ∧ valueAt h' u π' = some (.ref i) ∧ i < mid := by
      intro π hf
      cases π with
      | nil =>
        cases hf
        exact .inl ⟨rfl, rfl⟩
      | cons j π =>
        obtain ⟨u, hu, hf⟩ := (valueAt_node hus hm).1 hf
        exact .inr ⟨j, π, u, rfl, hu, hf, (hus.fresh hu hf).2⟩
    cases j with
    | zero =>
      cases hv
      cases j' with
      | zero =>
        cases hv'
        rcases hfirst hf with ⟨rfl, hi⟩ | ⟨j, π₁, u, rfl, hu, hf, hi⟩ <;>
          rcases hfirst hf' with ⟨rfl, hi'⟩ | ⟨j', π₁', u', rfl, hu', hf', hi'⟩
        · exact ⟨rfl, rfl⟩
        · omega
        · omega
        · obtain ⟨rfl, rfl⟩ := ih hu hu' hf hf'
          exact ⟨rfl, rfl⟩
      | succ j' =>
        have hlater := hcs.fresh hv' hf'
        rcases hfirst hf with ⟨-, hi⟩ | ⟨_, _, _, -, -, -, hi⟩ <;> omega
    | succ j =>
      cases j' with
      | zero =>
        cases hv'
        have hlater := hcs.fresh hv hf
        rcases hfirst hf' with ⟨-, hi⟩ | ⟨_, _, _, -, -, -, hi⟩ <;> omega
      | succ j' =>
        obtain ⟨rfl, rfl⟩ := ih' hv hv' hf hf'
        exact ⟨rfl, rfl⟩

/-- A copy is no deeper than its stretch is long. -/
theorem depth (hc : Copies hide h h' placeholder cycle anc cs lo hi vs) {j : Nat} {v x : Value α} {π : List Nat}
    (hv : vs[j]? = some v) (hf : valueAt h' v π = some x) : π.length ≤ hi - lo := by
  induction hc generalizing j v π with
  | nil => simp at hv
  | hidden _ _ ih | atom _ _ ih | cycle _ _ _ ih =>
    cases j with
    | zero =>
      cases hv
      obtain ⟨rfl, -⟩ := valueAt_atom.1 hf
      exact Nat.zero_le _
    | succ j => exact ih hv hf
  | @node _ _ _ node _ lo mid hi us _ _ _ _ hus hm hcs ih ih' =>
    have hlo := hus.le
    have hhi := hcs.le
    cases j with
    | zero =>
      cases hv
      cases π with
      | nil => exact Nat.zero_le _
      | cons j π =>
        obtain ⟨u, hu, hf⟩ := (valueAt_node hus hm).1 hf
        have := ih hu hf
        rw [List.length_cons]
        omega
    | succ j =>
      have := ih' hv hf
      omega

theorem hidden_child (hc : Copies hide h h' placeholder cycle anc cs lo hi vs) {j : Nat} {k : Option κ} {u : Value α}
    (hj : cs[j]? = some (k, u)) (hk : hide k = true) : vs[j]? = some (.atom placeholder) := by
  induction hc generalizing j with
  | nil => simp at hj
  | hidden _ _ ih =>
    cases j with
    | zero => rfl
    | succ j => exact ih hj
  | atom hno _ ih | cycle hno _ _ ih | node hno _ _ _ _ _ _ ih =>
    cases j with
    | zero =>
      cases hj
      rw [hk] at hno
      cases hno
    | succ j => exact ih hj

/-- **Along a way down**, the copy shows what is at its end. -/
theorem walks (hc : Copies hide h h' placeholder cycle anc cs lo hi vs) {j : Nat} {k : Option κ} {u v w : Value α}
    {π : List Nat} {anc' : Finset Nat} (hj : cs[j]? = some (k, u)) (hk : hide k = false) (hv : vs[j]? = some v)
    (hw : Walk hide h anc u π anc' w) : Shown hide h h' placeholder cycle anc' w (valueAt h' v π) := by
  induction hc generalizing j k u v π with
  | nil => simp at hj
  | hidden hyes _ ih =>
    cases j with
    | zero =>
      cases hj
      rw [hk] at hyes
      cases hyes
    | succ j => exact ih hj hk hv hw
  | atom _ _ ih =>
    cases j with
    | zero =>
      cases hj
      cases hv
      cases hw
      exact .atom
    | succ j => exact ih hj hk hv hw
  | cycle _ hi _ ih =>
    cases j with
    | zero =>
      cases hj
      cases hv
      cases hw with
      | here => exact .cycle hi
      | down hni => exact absurd hi hni
    | succ j => exact ih hj hk hv hw
  | @node _ _ i node _ lo mid hi us _ _ hi' hn hus hm _ ih ih' =>
    cases j with
    | zero =>
      cases hj
      cases hv
      cases hw with
      | here => exact .node hi' hn hm hus.length fun j k u => hus.hidden_child
      | @down _ _ _ j' _ _ _ _ π' _ hn' hj' hk' hw' =>
        rw [hn] at hn'
        cases hn'
        have hlt : j' < us.length := hus.length ▸ (List.getElem?_eq_some_iff.1 hj').1
        rw [valueAt_child hus hm (List.getElem?_eq_getElem hlt)]
        exact ih hj' hk' (List.getElem?_eq_getElem hlt) hw'
    | succ j => exact ih' hj hk hv hw

/-- **Nothing else** is in the copy than what is on the ways down and what has been put in the place of hidden values. -/
theorem only (hc : Copies hide h h' placeholder cycle anc cs lo hi vs) {j : Nat} {k : Option κ} {u v x : Value α}
    {π : List Nat} (hj : cs[j]? = some (k, u)) (hk : hide k = false) (hv : vs[j]? = some v)
    (hf : valueAt h' v π = some x) : (∃ anc' w, Walk hide h anc u π anc' w) ∨ HiddenAt hide h anc u π := by
  induction hc generalizing j k u v π with
  | nil => simp at hj
  | hidden hyes _ ih =>
    cases j with
    | zero =>
      cases hj
      rw [hk] at hyes
      cases hyes
    | succ j => exact ih hj hk hv hf
  | atom _ _ ih | cycle _ _ _ ih =>
    cases j with
    | zero =>
      cases hv
      obtain ⟨rfl, -⟩ := valueAt_atom.1 hf
      exact .inl ⟨_, _, .here⟩
    | succ j => exact ih hj hk hv hf
  | @node _ _ i node _ lo mid hi us _ _ hi' hn hus hm _ ih ih' =>
    cases j with
    | zero =>
      cases hj
      cases hv
      cases π with
      | nil => exact .inl ⟨_, _, .here⟩
      | cons j' π =>
        obtain ⟨u', hu', hf⟩ := (valueAt_node hus hm).1 hf
        have hlt : j' < node.children.length := hus.length ▸ (List.getElem?_eq_some_iff.1 hu').1
        obtain ⟨⟨k', u₀⟩, hc'⟩ : ∃ c, node.children[j']? = some c := ⟨_, List.getElem?_eq_getElem hlt⟩
        cases hk' : hide k' with
        | true =>
          rw [hus.hidden_child hc' hk'] at hu'
          cases hu'
          obtain ⟨rfl, -⟩ := valueAt_atom.1 hf
          exact .inr ⟨[], j', _, i, node, k', u₀, rfl, .here, hi', hn, hc', hk'⟩
        | false =>
          rcases ih hc' hk' hu' hf with ⟨anc', w, hw⟩ | ⟨π₀, j₀, anc', i', node', k₀, w, rfl, hw, hrest⟩
          · exact .inl ⟨anc', w, .down hi' hn hc' hk' hw⟩
          · exact .inr ⟨j' :: π₀, j₀, anc', i', node', k₀, w, rfl, .down hi' hn hc' hk' hw, hrest⟩
    | succ j => exact ih' hj hk hv hf

/-- **A copy of the copy** looks the same. -/
theorem again {h'' : Heap κ α} {anc₂ : Finset Nat} {lo₂ hi₂ : Nat} {vs₂ : List (Value α)}
    (hc : Copies hide h h' placeholder cycle anc cs lo hi vs)
    (hc₂ : Copies hide h' h'' placeholder cycle anc₂ ((cs.map Prod.fst).zip vs) lo₂ hi₂ vs₂)
    (hanc : ∀ a ∈ anc₂, hi ≤ a) {j : Nat} {v v₂ : Value α} (hv : vs[j]? = some v) (hv₂ : vs₂[j]? = some v₂)
    (π : List Nat) : view h'' v₂ π = view h' v π := by
  have hatom : ∀ {a : α} {π : List Nat}, view h'' (.atom a) π = view h' (.atom a) π := by
    intro a π
    cases π <;> rfl
  induction hc generalizing anc₂ lo₂ hi₂ vs₂ j v v₂ π with
  | nil => simp at hv
  | hidden hk _ ih =>
    cases hc₂ with
    | hidden _ hrest =>
      cases j with
      | zero =>
        cases hv
        cases hv₂
        exact hatom
      | succ j => exact ih hrest hanc hv hv₂ π
    | atom hno =>
      rw [hk] at hno
      cases hno
  | atom hk _ ih | cycle hk _ _ ih =>
    cases hc₂ with
    | hidden hyes =>
      rw [hk] at hyes
      cases hyes
    | atom _ hrest =>
      cases j with
      | zero =>
        cases hv
        cases hv₂
        exact hatom
      | succ j => exact ih hrest hanc hv hv₂ π
  | @node _ _ i node _ lo mid hi us _ hk _ _ hus hm hcs ih ih' =>
    have hhi := hcs.le
    cases hc₂ with
    | hidden hyes =>
      rw [hk] at hyes
      cases hyes
    | cycle _ hmem => exact absurd (hanc mid hmem) (by omega)
    | @node _ _ _ node₂ _ lo₂ mid₂ hi₂ us₂ vs₂ _ _ hn₂ hus₂ hm₂ hrest =>
      rw [hm] at hn₂
      cases hn₂
      cases j with
      | zero =>
        cases hv
        cases hv₂
        cases π with
        | nil =>
          have hlength := hus₂.length
          simp only [view, valueAt, Option.bind_some, look, hm, hm₂, Option.map_some]
          rw [view_replace hlength]
        | cons j π =>
          have hlength : us₂.length = us.length := by
            rw [hus₂.length, children_replace hus.length, List.length_zip, List.length_map, hus.length, Nat.min_self]
          cases hu : us[j]? with
          | none =>
            have hu₂ : us₂[j]? = none := by
              rw [List.getElem?_eq_none_iff] at hu ⊢
              omega
            rw [view, view, valueAt_none hus hm hu, valueAt_none hus₂ hm₂ hu₂]
            rfl
          | some u =>
            obtain ⟨u₂, hu₂⟩ : ∃ u₂, us₂[j]? = some u₂ :=
              ⟨_, List.getElem?_eq_getElem (hlength ▸ (List.getElem?_eq_some_iff.1 hu).1)⟩
            rw [view, view, valueAt_child hus hm hu, valueAt_child hus₂ hm₂ hu₂]
            rw [children_replace hus.length] at hus₂
            refine ih hus₂ (fun a ha => ?_) hu hu₂ π
            rcases Finset.mem_insert.1 ha with rfl | ha
            · exact Nat.le_refl _
            · exact Nat.le_trans (by omega) (hanc a ha)
      | succ j => exact ih' hrest hanc hv hv₂ π

end Copies

end Copies

end Graph
