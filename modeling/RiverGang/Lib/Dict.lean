import Mathlib.Data.List.Nodup

/-!
# Dictionaries that remember insertion order

`Dict κ ν` is a list of entries with distinct keys. Storing under a key that is present keeps its place, a new key goes
to the end, and iteration follows the list. Lookups are characterised by the `get?_*` lemmas, sizes and counts by
`entries_insert_of_not_mem` and its consequences, so that the lists do not appear outside this module.
-/

namespace Coop

/-- A dictionary: entries in insertion order, one for each key. -/
structure Dict (κ ν : Type) where
  entries : List (κ × ν)
  nodup : (entries.map Prod.fst).Nodup

namespace Dict

variable {κ ν : Type}

def empty : Dict κ ν := ⟨[], List.nodup_nil⟩

instance : EmptyCollection (Dict κ ν) := ⟨empty⟩

def keys (d : Dict κ ν) : List κ := d.entries.map Prod.fst

def values (d : Dict κ ν) : List ν := d.entries.map Prod.snd

def length (d : Dict κ ν) : Nat := d.entries.length

/-- Apply `f` to every value. -/
def mapVal (f : κ → ν → ν) (d : Dict κ ν) : Dict κ ν where
  entries := d.entries.map fun p => (p.1, f p.1 p.2)
  nodup := by rw [List.map_map]; exact d.nodup

@[simp] theorem keys_mapVal (f : κ → ν → ν) (d : Dict κ ν) : (d.mapVal f).keys = d.keys := by
  simp [keys, mapVal, Function.comp_def]

instance : Membership κ (Dict κ ν) := ⟨fun d k => k ∈ d.keys⟩

@[simp] theorem not_mem_empty (k : κ) : k ∉ (∅ : Dict κ ν) := List.not_mem_nil

@[simp] theorem length_empty : (∅ : Dict κ ν).length = 0 := rfl

variable [DecidableEq κ]

def get? (d : Dict κ ν) (k : κ) : Option ν := (d.entries.find? fun p => p.1 = k).map Prod.snd

instance (k : κ) (d : Dict κ ν) : Decidable (k ∈ d) := inferInstanceAs (Decidable (k ∈ d.keys))

/-- The entries after storing `v` under `k`. -/
def insertEntry (k : κ) (v : ν) : List (κ × ν) → List (κ × ν)
  | [] => [(k, v)]
  | p :: l => if p.1 = k then (k, v) :: l else p :: insertEntry k v l

theorem map_fst_insertEntry (k : κ) (v : ν) : ∀ l : List (κ × ν),
    (insertEntry k v l).map Prod.fst = if k ∈ l.map Prod.fst then l.map Prod.fst else l.map Prod.fst ++ [k]
  | [] => rfl
  | p :: l => by
    have ih := map_fst_insertEntry k v l
    by_cases hp : p.1 = k
    · simp [insertEntry, hp]
    · have hk : k ≠ p.1 := fun h => hp h.symm
      simp only [insertEntry, hp, if_false, List.map_cons, List.mem_cons, hk, false_or, ih]
      split <;> rfl

/-- `d[k] = v` -/
def insert (d : Dict κ ν) (k : κ) (v : ν) : Dict κ ν where
  entries := insertEntry k v d.entries
  nodup := by
    rw [map_fst_insertEntry]
    split
    · exact d.nodup
    · rename_i h
      exact d.nodup.append (List.nodup_singleton k) (by simpa using h)

/-- `d.pop(k, None)`, the part that changes `d` -/
def erase (d : Dict κ ν) (k : κ) : Dict κ ν where
  entries := d.entries.filter fun p => p.1 ≠ k
  nodup := d.nodup.sublist (List.filter_sublist.map Prod.fst)

/-! ## Lookup -/

@[simp] theorem get?_empty (k : κ) : (∅ : Dict κ ν).get? k = none := rfl

theorem find?_insertEntry (k : κ) (v : ν) (j : κ) : ∀ l : List (κ × ν),
    ((insertEntry k v l).find? fun p => p.1 = j).map Prod.snd =
      if k = j then some v else (l.find? fun p => p.1 = j).map Prod.snd
  | [] => by by_cases h : k = j <;> simp [insertEntry, h]
  | p :: l => by
    have ih := find?_insertEntry k v j l
    by_cases hp : p.1 = k
    · by_cases h : k = j
      · simp [insertEntry, hp, h]
      · simp [insertEntry, hp, h]
    · by_cases h : p.1 = j
      · have hk : ¬ k = j := fun e => hp (h.trans e.symm)
        have hk' : ¬ j = k := fun e => hk e.symm
        simp [insertEntry, h, hk, hk']
      · simp only [insertEntry, hp, if_false, List.find?_cons, h, decide_false]
        exact ih

theorem get?_insert (d : Dict κ ν) (k j : κ) (v : ν) : (d.insert k v).get? j = if k = j then some v else d.get? j :=
  find?_insertEntry k v j d.entries

@[simp] theorem get?_insert_self (d : Dict κ ν) (k : κ) (v : ν) : (d.insert k v).get? k = some v := by
  rw [get?_insert, if_pos rfl]

theorem get?_insert_of_ne (d : Dict κ ν) {k j : κ} (v : ν) (h : k ≠ j) : (d.insert k v).get? j = d.get? j := by
  rw [get?_insert, if_neg h]

/-- An entry is the one that was put in, or an old one. -/
theorem eq_or_of_get?_insert {d : Dict κ ν} {k j : κ} {v u : ν} (h : (d.insert k v).get? j = some u) :
    k = j ∧ v = u ∨ d.get? j = some u := by
  rw [get?_insert] at h
  split at h
  · rename_i hk
    exact .inl ⟨hk, Option.some.inj h⟩
  · exact .inr h

theorem get?_erase (d : Dict κ ν) (k j : κ) : (d.erase k).get? j = if k = j then none else d.get? j := by
  unfold get? erase
  rw [List.find?_filter]
  split
  · rename_i h
    subst h
    simp
  · rename_i h
    have h' : ¬ j = k := fun e => h e.symm
    congr 2
    funext p
    by_cases hp : p.1 = j
    · simp [hp, h']
    · simp [hp]

@[simp] theorem get?_erase_self (d : Dict κ ν) (k : κ) : (d.erase k).get? k = none := by rw [get?_erase, if_pos rfl]

theorem get?_erase_of_ne (d : Dict κ ν) {k j : κ} (h : k ≠ j) : (d.erase k).get? j = d.get? j := by
  rw [get?_erase, if_neg h]

/-- What is left was there before. -/
theorem get?_of_erase {d : Dict κ ν} {k j : κ} {v : ν} (h : (d.erase k).get? j = some v) : d.get? j = some v := by
  rw [get?_erase] at h
  split at h
  · cases h
  · exact h

theorem get?_mapVal (f : κ → ν → ν) (d : Dict κ ν) (k : κ) : (d.mapVal f).get? k = (d.get? k).map (f k) := by
  unfold get? mapVal
  dsimp only
  induction d.entries with
  | nil => rfl
  | cons p l ih =>
    by_cases hp : p.1 = k
    · simp [hp]
    · simpa [hp] using ih

theorem mem_iff_get? {d : Dict κ ν} {k : κ} : k ∈ d ↔ ∃ v, d.get? k = some v := by
  change k ∈ d.entries.map Prod.fst ↔ _
  unfold get?
  constructor
  · intro h
    obtain ⟨p, hp, rfl⟩ := List.mem_map.1 h
    cases hf : d.entries.find? fun q => q.1 = p.1 with
    | none => exact absurd (List.find?_eq_none.1 hf p hp) (by simp)
    | some q => exact ⟨q.2, rfl⟩
  · rintro ⟨v, h⟩
    obtain ⟨p, hp, -⟩ := Option.map_eq_some_iff.1 h
    have hk : p.1 = k := by simpa using List.find?_some hp
    exact List.mem_map.2 ⟨p, List.mem_of_find?_eq_some hp, hk⟩

theorem get?_eq_none {d : Dict κ ν} {k : κ} : d.get? k = none ↔ k ∉ d := by
  rw [mem_iff_get?]
  cases d.get? k <;> simp

theorem mem_of_get? {d : Dict κ ν} {k : κ} {v : ν} (h : d.get? k = some v) : k ∈ d := mem_iff_get?.2 ⟨v, h⟩

theorem mem_insert {d : Dict κ ν} {k j : κ} {v : ν} : j ∈ d.insert k v ↔ k = j ∨ j ∈ d := by
  rw [mem_iff_get?, get?_insert, mem_iff_get?]
  by_cases h : k = j <;> simp [h]

theorem mem_erase {d : Dict κ ν} {k j : κ} : j ∈ d.erase k ↔ k ≠ j ∧ j ∈ d := by
  rw [mem_iff_get?, get?_erase, mem_iff_get?]
  by_cases h : k = j <;> simp [h]

@[simp] theorem mem_mapVal {f : κ → ν → ν} {d : Dict κ ν} {k : κ} : k ∈ d.mapVal f ↔ k ∈ d := by
  simp [mem_iff_get?, get?_mapVal]

/-- The entries are the pairs that lookup finds. -/
theorem mem_entries {d : Dict κ ν} {k : κ} {v : ν} : (k, v) ∈ d.entries ↔ d.get? k = some v := by
  obtain ⟨l, hl⟩ := d
  unfold get?
  induction l with
  | nil => simp
  | cons p l ih =>
    obtain ⟨j, w⟩ := p
    have hn : j ∉ l.map Prod.fst ∧ (l.map Prod.fst).Nodup := List.nodup_cons.1 hl
    by_cases hj : j = k
    · subst hj
      have hv : (j, v) ∉ l := fun h => hn.1 (List.mem_map.2 ⟨_, h, rfl⟩)
      simp [hv, eq_comm]
    · have hj' : ¬ k = j := fun e => hj e.symm
      simpa [hj, hj'] using ih hn.2

/-- The only entry that meets a condition is the one that is found. -/
theorem find?_entries_eq {d : Dict κ ν} {p : κ × ν → Bool} {k : κ} {v : ν} (hk : d.get? k = some v) (hp : p (k, v) = true)
    (hu : ∀ j w, d.get? j = some w → p (j, w) = true → j = k) : d.entries.find? p = some (k, v) := by
  cases hf : d.entries.find? p with
  | none => exact absurd hp (List.find?_eq_none.1 hf _ (mem_entries.2 hk))
  | some q =>
    obtain ⟨j, w⟩ := q
    have hj := mem_entries.1 (List.mem_of_find?_eq_some hf)
    obtain rfl := hu j w hj (List.find?_some hf)
    cases hk.symm.trans hj
    rfl

theorem find?_values_eq {d : Dict κ ν} {p : ν → Bool} {k : κ} {v : ν} (hk : d.get? k = some v) (hp : p v = true)
    (hu : ∀ j w, d.get? j = some w → p w = true → j = k) : d.values.find? p = some v := by
  have hf := find?_entries_eq (p := fun q => p q.2) hk hp hu
  rw [values, List.find?_map]
  exact congrArg (Option.map Prod.snd) hf

/-! ## Size and counting -/

theorem entries_insert_of_not_mem {d : Dict κ ν} {k : κ} (v : ν) (h : k ∉ d) :
    (d.insert k v).entries = d.entries ++ [(k, v)] := by
  obtain ⟨l, hl⟩ := d
  replace h : k ∉ l.map Prod.fst := h
  change insertEntry k v l = l ++ [(k, v)]
  clear hl
  induction l with
  | nil => rfl
  | cons p l ih =>
    simp only [List.map_cons, List.mem_cons, not_or] at h
    have hp : ¬ p.1 = k := fun e => h.1 e.symm
    simp only [insertEntry, hp, if_false, ih h.2, List.cons_append]

theorem length_insert_of_not_mem {d : Dict κ ν} {k : κ} (v : ν) (h : k ∉ d) :
    (d.insert k v).length = d.length + 1 := by
  simp [length, entries_insert_of_not_mem v h]

theorem values_insert_of_not_mem {d : Dict κ ν} {k : κ} (v : ν) (h : k ∉ d) :
    (d.insert k v).values = d.values ++ [v] := by
  simp [values, entries_insert_of_not_mem v h]
end Dict

end Coop
