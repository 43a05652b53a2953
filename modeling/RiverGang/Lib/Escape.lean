import Mathlib.Data.List.Basic

/-!
# Codes that are decoded in place

A code of values as texts is read off the front of a longer text when the text and what follows it determine the value and
the rest (`Decodes`). What may follow is part of the notion: a bare word ends at a separator, a quoted one at its quote.

* `decodes_terminated`: letter by letter by a prefix-free table, then a terminator with which no letter's code begins.
* `decodes_word`: bare words up to a separator. `decodes_quoted`: the mix of the two, quotes where they are needed.
* `decodes_fields`: optional fields in a row, each under its name.
-/

namespace Escape

variable {α κ V : Type}

/-- Values of `dom` are read off the front of a text, if what follows them is as `stop` says. -/
def Decodes (dom : V → Prop) (stop : List α → Prop) (enc : V → List α) : Prop :=
  ∀ v w t u, dom v → dom w → stop t → stop u → enc v ++ t = enc w ++ u → v = w ∧ t = u

/-- The end, or a separator. -/
def Ends (sep : α) (t : List α) : Prop := ∀ c ∈ t.head?, c = sep

theorem Ends.nil {sep : α} : Ends sep [] := by simp [Ends]

theorem Ends.cons {sep : α} {t : List α} : Ends sep (sep :: t) := by simp [Ends]

/-! ## Letters -/

/-- No letter's code begins another's. -/
def PrefixFree (f : α → List α) : Prop := ∀ a b t u, f a ++ t = f b ++ u → a = b ∧ t = u

/-- Letter by letter up to the terminator. -/
theorem decodes_terminated {f : α → List α} {q : α} (hf : PrefixFree f) (hq : ∀ a t u, f a ++ t ≠ q :: u) :
    Decodes (fun _ => True) (fun _ => True) fun v : List α => v.flatMap f ++ [q] := by
  intro v
  induction v with
  | nil =>
    intro w t u _ _ _ _ he
    cases w with
    | nil => simpa using he
    | cons b w =>
      simp only [List.flatMap_nil, List.flatMap_cons, List.append_assoc, List.nil_append, List.cons_append] at he
      exact absurd he.symm (hq b _ _)
  | cons a v ih =>
    intro w t u _ _ _ _ he
    cases w with
    | nil =>
      simp only [List.flatMap_nil, List.flatMap_cons, List.append_assoc, List.nil_append, List.cons_append] at he
      exact absurd he (hq a _ _)
    | cons b w =>
      simp only [List.flatMap_cons, List.append_assoc] at he
      obtain ⟨rfl, hrest⟩ := hf a b _ _ he
      obtain ⟨rfl, rfl⟩ := ih w t u trivial trivial trivial trivial (by simpa only [List.append_assoc] using hrest)
      exact ⟨rfl, rfl⟩

/-! ## Words -/

theorem ends_cons {sep c : α} {t : List α} (h : Ends sep (c :: t)) : c = sep := h c (by simp)

/-- A bare word goes up to the separator. -/
theorem decodes_word (sep : α) : Decodes (fun v : List α => sep ∉ v) (Ends sep) id := by
  intro v
  induction v with
  | nil =>
    intro w t u _ hw ht _ he
    cases w with
    | nil => exact ⟨rfl, he⟩
    | cons b w =>
      simp only [id_eq, List.nil_append, List.cons_append] at he
      subst he
      exact absurd (ends_cons ht) fun hb => hw (by simp [hb])
  | cons a v ih =>
    intro w t u hv hw ht hu he
    cases w with
    | nil =>
      simp only [id_eq, List.nil_append, List.cons_append] at he
      subst he
      exact absurd (ends_cons hu) fun ha => hv (by simp [ha])
    | cons b w =>
      simp only [id_eq, List.cons_append, List.cons.injEq] at he
      obtain ⟨rfl, he⟩ := he
      obtain ⟨rfl, rfl⟩ := ih w t u (fun h => hv (by simp [h])) (fun h => hw (by simp [h])) ht hu he
      exact ⟨rfl, rfl⟩

/-- In quotes where `needs` says so, else as it is. -/
def quoted (needs : List α → Bool) (f : α → List α) (q : α) (v : List α) : List α :=
  if needs v then q :: (v.flatMap f ++ [q]) else v

section Quoted

variable {needs : List α → Bool} {f : α → List α} {q sep : α}

/-- A bare word, and what follows it, does not begin with a quote. -/
theorem word_ne_quote (hne : q ≠ sep) {v t u : List α} (hv : q ∉ v) (ht : Ends sep t) : v ++ t ≠ q :: u := by
  intro he
  cases v with
  | nil =>
    rw [List.nil_append] at he
    exact hne (ht q (by simp [he]))
  | cons a v =>
    rw [List.cons_append, List.cons.injEq] at he
    exact hv (by simp [he.1])

/-- If what is left bare has neither quotes nor separators, the mix is read off. -/
theorem decodes_quoted (hf : PrefixFree f) (hq : ∀ a t u, f a ++ t ≠ q :: u) (hne : q ≠ sep)
    (hbare : ∀ v, needs v = false → sep ∉ v ∧ q ∉ v) : Decodes (fun _ => True) (Ends sep) (quoted needs f q) := by
  intro v w t u _ _ ht hu he
  unfold quoted at he
  cases hv : needs v with
  | true =>
    cases hw : needs w with
    | true =>
      simp only [hv, hw, if_true, List.cons_append, List.cons.injEq, true_and] at he
      exact decodes_terminated hf hq v w t u trivial trivial trivial trivial he
    | false =>
      simp only [hv, hw, if_true, Bool.false_eq_true, if_false, List.cons_append] at he
      exact absurd he.symm (word_ne_quote hne (hbare w hw).2 hu)
  | false =>
    cases hw : needs w with
    | true =>
      simp only [hv, hw, if_true, Bool.false_eq_true, if_false, List.cons_append] at he
      exact absurd he (word_ne_quote hne (hbare v hv).2 ht)
    | false =>
      simp only [hv, hw, Bool.false_eq_true, if_false] at he
      exact decodes_word sep v w t u (hbare v hv).1 (hbare w hw).1 ht hu he

end Quoted

/-! ## Optional fields -/

/-- The fields that are set, each after a separator and under its name. -/
def fields (sep eq : α) (name : κ → List α) (enc : V → List α) (a : κ → Option V) (keys : List κ) : List α :=
  keys.flatMap fun k => (a k).elim [] fun v => sep :: (name k ++ eq :: enc v)

section Fields

variable {sep eq : α} {name : κ → List α} {enc : V → List α} {a b : κ → Option V} {k : κ} {keys : List κ}

theorem fields_none (h : a k = none) :
    fields sep eq name enc a (k :: keys) = fields sep eq name enc a keys := by simp [fields, h]

theorem fields_some {v : V} (h : a k = some v) : fields sep eq name enc a (k :: keys) =
    sep :: (name k ++ eq :: (enc v ++ fields sep eq name enc a keys)) := by simp [fields, h]

theorem ends_fields (keys : List κ) : Ends sep (fields sep eq name enc a keys) := by
  induction keys with
  | nil => exact .nil
  | cons k keys ih =>
    cases h : a k with
    | none =>
      rw [fields_none h]
      exact ih
    | some v =>
      rw [fields_some h]
      exact .cons

/-- A name is read up to its `eq`. -/
theorem name_inj {m n t u : List α} (hm : eq ∉ m) (hn : eq ∉ n) (h : m ++ eq :: t = n ++ eq :: u) : m = n ∧ t = u := by
  obtain ⟨hmn, htu⟩ := decodes_word eq m n (eq :: t) (eq :: u) hm hn .cons .cons h
  exact ⟨hmn, (List.cons.inj htu).2⟩

/-- The first field is not taken for another. -/
theorem name_mem_of_fields (heq : ∀ k, eq ∉ name k) {m t : List α} (hm : eq ∉ m)
    (h : fields sep eq name enc a keys = sep :: (m ++ eq :: t)) : m ∈ keys.map name := by
  induction keys with
  | nil => simp [fields] at h
  | cons k keys ih =>
    cases hk : a k with
    | none =>
      rw [fields_none hk] at h
      exact List.mem_cons_of_mem _ (ih h)
    | some v =>
      rw [fields_some hk, List.cons.injEq] at h
      rw [List.map_cons, ← (name_inj (heq k) hm h.2).1]
      exact List.mem_cons_self

/-- Fields of different names in a fixed order are read off: which are set, and to what. -/
theorem decodes_fields (heq : ∀ k, eq ∉ name k) (henc : Decodes (fun _ => True) (Ends sep) enc) :
    ∀ {keys : List κ}, (keys.map name).Nodup →
      fields sep eq name enc a keys = fields sep eq name enc b keys → ∀ k ∈ keys, a k = b k
  | [], _, _ => by simp
  | k :: keys, hd, h => by
    rw [List.map_cons, List.nodup_cons] at hd
    obtain ⟨hk, hd⟩ := hd
    have hhead : a k = b k ∧ fields sep eq name enc a keys = fields sep eq name enc b keys := by
      cases ha : a k with
      | none =>
        cases hb : b k with
        | none => exact ⟨rfl, by rwa [fields_none ha, fields_none hb] at h⟩
        | some w =>
          rw [fields_none ha, fields_some hb] at h
          exact absurd (name_mem_of_fields heq (heq k) h) hk
      | some v =>
        cases hb : b k with
        | none =>
          rw [fields_some ha, fields_none hb] at h
          exact absurd (name_mem_of_fields heq (heq k) h.symm) hk
        | some w =>
          rw [fields_some ha, fields_some hb, List.cons.injEq] at h
          have he := (name_inj (heq k) (heq k) h.2).2
          obtain ⟨rfl, hrest⟩ := henc v w _ _ trivial trivial (ends_fields keys) (ends_fields keys) he
          exact ⟨rfl, hrest⟩
    intro k' hk'
    rcases List.mem_cons.1 hk' with rfl | hk'
    · exact hhead.1
    · exact decodes_fields heq henc hd hhead.2 k' hk'

end Fields

end Escape
