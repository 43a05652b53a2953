import Mathlib.Order.Basic
import RiverGang.Lib.Py

/-!
# Pure paths

`pathlib.PurePosixPath`: an anchor and parts. Paths are ordered by containment: `p ≤ q` when `q` is `p` or lies in it.

* `Path.parse_str`: a path is what its text parses to.
* `Path.comparable`: of two paths that hold a third, one holds the other.
* `Path.Apart`, `Path.Forks`, `Path.apart_iff_forks`: two paths under a root are apart, which is to say that they go
  through two parts of one directory.
-/

namespace Py

/-- What a path starts with: nothing, `/` or `//`. -/
inductive Anchor
  | relative
  | root
  | doubleRoot
  deriving DecidableEq

def SLASH : CodePoint := 47

/-- `..` is a part as well. -/
def IsPart (s : Str) : Prop := s ≠ [] ∧ s ≠ py "." ∧ SLASH ∉ s

instance IsPart.decidable (s : Str) : Decidable (IsPart s) := inferInstanceAs (Decidable (_ ∧ _ ∧ _))

abbrev Part := {s : Str // IsPart s}

structure Path where
  anchor : Anchor
  parts : List Part
  deriving DecidableEq

def Anchor.str : Anchor → Str
  | .relative => []
  | .root => py "/"
  | .doubleRoot => py "//"

namespace Path

/-! ## Texts -/

/-- Two slashes are an anchor of their own, any other number is that of the root. -/
def anchorOf (s : Str) : Anchor :=
  match (s.takeWhile (· = SLASH)).length with
  | 0 => .relative
  | 2 => .doubleRoot
  | _ => .root

def part? (s : Str) : Option Part := if h : IsPart s then some ⟨s, h⟩ else none

/-- `Path(s)`: what is empty or `.` between slashes is dropped. -/
def parse (s : Str) : Path := ⟨anchorOf s, (s.splitOn SLASH).filterMap part?⟩

/-- `str(p)` -/
def str (p : Path) : Str :=
  match p.anchor.str ++ join [SLASH] (p.parts.map Subtype.val) with
  | [] => py "."
  | s => s

theorem part?_val (n : Part) : part? n.val = some n := dif_pos n.property

theorem filterMap_part? : ∀ l : List Part, (l.map Subtype.val).filterMap part? = l
  | [] => rfl
  | n :: l => by rw [List.map_cons, List.filterMap_cons, part?_val, filterMap_part? l]

theorem parse_parts_cons (s : Str) : (parse (SLASH :: s)).parts = (parse s).parts := by
  have hnone : part? [] = none := rfl
  simp [parse, List.splitOn_cons_eq_if_modifyHead, hnone]

/-- The parts of a path are those of its text without the anchor. -/
theorem parse_join {l : List Part} (hl : l ≠ []) : (parse (join [SLASH] (l.map Subtype.val))).parts = l := by
  have hsplit : ([SLASH].intercalate (l.map Subtype.val)).splitOn SLASH = l.map Subtype.val := by
    apply List.splitOn_intercalate
    · intro s hs
      obtain ⟨n, -, rfl⟩ := List.mem_map.1 hs
      exact n.property.2.2
    · rw [ne_eq, List.map_eq_nil_iff]
      exact hl
  unfold parse
  rw [join_eq_intercalate, hsplit]
  exact filterMap_part? l

/-- A text that starts with a part has its anchor before it. -/
theorem anchorOf_append (a : Anchor) {s : Str} (hs : s.head? ≠ some SLASH) : anchorOf (a.str ++ s) = a := by
  have htake : s.takeWhile (· = SLASH) = [] := by
    cases s with
    | nil => rfl
    | cons c s =>
      have hc : c ≠ SLASH := fun h => hs (by rw [h]; rfl)
      simp [hc]
  have hslash : py "/" = [SLASH] ∧ py "//" = [SLASH, SLASH] := ⟨rfl, rfl⟩
  unfold anchorOf Anchor.str
  cases a <;> simp [hslash, htake]

/-- **Round trip.** A path is what its text parses to. -/
theorem parse_str (p : Path) : parse p.str = p := by
  obtain ⟨a, l⟩ := p
  cases l with
  | nil => cases a <;> rfl
  | cons n l =>
    obtain ⟨c, s, hn⟩ : ∃ c s, n.val = c :: s := List.exists_cons_of_ne_nil n.property.1
    obtain ⟨t, ht⟩ : ∃ t, join [SLASH] ((n :: l).map Subtype.val) = c :: t := by
      cases l <;> simp [join, hn]
    have hstr : str ⟨a, n :: l⟩ = a.str ++ join [SLASH] ((n :: l).map Subtype.val) := by
      unfold str
      rw [ht]
      cases a <;> rfl
    have hanchor : anchorOf (a.str ++ join [SLASH] ((n :: l).map Subtype.val)) = a := by
      apply anchorOf_append
      rw [ht, List.head?_cons]
      rintro ⟨rfl⟩
      exact n.property.2.2 (by simp [hn])
    have hparts : (parse (a.str ++ join [SLASH] ((n :: l).map Subtype.val))).parts = n :: l := by
      have hjoin := parse_join (List.cons_ne_nil n l)
      cases a with
      | relative => exact hjoin
      | root => exact (parse_parts_cons _).trans hjoin
      | doubleRoot => exact ((parse_parts_cons _).trans (parse_parts_cons _)).trans hjoin
    rw [hstr]
    exact congrArg₂ Path.mk hanchor hparts

/-! ## Containment -/

instance partialOrder : PartialOrder Path where
  le p q := p.anchor = q.anchor ∧ p.parts <+: q.parts
  le_refl p := ⟨rfl, List.prefix_refl _⟩
  le_trans p q r h h' := ⟨h.1.trans h'.1, h.2.trans h'.2⟩
  le_antisymm p q h h' := by
    obtain ⟨a, l⟩ := p
    obtain ⟨b, m⟩ := q
    exact congrArg₂ Path.mk h.1 (h.2.eq_of_length_le h'.2.length_le)

instance decidableLe : DecidableLE Path := fun p q =>
  inferInstanceAs (Decidable (p.anchor = q.anchor ∧ p.parts <+: q.parts))

instance decidableLt : DecidableLT Path := fun p q => inferInstanceAs (Decidable (p ≤ q ∧ ¬ q ≤ p))

/-- `p.is_relative_to(q)` -/
def isRelativeTo (p q : Path) : Bool := decide (q ≤ p)

variable {p q r root : Path} {m n : Part}

/-- Of two paths that hold a third, one holds the other. -/
theorem comparable (h : p ≤ r) (h' : q ≤ r) : p ≤ q ∨ q ≤ p := by
  rcases List.prefix_or_prefix_of_prefix h.2 h'.2 with hp | hp
  · exact .inl ⟨h.1.trans h'.1.symm, hp⟩
  · exact .inr ⟨h'.1.trans h.1.symm, hp⟩

def child (p : Path) (n : Part) : Path := ⟨p.anchor, p.parts ++ [n]⟩

theorem lt_child (p : Path) (n : Part) : p < p.child n := by
  refine ⟨⟨rfl, List.prefix_append _ _⟩, fun h => ?_⟩
  have hlen := h.2.length_le
  simp only [child, List.length_append, List.length_singleton] at hlen
  omega

theorem child_le_child (h : p.child m ≤ p.child n) : m = n := by
  have heq := (List.prefix_append_right_inj p.parts).1 h.2
  simpa using heq

/-- What holds an entry of a directory is the entry or holds the directory. -/
theorem le_child (h : q ≤ p.child n) : q = p.child n ∨ q ≤ p := by
  rcases List.prefix_concat_iff.1 h.2 with heq | hle
  · exact .inl (congrArg₂ Path.mk h.1 heq)
  · exact .inr ⟨h.1, hle⟩

/-- `p / s` -/
def joinpath (p : Path) (s : Str) : Path :=
  match (parse s).anchor with
  | .relative => ⟨p.anchor, p.parts ++ (parse s).parts⟩
  | _ => parse s

theorem joinpath_part (p : Path) (n : Part) : p.joinpath n.val = p.child n := by
  have hparts : (parse n.val).parts = [n] := parse_join (l := [n]) (by simp)
  have hanchor : (parse n.val).anchor = .relative := by
    refine anchorOf_append .relative fun h => n.property.2.2 ?_
    exact List.mem_of_head? h
  unfold joinpath
  rw [hanchor, hparts]
  rfl

/-! ## Paths apart -/

/-- Two paths under a root that have nothing in common but what is above both. -/
structure Apart (root p q : Path) : Prop where
  ne : p ≠ q
  not_le : ¬ p ≤ q
  not_ge : ¬ q ≤ p
  left : root < p
  right : root < q

/-- They go through two parts of a directory that is the root or in it. -/
def Forks (root p q : Path) : Prop := ∃ d m n, root ≤ d ∧ m ≠ n ∧ d.child m ≤ p ∧ d.child n ≤ q

/-- Two lists of which none starts with the other differ somewhere. -/
theorem exists_fork {α : Type} : ∀ {l k : List α}, ¬ l <+: k → ¬ k <+: l →
    ∃ c x y, x ≠ y ∧ c ++ [x] <+: l ∧ c ++ [y] <+: k
  | [], k, h, _ => absurd (List.nil_prefix) h
  | _ :: _, [], _, h => absurd (List.nil_prefix) h
  | x :: l, y :: k, h, h' => by
    by_cases hxy : x = y
    · subst hxy
      rw [List.cons_prefix_cons] at h h'
      obtain ⟨c, a, b, hab, ha, hb⟩ := exists_fork (fun hl => h ⟨rfl, hl⟩) fun hk => h' ⟨rfl, hk⟩
      exact ⟨x :: c, a, b, hab, List.cons_prefix_cons.2 ⟨rfl, ha⟩, List.cons_prefix_cons.2 ⟨rfl, hb⟩⟩
    · exact ⟨[], x, y, hxy, by simp, by simp⟩

theorem Forks.not_le (h : Forks root p q) : ¬ p ≤ q := by
  obtain ⟨d, m, n, -, hne, hm, hn⟩ := h
  intro hpq
  rcases comparable (hm.trans hpq) hn with hle | hle
  · exact hne (child_le_child hle)
  · exact hne (child_le_child hle).symm

theorem Forks.symm (h : Forks root p q) : Forks root q p := by
  obtain ⟨d, m, n, hd, hne, hm, hn⟩ := h
  exact ⟨d, n, m, hd, hne.symm, hn, hm⟩

theorem Forks.lt (h : Forks root p q) : root < p := by
  obtain ⟨d, m, n, hd, -, hm, -⟩ := h
  exact hd.trans_lt ((lt_child d m).trans_le hm)

theorem Forks.apart (h : Forks root p q) : Apart root p q :=
  ⟨fun he => h.not_le he.le, h.not_le, h.symm.not_le, h.lt, h.symm.lt⟩

/-- **Apart is to fork.** -/
theorem apart_iff_forks (hp : root ≤ p) (hq : root ≤ q) : Apart root p q ↔ Forks root p q := by
  refine ⟨fun h => ?_, Forks.apart⟩
  obtain ⟨l, hl⟩ := hp.2
  obtain ⟨k, hk⟩ := hq.2
  have hlk : ¬ l <+: k := fun hle =>
    h.not_le ⟨hp.1.symm.trans hq.1, by rw [← hl, ← hk]; exact (List.prefix_append_right_inj _).2 hle⟩
  have hkl : ¬ k <+: l := fun hle =>
    h.not_ge ⟨hq.1.symm.trans hp.1, by rw [← hl, ← hk]; exact (List.prefix_append_right_inj _).2 hle⟩
  obtain ⟨c, x, y, hxy, hx, hy⟩ := exists_fork hlk hkl
  refine ⟨⟨root.anchor, root.parts ++ c⟩, x, y, ⟨rfl, List.prefix_append _ _⟩, hxy, ⟨hp.1, ?_⟩, ⟨hq.1, ?_⟩⟩
  · rw [← hl, child, List.append_assoc]
    exact (List.prefix_append_right_inj _).2 hx
  · rw [← hk, child, List.append_assoc]
    exact (List.prefix_append_right_inj _).2 hy

/-- What is in one of them is not in the other. -/
theorem Apart.disjoint (h : Apart root p q) (hr : q ≤ r) : ¬ p ≤ r := by
  intro hp
  rcases comparable hp hr with hle | hle
  · exact h.not_le hle
  · exact h.not_ge hle

end Path

end Py
