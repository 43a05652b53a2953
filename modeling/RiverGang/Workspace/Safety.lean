import Mathlib.Data.List.Forall2
import RiverGang.Config.Schema
import RiverGang.Errors
import RiverGang.Lib.Paths

/-!
# Keys and paths of workspaces

`workspace/safety.py` and `path_for_issue` of `workspace/manager.py`. `Path.resolve(strict=False)` is any function on
paths: what it does depends on the symbolic links of the file system.

* `keyOf_eq_iff`: which identifiers share a key.
* `apart_iff_separated`: the paths of two identifiers are apart exactly when the identifiers are `Separated`.
-/

namespace RiverGang

open Py Coop

/-! ## Keys -/

inductive WorkspaceSafetyError
  | emptyWorkspaceKey (msg : Str)
  | invalidWorkspaceKey (msg : Str)
  | workspaceOutsideRoot (msg : Str)
  deriving DecidableEq

/-- The exception that it is to those who do not tell them apart. -/
def WorkspaceSafetyError.exn : WorkspaceSafetyError → Exn
  | .emptyWorkspaceKey msg => ⟨.other, msg⟩
  | .invalidWorkspaceKey msg => ⟨.other, msg⟩
  | .workspaceOutsideRoot msg => ⟨.other, msg⟩

def UNDERSCORE : CodePoint := 95

/-- `[A-Za-z0-9._-]` -/
def isAllowed (c : CodePoint) : Bool :=
  (65 ≤ c.val && c.val ≤ 90) || (97 ≤ c.val && c.val ≤ 122) || (48 ≤ c.val && c.val ≤ 57) || c.val == 46 || c.val == 95 ||
    c.val == 45

def keyChar (c : CodePoint) : CodePoint := if isAllowed c then c else UNDERSCORE

/-- `_ALLOWED_CHAR_RE.sub("_", identifier)` -/
def keyOf (identifier : Str) : Str := identifier.map keyChar

def RESERVED_KEYS : List Str := [py ".", py ".."]

def sanitizeKey [Builtins] (identifier : Str) : Except WorkspaceSafetyError Str :=
  if identifier = [] then .error (.emptyWorkspaceKey (py "workspace key must be a non-empty string"))
  else if identifier ∈ RESERVED_KEYS then
    .error (.invalidWorkspaceKey
      (py "workspace key " ++ Builtins.repr (.str identifier) ++ py " is reserved (resolves to root or parent)"))
  else .ok (keyOf identifier)

/-- Two characters that a key does not tell apart: one and the same, or both become underscores. -/
def Confusable (c d : CodePoint) : Prop := c = d ∨ keyChar c = UNDERSCORE ∧ keyChar d = UNDERSCORE

theorem keyChar_eq_or (c : CodePoint) : keyChar c = c ∨ keyChar c = UNDERSCORE := by
  unfold keyChar
  split
  · exact .inl rfl
  · exact .inr rfl

theorem keyChar_eq_iff {c d : CodePoint} : keyChar c = keyChar d ↔ Confusable c d := by
  constructor
  · intro h
    rcases keyChar_eq_or c with hc | hc
    · rcases keyChar_eq_or d with hd | hd
      · exact .inl (hc.symm.trans (h.trans hd))
      · exact .inr ⟨h.trans hd, hd⟩
    · exact .inr ⟨hc, h.symm.trans hc⟩
  · rintro (rfl | ⟨hc, hd⟩)
    · rfl
    · exact hc.trans hd.symm

/-- **Shared keys.** Identifiers have one key when they differ, character by character, in what becomes an underscore. -/
theorem keyOf_eq_iff : ∀ {a b : Str}, keyOf a = keyOf b ↔ List.Forall₂ Confusable a b
  | [], [] => by simp [keyOf]
  | [], _ :: _ => by simp [keyOf]
  | _ :: _, [] => by simp [keyOf]
  | c :: a, d :: b => by
    have ih := keyOf_eq_iff (a := a) (b := b)
    unfold keyOf at ih ⊢
    rw [List.map_cons, List.map_cons, List.cons.injEq, List.forall₂_cons, keyChar_eq_iff, ih]

/-- A key is one component of a path. -/
theorem isPart_keyOf {identifier : Str} (h0 : identifier ≠ []) (hr : identifier ∉ RESERVED_KEYS) :
    IsPart (keyOf identifier) := by
  refine ⟨?_, fun h => hr ?_, fun h => ?_⟩
  · rw [keyOf, ne_eq, List.map_eq_nil_iff]
    exact h0
  · obtain ⟨c, rfl⟩ : ∃ c, identifier = [c] := by
      have hlen : (keyOf identifier).length = 1 := congrArg List.length h
      rw [keyOf, List.length_map] at hlen
      exact List.length_eq_one_iff.1 hlen
    have hc : keyChar c = 46 := (List.cons.inj h).1
    rcases keyChar_eq_or c with hk | hk
    · rw [← hk, hc]
      decide
    · rw [hk] at hc
      cases hc
  · obtain ⟨c, -, hc⟩ := List.mem_map.1 h
    have hslash : isAllowed SLASH = false := rfl
    rcases keyChar_eq_or c with hk | hk
    · rw [hk] at hc
      rw [keyChar, hc, hslash] at hk
      cases hk
    · rw [hk] at hc
      cases hc

section Keys

variable [Builtins]

theorem sanitizeKey_ok {identifier key : Str} (h : sanitizeKey identifier = .ok key) :
    key = keyOf identifier ∧ IsPart key := by
  unfold sanitizeKey at h
  split at h
  · cases h
  · rename_i h0
    split at h
    · cases h
    · rename_i hr
      cases h
      exact ⟨rfl, isPart_keyOf h0 hr⟩

end Keys

/-! ## Containment -/

section Paths

variable (resolve : Path → Path)

def validateWithinRoot (root candidate : Path) : Except WorkspaceSafetyError Path :=
  let resolvedRoot := resolve root
  let resolvedCandidate := resolve candidate
  if resolvedCandidate ≠ resolvedRoot ∧ ¬ resolvedCandidate.isRelativeTo resolvedRoot then
    .error (.workspaceOutsideRoot
      (py "candidate path " ++ resolvedCandidate.str ++ py " is outside workspace root " ++ resolvedRoot.str))
  else .ok resolvedCandidate

variable {resolve}

theorem validateWithinRoot_eq (root candidate : Path) : validateWithinRoot resolve root candidate =
    if resolve root ≤ resolve candidate then .ok (resolve candidate)
    else .error (.workspaceOutsideRoot
      (py "candidate path " ++ (resolve candidate).str ++ py " is outside workspace root " ++ (resolve root).str)) := by
  unfold validateWithinRoot Path.isRelativeTo
  by_cases h : resolve root ≤ resolve candidate
  · simp [h]
  · have hne : resolve candidate ≠ resolve root := fun he => h he.ge
    simp [h, hne]

theorem validateWithinRoot_ok {root candidate p : Path} (h : validateWithinRoot resolve root candidate = .ok p) :
    p = resolve candidate ∧ resolve root ≤ p := by
  rw [validateWithinRoot_eq] at h
  split at h
  · rename_i hle
    cases h
    exact ⟨rfl, hle⟩
  · cases h

variable (resolve)

/-- The entry of the workspace root for an identifier. -/
def entryOf (root : Path) (identifier : Str) : Path := root.joinpath (keyOf identifier)

def pathForIssue [Builtins] (config : EffectiveConfig) (identifier : Str) : Except WorkspaceSafetyError Path := do
  let key ← sanitizeKey identifier
  let root := Path.parse config.workspace.root
  validateWithinRoot resolve root (root.joinpath key)

/-- The entry is a symbolic link. -/
def Linked (root : Path) (identifier : Str) : Prop :=
  resolve (entryOf root identifier) ≠ (resolve root).joinpath (keyOf identifier)

/-- Two identifiers whose workspaces are kept apart: they do not share their key, and where one of the entries is a
symbolic link, the entries lead into two different entries of one directory that is the root or in it. -/
structure Separated (root : Path) (a b : Str) : Prop where
  names : ¬ List.Forall₂ Confusable a b
  links : Linked resolve root a ∨ Linked resolve root b →
    Path.Forks (resolve root) (resolve (entryOf root a)) (resolve (entryOf root b))

variable {resolve} [Builtins] {config : EffectiveConfig} {a b : Str} {p q : Path}

theorem pathForIssue_ok (h : pathForIssue resolve config a = .ok p) :
    IsPart (keyOf a) ∧ p = resolve (entryOf (.parse config.workspace.root) a) ∧
      resolve (.parse config.workspace.root) ≤ p := by
  unfold pathForIssue at h
  cases hk : sanitizeKey a with
  | error e => rw [hk] at h; cases h
  | ok key =>
    rw [hk] at h
    obtain ⟨rfl, hpart⟩ := sanitizeKey_ok hk
    exact ⟨hpart, validateWithinRoot_ok h⟩

/-- An entry that is no link is where it says. -/
theorem pathForIssue_unlinked (h : pathForIssue resolve config a = .ok p)
    (hl : ¬ Linked resolve (.parse config.workspace.root) a) :
    ∃ hpart : IsPart (keyOf a), p = (resolve (.parse config.workspace.root)).child ⟨keyOf a, hpart⟩ := by
  obtain ⟨hpart, hp, -⟩ := pathForIssue_ok h
  refine ⟨hpart, ?_⟩
  rw [hp, not_not.1 hl]
  exact Path.joinpath_part _ ⟨keyOf a, hpart⟩

/-- **Isolation of two workspaces.** Their paths are apart exactly when the identifiers are separated. -/
theorem apart_iff_separated (ha : pathForIssue resolve config a = .ok p) (hb : pathForIssue resolve config b = .ok q) :
    Path.Apart (resolve (.parse config.workspace.root)) p q ↔ Separated resolve (.parse config.workspace.root) a b := by
  obtain ⟨-, hp, hrp⟩ := pathForIssue_ok ha
  obtain ⟨-, hq, hrq⟩ := pathForIssue_ok hb
  constructor
  · intro h
    refine ⟨fun hsame => h.ne ?_, fun _ => ?_⟩
    · rw [hp, hq, entryOf, entryOf, keyOf_eq_iff.2 hsame]
    · rw [← hp, ← hq]
      exact (Path.apart_iff_forks hrp hrq).1 h
  · intro h
    by_cases hlinks : Linked resolve (.parse config.workspace.root) a ∨ Linked resolve (.parse config.workspace.root) b
    · rw [hp, hq]
      exact (h.links hlinks).apart
    · -- the entries are in the root, by the names of their keys
      obtain ⟨hla, hlb⟩ := not_or.1 hlinks
      obtain ⟨hpa, hp⟩ := pathForIssue_unlinked ha hla
      obtain ⟨hpb, hq⟩ := pathForIssue_unlinked hb hlb
      have hkeys : (⟨keyOf a, hpa⟩ : Part) ≠ ⟨keyOf b, hpb⟩ := fun he =>
        h.names (keyOf_eq_iff.1 (congrArg Subtype.val he))
      exact Path.Forks.apart ⟨_, _, _, le_rfl, hkeys, hp.ge, hq.ge⟩

end Paths

end RiverGang
