import RiverGang.Lib.Pool
import RiverGang.Workspace.Manager

/-!
# Isolation of workspaces

Any number of calls of the workspace manager, at once or one after the other, for the identifiers of a set, with any
symbolic links in the file system.

* `workspaces_isolated`: the paths of two identifiers are apart exactly when the identifiers are separated; and as long as
  all identifiers are, nobody enters a directory that has to do with one in use, and a removal touches neither the root nor
  the workspace of another issue.
* `workspaces_shared`: two issues share a directory, one enters it while the other is in it, and then deletes it.
-/

namespace RiverGang

open Py Coop Task

section Service

variable [Builtins] (os : Os) (resolve : Path → Path) (config : EffectiveConfig) (U : Str → Prop)

/-- The identifiers of the set are separated from each other, and no entry of theirs leads to the root. -/
structure KeptApart : Prop where
  apart : ∀ a b p q, U a → U b → a ≠ b → pathForIssue resolve config a = .ok p → pathForIssue resolve config b = .ok q →
    Separated resolve (.parse config.workspace.root) a b
  below : ∀ a p, U a → pathForIssue resolve config a = .ok p →
    resolve (entryOf (.parse config.workspace.root) a) ≠ resolve (.parse config.workspace.root)

omit [Builtins] in
/-- The lock that an answer gives. -/
def grantedLock : (r : ManagerReq) → ManagerSig.Ans r → Option Str
  | .acquire identifier, (.ok (), _) => some identifier
  | _, _ => none

/-- Calls for the identifiers of the set, with locks that are given to one at a time. -/
def callsOf : Pool.Limits ManagerSig WorkspaceManager WorkspaceCall where
  start _ call := U call.identifier
  answer _ s r x := ∀ i, grantedLock r x = some i → (s.lock i).locked = false

/-- A call has its lock, but where it waits for it. -/
def heldLock (call : WorkspaceCall) : ManagerReq → Multiset Str
  | .acquire _ => 0
  | _ => {call.identifier}

/-- With the locks of the identifiers `H` held: these are in use, each by one, and all was in order so far. -/
structure Orderly (H : Multiset Str) (s : WorkspaceManager) : Prop where
  held : (s.inUse.map Prod.fst : Multiset Str) = H
  nodup : H.Nodup
  locked : ∀ i ∈ H, (s.lock i).locked = true
  own : ∀ u ∈ s.inUse, U u.1 ∧ pathForIssue resolve config u.1 = .ok u.2
  uses : ∀ u ∈ s.uses, ∀ other ∈ u.others, Path.Apart (resolve (.parse config.workspace.root)) u.path other.2
  removals : ∀ r ∈ s.removals, U r.identifier ∧ pathForIssue resolve config r.identifier = .ok r.path ∧
    r.after = (os.removeTree r.path r.before).1

variable {os resolve config U} {H rest : Multiset Str} {s s' : WorkspaceManager} {call : WorkspaceCall} {path : Path}

omit [Builtins] in
theorem WorkspaceManager.lock_setLock (s : WorkspaceManager) (i j : Str) (lock : AsyncLock) :
    (s.setLock i lock).lock j = if i = j then lock else s.lock j := by
  unfold WorkspaceManager.lock WorkspaceManager.setLock
  rw [Dict.get?_insert]
  split <;> rfl

/-- What leaves the records, and the locks that are held, keeps it. -/
theorem Orderly.same (h : Orderly os resolve config U H s) (hin : s'.inUse = s.inUse) (hu : s'.uses = s.uses)
    (hr : s'.removals = s.removals) (hl : ∀ i ∈ H, (s'.lock i).locked = (s.lock i).locked) :
    Orderly os resolve config U H s' where
  held := by rw [hin]; exact h.held
  nodup := h.nodup
  locked i hi := (hl i hi).trans (h.locked i hi)
  own := by rw [hin]; exact h.own
  uses := by rw [hu]; exact h.uses
  removals := by rw [hr]; exact h.removals

theorem Orderly.files (h : Orderly os resolve config U H s) (files : Files) :
    Orderly os resolve config U H { s with files := files } := h.same rfl rfl rfl fun _ _ => rfl

/-- A lock whose holder stays. -/
theorem Orderly.setLock (h : Orderly os resolve config U H s) {i : Str} {lock : AsyncLock}
    (hl : i ∈ H → lock.locked = (s.lock i).locked) : Orderly os resolve config U H (s.setLock i lock) := by
  refine h.same rfl rfl rfl fun j hj => ?_
  rw [WorkspaceManager.lock_setLock]
  split
  · rename_i he
    subst he
    exact hl hj
  · rfl

/-- A free lock is nobody's. -/
theorem Orderly.free (h : Orderly os resolve config U H s) {i : Str} (hf : (s.lock i).locked = false) : i ∉ H := by
  intro hi
  rw [h.locked i hi] at hf
  cases hf

/-- Who has the lock enters: all that is in use is apart from what he enters. -/
theorem Orderly.enter (hU : KeptApart resolve config U) (h : Orderly os resolve config U rest s) {i : Str} (hi : U i)
    (hfree : i ∉ rest) (hlocked : (s.lock i).locked = true) (hp : pathForIssue resolve config i = .ok path) :
    Orderly os resolve config U ({i} + rest) (s.enter i path) where
  held := by
    rw [← h.held]
    simp [WorkspaceManager.enter]
  nodup := by
    rw [Multiset.singleton_add]
    exact Multiset.nodup_cons.2 ⟨hfree, h.nodup⟩
  locked j hj := by
    rw [Multiset.singleton_add, Multiset.mem_cons] at hj
    rcases hj with rfl | hj
    · exact hlocked
    · exact h.locked j hj
  own u hu := by
    rcases List.mem_append.1 hu with hu | hu
    · exact h.own u hu
    · rw [List.mem_singleton.1 hu]
      exact ⟨hi, hp⟩
  uses u hu other ho := by
    rcases List.mem_append.1 hu with hu | hu
    · exact h.uses u hu other ho
    · obtain rfl := List.mem_singleton.1 hu
      obtain ⟨hother, hq⟩ := h.own other ho
      have hmem : other.1 ∈ rest := by
        rw [← h.held]
        exact List.mem_map_of_mem ho
      have hne : i ≠ other.1 := fun he => hfree (by rw [he]; exact hmem)
      exact (apart_iff_separated hp hq).2 (hU.apart i other.1 path other.2 hi hother hne hp hq)
  removals := h.removals

/-- Who leaves takes his entry with him. -/
theorem Orderly.left {i : Str} (h : Orderly os resolve config U ({i} + rest) s)
    (hp : pathForIssue resolve config i = .ok path) : Orderly os resolve config U rest (s.left i path) := by
  have hnodup := h.nodup
  rw [Multiset.singleton_add, Multiset.nodup_cons] at hnodup
  have hmem : (i, path) ∈ s.inUse := by
    have hi : i ∈ (s.inUse.map Prod.fst : Multiset Str) := by
      rw [h.held]
      exact Multiset.mem_add.2 (.inl (Multiset.mem_singleton_self i))
    obtain ⟨u, hu, rfl⟩ := List.mem_map.1 hi
    have hpath := (h.own u hu).2
    rw [hp] at hpath
    cases hpath
    exact hu
  have hheld : ((s.inUse.erase (i, path)).map Prod.fst : Multiset Str) = rest := by
    have hperm := Multiset.coe_eq_coe.2 ((List.perm_cons_erase hmem).map Prod.fst)
    rw [h.held, List.map_cons, ← Multiset.cons_coe, Multiset.singleton_add] at hperm
    exact ((Multiset.cons_inj_right i).1 hperm).symm
  refine ⟨hheld, hnodup.2, fun j hj => ?_, fun u hu => h.own u (List.mem_of_mem_erase hu), h.uses, h.removals⟩
  have hne : i ≠ j := fun he => hnodup.1 (by rw [he]; exact hj)
  unfold WorkspaceManager.left
  rw [WorkspaceManager.lock_setLock, if_neg hne]
  exact h.locked j (Multiset.mem_add.2 (.inr hj))

/-! ## One call -/

/-- A task of the call with postconditions of its own. -/
abbrev Keeping (os : Os) (resolve : Path → Path) (config : EffectiveConfig) (U : Str → Prop) (call : WorkspaceCall)
    {α : Type} (Q : α → Multiset Str → WorkspaceManager → Prop) (X : Exn → Multiset Str → WorkspaceManager → Prop)
    (t : Res ManagerSig Exn WorkspaceManager α) (rest : Multiset Str) : Prop :=
  Pool.Keeps (callsOf U) heldLock (Orderly os resolve config U) call Q X t rest

/-- The call has its lock. -/
abbrev Inside (os : Os) (resolve : Path → Path) (config : EffectiveConfig) (U : Str → Prop) (call : WorkspaceCall)
    (rest : Multiset Str) (s : WorkspaceManager) : Prop := Orderly os resolve config U ({call.identifier} + rest) s

/-- A part of a call that has its lock throughout. -/
abbrev KeepsIn (os : Os) (resolve : Path → Path) (config : EffectiveConfig) (U : Str → Prop) (call : WorkspaceCall)
    {α : Type} (t : Res ManagerSig Exn WorkspaceManager α) (rest : Multiset Str) : Prop :=
  Keeping os resolve config U call (fun _ => Inside os resolve config U call)
    (fun _ => Inside os resolve config U call) t rest

theorem acquire_keeps (h : Orderly os resolve config U rest s) :
    Keeping os resolve config U call (fun _ rest s => Orderly os resolve config U rest s ∧ call.identifier ∉ rest ∧
        (s.lock call.identifier).locked = true)
      (fun _ => Orderly os resolve config U) (Managing.acquire call.identifier s) rest := by
  have hlock : ∀ {rest s}, Orderly os resolve config U rest s → (s.lock call.identifier).locked = false →
      Orderly os resolve config U rest (s.locked call.identifier) ∧ call.identifier ∉ rest ∧
        ((s.locked call.identifier).lock call.identifier).locked = true := by
    intro rest s h hf
    have hfree := h.free hf
    refine ⟨h.setLock fun hi => absurd hi hfree, hfree, ?_⟩
    rw [WorkspaceManager.locked, WorkspaceManager.lock_setLock, if_pos rfl]
  unfold Managing.acquire Managing.wait
  simp only [bind_apply, get_apply, Res.bind_ret]
  split
  · simp only [bind_apply, modify_apply, Res.bind_ret]
    refine Pool.Keeps.request_bind ?_ fun rest' s' x hj hx => ?_
    · rw [heldLock, zero_add]
      exact h.setLock fun _ => rfl
    · rw [heldLock, zero_add] at hj
      obtain ⟨o, files⟩ := x
      let lock := { s'.lock call.identifier with waiters := (s'.lock call.identifier).waiters - 1 }
      have hj' : Orderly os resolve config U rest' ({ s' with files }.setLock call.identifier lock) :=
        (hj.files files).setLock fun _ => rfl
      cases o with
      | error exc => exact hj'
      | ok u =>
        refine hlock hj' ?_
        rw [WorkspaceManager.lock_setLock, if_pos rfl]
        exact hx _ rfl
  · rename_i hfree
    refine hlock h ?_
    simp only [Bool.or_eq_true, not_or, Bool.not_eq_true] at hfree
    exact hfree.1

/-- Waiting for anything but a lock. -/
theorem wait_keepsIn (h : Inside os resolve config U call rest s)
    {r : ManagerReq} (hr : heldLock call r = {call.identifier}) :
    KeepsIn os resolve config U call (Managing.wait r s) rest := by
  unfold Managing.wait
  simp only [bind_apply]
  refine Pool.Keeps.request_bind (by rw [hr]; exact h) fun rest' s' x hj _ => ?_
  rw [hr] at hj
  exact hj.files x.2

theorem fileCall_keepsIn (h : Inside os resolve config U call rest s) (f : Files → Files × Option Exn) :
    KeepsIn os resolve config U call (Managing.fileCall f s) rest := by
  unfold Managing.fileCall
  simp only [bind_apply, get_apply, Res.bind_ret, modify_apply]
  cases (f s.files).2 with
  | none => exact h.files _
  | some exc => exact h.files _

theorem rmtree_keepsIn (h : Inside os resolve config U call rest s) (hcall : U call.identifier)
    (hp : pathForIssue resolve config call.identifier = .ok path) :
    KeepsIn os resolve config U call (Managing.rmtree os call.identifier path s) rest := by
  refine ⟨h.held, h.nodup, h.locked, h.own, h.uses, fun r hr => ?_⟩
  rcases List.mem_append.1 hr with hr | hr
  · exact h.removals r hr
  · rw [List.mem_singleton.1 hr]
    exact ⟨hcall, hp, rfl⟩

theorem populateWorkspace_keepsIn (h : Inside os resolve config U call rest s) :
    KeepsIn os resolve config U call (populateWorkspace os config path s) rest := by
  unfold populateWorkspace
  cases config.workspace.repository.filter (strip · ≠ []) with
  | none => exact fileCall_keepsIn h _
  | some repository =>
    simp only [bind_apply]
    refine (wait_keepsIn h rfl).bind fun o rest s hs => ?_
    cases o with
    | ok u => exact hs
    | error exc =>
      dsimp only
      unfold onException
      split <;> exact hs

theorem maybeRunAfterCreate_keepsIn (h : Inside os resolve config U call rest s) :
    KeepsIn os resolve config U call (maybeRunAfterCreate config path s) rest := by
  unfold maybeRunAfterCreate
  cases config.hooks.afterCreate.filter (strip · ≠ []) with
  | none => exact h
  | some script =>
    simp only [bind_apply]
    refine (wait_keepsIn h rfl).bind fun o rest s hs => ?_
    cases o with
    | error exc => exact hs
    | ok result =>
      simp only [ofExcept_ok, bind_apply, pure_apply, Res.bind_ret]
      split <;> exact hs

theorem maybeRunBeforeRemove_keepsIn (h : Inside os resolve config U call rest s) :
    KeepsIn os resolve config U call (maybeRunBeforeRemove config path s) rest := by
  unfold maybeRunBeforeRemove
  cases config.hooks.beforeRemove.filter (strip · ≠ []) with
  | none => exact h
  | some script =>
    simp only [bind_apply]
    refine (wait_keepsIn h rfl).bind fun o rest s hs => ?_
    cases o <;> exact hs

theorem ensureLocked_keepsIn (h : Inside os resolve config U call rest s) (hcall : U call.identifier)
    (hp : pathForIssue resolve config call.identifier = .ok path) :
    KeepsIn os resolve config U call (ensureLocked os config call.identifier path s) rest := by
  unfold ensureLocked
  simp only [bind_apply, get_apply, Res.bind_ret]
  cases os.stat path s.files with
  | error exc => exact h
  | ok kind =>
    simp only [ofExcept_ok, pure_apply, Res.bind_ret]
    match kind with
    | some .dir => exact h
    | some .other => exact h
    | none =>
      simp only [bind_apply]
      refine (fileCall_keepsIn h _).bind fun _ rest s hs => ?_
      have htry : KeepsIn os resolve config U call
          ((do populateWorkspace os config path; maybeRunAfterCreate config path : Managing Unit) s) rest := by
        simp only [bind_apply]
        exact (populateWorkspace_keepsIn hs).bind fun _ rest s hs => maybeRunAfterCreate_keepsIn hs
      refine Pool.Keeps.bind (fun _ rest s hs => hs) (htry.tryExcept (fun exc rest s _ hs => ?_) fun _ _ _ _ hs => hs)
      exact (rmtree_keepsIn hs hcall hp).bind fun _ rest s hs => hs

theorem cleanupLocked_keepsIn (h : Inside os resolve config U call rest s) (hcall : U call.identifier)
    (hp : pathForIssue resolve config call.identifier = .ok path) :
    KeepsIn os resolve config U call (cleanupLocked os config call.identifier path s) rest := by
  unfold cleanupLocked
  simp only [bind_apply, get_apply, Res.bind_ret]
  cases os.stat path s.files with
  | error exc => exact h
  | ok kind =>
    simp only [ofExcept_ok, pure_apply, Res.bind_ret]
    cases kind with
    | none => exact h
    | some kind =>
      simp only [bind_apply]
      refine (maybeRunBeforeRemove_keepsIn h).bind fun _ rest s hs => ?_
      refine (rmtree_keepsIn hs hcall hp).bind fun failed rest s hs => ?_
      cases failed <;> exact hs

/-- The lock is taken, the directory entered, and both are given up whatever happened. -/
theorem withLock_keeps {α : Type} {body : Managing α} (hU : KeptApart resolve config U)
    (h : Orderly os resolve config U rest s) (hcall : U call.identifier)
    (hp : pathForIssue resolve config call.identifier = .ok path)
    (hbody : ∀ {rest s}, Inside os resolve config U call rest s → KeepsIn os resolve config U call (body s) rest) :
    Keeping os resolve config U call (fun _ => Orderly os resolve config U) (fun _ => Orderly os resolve config U)
      (Managing.withLock call.identifier path body s) rest := by
  unfold Managing.withLock
  simp only [bind_apply]
  refine (acquire_keeps h).bind fun _ rest s hs => ?_
  obtain ⟨hs, hfree, hlocked⟩ := hs
  have hin := hbody (hs.enter hU hcall hfree hlocked hp)
  exact hin.finallyDo (fun _ _ _ h => h.left hp) fun _ _ _ h => h.left hp

/-- **One call.** -/
theorem workspaceCall_keeps (hU : KeptApart resolve config U) (h : Orderly os resolve config U rest s)
    (hcall : U call.identifier) :
    Keeping os resolve config U call (fun _ => Orderly os resolve config U) (fun _ => Orderly os resolve config U)
      (workspaceCall os resolve config call s) rest := by
  cases call with
  | ensure identifier =>
    simp only [workspaceCall, ensureForIssue, bind_apply]
    cases hp : pathForIssue resolve config identifier with
    | error e => exact h
    | ok path =>
      simp only [Except.mapError, ofExcept_ok, pure_apply, Res.bind_ret]
      refine Pool.Keeps.bind (fun _ rest s hs => hs) ?_
      exact withLock_keeps hU h hcall hp fun hs => ensureLocked_keepsIn hs hcall hp
  | cleanup identifier =>
    simp only [workspaceCall, cleanupForIssue, bind_apply]
    cases hp : pathForIssue resolve config identifier with
    | error e => exact h
    | ok path =>
      simp only [Except.mapError, ofExcept_ok, pure_apply, Res.bind_ret]
      refine Pool.Keeps.bind (fun _ rest s hs => hs) ?_
      exact withLock_keeps hU h hcall hp fun hs => cleanupLocked_keepsIn hs hcall hp

/-! ## All calls -/

omit [Builtins] in
/-- A manager that has done nothing yet; there may be any files. -/
def WorkspaceManager.IsFresh (s : WorkspaceManager) : Prop := ∃ files, s = ⟨files, ∅, [], [], []⟩

/-- **Isolation of workspaces.** The paths of two identifiers are apart exactly when the identifiers are separated. And as
long as all are: whoever enters a directory finds everybody else in directories apart from it, and no removal changes the
root or anything in the workspace of another issue. -/
theorem workspaces_isolated (os : Os) (resolve : Path → Path) (config : EffectiveConfig) :
    (∀ a b p q, a ≠ b → pathForIssue resolve config a = .ok p → pathForIssue resolve config b = .ok q →
      (Path.Apart (resolve (.parse config.workspace.root)) p q ↔
        Separated resolve (.parse config.workspace.root) a b)) ∧
    ∀ U, KeptApart resolve config U → ∀ c,
      Pool.Reach (workspaceCall os resolve config) (callsOf U) WorkspaceManager.IsFresh c →
      (∀ u ∈ c.state.uses, ∀ other ∈ u.others,
        Path.Apart (resolve (.parse config.workspace.root)) u.path other.2) ∧
      ∀ r ∈ c.state.removals,
        r.after (resolve (.parse config.workspace.root)) = r.before (resolve (.parse config.workspace.root)) ∧
        ∀ b q x, U b → b ≠ r.identifier → pathForIssue resolve config b = .ok q → q ≤ x → r.after x = r.before x := by
  refine ⟨fun a b p q _ ha hb => apart_iff_separated ha hb, fun U hU c h => ?_⟩
  have hc : Orderly os resolve config U (c.holdings heldLock) c.state :=
    h.keeps (fun s hs => ?_) fun call rest s hs hcall => workspaceCall_keeps hU hs hcall
  · refine ⟨hc.uses, fun r hr => ?_⟩
    obtain ⟨hmem, hp, hafter⟩ := hc.removals r hr
    obtain ⟨-, heq, hle⟩ := pathForIssue_ok hp
    rw [hafter]
    constructor
    · apply os.removeTree_within
      intro hge
      refine hU.below r.identifier r.path hmem hp ?_
      rw [← heq]
      exact le_antisymm hge hle
    · intro b q x hb hne hq hx
      have hapart := (apart_iff_separated hp hq).2 (hU.apart r.identifier b r.path q hmem hb hne.symm hp hq)
      exact os.removeTree_within _ _ _ (hapart.disjoint hx)
  · obtain ⟨files, rfl⟩ := hs
    exact ⟨rfl, Multiset.nodup_zero, by simp, by simp, by simp, by simp⟩

end Service

/-! ## Samples -/

section Sample

attribute [local instance] sampleBuiltins

/-- A root without links, and a hook that takes its time. -/
def sampleHooked : EffectiveConfig := { sampleConfig with hooks := ⟨some (py "make setup"), none, none, none, 60000⟩ }

/-- A workspace is being made, and another one cleaned up. -/
def sampleWorkspaceCalls (a b : Str) : List (Pool.Label ManagerSig WorkspaceCall) :=
  [.start (.ensure a), .start (.cleanup b)]

theorem sampleWorkspaceCalls_allowed {U : Str → Prop} {a b : Str} (ha : U a) (hb : U b) :
    ∀ l ∈ sampleWorkspaceCalls a b, ∀ c : Pool.Conf ManagerSig Exn WorkspaceManager WorkspaceCall (Option EnsureResult),
      (callsOf U).Allows c l := by
  intro l hl c
  simp only [sampleWorkspaceCalls, List.mem_cons, List.not_mem_nil, or_false] at hl
  rcases hl with rfl | rfl
  · exact ha
  · exact hb

theorem sampleKeptApart : KeptApart id sampleHooked (· ∈ [py "RG-1", py "RG-2"]) := by
  have hsep : ∀ i, ¬ Linked id (.parse sampleHooked.workspace.root) i := fun i h => h rfl
  refine ⟨fun a b p q ha hb hne _ _ => ⟨fun h => ?_, fun h => absurd h (not_or.2 ⟨hsep a, hsep b⟩)⟩, fun a p ha _ h => ?_⟩
  · rw [← keyOf_eq_iff] at h
    simp only [List.mem_cons, List.not_mem_nil, or_false] at ha hb
    rcases ha with rfl | rfl <;> rcases hb with rfl | rfl
    · exact hne rfl
    · revert h; decide +kernel
    · revert h; decide +kernel
    · exact hne rfl
  · simp only [List.mem_cons, List.not_mem_nil, or_false] at ha
    rcases ha with rfl | rfl <;> revert h <;> decide +kernel

theorem workspaces_isolated_sample :
    Path.Apart (.parse (py "/tmp/ws")) (.parse (py "/tmp/ws/RG-1")) (.parse (py "/tmp/ws/RG-2")) ∧
    ∃ c, Pool.Reach (workspaceCall Os.plain id sampleHooked) (callsOf (· ∈ [py "RG-1", py "RG-2"]))
        WorkspaceManager.IsFresh c ∧
      c.state.uses.map (fun u => (u.identifier, u.others.map Prod.fst)) = [(py "RG-2", []), (py "RG-1", [py "RG-2"])] ∧
      c.state.removals.map Removal.identifier = [py "RG-1"] ∧
      (∀ u ∈ c.state.uses, ∀ other ∈ u.others, Path.Apart (.parse (py "/tmp/ws")) u.path other.2) ∧
      ∀ r ∈ c.state.removals, r.after (.parse (py "/tmp/ws")) = r.before (.parse (py "/tmp/ws")) := by
  obtain ⟨hpairs, hruns⟩ := workspaces_isolated Os.plain id sampleHooked
  have hrun : ((Pool.run (workspaceCall Os.plain id sampleHooked) ⟨sampleManager, [], []⟩
      (sampleWorkspaceCalls (py "RG-2") (py "RG-1"))).map fun c => decide (
        c.state.uses.map (fun u => (u.identifier, u.others.map Prod.fst)) = [(py "RG-2", []), (py "RG-1", [py "RG-2"])] ∧
        c.state.removals.map Removal.identifier = [py "RG-1"])) = some true := by decide +kernel
  obtain ⟨c, hc, hd⟩ := Option.map_eq_some_iff.1 hrun
  obtain ⟨huses, hremovals⟩ := of_decide_eq_true hd
  have hreach : Pool.Reach (workspaceCall Os.plain id sampleHooked) (callsOf (· ∈ [py "RG-1", py "RG-2"]))
      WorkspaceManager.IsFresh c :=
    .run (.init ⟨_, rfl⟩) (sampleWorkspaceCalls_allowed (by simp) (by simp)) hc
  obtain ⟨hapart, hkept⟩ := hruns _ sampleKeptApart c hreach
  have hone : pathForIssue id sampleHooked (py "RG-1") = .ok (.parse (py "/tmp/ws/RG-1")) := by decide +kernel
  have htwo : pathForIssue id sampleHooked (py "RG-2") = .ok (.parse (py "/tmp/ws/RG-2")) := by decide +kernel
  have hne : py "RG-1" ≠ py "RG-2" := by decide
  have hsep := sampleKeptApart.apart _ _ _ _ (by simp) (by simp) hne hone htwo
  exact ⟨(hpairs _ _ _ _ hne hone htwo).2 hsep, c, hreach, huses, hremovals, hapart, fun r hr => (hkept r hr).1⟩

/-- **A shared directory.** Two issues have one path; the directory that is being made for the first is entered for the
second, and removed. -/
theorem workspaces_shared : ∃ p,
    pathForIssue id sampleHooked (py "a/b") = .ok p ∧ pathForIssue id sampleHooked (py "a_b") = .ok p ∧
    ∃ c, Pool.Reach (workspaceCall Os.plain id sampleHooked) (callsOf fun _ => True) WorkspaceManager.IsFresh c ∧
      (∃ u ∈ c.state.uses, u.identifier = py "a_b" ∧ u.path = p ∧ (py "a/b", p) ∈ u.others) ∧
      ∃ r ∈ c.state.removals, r.identifier = py "a_b" ∧ r.before p = some .dir ∧ r.after p = none := by
  have hrun : ((Pool.run (workspaceCall Os.plain id sampleHooked) ⟨sampleManager, [], []⟩
      (sampleWorkspaceCalls (py "a/b") (py "a_b"))).map fun c => decide (
        (∃ u ∈ c.state.uses, u.identifier = py "a_b" ∧ u.path = .parse (py "/tmp/ws/a_b") ∧
          (py "a/b", .parse (py "/tmp/ws/a_b")) ∈ u.others) ∧
        ∃ r ∈ c.state.removals, r.identifier = py "a_b" ∧ r.before (.parse (py "/tmp/ws/a_b")) = some .dir ∧
          r.after (.parse (py "/tmp/ws/a_b")) = none)) = some true := by decide +kernel
  obtain ⟨c, hc, hd⟩ := Option.map_eq_some_iff.1 hrun
  refine ⟨.parse (py "/tmp/ws/a_b"), by decide +kernel, by decide +kernel, c, ?_, of_decide_eq_true hd⟩
  exact .run (.init ⟨_, rfl⟩) (sampleWorkspaceCalls_allowed trivial trivial) hc

end Sample

end RiverGang
