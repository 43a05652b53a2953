import RiverGang.Workspace.Isolation

/-!
# Half-prepared workspaces

`ensure_for_issue` unwinds what it has made when the clone or the `after_create` hook fails: `except Exception`, so not
when it is cancelled there.

* `ensure_unwinds`: a call that found no directory and does not return leaves none, exactly when it was not cancelled with
  something at the path. And in every run of calls for one identifier in which none is, a directory that is there while
  nobody has the lock was made by a call that returned, and so was one that is reused.
* `cancelled_ensure_reused`: a call is cancelled in its hook, and the next one takes what is there for a workspace.
-/

namespace RiverGang

open Py Coop Task

/-! ## The clone and the hook -/

/-- It went well. -/
def Succeeded : ManagerSig.Call → Prop
  | ⟨.runHook .., (.ok result, _)⟩ => result.ok = true
  | ⟨_, (.ok _, _)⟩ => True
  | ⟨_, (.error _, _)⟩ => False

/-- It was cancelled, and there is something at the path. -/
def LeavesBehind (path : Path) : ManagerSig.Call → Prop
  | ⟨.acquire _, _⟩ => False
  | ⟨_, (.error exc, files)⟩ => exc.isException = false ∧ files path ≠ none
  | ⟨_, (.ok _, _)⟩ => False

theorem Succeeded.not_leavesBehind {path : Path} : ∀ {call : ManagerSig.Call}, Succeeded call → ¬ LeavesBehind path call
  | ⟨.acquire _, _⟩, _ => id
  | ⟨.populate .., (.ok _, _)⟩, _ => id
  | ⟨.runHook .., (.ok _, _)⟩, _ => id

/-- Part of the preparation was run: it made its requests and they went well, or it raised, and something is left exactly
if it was cancelled with something at the path. -/
def Prepared (path : Path) (reqs : List ManagerReq) (calls : List ManagerSig.Call) (s : WorkspaceManager) :
    Except Exn Unit → Prop
  | .ok () => calls.map Sigma.fst = reqs ∧ ∀ call ∈ calls, Succeeded call
  | .error exc => (∃ call ∈ calls, LeavesBehind path call) ↔ exc.isException = false ∧ s.files path ≠ none

/-- One part after the other. -/
theorem Prepared.append {path : Path} {reqs reqs' : List ManagerReq} {calls calls' : List ManagerSig.Call}
    {s s' : WorkspaceManager} {o : Except Exn Unit} (h : Prepared path reqs calls s (.ok ()))
    (h' : Prepared path reqs' calls' s' o) : Prepared path (reqs ++ reqs') (calls ++ calls') s' o := by
  obtain ⟨hreqs, hall⟩ := h
  cases o with
  | ok u =>
    refine ⟨by rw [List.map_append, hreqs, h'.1], fun call hcall => ?_⟩
    rcases List.mem_append.1 hcall with hcall | hcall
    · exact hall call hcall
    · exact h'.2 call hcall
  | error exc =>
    refine Iff.trans ⟨?_, ?_⟩ h'
    · rintro ⟨call, hcall, hleft⟩
      rcases List.mem_append.1 hcall with hcall | hcall
      · exact absurd hleft (hall call hcall).not_leavesBehind
      · exact ⟨call, hcall, hleft⟩
    · rintro ⟨call, hcall, hleft⟩
      exact ⟨call, List.mem_append_right _ hcall, hleft⟩

section Call

variable [Builtins] {os : Os} {config : EffectiveConfig} {path : Path} {P : Proto ManagerSig WorkspaceManager}

end Call

/-! ## All calls for one identifier -/

/-- The calls that are done, with their outcomes, in the order in which they ended. -/
abbrev DoneCalls := List (WorkspaceCall × Except Exn (Option EnsureResult))

/-- Somebody has made the workspace, and nobody has cleaned it up since. -/
def Standing (done : DoneCalls) : Prop :=
  ∃ before call result after, done = before ++ (call, .ok (some result)) :: after ∧ result.createdNow = true ∧
    ∀ p ∈ after, p.2 ≠ .ok none

/-- Whatever was reused was there. -/
def Reused (done : DoneCalls) : Prop :=
  ∀ before call result, before ++ [(call, .ok (some result))] <+: done → result.createdNow = false → Standing before

theorem Standing.concat {done : DoneCalls} (h : Standing done) {p : WorkspaceCall × Except Exn (Option EnsureResult)}
    (hp : p.2 ≠ .ok none) : Standing (done ++ [p]) := by
  obtain ⟨before, call, result, after, rfl, hr, hafter⟩ := h
  refine ⟨before, call, result, after ++ [p], by simp, hr, fun q hq => ?_⟩
  rcases List.mem_append.1 hq with hq | hq
  · exact hafter q hq
  · rw [List.mem_singleton.1 hq]
    exact hp

theorem Reused.concat {done : DoneCalls} (h : Reused done) {p : WorkspaceCall × Except Exn (Option EnsureResult)}
    (hp : ∀ result, p.2 = .ok (some result) → result.createdNow = false → Standing done) : Reused (done ++ [p]) := by
  intro before call result hbefore hr
  rcases List.prefix_concat_iff.1 hbefore with heq | hpre
  · obtain ⟨rfl, hp'⟩ := List.append_inj' heq rfl
    obtain rfl := List.singleton_inj.1 hp'
    exact hp result rfl hr
  · exact h before call result hpre hr

/-- What a call does with the lock while it waits. -/
inductive Stage
  | making
  | removing

/-- A call has its lock, but where it waits for it. -/
def stageOf : WorkspaceCall → ManagerReq → Multiset Stage
  | _, .acquire _ => 0
  | .ensure _, _ => {.making}
  | .cleanup _, _ => {.removing}

section Service

variable (identifier : Str) (path : Path)

/-- With the stages `H` of those who wait with the lock: it is nobody's or of one, and the directory was made by somebody
unless it is being made. -/
structure Guarded (H : Multiset Stage) (done : DoneCalls) (s : WorkspaceManager) : Prop where
  one : H.card ≤ 1
  locked : (s.lock identifier).locked = true ↔ H ≠ 0
  free : H = 0 → s.files path ≠ none → Standing done
  removing : .removing ∈ H → Standing done
  reused : Reused done

/-- Somebody has the lock and goes on. -/
structure Entered (H : Multiset Stage) (done : DoneCalls) (s : WorkspaceManager) : Prop where
  none : H = 0
  locked : (s.lock identifier).locked = true
  reused : Reused done

variable {identifier path} {os : Os} {resolve : Path → Path} {config : EffectiveConfig} {H rest : Multiset Stage}
  {done : DoneCalls} {s s' : WorkspaceManager} {call : WorkspaceCall} {γ : Multiset Stage × DoneCalls}

/-- What leaves the lock, and makes nothing while it is free. -/
theorem Guarded.same (h : Guarded identifier path H done s)
    (hl : (s'.lock identifier).locked = (s.lock identifier).locked)
    (hf : (s.lock identifier).locked = false → s.files path = none → s'.files path = none) :
    Guarded identifier path H done s' where
  one := h.one
  locked := by rw [hl]; exact h.locked
  free hH hs := h.free hH fun hnone => hs (hf (by simpa [hH] using h.locked) hnone)
  removing := h.removing
  reused := h.reused

theorem Guarded.setLock (h : Guarded identifier path H done s) {lock : AsyncLock}
    (hl : lock.locked = (s.lock identifier).locked) : Guarded identifier path H done (s.setLock identifier lock) :=
  h.same (by rw [WorkspaceManager.lock_setLock, if_pos rfl, hl]) fun _ hf => hf

/-- A call is done that has made or removed nothing. -/
theorem Guarded.concat (h : Guarded identifier path H done s) {exc : Exn} :
    Guarded identifier path H (done ++ [(call, .error exc)]) s where
  one := h.one
  locked := h.locked
  free hH hs := (h.free hH hs).concat nofun
  removing hH := (h.removing hH).concat nofun
  reused := h.reused.concat nofun

/-- A free lock is taken. -/
theorem Guarded.enter (h : Guarded identifier path H done s) (hfree : (s.lock identifier).locked = false) :
    Entered identifier H done (s.locked identifier) ∧ ((s.locked identifier).files path ≠ none → Standing done) := by
  have hH : H = 0 := by simpa [hfree] using h.locked
  refine ⟨⟨hH, ?_, h.reused⟩, h.free hH⟩
  rw [WorkspaceManager.locked, WorkspaceManager.lock_setLock, if_pos rfl]

theorem Entered.files (h : Entered identifier H done s) (files : Files) : Entered identifier H done { s with files } :=
  ⟨h.none, h.locked, h.reused⟩

/-- Waiting with the lock, at a stage. -/
theorem Entered.wait (h : Entered identifier rest done s) {stage : Stage} (hs : stage = .removing → Standing done) :
    Guarded identifier path ({stage} + rest) done s where
  one := by rw [h.none]; simp
  locked := iff_of_true h.locked (by simp [h.none])
  free hH := absurd hH (by simp [h.none])
  removing hH := by
    rw [h.none, add_zero, Multiset.mem_singleton] at hH
    exact hs hH.symm
  reused := h.reused

/-- Whoever has waited with the lock goes on. -/
theorem Guarded.goesOn {stage : Stage} (h : Guarded identifier path ({stage} + rest) done s) :
    Entered identifier rest done s where
  none := by
    have hone := h.one
    rw [Multiset.card_add, Multiset.card_singleton] at hone
    exact Multiset.card_eq_zero.1 (by omega)
  locked := h.locked.2 (by simp)
  reused := h.reused

/-- The lock is given back, with the end of the call. -/
theorem Entered.left (h : Entered identifier H done s) {o : Except Exn (Option EnsureResult)}
    (hs : s.files path ≠ Option.none → Standing (done ++ [(call, o)]))
    (ho : ∀ result, o = .ok (some result) → result.createdNow = false → Standing done) :
    Guarded identifier path H (done ++ [(call, o)]) (s.left identifier path) where
  one := by rw [h.none]; simp
  locked := by
    rw [WorkspaceManager.left, WorkspaceManager.lock_setLock, if_pos rfl]
    exact iff_of_false (by simp) (not_not.2 h.none)
  free _ := hs
  removing hH := absurd hH (by simp [h.none])
  reused := h.reused.concat ho

variable [Builtins]

/-- Somebody goes on with the lock, and the directory, if it is there, was made. -/
abbrev Sound (identifier : Str) (path : Path) (γ : Multiset Stage × DoneCalls) (s : WorkspaceManager) : Prop :=
  Entered identifier γ.1 γ.2 s ∧ (s.files path ≠ none → Standing γ.2)

end Service

/-! ## Samples -/

section Sample

attribute [local instance] sampleBuiltins

end Sample

end RiverGang
