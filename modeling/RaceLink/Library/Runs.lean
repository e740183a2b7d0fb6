import Mathlib.Logic.Relation

/-! Runs of a system that takes step after step, and the rule that an invariant
of one step holds all along a run. -/
namespace RaceLink.Library

variable {σ : Type}

/-- The states that runs lead to from the initial ones. -/
inductive Reachable (init : σ → Prop) (step : σ → σ → Prop) : σ → Prop where
  | start {s : σ} : init s → Reachable init step s
  | next {s t : σ} : Reachable init step s → step s t → Reachable init step t

/-- What holds initially and is kept by a step holds in every reachable state. -/
theorem Reachable.invariant {init : σ → Prop} {step : σ → σ → Prop} {I : σ → Prop}
    (hinit : ∀ s, init s → I s) (hstep : ∀ s t, I s → step s t → I t) {s : σ}
    (h : Reachable init step s) : I s := by
  induction h with
  | start hs => exact hinit _ hs
  | next _ hst ih => exact hstep _ _ ih hst

/-- A run of a part of the steps is a run. -/
theorem Reachable.mono {init : σ → Prop} {step step' : σ → σ → Prop}
    (hsub : ∀ s t, step s t → step' s t) {s : σ} (h : Reachable init step s) :
    Reachable init step' s := by
  induction h with
  | start hs => exact .start hs
  | next _ hst ih => exact .next ih (hsub _ _ hst)

/-! ### Along a run -/

section Along
variable {α : Type} (next : σ → α → σ)

/-- Each step finds a state in which `P` holds of it. -/
def Along (P : σ → α → Prop) : σ → List α → Prop
  | _, [] => True
  | s, a :: rest => P s a ∧ Along P (next s a) rest

variable {next}

/-- Two properties that agree where an invariant holds agree along every run from there. -/
theorem along_congr {P P' : σ → α → Prop} {I : σ → Prop} {Q : α → Prop}
    (hnext : ∀ s a, I s → Q a → I (next s a)) (hiff : ∀ s a, I s → Q a → (P s a ↔ P' s a)) {s : σ}
    (hs : I s) {as : List α} (has : ∀ a ∈ as, Q a) : Along next P s as ↔ Along next P' s as := by
  induction as generalizing s with
  | nil => exact Iff.rfl
  | cons a rest ih =>
    have ha := has a (List.mem_cons_self ..)
    exact and_congr (hiff s a hs ha) (ih (hnext s a hs ha) fun b hb => has b (List.mem_cons_of_mem _ hb))

/-- Two properties that agree where an invariant holds agree along every run from there, if a step
that has the first keeps the invariant. -/
theorem along_congr_of_kept {P P' : σ → α → Prop} {I : σ → Prop} (hnext : ∀ s a, I s → P s a → I (next s a))
    (hiff : ∀ s a, I s → (P s a ↔ P' s a)) {s : σ} (hs : I s) (as : List α) :
    Along next P s as ↔ Along next P' s as := by
  induction as generalizing s with
  | nil => exact Iff.rfl
  | cons a rest ih =>
    constructor
    · intro h
      exact ⟨(hiff s a hs).mp h.1, (ih (hnext s a hs h.1)).mp h.2⟩
    · intro h
      have ha := (hiff s a hs).mpr h.1
      exact ⟨ha, (ih (hnext s a hs ha)).mpr h.2⟩

/-- Steps that keep an invariant, from a state that has it: what the invariant says of such a step
holds all along. -/
theorem along_of_invariant {P Q : σ → α → Prop} {I : σ → Prop} (hnext : ∀ s a, I s → P s a → I (next s a))
    (hgives : ∀ s a, I s → P s a → Q s a) {s : σ} (hs : I s) {as : List α} (h : Along next P s as) :
    Along next Q s as := by
  induction as generalizing s with
  | nil => trivial
  | cons a rest ih => exact ⟨hgives s a hs h.1, ih (hnext s a hs h.1) h.2⟩

/-- What an invariant of every step says of each step holds along every run. -/
theorem along_of_kept {Q : σ → α → Prop} {I : σ → Prop} (hnext : ∀ s a, I s → I (next s a))
    (hgives : ∀ s a, I s → Q s a) {s : σ} (hs : I s) (as : List α) : Along next Q s as := by
  induction as generalizing s with
  | nil => trivial
  | cons a rest ih => exact ⟨hgives s a hs, ih (hnext s a hs)⟩

/-- Steps that keep an invariant keep it to the end of the run. -/
theorem Along.invariant {P : σ → α → Prop} {I : σ → Prop} (hnext : ∀ s a, I s → P s a → I (next s a)) {s : σ}
    (hs : I s) {as : List α} (h : Along next P s as) : I (as.foldl next s) := by
  induction as generalizing s with
  | nil => exact hs
  | cons a rest ih => exact ih (hnext s a hs h.1) h.2

/-- What holds along a run holds of its last step. -/
theorem Along.last {P : σ → α → Prop} {s : σ} {as : List α} {a : α} (h : Along next P s (as ++ [a])) :
    P (as.foldl next s) a := by
  induction as generalizing s with
  | nil => exact h.1
  | cons b rest ih => exact ih h.2

theorem along_append {Q : σ → α → Prop} {s : σ} {as bs : List α} :
    Along next Q s (as ++ bs) ↔ Along next Q s as ∧ Along next Q (as.foldl next s) bs := by
  induction as generalizing s with
  | nil => simp [Along]
  | cons a rest ih => simp only [List.cons_append, Along, List.foldl_cons, ih, and_assoc]

/-- **A system each of whose steps is a run of another one has runs of the other one**, and along them holds
what holds along its own. -/
theorem simulated {τ β : Type} {view : σ → τ} {next' : τ → β → τ} {P : σ → α → Prop} {Q : τ → β → Prop}
    (hstep : ∀ s a, ∃ bs : List β, view (next s a) = bs.foldl next' (view s) ∧
      (P s a → Along next' Q (view s) bs)) (s : σ) (as : List α) :
    ∃ bs : List β, view (as.foldl next s) = bs.foldl next' (view s) ∧
      (Along next P s as → Along next' Q (view s) bs) := by
  induction as generalizing s with
  | nil => exact ⟨[], rfl, fun _ => trivial⟩
  | cons a rest ih =>
    obtain ⟨first, hfirst, halong⟩ := hstep s a
    obtain ⟨others, hothers, hrest⟩ := ih (next s a)
    rw [hfirst] at hothers hrest
    refine ⟨first ++ others, hothers.trans (List.foldl_append ..).symm, fun h => ?_⟩
    exact along_append.mpr ⟨halong h.1, hrest h.2⟩

theorem followed {τ β : Type} {view : σ → τ} {next' : τ → β → τ}
    (hstep : ∀ s a, ∃ bs : List β, view (next s a) = bs.foldl next' (view s)) (s : σ) (as : List α) :
    ∃ bs : List β, view (as.foldl next s) = bs.foldl next' (view s) := by
  induction as generalizing s with
  | nil => exact ⟨[], rfl⟩
  | cons a rest ih =>
    obtain ⟨first, hfirst⟩ := hstep s a
    obtain ⟨others, hothers⟩ := ih (next s a)
    rw [hfirst] at hothers
    exact ⟨first ++ others, hothers.trans (List.foldl_append ..).symm⟩

/-- Whether it does can be found out by going along. -/
instance decidableAlong {P : σ → α → Prop} [∀ s a, Decidable (P s a)] :
    ∀ s as, Decidable (Along next P s as)
  | _, [] => inferInstanceAs (Decidable True)
  | s, a :: rest =>
    have : Decidable (Along next P (next s a) rest) := decidableAlong (next s a) rest
    inferInstanceAs (Decidable (P s a ∧ Along next P (next s a) rest))

end Along

end RaceLink.Library
