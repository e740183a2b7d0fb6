import Mathlib.Data.List.Perm.Basic
import Mathlib.Data.Sym.Sym2
import RaceLink.Library.Except

/-! The pairs that two nested loops go through: each element with those after it. Another
order of the list gives the same pairs, some of them the other way round. -/
namespace RaceLink.Library

variable {α β γ ε : Type}

/-- Each element with every later one. -/
def pairsOf : List α → List (α × α)
  | [] => []
  | a :: rest => rest.map (fun b => (a, b)) ++ pairsOf rest

theorem forall_pairsOf {R : α → α → Prop} {xs : List α} : (∀ p ∈ pairsOf xs, R p.1 p.2) ↔ xs.Pairwise R := by
  induction xs with
  | nil => simp [pairsOf]
  | cons a rest ih =>
    rw [List.pairwise_cons, ← ih, pairsOf, List.forall_mem_append, List.forall_mem_map]

/-- The pairs, each without its order. -/
def unorderedPairs (xs : List α) : List (Sym2 α) := (pairsOf xs).map fun p => s(p.1, p.2)

theorem unorderedPairs_cons (a : α) (rest : List α) :
    unorderedPairs (a :: rest) = rest.map (fun b => s(a, b)) ++ unorderedPairs rest := by
  rw [unorderedPairs, pairsOf, List.map_append, List.map_map]
  rfl

theorem unorderedPairs_perm {xs ys : List α} (h : xs.Perm ys) : (unorderedPairs xs).Perm (unorderedPairs ys) := by
  induction h with
  | nil => exact List.Perm.refl _
  | cons a h ih =>
    rw [unorderedPairs_cons, unorderedPairs_cons]
    exact (h.map _).append ih
  | swap a b rest =>
    simp only [unorderedPairs_cons, List.map_cons, List.cons_append, Sym2.eq_swap (a := b)]
    refine List.Perm.cons _ ?_
    rw [← List.append_assoc, ← List.append_assoc]
    exact List.perm_append_comm.append_right _
  | trans _ _ ih ih' => exact ih.trans ih'

/-- Results under a map, related to the elements one by one. -/
theorem forall₂_exists_map {P : α → β → Prop} {g : β → γ} {xs : List α} {os : List γ}
    (h : List.Forall₂ (fun x o => ∃ y, P x y ∧ g y = o) xs os) : ∃ ys, List.Forall₂ P xs ys ∧ ys.map g = os := by
  induction h with
  | nil => exact ⟨[], .nil, rfl⟩
  | cons hxy _ ih =>
    obtain ⟨y, hy, rfl⟩ := hxy
    obtain ⟨ys, hys, rfl⟩ := ih
    exact ⟨y :: ys, .cons hy hys, rfl⟩

/-- What a question about a pair, one way round, is answered under `g`. -/
def AnswersOf (f : α → α → Except ε β) (g : β → γ) (e : Sym2 α) (o : γ) : Prop :=
  ∃ a b x, e = s(a, b) ∧ f a b = .ok x ∧ g x = o

/-- A question about all pairs, whose answer is the same both ways round under `g`, has the same answers in
every order of the list, and fails in one only if it does in all. -/
theorem mapM_pairsOf_perm {f : α → α → Except ε β} {g : β → γ}
    (hsymm : ∀ a b x, f a b = .ok x → ∃ y, f b a = .ok y ∧ g y = g x) {xs ys : List α} (h : xs.Perm ys)
    {found : List β} (hfound : (pairsOf xs).mapM (fun p => f p.1 p.2) = .ok found) :
    ∃ found', (pairsOf ys).mapM (fun p => f p.1 p.2) = .ok found' ∧ (found'.map g).Perm (found.map g) := by
  have hrel : List.Forall₂ (AnswersOf f g) (unorderedPairs xs) (found.map g) := by
    rw [unorderedPairs, List.forall₂_map_left_iff, List.forall₂_map_right_iff]
    exact (mapM_ok.mp hfound).imp fun p x hx => ⟨p.1, p.2, x, rfl, hx, rfl⟩
  obtain ⟨os, hos, hperm⟩ := List.perm_comp_forall₂ (unorderedPairs_perm h.symm) hrel
  rw [unorderedPairs, List.forall₂_map_left_iff] at hos
  have hanswers : List.Forall₂ (fun p o => ∃ y, f p.1 p.2 = .ok y ∧ g y = o) (pairsOf ys) os := by
    refine hos.imp fun p o hp => ?_
    obtain ⟨a, b, x, hpair, hx, hgx⟩ := hp
    obtain ⟨rfl, rfl⟩ | ⟨rfl, rfl⟩ := Sym2.eq_iff.mp hpair
    · exact ⟨x, hx, hgx⟩
    · obtain ⟨y, hy, hgy⟩ := hsymm _ _ x hx
      exact ⟨y, hy, hgy.trans hgx⟩
  obtain ⟨found', hfound', rfl⟩ := forall₂_exists_map hanswers
  exact ⟨found', mapM_ok.mpr hfound', hperm⟩

end RaceLink.Library
