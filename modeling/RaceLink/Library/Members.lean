import Mathlib.Data.List.Basic

/-! Elements that are sorted into groups, each with a tag or without one, and the label
of a group.

A label fits a group when every tagged element of it has that tag. The tag of the first
tagged element fits just if the tagged elements agree, so a group whose elements agree
can be labelled anew at any time. -/
namespace RaceLink.Library

variable {α κ τ : Type} (group : α → κ) (tag : α → Option τ)

/-- Every tagged element of a group has its label. -/
def Labels (xs : List α) (g : κ) (label : Option τ) : Prop :=
  ∀ x ∈ xs, group x = g → ∀ t ∈ tag x, label = some t

/-- The tagged elements of a group have one tag. -/
def Agree (xs : List α) (g : κ) : Prop :=
  ∀ x ∈ xs, group x = g → ∀ y ∈ xs, group y = g → ∀ t ∈ tag x, ∀ u ∈ tag y, t = u

/-- The tag of the first tagged element of a group. -/
def firstTag [DecidableEq κ] (xs : List α) (g : κ) : Option τ :=
  (xs.filter fun x => group x = g).findSome? tag

instance [DecidableEq κ] [DecidableEq τ] (xs : List α) (g : κ) (label : Option τ) :
    Decidable (Labels group tag xs g label) := by
  unfold Labels
  infer_instance

variable {group tag} {xs ys : List α} {g : κ} {label : Option τ}

theorem Labels.agree (h : Labels group tag xs g label) : Agree group tag xs g := by
  intro x hx hxg y hy hyg t ht u hu
  have heq : some t = some u := (h x hx hxg t ht).symm.trans (h y hy hyg u hu)
  exact Option.some.inj heq

section First
variable [DecidableEq κ]

theorem firstTag_some {t : τ} (h : firstTag group tag xs g = some t) :
    ∃ x ∈ xs, group x = g ∧ tag x = some t := by
  obtain ⟨x, hx, htag⟩ := List.exists_of_findSome?_eq_some h
  obtain ⟨hmem, hgroup⟩ := List.mem_filter.mp hx
  exact ⟨x, hmem, of_decide_eq_true hgroup, htag⟩

theorem firstTag_none (h : firstTag group tag xs g = none) : ∀ x ∈ xs, group x = g → tag x = none := by
  intro x hx hxg
  exact List.findSome?_eq_none_iff.mp h x (List.mem_filter.mpr ⟨hx, decide_eq_true hxg⟩)

/-- **The first tag fits a group just if its tagged elements agree.** -/
theorem labels_firstTag : Labels group tag xs g (firstTag group tag xs g) ↔ Agree group tag xs g := by
  refine ⟨Labels.agree, fun h x hx hxg t ht => ?_⟩
  cases hfirst : firstTag group tag xs g with
  | none =>
    have hnone := firstTag_none hfirst x hx hxg
    rw [hnone] at ht
    cases ht
  | some u =>
    obtain ⟨y, hy, hyg, htag⟩ := firstTag_some hfirst
    rw [h x hx hxg y hy hyg t ht u htag]

end First

end RaceLink.Library
