import Mathlib.Data.List.Basic

/-! Lists without their ends: what a test drops from the front and from the back.

What is left needs no more of it, and a list that needs none stays as it is. -/
namespace RaceLink.Library

variable {α : Type} {p : α → Bool} {xs : List α}

/-- The elements that `p` holds for are dropped at both ends. -/
def trimBy (p : α → Bool) (xs : List α) : List α := ((xs.dropWhile p).reverse.dropWhile p).reverse

/-- Neither end is to be dropped. -/
def TrimmedBy (p : α → Bool) (xs : List α) : Prop := (∀ x ∈ xs.head?, p x = false) ∧ ∀ x ∈ xs.getLast?, p x = false

theorem head_dropWhile (p : α → Bool) (xs : List α) : ∀ x ∈ (xs.dropWhile p).head?, p x = false := by
  intro x hx
  have hnot := List.head?_dropWhile_not p xs
  rw [Option.mem_def.mp hx] at hnot
  exact hnot

theorem dropWhile_of_head (h : ∀ x ∈ xs.head?, p x = false) : xs.dropWhile p = xs := by
  cases xs with
  | nil => rfl
  | cons x rest => exact List.dropWhile_cons_of_neg (by simp [h x rfl])

theorem TrimmedBy.reverse (h : TrimmedBy p xs) : TrimmedBy p xs.reverse := by
  unfold TrimmedBy
  rw [List.head?_reverse, List.getLast?_reverse]
  exact ⟨h.2, h.1⟩

theorem trimBy_of_trimmed (h : TrimmedBy p xs) : trimBy p xs = xs := by
  rw [trimBy, dropWhile_of_head h.1, dropWhile_of_head h.reverse.1, List.reverse_reverse]

/-- What is left is a stretch of the list. -/
theorem trimBy_contiguous (p : α → Bool) (xs : List α) : trimBy p xs <:+: xs := by
  have hback : trimBy p xs <+: xs.dropWhile p := by
    rw [← List.reverse_suffix, trimBy, List.reverse_reverse]
    exact List.dropWhile_suffix p
  exact hback.isInfix.trans (List.dropWhile_suffix p).isInfix

/-- What is left needs no more of it. -/
theorem trimBy_trimmed (p : α → Bool) (xs : List α) : TrimmedBy p (trimBy p xs) := by
  have hback := head_dropWhile p (xs.dropWhile p).reverse
  refine ⟨fun x hx => ?_, fun x hx => ?_⟩
  · -- The first element is the last one of the reversed list, and that was not dropped.
    rw [trimBy, List.head?_reverse] at hx
    obtain ⟨before, hbefore⟩ := List.dropWhile_suffix p (l := (xs.dropWhile p).reverse)
    refine head_dropWhile p xs x ?_
    rw [← List.reverse_reverse (xs.dropWhile p), List.head?_reverse, ← hbefore]
    exact List.mem_getLast?_append_of_mem_getLast? hx
  · rw [trimBy, List.getLast?_reverse] at hx
    exact hback x hx

/-- What is not to be dropped stays. -/
theorem mem_trimBy {x : α} (hx : x ∈ xs) (hp : p x = false) : x ∈ trimBy p xs := by
  have hstays : ∀ {ys : List α}, x ∈ ys → x ∈ ys.dropWhile p := by
    intro ys hys
    rw [← List.takeWhile_append_dropWhile (p := p) (l := ys)] at hys
    refine (List.mem_append.mp hys).resolve_left fun htake => ?_
    rw [List.all_eq_true.mp List.all_takeWhile x htake] at hp
    cases hp
  exact List.mem_reverse.mpr (hstays (List.mem_reverse.mpr (hstays hx)))

end RaceLink.Library
