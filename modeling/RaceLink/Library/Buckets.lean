import Mathlib.Algebra.GroupWithZero.Nat
import Mathlib.Data.List.Basic

/-! Items filed in buckets under a key, each bucket in the order of arrival. `Filed` says
that looking up a key is the scan of all items for it, and is kept by every operation. -/
namespace RaceLink.Library

/-- A dict of lists. -/
abbrev Buckets (κ α : Type) := List (κ × List α)

namespace Buckets
variable {κ α : Type} [DecidableEq κ] [DecidableEq α]

/-- The bucket of a key, empty if there is none. -/
def get : Buckets κ α → κ → List α
  | [], _ => []
  | (k', items) :: rest, k => if k' = k then items else get rest k

/-- An item at the end of the bucket of a key. -/
def push : Buckets κ α → κ → α → Buckets κ α
  | [], k, x => [(k, [x])]
  | (k', items) :: rest, k, x => if k' = k then (k', items ++ [x]) :: rest else (k', items) :: push rest k x

/-- The bucket of a key without the first such item; a bucket left empty is dropped. -/
def remove : Buckets κ α → κ → α → Buckets κ α
  | [], _, _ => []
  | (k', items) :: rest, k, x =>
    if k' = k then if items.erase x = [] then rest else (k', items.erase x) :: rest
    else (k', items) :: remove rest k x

/-- How many items there are in all buckets. -/
def total (b : Buckets κ α) : Nat := (b.map fun e => e.2.length).sum

omit [DecidableEq α] in
theorem get_push (b : Buckets κ α) (k k' : κ) (x : α) :
    (b.push k x).get k' = if k = k' then b.get k' ++ [x] else b.get k' := by
  induction b with
  | nil => simp [push, get]
  | cons e rest ih =>
    by_cases hk : e.1 = k
    · subst hk
      by_cases hk' : e.1 = k' <;> simp [push, get, hk']
    · by_cases hk' : e.1 = k'
      · subst hk'
        simp [push, get, hk, Ne.symm hk]
      · simp [push, get, hk, hk', ih]

omit [DecidableEq α] in
theorem get_of_not_mem {b : Buckets κ α} {k : κ} (h : k ∉ b.map Prod.fst) : b.get k = [] := by
  induction b with
  | nil => rfl
  | cons e rest ih =>
    simp only [List.map_cons, List.mem_cons, not_or] at h
    rw [get, if_neg (Ne.symm h.1), ih h.2]

theorem remove_of_not_mem {b : Buckets κ α} {k : κ} (h : k ∉ b.map Prod.fst) (x : α) : b.remove k x = b := by
  induction b with
  | nil => rfl
  | cons e rest ih =>
    simp only [List.map_cons, List.mem_cons, not_or] at h
    rw [remove, if_neg (Ne.symm h.1), ih h.2]

/-- The second time there is nothing left to remove. -/
theorem remove_remove {b : Buckets κ α} (hb : (b.map Prod.fst).Nodup) {k : κ} {x : α}
    (hx : (b.get k).Nodup) : (b.remove k x).remove k x = b.remove k x := by
  induction b with
  | nil => rfl
  | cons e rest ih =>
    obtain ⟨hmem, hrest⟩ := List.nodup_cons.mp hb
    by_cases hk : e.1 = k
    · rw [get, if_pos hk] at hx
      rw [hk] at hmem
      rw [remove, if_pos hk]
      split
      · exact remove_of_not_mem hmem x
      · next hne =>
        rw [remove, if_pos hk, List.erase_of_not_mem hx.not_mem_erase, if_neg hne]
    · rw [get, if_neg hk] at hx
      rw [remove, if_neg hk, remove, if_neg hk, ih hrest hx]

theorem get_remove {b : Buckets κ α} (hb : (b.map Prod.fst).Nodup) (k k' : κ) (x : α) :
    (b.remove k x).get k' = if k = k' then (b.get k').erase x else b.get k' := by
  induction b with
  | nil => simp [remove, get]
  | cons e rest ih =>
    obtain ⟨hmem, hrest⟩ := List.nodup_cons.mp hb
    by_cases hk : e.1 = k
    · subst hk
      have hnone := get_of_not_mem hmem
      by_cases hempty : e.2.erase x = []
      · by_cases hk' : e.1 = k'
        · subst hk'
          simp [remove, get, hempty, hnone]
        · simp [remove, get, hempty, hk']
      · by_cases hk' : e.1 = k' <;> simp [remove, get, hempty, hk']
    · by_cases hk' : e.1 = k'
      · subst hk'
        simp [remove, get, hk, Ne.symm hk]
      · simp [remove, get, hk, hk', ih hrest]

omit [DecidableEq α] in
theorem mem_keys_push {b : Buckets κ α} {k k' : κ} {x : α} (h : k' ∈ (b.push k x).map Prod.fst) :
    k' ∈ b.map Prod.fst ∨ k' = k := by
  induction b with
  | nil => exact .inr (by simpa [push] using h)
  | cons e rest ih =>
    by_cases hk : e.1 = k
    · rw [push, if_pos hk] at h
      exact .inl h
    · rw [push, if_neg hk, List.map_cons, List.mem_cons] at h
      rw [List.map_cons, List.mem_cons, or_assoc]
      exact h.imp_right ih

omit [DecidableEq α] in
theorem push_nodup {b : Buckets κ α} (hb : (b.map Prod.fst).Nodup) (k : κ) (x : α) :
    ((b.push k x).map Prod.fst).Nodup := by
  induction b with
  | nil => simp [push]
  | cons e rest ih =>
    obtain ⟨hmem, hrest⟩ := List.nodup_cons.mp hb
    by_cases hk : e.1 = k
    · rw [push, if_pos hk]
      exact hb
    · rw [push, if_neg hk, List.map_cons]
      refine List.nodup_cons.mpr ⟨fun h => ?_, ih hrest⟩
      exact (mem_keys_push h).elim hmem hk

theorem remove_keys_sublist (b : Buckets κ α) (k : κ) (x : α) :
    ((b.remove k x).map Prod.fst).Sublist (b.map Prod.fst) := by
  induction b with
  | nil => exact List.Sublist.refl _
  | cons e rest ih =>
    unfold remove
    split
    · split
      · exact List.sublist_cons_self _ _
      · exact List.Sublist.refl _
    · exact ih.cons_cons _

omit [DecidableEq α] in
theorem total_push (b : Buckets κ α) (k : κ) (x : α) : (b.push k x).total = b.total + 1 := by
  induction b with
  | nil => rfl
  | cons e rest ih =>
    unfold push
    split
    · simp only [total, List.map_cons, List.sum_cons, List.length_append, List.length_singleton]
      omega
    · simp only [total, List.map_cons, List.sum_cons] at ih ⊢
      omega

theorem total_remove (b : Buckets κ α) (k : κ) (x : α) :
    (b.remove k x).total + (if x ∈ b.get k then 1 else 0) = b.total := by
  induction b with
  | nil => rfl
  | cons e rest ih =>
    by_cases hk : e.1 = k
    · have htotal : Buckets.total (e :: rest) = e.2.length + Buckets.total rest := rfl
      have herase : (e.2.erase x).length + (if x ∈ e.2 then 1 else 0) = e.2.length := by
        by_cases hx : x ∈ e.2
        · have hpos := List.length_pos_of_mem hx
          rw [if_pos hx, List.length_erase_of_mem hx]
          omega
        · rw [if_neg hx, List.erase_of_not_mem hx, Nat.add_zero]
      rw [remove, get, if_pos hk, if_pos hk, htotal, ← herase]
      split
      · next hempty =>
        rw [hempty]
        simp only [List.length_nil]
        omega
      · have htotal' : Buckets.total ((e.1, e.2.erase x) :: rest) =
            (e.2.erase x).length + Buckets.total rest := rfl
        rw [htotal']
        omega
    · have htotal : Buckets.total (e :: rest) = e.2.length + Buckets.total rest := rfl
      have htotal' : Buckets.total (e :: Buckets.remove rest k x) =
          e.2.length + Buckets.total (Buckets.remove rest k x) := rfl
      rw [remove, get, if_neg hk, if_neg hk, htotal, htotal']
      omega

/-! ### Buckets as an index of a list -/

/-- The items that have a key are in the bucket of their key, in the order of the list. -/
structure Filed (keyOf : α → Option κ) (items : List α) (b : Buckets κ α) : Prop where
  nodup : (b.map Prod.fst).Nodup
  get : ∀ k, b.get k = items.filter (keyOf · = some k)
  total : b.total = (items.filter fun x => (keyOf x).isSome).length

variable {keyOf : α → Option κ} {items : List α} {b : Buckets κ α}

omit [DecidableEq α] in
theorem filed_nil : Filed keyOf ([] : List α) ([] : Buckets κ α) := ⟨List.nodup_nil, fun _ => rfl, rfl⟩

omit [DecidableEq α] in
theorem Filed.push (h : Filed keyOf items b) {k : κ} {x : α} (hx : keyOf x = some k) :
    Filed keyOf (items ++ [x]) (b.push k x) := by
  refine ⟨push_nodup h.nodup k x, fun k' => ?_, ?_⟩
  · rw [get_push, h.get, List.filter_append]
    by_cases hk : k = k' <;> simp [hx, hk]
  · rw [total_push, h.total, List.filter_append]
    simp [hx]

omit [DecidableEq α] in
/-- An item without a key is filed elsewhere. -/
theorem Filed.skip (h : Filed keyOf items b) {x : α} (hx : keyOf x = none) :
    Filed keyOf (items ++ [x]) b := by
  refine ⟨h.nodup, fun k => ?_, ?_⟩
  · rw [h.get, List.filter_append]
    simp [hx]
  · rw [h.total, List.filter_append]
    simp [hx]

theorem filter_erase (p : α → Bool) (x : α) (items : List α) :
    (items.erase x).filter p = if p x then (items.filter p).erase x else items.filter p := by
  induction items with
  | nil => simp
  | cons y rest ih =>
    by_cases hy : y = x
    · subst hy
      by_cases hp : p y <;> simp [hp]
    · have hbeq : ¬(y == x) = true := by simpa using hy
      rw [List.erase_cons_tail hbeq]
      by_cases hp : p y = true
      · rw [List.filter_cons_of_pos hp, List.filter_cons_of_pos hp, List.erase_cons_tail hbeq, ih]
        split <;> rfl
      · rw [List.filter_cons_of_neg hp, List.filter_cons_of_neg hp, ih]

theorem Filed.remove (h : Filed keyOf items b) {k : κ} {x : α} (hx : keyOf x = some k) :
    Filed keyOf (items.erase x) (b.remove k x) := by
  refine ⟨(remove_keys_sublist b k x).nodup h.nodup, fun k' => ?_, ?_⟩
  · rw [get_remove h.nodup, h.get, filter_erase]
    by_cases hk : k = k' <;> simp [hx, hk]
  · have htotal := total_remove b k x
    rw [h.get, h.total] at htotal
    rw [filter_erase, if_pos (by rw [hx]; rfl), List.length_erase]
    by_cases hmem : x ∈ items
    · simp only [List.mem_filter, hmem, hx, decide_true, and_self, if_true, Option.isSome_some] at htotal ⊢
      omega
    · simp only [List.mem_filter, hmem, false_and, if_false] at htotal ⊢
      exact htotal

theorem Filed.drop (h : Filed keyOf items b) {x : α} (hx : keyOf x = none) :
    Filed keyOf (items.erase x) b := by
  refine ⟨h.nodup, fun k => ?_, ?_⟩
  · rw [h.get, filter_erase]
    simp [hx]
  · rw [h.total, filter_erase]
    simp [hx]

end Buckets

end RaceLink.Library
