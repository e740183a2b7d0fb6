import Mathlib.Data.List.Basic

/-! Things known by their index in a list: what a map on indices has to be when the list
is rewritten, so that whoever holds an index can follow the thing it stands for.

An index is an integer, as a caller may hold one that is no index at all. -/
namespace RaceLink.Library

variable {α : Type}

/-- An index of a list. -/
def IsIndex (xs : List α) (i : Int) : Prop := 0 ≤ i ∧ i < xs.length

/-- There is something at an index. -/
theorem IsIndex.exists_get {xs : List α} {i : Int} (h : IsIndex xs i) : ∃ x ∈ xs, xs[i.toNat]? = some x := by
  obtain ⟨hlo, hhi⟩ := h
  have hlt : i.toNat < xs.length := by omega
  exact ⟨xs[i.toNat], List.getElem_mem hlt, List.getElem?_eq_getElem hlt⟩

/-- `ys` holds what `xs` held, except at the lost indices, with everything moved as `f` says. -/
structure Carries (f : Int → Int) (lost : Int → Prop) (xs ys : List α) : Prop where
  /-- What is kept is found where `f` says. -/
  kept : ∀ i, IsIndex xs i → ¬ lost i → IsIndex ys (f i) ∧ ys[(f i).toNat]? = xs[i.toNat]?
  /-- Two things that are kept stay apart. -/
  apart : ∀ i j, ¬ lost i → ¬ lost j → f i = f j → i = j
  /-- Nothing else is in the list. -/
  whole : ∀ j, IsIndex ys j → ∃ i, IsIndex xs i ∧ ¬ lost i ∧ f i = j
  /-- What was no index becomes none. -/
  outside : ∀ i, ¬ IsIndex xs i → ¬ IsIndex ys (f i)

/-! ### One element is dropped -/

/-- The elements behind the dropped one close up; the index of the dropped one becomes 0. -/
def closeUp (g i : Int) : Int := if i = g then 0 else if i > g then i - 1 else i

theorem carries_eraseIdx {xs : List α} {g : Int} (hg : IsIndex xs g) :
    Carries (closeUp g) (· = g) xs (xs.eraseIdx g.toNat) := by
  obtain ⟨hlo, hhi⟩ := hg
  have hlength : (xs.eraseIdx g.toNat).length = xs.length - 1 :=
    List.length_eraseIdx_of_lt (by omega)
  refine ⟨fun i hi hne => ?_, fun i j hi hj h => ?_, fun j hj => ?_, fun i hi h => ?_⟩
  · obtain ⟨hi0, hin⟩ := hi
    unfold closeUp IsIndex
    rw [if_neg hne, hlength]
    by_cases hgt : i > g
    · rw [if_pos hgt, List.getElem?_eraseIdx_of_ge (by omega)]
      exact ⟨by omega, congrArg (xs[·]?) (by omega)⟩
    · rw [if_neg hgt, List.getElem?_eraseIdx_of_lt (by omega)]
      exact ⟨by omega, rfl⟩
  · unfold closeUp at h
    rw [if_neg hi, if_neg hj] at h
    split at h <;> split at h <;> omega
  · unfold IsIndex at hj
    rw [hlength] at hj
    unfold closeUp IsIndex
    by_cases hlt : j < g
    · refine ⟨j, by omega, by omega, ?_⟩
      rw [if_neg (by omega), if_neg (by omega)]
    · refine ⟨j + 1, by omega, by omega, ?_⟩
      rw [if_neg (by omega), if_pos (by omega)]
      omega
  · unfold IsIndex at hi h
    rw [hlength] at h
    unfold closeUp at h
    split at h
    · omega
    · split at h <;> omega

/-! ### The elements change places -/

/-- Where each index of an order goes. -/
def places (order : List Int) : List (Int × Int) := order.zipIdx.map fun (old, new) => (old, (new : Int))

/-- The new place of an index; one that is in no place stays. -/
def placeOf (order : List Int) (i : Int) : Int := ((places order).lookup i).getD i

theorem lookup_zipIdx {order : List Int} (hnodup : order.Nodup) (k : Nat) {n : Nat} {i : Int}
    (h : order[n]? = some i) :
    ((order.zipIdx k).map fun (old, new) => (old, (new : Int))).lookup i = some ((k + n : Nat) : Int) := by
  induction order generalizing k n with
  | nil => cases h
  | cons first rest ih =>
    obtain ⟨hfirst, hrest⟩ := List.nodup_cons.mp hnodup
    rw [List.zipIdx_cons, List.map_cons]
    cases n with
    | zero =>
      cases h
      rw [List.lookup_cons_self]
      rfl
    | succ n =>
      have hmem : i ∈ rest := List.mem_of_getElem? h
      have hne : (i == first) = false := beq_eq_false_iff_ne.mpr fun heq => hfirst (heq ▸ hmem)
      have hsum : k + 1 + n = k + (n + 1) := by omega
      rw [List.lookup_cons, hne, ih hrest (k + 1) h, hsum]

theorem lookup_zipIdx_none {order : List Int} {i : Int} (h : i ∉ order) : (places order).lookup i = none := by
  refine List.lookup_eq_none_iff.mpr fun p hp => ?_
  obtain ⟨⟨old, new⟩, hmem, rfl⟩ := List.mem_map.mp hp
  have hold : old ∈ order := List.fst_mem_of_mem_zipIdx hmem
  exact bne_iff_ne.mpr fun heq => h (heq ▸ hold)

/-- The elements of a list in another order. -/
def reorder (order : List Int) (xs : List α) : List α := order.filterMap fun old => xs[old.toNat]?

/-- Each index is listed once. -/
structure IsOrder (order : List Int) (n : Nat) : Prop where
  length : order.length = n
  nodup : order.Nodup
  mem : ∀ i, i ∈ order ↔ 0 ≤ i ∧ i < n

theorem placeOf_getElem? {order : List Int} {n : Nat} (h : order.Nodup) {i : Int}
    (hi : order[n]? = some i) : placeOf order i = n := by
  have := lookup_zipIdx h 0 hi
  unfold placeOf places
  rw [this, Option.getD_some, Nat.zero_add]

theorem placeOf_outside {order : List Int} {i : Int} (h : i ∉ order) : placeOf order i = i := by
  unfold placeOf
  rw [lookup_zipIdx_none h]
  rfl

theorem getElem?_reorder {order : List Int} {xs : List α} (h : ∀ i ∈ order, IsIndex xs i) (n : Nat) :
    (reorder order xs)[n]? = order[n]?.bind fun old => xs[old.toNat]? := by
  induction order generalizing n with
  | nil => rfl
  | cons first rest ih =>
    obtain ⟨x, -, hsome⟩ := (h first (List.mem_cons_self ..)).exists_get
    unfold reorder
    rw [List.filterMap_cons, hsome]
    cases n with
    | zero => exact hsome.symm
    | succ n => exact ih (fun i hi => h i (List.mem_cons_of_mem _ hi)) n

theorem length_reorder {order : List Int} {xs : List α} (h : ∀ i ∈ order, IsIndex xs i) :
    (reorder order xs).length = order.length := by
  induction order with
  | nil => rfl
  | cons first rest ih =>
    obtain ⟨x, -, hsome⟩ := (h first (List.mem_cons_self ..)).exists_get
    unfold reorder
    rw [List.filterMap_cons, hsome, List.length_cons, List.length_cons]
    exact congrArg (· + 1) (ih fun i hi => h i (List.mem_cons_of_mem _ hi))

/-- **An order carries every element to its place.** -/
theorem carries_reorder {order : List Int} {xs : List α} (h : IsOrder order xs.length) :
    Carries (placeOf order) (fun _ => False) xs (reorder order xs) := by
  have hindex : ∀ i ∈ order, IsIndex xs i := fun i hi => (h.mem i).mp hi
  have hplace : ∀ i ∈ order, ∃ n : Nat, order[n]? = some i ∧ placeOf order i = n := fun i hi => by
    obtain ⟨n, hn⟩ := List.mem_iff_getElem?.mp hi
    exact ⟨n, hn, placeOf_getElem? h.nodup hn⟩
  have hlength : (reorder order xs).length = xs.length := (length_reorder hindex).trans h.length
  refine ⟨fun i hi _ => ?_, fun i j _ _ hij => ?_, fun j hj => ?_, fun i hi hplaced => ?_⟩
  · obtain ⟨n, hn, hf⟩ := hplace i ((h.mem i).mpr hi)
    have hlt : n < order.length := (List.getElem?_eq_some_iff.mp hn).1
    rw [hf, Int.toNat_natCast, getElem?_reorder hindex, hn]
    refine ⟨⟨by omega, ?_⟩, rfl⟩
    rw [hlength, ← h.length]
    omega
  · by_cases hi : i ∈ order
    · obtain ⟨n, hn, hf⟩ := hplace i hi
      by_cases hj : j ∈ order
      · obtain ⟨m, hm, hg⟩ := hplace j hj
        rw [hf, hg] at hij
        obtain rfl : n = m := by omega
        exact Option.some.inj (hn.symm.trans hm)
      · rw [hf, placeOf_outside hj] at hij
        have hlt : n < order.length := (List.getElem?_eq_some_iff.mp hn).1
        have := h.length
        exact absurd ((h.mem j).mpr (by omega)) hj
    · by_cases hj : j ∈ order
      · obtain ⟨m, hm, hg⟩ := hplace j hj
        rw [hg, placeOf_outside hi] at hij
        have hlt : m < order.length := (List.getElem?_eq_some_iff.mp hm).1
        have := h.length
        exact absurd ((h.mem i).mpr (by omega)) hi
      · rwa [placeOf_outside hi, placeOf_outside hj] at hij
  · obtain ⟨hlo, hhi⟩ := hj
    rw [hlength, ← h.length] at hhi
    obtain ⟨i, hi, hget⟩ := (show IsIndex order j from ⟨hlo, hhi⟩).exists_get
    refine ⟨i, hindex i hi, fun h => h.elim, ?_⟩
    rw [placeOf_getElem? h.nodup hget]
    omega
  · have hnot : i ∉ order := fun hmem => hi (hindex i hmem)
    rw [placeOf_outside hnot] at hplaced
    unfold IsIndex at hplaced
    rw [hlength] at hplaced
    exact hi hplaced

end RaceLink.Library
