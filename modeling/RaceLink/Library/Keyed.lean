import Mathlib.Data.List.Nodup
import Mathlib.Data.List.Pairwise
import RaceLink.Library.Lists

/-! Lists whose elements are told apart by a key: lookup, update of the element with a
key, and the assignment of a dict. -/
namespace RaceLink.Library

variable {α κ : Type} [DecidableEq κ] (key : α → κ)

/-- The element with a key. -/
def findKey (k : κ) (xs : List α) : Option α := xs.find? fun x => decide (key x = k)

/-- The elements with a key are changed in place. -/
def updateKey (k : κ) (f : α → α) (xs : List α) : List α := xs.map fun x => if key x = k then f x else x

/-- `d[key x] = x`: an element with that key is replaced, else `x` comes last. -/
def putKey (x : α) : List α → List α
  | [] => [x]
  | y :: rest => if key y = key x then x :: rest else y :: putKey x rest

variable {key} {k : κ} {f : α → α} {x y : α} {xs : List α}

theorem findKey_some (h : findKey key k xs = some x) : x ∈ xs ∧ key x = k :=
  ⟨List.mem_of_find?_eq_some h, of_decide_eq_true (List.find?_some (p := fun x => decide (key x = k)) h)⟩

theorem findKey_none : findKey key k xs = none ↔ ∀ x ∈ xs, key x ≠ k := by
  simp [findKey, List.find?_eq_none]

omit [DecidableEq κ] in
/-- With distinct keys, the element with a key is the only one. -/
theorem key_inj (hnodup : (xs.map key).Nodup) (hx : x ∈ xs) (hy : y ∈ xs) (h : key x = key y) : x = y :=
  List.inj_on_of_nodup_map hnodup hx hy h

theorem findKey_of_mem (hnodup : (xs.map key).Nodup) (hx : x ∈ xs) : findKey key (key x) xs = some x := by
  cases h : findKey key (key x) xs with
  | none => exact absurd rfl (findKey_none.mp h x hx)
  | some y =>
    obtain ⟨hy, hkey⟩ := findKey_some h
    rw [key_inj hnodup hy hx hkey]

/-! ### Updates -/

theorem map_updateKey (hf : ∀ x, key (f x) = key x) : (updateKey key k f xs).map key = xs.map key := by
  rw [updateKey, List.map_map]
  refine List.map_congr_left fun x _ => ?_
  show key (if key x = k then f x else x) = key x
  split
  · exact hf x
  · rfl

theorem mem_updateKey : y ∈ updateKey key k f xs ↔ ∃ x ∈ xs, (if key x = k then f x else x) = y :=
  List.mem_map

/-- The element with a key, after an update that keeps the keys. -/
theorem findKey_updateKey (hf : ∀ x, key (f x) = key x) (l : κ) :
    findKey key l (updateKey key k f xs) = (findKey key l xs).map fun x => if key x = k then f x else x := by
  have hkey : ∀ x, key (if key x = k then f x else x) = key x := by
    intro x
    split
    · exact hf x
    · rfl
  rw [findKey, updateKey, List.find?_map]
  simp only [Function.comp_def, hkey]
  rfl

/-- A symmetric relation between all pairs is kept if the changed element has it to the others. -/
theorem pairwise_updateKey {R : α → α → Prop} (hsymm : ∀ x y, R x y → R y x)
    (hnodup : (xs.map key).Nodup) (hxs : xs.Pairwise R)
    (hf : ∀ x ∈ xs, key x = k → ∀ y ∈ xs, key y ≠ k → R (f x) y) : (updateKey key k f xs).Pairwise R := by
  rw [updateKey, List.pairwise_map]
  have hkeys : xs.Pairwise fun x y => key x ≠ key y := List.pairwise_map.mp hnodup
  refine List.Pairwise.imp_of_mem ?_ (hxs.and hkeys)
  rintro x y hx hy ⟨hxy, hne⟩
  by_cases hkx : key x = k
  · have hky : key y ≠ k := fun h => hne (hkx.trans h.symm)
    rw [if_pos hkx, if_neg hky]
    exact hf x hx hkx y hy hky
  · rw [if_neg hkx]
    by_cases hky : key y = k
    · rw [if_pos hky]
      exact hsymm _ _ (hf y hy hky x hx hkx)
    · rwa [if_neg hky]

/-- With distinct keys, the changed element and the others. -/
theorem updateKey_perm (hnodup : (xs.map key).Nodup) (hx : x ∈ xs) (f : α → α) :
    (updateKey key (key x) f xs).Perm (f x :: xs.filter fun y => decide (key y ≠ key x)) := by
  obtain ⟨before, after, rfl⟩ := List.append_of_mem hx
  rw [List.map_append, List.map_cons, List.nodup_middle, List.nodup_cons, ← List.map_append] at hnodup
  have hother : ∀ y ∈ before ++ after, key y ≠ key x := fun y hy heq => hnodup.1 (heq ▸ List.mem_map_of_mem hy)
  have hkeep : ∀ ys : List α, (∀ y ∈ ys, key y ≠ key x) →
      updateKey key (key x) f ys = ys ∧ ys.filter (fun y => decide (key y ≠ key x)) = ys := by
    intro ys hys
    refine ⟨map_eq_self.mpr fun y hy => if_neg (hys y hy), List.filter_eq_self.mpr fun y hy => ?_⟩
    exact decide_eq_true (hys y hy)
  obtain ⟨hbefore, hbefore'⟩ := hkeep before fun y hy => hother y (List.mem_append_left _ hy)
  obtain ⟨hafter, hafter'⟩ := hkeep after fun y hy => hother y (List.mem_append_right _ hy)
  have hupdated : updateKey key (key x) f (before ++ x :: after) = before ++ f x :: after := by
    rw [updateKey, List.map_append, List.map_cons, if_pos rfl]
    exact congrArg₂ (fun l r => l ++ f x :: r) hbefore hafter
  rw [hupdated, List.filter_append, List.filter_cons, if_neg (by simp), hbefore', hafter']
  exact List.perm_middle

/-! ### Assignment -/

theorem mem_putKey (hy : y ∈ putKey key x xs) : y = x ∨ y ∈ xs := by
  induction xs with
  | nil => exact .inl (List.mem_singleton.mp hy)
  | cons z rest ih =>
    unfold putKey at hy
    split at hy
    · exact (List.mem_cons.mp hy).imp_right (List.mem_cons_of_mem z)
    · rcases List.mem_cons.mp hy with rfl | hy
      · exact .inr (List.mem_cons_self ..)
      · exact (ih hy).imp_right (List.mem_cons_of_mem z)

/-- The other keys keep their elements. -/
theorem mem_putKey_of_ne (hnodup : (xs.map key).Nodup) (hy : y ∈ putKey key x xs) :
    y = x ∨ y ∈ xs ∧ key y ≠ key x := by
  induction xs with
  | nil => exact .inl (List.mem_singleton.mp hy)
  | cons z rest ih =>
    obtain ⟨hz, hrest⟩ := List.nodup_cons.mp hnodup
    unfold putKey at hy
    split at hy
    · next heq =>
      refine (List.mem_cons.mp hy).imp_right fun hy => ⟨List.mem_cons_of_mem z hy, fun h => hz ?_⟩
      exact List.mem_map.mpr ⟨y, hy, h.trans heq.symm⟩
    · next hne =>
      rcases List.mem_cons.mp hy with rfl | hy
      · exact .inr ⟨List.mem_cons_self .., hne⟩
      · exact (ih hrest hy).imp_right fun h => ⟨List.mem_cons_of_mem z h.1, h.2⟩

theorem keys_putKey (h : ∀ y ∈ xs, key y ≠ key x) : (putKey key x xs).map key = xs.map key ++ [key x] := by
  induction xs with
  | nil => rfl
  | cons z rest ih =>
    rw [putKey, if_neg (h z (List.mem_cons_self ..)), List.map_cons,
      ih fun y hy => h y (List.mem_cons_of_mem z hy)]
    rfl

theorem keys_putKey_of_mem (h : y ∈ xs) (hkey : key y = key x) :
    (putKey key x xs).map key = xs.map key := by
  induction xs with
  | nil => cases h
  | cons z rest ih =>
    by_cases hz : key z = key x
    · rw [putKey, if_pos hz, List.map_cons, List.map_cons, hz]
    · rw [putKey, if_neg hz, List.map_cons, List.map_cons]
      rcases List.mem_cons.mp h with rfl | h
      · exact absurd hkey hz
      · rw [ih h]

/-- What an assignment changes, seen through a function of the elements. -/
theorem map_putKey_eq_iff {β : Type} (key : α → κ) {g : α → β} {x y : α} {xs : List α}
    (hy : findKey key (key x) xs = some y) : (putKey key x xs).map g = xs.map g ↔ g x = g y := by
  induction xs with
  | nil => cases hy
  | cons z rest ih =>
    by_cases hz : key z = key x
    · rw [findKey, List.find?_cons_of_pos (by simpa using hz)] at hy
      cases hy
      rw [putKey, if_pos hz, List.map_cons, List.map_cons, List.cons.injEq]
      exact and_iff_left rfl
    · rw [findKey, List.find?_cons_of_neg (by simpa using hz)] at hy
      rw [putKey, if_neg hz, List.map_cons, List.map_cons, List.cons.injEq, ih hy]
      exact and_iff_right rfl

/-- The assigned element is found under its key. -/
theorem findKey_putKey (x : α) (xs : List α) : findKey key (key x) (putKey key x xs) = some x := by
  induction xs with
  | nil => simp [findKey, putKey]
  | cons z rest ih =>
    unfold putKey
    split
    · simp [findKey]
    · next hne =>
      rw [findKey, List.find?_cons_of_neg (by simpa using hne)]
      exact ih

/-- An assignment under another key does not change what is found. -/
theorem findKey_putKey_of_ne (h : key x ≠ k) : findKey key k (putKey key x xs) = findKey key k xs := by
  induction xs with
  | nil => simp [findKey, putKey, h]
  | cons z rest ih =>
    unfold putKey
    split
    · next heq =>
      have hz : key z ≠ k := by rwa [heq]
      simp [findKey, h, hz]
    · rw [findKey, findKey, List.find?_cons, List.find?_cons]
      split
      · rfl
      · exact ih

/-- What is found after the elements with a key were taken out was found before. -/
theorem findKey_of_filter_ne {l : κ} (h : findKey key k (xs.filter fun x => key x ≠ l) = some y) :
    findKey key k xs = some y := by
  have hne : k ≠ l := by
    obtain ⟨hmem, hkey⟩ := findKey_some h
    simpa [hkey] using (List.mem_filter.mp hmem).2
  rw [findKey, List.find?_filter] at h
  rw [← h, findKey]
  congr 1
  funext x
  by_cases hx : key x = k <;> simp [hx, hne]

/-- An element that is assigned where it is found changes nothing. -/
theorem putKey_eq_self (h : findKey key (key x) xs = some x) : putKey key x xs = xs := by
  have hmap := (map_putKey_eq_iff key (g := fun y : α => y) h).mpr rfl
  simpa using hmap

theorem putKey_nodup (hnodup : (xs.map key).Nodup) : ((putKey key x xs).map key).Nodup := by
  by_cases h : ∃ y ∈ xs, key y = key x
  · obtain ⟨y, hy, hkey⟩ := h
    rwa [keys_putKey_of_mem hy hkey]
  · have hne : ∀ y ∈ xs, key y ≠ key x := fun y hy hkey => h ⟨y, hy, hkey⟩
    rw [keys_putKey hne, List.nodup_append]
    refine ⟨hnodup, List.nodup_singleton _, fun a ha b hb hab => ?_⟩
    obtain ⟨y, hy, rfl⟩ := List.mem_map.mp ha
    exact hne y hy (hab.trans (List.mem_singleton.mp hb))

/-! ### Keys that may be blank -/

/-- No two elements have the same key, blank keys aside. -/
def Unshared (blank : κ) (key : α → κ) (xs : List α) : Prop :=
  xs.Pairwise fun x y => key x ≠ blank → key x ≠ key y

section Unshared
variable {blank : κ}

omit [DecidableEq κ] in
theorem Unshared.inj (h : Unshared blank key xs) (hx : x ∈ xs) (hy : y ∈ xs) (hkey : key x ≠ blank)
    (heq : key x = key y) : x = y := by
  have : Std.Symm fun x y => key x ≠ blank → key x ≠ key y :=
    ⟨fun a b hab hb hba => hab (hba ▸ hb) hba.symm⟩
  by_contra hne
  exact List.Pairwise.forall h hx hy hne hkey heq

omit [DecidableEq κ] in
theorem Unshared.sublist {ys : List α} (h : Unshared blank key xs) (hsub : ys.Sublist xs) :
    Unshared blank key ys := List.Pairwise.sublist hsub h

omit [DecidableEq κ] in
theorem Unshared.append (h : Unshared blank key xs) (hx : key x ≠ blank → ∀ y ∈ xs, key y ≠ key x) :
    Unshared blank key (xs ++ [x]) := by
  refine List.pairwise_append.mpr ⟨h, List.pairwise_singleton _ _, fun y hy z hz hkey heq => ?_⟩
  obtain rfl := List.mem_singleton.mp hz
  exact hx (heq ▸ hkey) y hy heq

omit [DecidableEq κ] in
/-- Only the keys matter. -/
theorem unshared_map {β : Type} (key : α → κ) (f : β → α) {xs : List β} :
    Unshared blank key (xs.map f) ↔ Unshared blank (fun x => key (f x)) xs := List.pairwise_map

end Unshared

end RaceLink.Library
