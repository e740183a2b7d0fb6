import Mathlib.Algebra.GroupWithZero.Nat
import Mathlib.Data.List.Forall2
import Mathlib.Data.List.Sort

/-! Lists: element-wise relations, maps that change nothing, the first occurrences
of a list under a key, and the first of the least elements. -/
namespace RaceLink.Library

variable {α β : Type}

theorem map_eq_self {f : α → α} {xs : List α} : xs.map f = xs ↔ ∀ x ∈ xs, f x = x := by
  conv_lhs => rhs; rw [← List.map_id xs]
  exact List.map_inj_left

theorem exists_of_forall₂_left {R : α → β → Prop} {xs : List α} {ys : List β}
    (h : List.Forall₂ R xs ys) {x : α} (hx : x ∈ xs) : ∃ y ∈ ys, R x y := by
  induction h with
  | nil => cases hx
  | @cons x' y xs ys hxy _ ih =>
    rcases List.mem_cons.mp hx with rfl | hx
    · exact ⟨y, List.mem_cons_self .., hxy⟩
    · obtain ⟨y', hy', h'⟩ := ih hx
      exact ⟨y', List.mem_cons_of_mem y hy', h'⟩

theorem exists_of_forall₂_right {R : α → β → Prop} {xs : List α} {ys : List β}
    (h : List.Forall₂ R xs ys) {y : β} (hy : y ∈ ys) : ∃ x ∈ xs, R x y := by
  induction h with
  | nil => cases hy
  | @cons x y' xs ys hxy _ ih =>
    rcases List.mem_cons.mp hy with rfl | hy
    · exact ⟨x, List.mem_cons_self .., hxy⟩
    · obtain ⟨x', hx', h'⟩ := ih hy
      exact ⟨x', List.mem_cons_of_mem _ hx', h'⟩

theorem forall₂_getElem? {R : α → β → Prop} {xs : List α} {ys : List β} (h : List.Forall₂ R xs ys) {i : Nat} {x : α}
    {y : β} (hx : xs[i]? = some x) (hy : ys[i]? = some y) : R x y := by
  induction h generalizing i with
  | nil => cases hx
  | cons hxy _ ih =>
    cases i with
    | zero =>
      cases hx
      cases hy
      exact hxy
    | succ i => exact ih hx hy

theorem forall₂_trans {R : α → α → Prop} (htrans : ∀ x y z, R x y → R y z → R x z) {xs ys zs : List α}
    (h : List.Forall₂ R xs ys) (h' : List.Forall₂ R ys zs) : List.Forall₂ R xs zs := by
  induction h generalizing zs with
  | nil => exact h'
  | cons hxy _ ih =>
    cases h' with
    | cons hyz hrest => exact .cons (htrans _ _ _ hxy hyz) (ih hrest)

/-- A relation between lists is weakened with what is known of the left elements. -/
theorem forall₂_imp_mem {R S : α → β → Prop} {xs : List α} {ys : List β} (h : List.Forall₂ R xs ys)
    (himp : ∀ x y, x ∈ xs → R x y → S x y) : List.Forall₂ S xs ys := by
  induction h with
  | nil => exact .nil
  | cons hxy _ ih =>
    exact .cons (himp _ _ (List.mem_cons_self ..) hxy)
      (ih fun x y hx => himp x y (List.mem_cons_of_mem _ hx))

/-- A property of the elements of a list, seen on a related list. -/
theorem forall_mem_iff_of_forall₂ {γ : Type} {R : α → β → Prop} {P : γ → Prop} {Q : α → Prop}
    {g : β → γ} (hPQ : ∀ x y, R x y → (P (g y) ↔ Q x)) {xs : List α} {ys : List β}
    (h : List.Forall₂ R xs ys) : (∀ z ∈ ys.map g, P z) ↔ ∀ x ∈ xs, Q x := by
  induction h with
  | nil => simp
  | cons hxy _ ih => simp only [List.map_cons, List.forall_mem_cons, hPQ _ _ hxy, ih]

/-- Related lists have related first matches. -/
theorem find?_forall₂ {R : α → β → Prop} {p : α → Bool} {q : β → Bool}
    (hpq : ∀ x y, R x y → p x = q y) {xs : List α} {ys : List β} (h : List.Forall₂ R xs ys) {x : α}
    (hx : xs.find? p = some x) : ∃ y, ys.find? q = some y ∧ R x y := by
  induction h with
  | nil => cases hx
  | @cons x' y' xs ys hxy _ ih =>
    rw [List.find?_cons] at hx
    cases hp : p x' with
    | true =>
      rw [hp] at hx
      cases hx
      exact ⟨y', by rw [List.find?_cons, ← hpq _ _ hxy, hp], hxy⟩
    | false =>
      rw [hp] at hx
      obtain ⟨y, hy, hR⟩ := ih hx
      exact ⟨y, by rw [List.find?_cons, ← hpq _ _ hxy, hp, hy], hR⟩

/-- As many elements have the weaker property as the stronger one just if all of them do. -/
theorem length_filter_eq_iff {p q : α → Prop} [DecidablePred p] [DecidablePred q] (xs : List α)
    (hpq : ∀ x, p x → q x) :
    (xs.filter fun x => q x).length = (xs.filter fun x => p x).length ↔ ∀ x ∈ xs, q x → p x := by
  have hsub : (xs.filter fun x => p x).Sublist (xs.filter fun x => q x) :=
    List.monotone_filter_right xs fun x hx => by
      simp only [decide_eq_true_eq] at hx ⊢
      exact hpq x hx
  constructor
  · intro hlength x hx hq
    have hall := hsub.eq_of_length hlength.symm
    have hmem : x ∈ xs.filter fun x => p x := by
      rw [hall]
      exact List.mem_filter.mpr ⟨hx, by simpa using hq⟩
    simpa using (List.mem_filter.mp hmem).2
  · intro hall
    refine congrArg List.length (List.filter_congr fun x hx => ?_)
    exact decide_eq_decide.mpr ⟨hall x hx, hpq x⟩

/-! ### First occurrences -/

section KeepFirst
variable [DecidableEq β] (key : α → β)

/-- The elements whose key comes for the first time; `seen` holds the keys before. -/
def keepFirst (seen : List β) : List α → List α
  | [] => []
  | x :: rest =>
    if key x ∈ seen then keepFirst seen rest else x :: keepFirst (key x :: seen) rest

variable {key}

theorem keepFirst_subset {seen : List β} {xs : List α} : ∀ x ∈ keepFirst key seen xs, x ∈ xs := by
  induction xs generalizing seen with
  | nil => simp [keepFirst]
  | cons x rest ih =>
    intro y hy
    unfold keepFirst at hy
    split at hy
    · exact List.mem_cons_of_mem _ (ih y hy)
    · rcases List.mem_cons.mp hy with rfl | hy
      · exact List.mem_cons_self ..
      · exact List.mem_cons_of_mem _ (ih y hy)

/-- The keys that are kept are those that were there and not seen before. -/
theorem mem_keys_keepFirst {seen : List β} {xs : List α} {k : β} :
    k ∈ (keepFirst key seen xs).map key ↔ k ∈ xs.map key ∧ k ∉ seen := by
  induction xs generalizing seen with
  | nil => simp [keepFirst]
  | cons x rest ih =>
    unfold keepFirst
    by_cases hx : key x ∈ seen
    · rw [if_pos hx, ih]
      simp only [List.map_cons, List.mem_cons]
      constructor
      · exact fun ⟨h, hs⟩ => ⟨.inr h, hs⟩
      · rintro ⟨rfl | h, hs⟩
        · exact absurd hx hs
        · exact ⟨h, hs⟩
    · rw [if_neg hx]
      simp only [List.map_cons, List.mem_cons, ih, not_or]
      constructor
      · rintro (rfl | ⟨h, -, hs⟩)
        · exact ⟨.inl rfl, hx⟩
        · exact ⟨.inr h, hs⟩
      · rintro ⟨rfl | h, hs⟩
        · exact .inl rfl
        · by_cases hk : k = key x
          · exact .inl hk
          · exact .inr ⟨h, hk, hs⟩

theorem keepFirst_nodup {seen : List β} {xs : List α} :
    ((keepFirst key seen xs).map key).Nodup := by
  induction xs generalizing seen with
  | nil => simp [keepFirst]
  | cons x rest ih =>
    unfold keepFirst
    split
    · exact ih
    · refine List.nodup_cons.mpr ⟨fun hmem => ?_, ih⟩
      exact (mem_keys_keepFirst.mp hmem).2 (List.mem_cons_self ..)

/-- Nothing is dropped when the keys are distinct and new. -/
theorem keepFirst_eq_self {seen : List β} {xs : List α} (hnodup : (xs.map key).Nodup)
    (hseen : ∀ x ∈ xs, key x ∉ seen) : keepFirst key seen xs = xs := by
  induction xs generalizing seen with
  | nil => rfl
  | cons x rest ih =>
    obtain ⟨hx, hrest⟩ := List.nodup_cons.mp hnodup
    rw [keepFirst, if_neg (hseen x (List.mem_cons_self ..)), ih hrest fun y hy => ?_]
    simp only [List.mem_cons, not_or]
    exact ⟨fun heq => hx (heq ▸ List.mem_map_of_mem hy), hseen y (List.mem_cons_of_mem _ hy)⟩

/-- What is kept begins with a list whose keys are distinct and new. -/
theorem prefix_keepFirst_append {seen : List β} {xs : List α} (hnodup : (xs.map key).Nodup)
    (hseen : ∀ x ∈ xs, key x ∉ seen) (ys : List α) : xs <+: keepFirst key seen (xs ++ ys) := by
  induction xs generalizing seen with
  | nil => exact List.nil_prefix
  | cons x rest ih =>
    obtain ⟨hx, hrest⟩ := List.nodup_cons.mp hnodup
    rw [List.cons_append, keepFirst, if_neg (hseen x (List.mem_cons_self ..))]
    refine (List.prefix_cons_inj x).mpr (ih hrest fun y hy => ?_)
    simp only [List.mem_cons, not_or]
    exact ⟨fun heq => hx (heq ▸ List.mem_map_of_mem hy), hseen y (List.mem_cons_of_mem _ hy)⟩

theorem length_keepFirst_le {seen : List β} {xs : List α} :
    (keepFirst key seen xs).length ≤ xs.length := by
  induction xs generalizing seen with
  | nil => simp [keepFirst]
  | cons x rest ih =>
    unfold keepFirst
    split
    · exact Nat.le_succ_of_le ih
    · exact Nat.succ_le_succ ih

/-- Keeping the first occurrences of elements keeps those of their keys. -/
theorem map_keepFirst {seen : List β} {xs : List α} :
    (keepFirst key seen xs).map key = keepFirst id seen (xs.map key) := by
  induction xs generalizing seen with
  | nil => rfl
  | cons x rest ih =>
    simp only [keepFirst, List.map_cons, id]
    split
    · exact ih
    · rw [List.map_cons, ih]

/-- How many entries name nothing, or something that came before. -/
def surplus (seen : List β) : List (Option β) → Nat
  | [] => 0
  | none :: rest => surplus seen rest + 1
  | some x :: rest => if x ∈ seen then surplus seen rest + 1 else surplus (x :: seen) rest

/-- A list is as long as what it names, each once, and its surplus. -/
theorem length_eq_keepFirst_add_surplus (seen : List β) (xs : List (Option β)) :
    xs.length = (keepFirst id seen (xs.filterMap id)).length + surplus seen xs := by
  induction xs generalizing seen with
  | nil => rfl
  | cons x rest ih =>
    cases x with
    | none => rw [List.length_cons, ih seen, surplus, List.filterMap_cons_none rfl, Nat.add_assoc]
    | some x =>
      rw [List.length_cons, List.filterMap_cons_some (f := id) rfl, keepFirst, surplus, id_eq]
      by_cases hx : x ∈ seen
      · rw [if_pos hx, if_pos hx, ih seen, Nat.add_assoc]
      · rw [if_neg hx, if_neg hx, ih (x :: seen), List.length_cons]
        exact Nat.add_right_comm ..

end KeepFirst

section Dedup
variable [DecidableEq β] {xs : List β}

theorem mem_keepFirst_id {x : β} : x ∈ keepFirst id [] xs ↔ x ∈ xs := by
  have h := @mem_keys_keepFirst β β _ id [] xs x
  rw [List.map_id, List.map_id] at h
  simpa using h

theorem idxOf_cons_lt {x a b : β} : (x :: xs).idxOf a < (x :: xs).idxOf b ↔
    x ≠ b ∧ (x = a ∨ x ≠ a ∧ xs.idxOf a < xs.idxOf b) := by
  by_cases hxa : x = a
  · subst hxa
    by_cases hxb : x = b
    · simp [hxb]
    · simp [hxb, List.idxOf_cons_ne]
  · by_cases hxb : x = b
    · simp [hxb]
    · simp [hxa, hxb, List.idxOf_cons_ne]

/-- Which of two elements comes first is not changed by dropping repetitions. -/
theorem idxOf_keepFirst_lt {seen : List β} {a b : β} (ha : a ∉ seen) (hb : b ∉ seen) :
    (keepFirst id seen xs).idxOf a < (keepFirst id seen xs).idxOf b ↔ xs.idxOf a < xs.idxOf b := by
  induction xs generalizing seen with
  | nil => rfl
  | cons x xs ih =>
    unfold keepFirst
    simp only [id_eq]
    split
    · next hx =>
      have hxa : x ≠ a := fun h => ha (by rwa [← h])
      have hxb : x ≠ b := fun h => hb (by rwa [← h])
      rw [ih ha hb, idxOf_cons_lt]
      simp [hxa, hxb]
    · rw [idxOf_cons_lt, idxOf_cons_lt]
      by_cases hx : x = a ∨ x = b
      · grind
      · obtain ⟨hxa, hxb⟩ := not_or.mp hx
        rw [ih (by simp [ha, Ne.symm hxa]) (by simp [hb, Ne.symm hxb])]

/-- Nor by dropping other elements. -/
theorem idxOf_filter_lt {p : β → Bool} {a b : β} (ha : p a = true) (hb : p b = true) :
    (xs.filter p).idxOf a < (xs.filter p).idxOf b ↔ xs.idxOf a < xs.idxOf b := by
  induction xs with
  | nil => rfl
  | cons x xs ih =>
    rw [List.filter_cons]
    split
    · rw [idxOf_cons_lt, idxOf_cons_lt, ih]
    · next hx =>
      have hxa : x ≠ a := fun h => hx (by rwa [h])
      have hxb : x ≠ b := fun h => hx (by rwa [h])
      rw [ih, idxOf_cons_lt]
      simp [hxa, hxb]

theorem keepFirst_id_nodup : (keepFirst id [] xs).Nodup := by
  have h := @keepFirst_nodup β β _ id [] xs
  rwa [List.map_id] at h

end Dedup

/-! ### The first of the least elements -/

section Least
variable (r : α → α → Prop) [DecidableRel r] {xs : List α} {x y : α}

/-- What a stable sort puts first. -/
def least (xs : List α) : Option α := (xs.insertionSort r).head?

variable {r}

theorem least_mem (h : least r xs = some x) : x ∈ xs :=
  (List.mem_insertionSort r).mp (List.mem_of_mem_head? h)

theorem least_le [IsTrans α r] [Std.Total r] (h : least r xs = some x) (hy : y ∈ xs) : r x y := by
  have hsorted : (xs.insertionSort r).Pairwise r := List.pairwise_insertionSort r xs
  have hmem : y ∈ xs.insertionSort r := (List.mem_insertionSort r).mpr hy
  obtain ⟨rest, hrest⟩ := List.head?_eq_some_iff.mp h
  rw [hrest] at hsorted hmem
  rcases List.mem_cons.mp hmem with rfl | hmem
  · exact (Std.Total.total y y).elim id id
  · exact List.rel_of_pairwise_cons hsorted hmem

theorem exists_least (h : xs ≠ []) : ∃ x, least r xs = some x := by
  have hne : xs.insertionSort r ≠ [] := fun hnil =>
    h (by simpa [hnil] using (List.perm_insertionSort r xs).symm)
  obtain ⟨x, rest, hx⟩ := List.exists_cons_of_ne_nil hne
  exact ⟨x, by rw [least, hx]; rfl⟩

end Least

/-! ### Turns -/

/-- It is some element's turn when `P` holds of it and of those before it. -/
def AtTurn {α : Type} (P : List α → α → Prop) : List α → List α → Prop
  | _, [] => False
  | done, x :: rest => P done x ∨ AtTurn P (done ++ [x]) rest

theorem atTurn_iff {α : Type} {P : List α → α → Prop} {done xs : List α} :
    AtTurn P done xs ↔ ∃ before x after, xs = before ++ x :: after ∧ P (done ++ before) x := by
  induction xs generalizing done with
  | nil => simp [AtTurn]
  | cons first rest ih =>
    rw [AtTurn, ih]
    constructor
    · rintro (h | ⟨before, x, after, rfl, h⟩)
      · exact ⟨[], first, rest, rfl, by rwa [List.append_nil]⟩
      · refine ⟨first :: before, x, after, rfl, ?_⟩
        rwa [List.append_assoc] at h
    · rintro ⟨before, x, after, hsplit, h⟩
      cases before with
      | nil =>
        obtain ⟨rfl, rfl⟩ := List.cons.inj hsplit
        exact .inl (by rwa [List.append_nil] at h)
      | cons y before =>
        obtain ⟨rfl, rfl⟩ := List.cons.inj hsplit
        exact .inr ⟨before, x, after, rfl, by rwa [List.append_assoc]⟩

end RaceLink.Library
