import RaceLink.Library.Lists

/-! Computations that may raise: inversion of a bind, a `mapM` and a guard that ended
well, and calls on a state that an exception does not undo. -/
namespace RaceLink.Library

variable {ε α β σ : Type}

theorem bind_ok {x : Except ε α} {f : α → Except ε β} {b : β} :
    (x >>= f) = .ok b ↔ ∃ a, x = .ok a ∧ f a = .ok b := by
  cases x with
  | error e => simp [bind, Except.bind]
  | ok a => simp [bind, Except.bind]

theorem map_ok {x : Except ε α} {f : α → β} {b : β} : x.map f = .ok b ↔ ∃ a, x = .ok a ∧ f a = b := by
  cases x with
  | error e => simp [Except.map]
  | ok a => simp [Except.map]

@[simp] theorem ok_bind (a : α) (f : α → Except ε β) : ((Except.ok a : Except ε α) >>= f) = f a := rfl

@[simp] theorem error_bind (e : ε) (f : α → Except ε β) :
    ((Except.error e : Except ε α) >>= f) = .error e := rfl

@[simp] theorem pure_eq_ok (a : α) : (pure a : Except ε α) = .ok a := rfl

/-- What always goes on well after a step ends well where the step does. -/
theorem exists_bind_ok {x : Except ε α} {f : α → Except ε β} (hf : ∀ a, ∃ b, f a = .ok b) :
    (∃ b, (x >>= f) = .ok b) ↔ ∃ a, x = .ok a := by
  cases x with
  | error e => simp
  | ok a => simpa using hf a

/-- What always goes on well after a step fails where the step does. -/
theorem bind_error_iff {x : Except ε α} {f : α → Except ε β} (hf : ∀ a, ∃ b, f a = .ok b) :
    (∃ e, (x >>= f) = .error e) ↔ ∃ e, x = .error e := by
  cases x with
  | error e => exact ⟨fun _ => ⟨e, rfl⟩, fun _ => ⟨e, rfl⟩⟩
  | ok a =>
    obtain ⟨b, hb⟩ := hf a
    rw [ok_bind, hb]
    exact ⟨fun h => (nomatch h.choose_spec), fun h => (nomatch h.choose_spec)⟩

/-- A guard that was passed. -/
theorem guard_ok {p : Prop} [Decidable p] {e : ε} {x : Except ε α} {a : α} :
    (if p then .error e else x) = .ok a ↔ ¬ p ∧ x = .ok a := by
  by_cases h : p <;> simp [h]

theorem toOption_eq_some {x : Except ε α} {a : α} : x.toOption = some a ↔ x = .ok a := by
  cases x with
  | error e => exact iff_of_false nofun nofun
  | ok a' => exact ⟨fun h => congrArg Except.ok (Option.some.inj h), fun h => congrArg Except.toOption h⟩

/-- `mapM` ends well when every element does, in the same order. -/
theorem mapM_ok {f : α → Except ε β} {xs : List α} {ys : List β} :
    xs.mapM f = .ok ys ↔ List.Forall₂ (fun x y => f x = .ok y) xs ys := by
  induction xs generalizing ys with
  | nil =>
    cases ys with
    | nil => simp
    | cons y ys => simp
  | cons x xs ih =>
    rw [List.mapM_cons, bind_ok]
    constructor
    · rintro ⟨y, hy, h⟩
      obtain ⟨rest, hrest, h⟩ := bind_ok.mp h
      cases h
      exact .cons hy (ih.mp hrest)
    · intro h
      cases h with
      | cons hy hrest => exact ⟨_, hy, bind_ok.mpr ⟨_, ih.mpr hrest, rfl⟩⟩

/-- A search over all elements that finds nothing. -/
theorem mapM_none_iff {f : α → Except ε (Option β)} {xs : List α} :
    (∃ found, xs.mapM f = .ok found ∧ found.filterMap id = []) ↔ ∀ x ∈ xs, f x = .ok none := by
  constructor
  · intro ⟨found, hfound, hnil⟩ x hx
    obtain ⟨o, ho, hanswer⟩ := exists_of_forall₂_left (mapM_ok.mp hfound) hx
    rw [hanswer]
    exact congrArg Except.ok (List.filterMap_eq_nil_iff.mp hnil o ho)
  · intro h
    refine ⟨xs.map fun _ => none, ?_, by simp⟩
    rw [mapM_ok, List.forall₂_map_right_iff, List.forall₂_same]
    exact h

/-- `mapM` stops at the first error. -/
theorem mapM_cons_error {f : α → Except ε β} {x : α} {e : ε} (h : f x = .error e) (xs : List α) :
    (x :: xs).mapM f = .error e := by
  rw [List.mapM_cons, h, error_bind]

theorem mapM_cons_rest_error {f : α → Except ε β} {x : α} {y : β} {xs : List α} {e : ε}
    (h : f x = .ok y) (hrest : xs.mapM f = .error e) : (x :: xs).mapM f = .error e := by
  rw [List.mapM_cons, h, ok_bind, hrest, error_bind]

/-- A `mapM` that fails has an element that does. -/
theorem exists_of_mapM_error {f : α → Except ε β} {xs : List α} {e : ε} (h : xs.mapM f = .error e) :
    ∃ x ∈ xs, f x = .error e := by
  induction xs with
  | nil => cases h
  | cons x rest ih =>
    cases hx : f x with
    | error e' =>
      rw [mapM_cons_error hx] at h
      cases h
      exact ⟨x, List.mem_cons_self .., hx⟩
    | ok y =>
      cases hrest : rest.mapM f with
      | error e' =>
        rw [mapM_cons_rest_error hx hrest] at h
        cases h
        obtain ⟨x', hx', herror⟩ := ih hrest
        exact ⟨x', List.mem_cons_of_mem x hx', herror⟩
      | ok ys =>
        rw [List.mapM_cons, hx, ok_bind, hrest] at h
        cases h

/-- Elements that each have an answer have one together. -/
theorem mapM_map_ok {γ : Type} {f : α → Except ε β} {g : γ → α} {h : γ → β} (xs : List γ)
    (hx : ∀ x ∈ xs, f (g x) = .ok (h x)) : (xs.map g).mapM f = .ok (xs.map h) := by
  rw [mapM_ok, List.forall₂_map_left_iff, List.forall₂_map_right_iff, List.forall₂_same]
  exact hx

/-- Elements that each come back from their images come back together. -/
theorem mapM_self {f : α → Except ε β} {g : β → α} (xs : List β)
    (hx : ∀ x ∈ xs, f (g x) = .ok x) : (xs.map g).mapM f = .ok xs := by
  have := mapM_map_ok (h := id) xs hx
  rwa [List.map_id] at this

/-- A list of which every element ends well. -/
theorem mapM_total {f : α → Except ε β} {xs : List α} (h : ∀ x ∈ xs, ∃ y, f x = .ok y) : ∃ ys, xs.mapM f = .ok ys := by
  induction xs with
  | nil => exact ⟨[], rfl⟩
  | cons x xs ih =>
    obtain ⟨y, hy⟩ := h x (List.mem_cons_self ..)
    obtain ⟨ys, hys⟩ := ih fun x' hx' => h x' (List.mem_cons_of_mem x hx')
    exact ⟨y :: ys, by rw [List.mapM_cons, hy, ok_bind, hys, ok_bind]; rfl⟩

/-- Elements that are read alike one by one are read alike together. -/
theorem mapM_congr_forall₂ {γ : Type} {f : α → Except ε β} {g : γ → Except ε β} {xs : List α} {ys : List γ}
    (h : List.Forall₂ (fun x y => f x = g y) xs ys) : xs.mapM f = ys.mapM g := by
  induction h with
  | nil => rfl
  | cons hxy _ ih => rw [List.mapM_cons, List.mapM_cons, hxy, ih]

/-! ### The same answers -/

/-- Two calls answer alike; how they fail is left open. -/
def Alike (x y : Except ε α) : Prop := ∀ a, x = .ok a ↔ y = .ok a

section Alike
variable {x y z : Except ε α}

theorem Alike.refl (x : Except ε α) : Alike x x := fun _ => Iff.rfl

theorem Alike.symm (h : Alike x y) : Alike y x := fun a => (h a).symm

theorem Alike.trans (h : Alike x y) (h' : Alike y z) : Alike x z := fun a => (h a).trans (h' a)

theorem Alike.errors {e e' : ε} : Alike (.error e : Except ε α) (.error e') := fun _ => iff_of_false nofun nofun

theorem Alike.bind {f g : α → Except ε β} (h : Alike x y) (hf : ∀ a, x = .ok a → Alike (f a) (g a)) :
    Alike (x >>= f) (y >>= g) := by
  intro b
  rw [bind_ok, bind_ok]
  constructor
  · intro ⟨a, ha, hb⟩
    exact ⟨a, (h a).mp ha, (hf a ha b).mp hb⟩
  · intro ⟨a, ha, hb⟩
    exact ⟨a, (h a).mpr ha, (hf a ((h a).mpr ha) b).mpr hb⟩

theorem Alike.guard {p : Prop} [Decidable p] {e : ε} (h : Alike x y) :
    Alike (if p then .error e else x) (if p then .error e else y) := by
  intro a
  rw [guard_ok, guard_ok, h a]

/-- The elements of a list, each rewritten before it is read. -/
theorem Alike.mapM {γ : Type} {f : γ → Except ε β} {g : α → Except ε β} {r : α → γ} {xs : List α}
    (h : ∀ x ∈ xs, Alike (f (r x)) (g x)) : Alike ((xs.map r).mapM f) (xs.mapM g) := by
  induction xs with
  | nil => exact Alike.refl _
  | cons x xs ih =>
    rw [List.map_cons, List.mapM_cons, List.mapM_cons]
    refine (h x (List.mem_cons_self ..)).bind fun _ _ => ?_
    exact (ih fun x' hx' => h x' (List.mem_cons_of_mem x hx')).bind fun _ _ => Alike.refl _

end Alike

/-! ### Replacing an element -/

/-- The first element of a kind is replaced, the rest of the list stays. -/
def replaceFirst (p : α → Prop) [DecidablePred p] (f : α → Except ε α) :
    List α → Except ε (Option (α × List α))
  | [] => .ok none
  | x :: rest =>
    if p x then do
      let y ← f x
      .ok (some (y, y :: rest))
    else do
      match ← replaceFirst p f rest with
      | none => .ok none
      | some (y, rest) => .ok (some (y, x :: rest))

/-- What the replacement keeps of an element is kept of the list. -/
theorem replaceFirst_map {p : α → Prop} [DecidablePred p] {f : α → Except ε α} {g : α → β}
    (hf : ∀ x y, f x = .ok y → g y = g x) {xs ys : List α} {y : α}
    (h : replaceFirst p f xs = .ok (some (y, ys))) : ys.map g = xs.map g := by
  induction xs generalizing ys with
  | nil => cases h
  | cons x rest ih =>
    unfold replaceFirst at h
    split at h
    · obtain ⟨y', hy', h⟩ := bind_ok.mp h
      cases h
      rw [List.map_cons, List.map_cons, hf _ _ hy']
    · obtain ⟨found, hfound, h⟩ := bind_ok.mp h
      cases found with
      | none => cases h
      | some pair =>
        cases h
        rw [List.map_cons, List.map_cons, ih hfound]

/-- Nothing is replaced only where nothing is of the kind. -/
theorem replaceFirst_eq_none {p : α → Prop} [DecidablePred p] {f : α → Except ε α} {xs : List α}
    (h : replaceFirst p f xs = .ok none) : ∀ x ∈ xs, ¬ p x := by
  induction xs with
  | nil => simp
  | cons first rest ih =>
    unfold replaceFirst at h
    split at h
    · obtain ⟨y, -, h⟩ := bind_ok.mp h
      cases h
    · next hp =>
      obtain ⟨found, hfound, h⟩ := bind_ok.mp h
      cases found with
      | none => exact List.forall_mem_cons.mpr ⟨hp, ih hfound⟩
      | some pair => cases h

/-- The element that was replaced is the first of its kind. -/
theorem replaceFirst_eq_some {p : α → Prop} [DecidablePred p] {f : α → Except ε α} {xs ys : List α} {y : α} :
    replaceFirst p f xs = .ok (some (y, ys)) ↔ ∃ before x after, xs = before ++ x :: after ∧
      (∀ z ∈ before, ¬ p z) ∧ p x ∧ f x = .ok y ∧ ys = before ++ y :: after := by
  constructor
  · intro h
    induction xs generalizing ys with
    | nil => cases h
    | cons first rest ih =>
      unfold replaceFirst at h
      split at h
      · next hp =>
        obtain ⟨y', hy, h⟩ := bind_ok.mp h
        cases h
        exact ⟨[], first, rest, rfl, by simp, hp, hy, rfl⟩
      · next hp =>
        obtain ⟨found, hfound, h⟩ := bind_ok.mp h
        cases found with
        | none => cases h
        | some pair =>
          cases h
          obtain ⟨before, x, after, rfl, hbefore, hx, hy, hys⟩ := ih hfound
          exact ⟨first :: before, x, after, rfl, List.forall_mem_cons.mpr ⟨hp, hbefore⟩, hx, hy,
            congrArg (first :: ·) hys⟩
  · rintro ⟨before, x, after, rfl, hbefore, hx, hy, rfl⟩
    induction before with
    | nil =>
      rw [List.nil_append, replaceFirst, if_pos hx, hy]
      rfl
    | cons first rest ih =>
      obtain ⟨hfirst, hrest⟩ := List.forall_mem_cons.mp hbefore
      rw [List.cons_append, replaceFirst, if_neg hfirst, ih hrest]
      rfl

/-! ### Calls on a state -/

/-- Goes on with the answer of a call in the state the call left; an exception ends
the computation and leaves the state as it is by then. -/
def andThen (p : Except ε α × σ) (f : α → σ → Except ε β × σ) : Except ε β × σ :=
  match p with
  | (.error e, s) => (.error e, s)
  | (.ok x, s) => f x s

@[simp] theorem andThen_ok (x : α) (s : σ) (f : α → σ → Except ε β × σ) :
    andThen (.ok x, s) f = f x s := rfl

@[simp] theorem andThen_error (e : ε) (s : σ) (f : α → σ → Except ε β × σ) :
    andThen (.error e, s) f = (.error e, s) := rfl

/-- A computation that answered went through every call. -/
theorem andThen_eq_ok {p : Except ε α × σ} {f : α → σ → Except ε β × σ} {y : β} {t : σ} :
    andThen p f = (.ok y, t) ↔ ∃ x s, p = (.ok x, s) ∧ f x s = (.ok y, t) := by
  obtain ⟨result, s⟩ := p
  cases result with
  | error e => simp
  | ok x => simp

/-- A pure step answers without touching the state. -/
theorem andThen_pure_eq_ok {x : Except ε α} {s t : σ} {f : α → σ → Except ε β × σ} {y : β} :
    andThen (x, s) f = (.ok y, t) ↔ ∃ a, x = .ok a ∧ f a s = (.ok y, t) := by
  cases x with
  | error e => simp
  | ok x => simp

/-- What holds of the state after a call, and is kept by what follows, holds at the end,
whether or not there was an exception. -/
theorem andThen_state {I : σ → Prop} {p : Except ε α × σ} {f : α → σ → Except ε β × σ}
    (hp : I p.2) (hf : ∀ x, p.1 = .ok x → I (f x p.2).2) : I (andThen p f).2 := by
  obtain ⟨result, s⟩ := p
  cases result with
  | error e => exact hp
  | ok x => exact hf x rfl

/-- An answer given without another call leaves the state to which it is given. -/
theorem andThen_answer {I : σ → Prop} {p : Except ε α × σ} {g : α → Except ε β} (hp : I p.2) :
    I (andThen p fun x s => (g x, s)).2 :=
  andThen_state hp fun _ _ => hp

/-! ### Calls that raise -/

/-- The call ended in an exception. -/
def Raises (p : Except ε α × σ) : Prop := ∃ e, p.1 = .error e

/-- A call made in `s` either answers, or leaves a state that is to `s` as `R` says. -/
def Spares (R : σ → σ → Prop) (s : σ) (p : Except ε α × σ) : Prop := Raises p → R s p.2

section Spares
variable {R : σ → σ → Prop} [IsPreorder σ R] {s : σ}

theorem Spares.same (p : Except ε α) : Spares R s (p, s) := fun _ => Std.Refl.refl s

omit [IsPreorder σ R] in
/-- A call that answers spares any state. -/
theorem Spares.answers {p : Except ε α × σ} {x : α} (h : p.1 = .ok x) : Spares R s p := by
  rintro ⟨e, he⟩
  rw [h] at he
  cases he

/-- A computation spares the state if its first call leaves it as `R` says, and what follows
spares the state it is given. -/
theorem Spares.andThen {p : Except ε α × σ} {f : α → σ → Except ε β × σ} (hp : R s p.2)
    (hf : ∀ x, p.1 = .ok x → Spares R p.2 (f x p.2)) : Spares R s (Library.andThen p f) := by
  obtain ⟨answer, t⟩ := p
  cases answer with
  | error e => exact fun _ => hp
  | ok x => exact fun hraises => IsTrans.trans _ _ _ hp (hf x rfl hraises)

theorem Spares.pure {x : Except ε α} {f : α → σ → Except ε β × σ}
    (hf : ∀ a, x = .ok a → Spares R s (f a s)) : Spares R s (Library.andThen (x, s) f) :=
  Spares.andThen (Std.Refl.refl s) hf

omit [IsPreorder σ R] in
/-- A last call whose answer is only wrapped. -/
theorem Spares.wrap {p : Except ε α × σ} {g : α → β} (hp : Spares R s p) :
    Spares R s (Library.andThen p fun x t => (.ok (g x), t)) := by
  obtain ⟨answer, t⟩ := p
  cases answer with
  | error e => exact fun _ => hp ⟨e, rfl⟩
  | ok x => exact .answers rfl

end Spares

end RaceLink.Library
