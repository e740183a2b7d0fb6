import RaceLink.Library.Except

/-! Actions: computations on a state that may raise, with what code does about
exceptions (`except`, `finally`, a loop of attempts), and calls on a world outside.

The world answers each call as it likes, knowing everything that was said before; a
state keeps the calls with their answers. `Says m R` is what is proved of an action:
whatever the world answers, the calls the action adds, its own answer and the state it
leaves are to the state it was started in as `R` says. Every construct has its rule, so
that the calls of a program are put together from the calls of its parts. -/
namespace RaceLink.Library

/-- From a state, an answer or an exception, and the state then. -/
def Action (ε σ α : Type) : Type := σ → Except ε α × σ

namespace Action
variable {ε σ α β : Type}

instance instMonadAction : Monad (Action ε σ) where
  pure a := fun s => (.ok a, s)
  bind m f := fun s => andThen (m s) f

def raise (e : ε) : Action ε σ α := fun s => (.error e, s)

def modify (f : σ → σ) : Action ε σ Unit := fun s => (.ok (), f s)

def gets (f : σ → α) : Action ε σ α := fun s => (.ok (f s), s)

/-- An answer that may be an exception, raised if it is one. -/
def ofExcept (x : Except ε α) : Action ε σ α := fun s => (x, s)

/-- `try: m`, `except: handle(e)`. -/
def orExcept (m : Action ε σ α) (handle : ε → Action ε σ α) : Action ε σ α := fun s =>
  match m s with
  | (.ok a, t) => (.ok a, t)
  | (.error e, t) => handle e t

/-- The answer or the exception of `m`, as an answer. -/
def captured {ε' : Type} (m : Action ε σ α) : Action ε' σ (Except ε α) := fun s => (.ok (m s).1, (m s).2)

/-- `try: m`, `finally: last`. An exception of the last part takes the place of the answer. -/
def andFinally (m : Action ε σ α) (last : Action ε σ Unit) : Action ε σ α := fun s =>
  match last (m s).2 with
  | (.ok (), t) => ((m s).1, t)
  | (.error e, t) => (.error e, t)

/-- `for attempt in range(first, first + n)`: the body is tried until it answers true. -/
def attempts (body : Nat → Action ε σ Bool) : Nat → Nat → Action ε σ Bool
  | _, 0 => pure false
  | attempt, n + 1 => do
    if ← body attempt then pure true else attempts body (attempt + 1) n

variable {m : Action ε σ α} {s t : σ} {a : α} {e : ε}

theorem bind_of_ok {f : α → Action ε σ β} (h : m s = (.ok a, t)) : (m >>= f) s = f a t := by
  have hbind : (m >>= f) s = andThen (m s) fun a s => f a s := rfl
  rw [hbind, h, andThen_ok]

theorem bind_of_error {f : α → Action ε σ β} (h : m s = (.error e, t)) : (m >>= f) s = (.error e, t) := by
  have hbind : (m >>= f) s = andThen (m s) fun a s => f a s := rfl
  rw [hbind, h, andThen_error]

theorem ofExcept_ok_bind (a : α) (f : α → Action ε σ β) : (ofExcept (.ok a) >>= f) = f a := rfl

theorem ofExcept_error_bind (e : ε) (f : α → Action ε σ β) : (ofExcept (.error e) >>= f) = raise e := rfl

theorem orExcept_of_ok {handle : ε → Action ε σ α} (h : m s = (.ok a, t)) :
    orExcept m handle s = (.ok a, t) := by
  simp only [orExcept, h]

theorem orExcept_of_error {handle : ε → Action ε σ α} (h : m s = (.error e, t)) :
    orExcept m handle s = handle e t := by
  simp only [orExcept, h]

theorem andFinally_of_ok {last : Action ε σ Unit} {u : σ} (h : last (m s).2 = (.ok (), u)) :
    andFinally m last s = ((m s).1, u) := by
  simp only [andFinally, h]

end Action

/-! ### Calls on a world outside -/

/-- The calls so far with their answers, oldest first. -/
abbrev History (C : Type) (A : C → Type) : Type := List (Σ c, A c)

/-- How the world answers a call, after what was said before. -/
abbrev Outside (C : Type) (A : C → Type) : Type := History C A → (c : C) → A c

/-- An action on a state of its own, beside the calls it makes. -/
abbrev Talk (C : Type) (A : C → Type) (ε σ α : Type) : Type := Action ε (History C A × σ) α

namespace Talk
variable {C : Type} {A : C → Type} {ε σ α β : Type}

/-- A call, recorded with its answer. -/
def ask (o : Outside C A) (c : C) : Talk C A ε σ (A c) := fun s =>
  (.ok (o s.1 c), (s.1 ++ [⟨c, o s.1 c⟩], s.2))

/-- The state of its own is changed. -/
def modify (f : σ → σ) : Talk C A ε σ Unit := Action.modify fun s => (s.1, f s.2)

/-- The state of its own is read. -/
def gets (f : σ → α) : Talk C A ε σ α := Action.gets fun s => f s.2

/-- What an action may say and answer, from each state of its own. -/
abbrev Spec (C : Type) (A : C → Type) (ε σ α : Type) : Type :=
  σ → History C A → Except ε α → σ → Prop

/-- Whatever was said before, the action adds calls that `R` allows. -/
def Says (m : Talk C A ε σ α) (R : Spec C A ε σ α) : Prop :=
  ∀ h s, ∃ new, (m (h, s)).2.1 = h ++ new ∧ R s new (m (h, s)).1 (m (h, s)).2.2

/-- The calls of a sequence: of the first part alone if it raised, else of both. -/
def Spec.seq (R : Spec C A ε σ α) (S : α → Spec C A ε σ β) : Spec C A ε σ β := fun s new answer t =>
  (∃ e, answer = .error e ∧ R s new (.error e) t) ∨
    ∃ a first mid rest, new = first ++ rest ∧ R s first (.ok a) mid ∧ S a mid rest answer t

/-- The calls of a `try` with an `except`. -/
def Spec.orElse (R : Spec C A ε σ α) (H : ε → Spec C A ε σ α) : Spec C A ε σ α := fun s new answer t =>
  (∃ a, answer = .ok a ∧ R s new (.ok a) t) ∨
    ∃ e first mid rest, new = first ++ rest ∧ R s first (.error e) mid ∧ H e mid rest answer t

/-- The calls of a `try` with a `finally` that raises nothing. -/
def Spec.andLast (R : Spec C A ε σ α) (L : Spec C A ε σ Unit) : Spec C A ε σ α := fun s new answer t =>
  ∃ first mid rest, new = first ++ rest ∧ R s first answer mid ∧ L mid rest (.ok ()) t

section Rules
variable {m : Talk C A ε σ α} {R R' : Spec C A ε σ α}

theorem Says.mono (h : Says m R) (himp : ∀ s new answer t, R s new answer t → R' s new answer t) :
    Says m R' := by
  intro before s
  obtain ⟨new, hnew, hR⟩ := h before s
  exact ⟨new, hnew, himp _ _ _ _ hR⟩

/-- A spec for every value of a parameter is one for the value the state has. -/
theorem Says.at_state {β : Type} {S : β → Spec C A ε σ α} (h : ∀ b, Says m (S b)) (f : σ → β) :
    Says m fun s new answer t => S (f s) s new answer t := fun before s => h (f s) before s

/-- What a spec says holds of the calls of any run from nothing said before. -/
theorem Says.run (h : Says m R) (s : σ) : R s (m ([], s)).2.1 (m ([], s)).1 (m ([], s)).2.2 := by
  obtain ⟨new, hnew, hR⟩ := h [] s
  rw [List.nil_append] at hnew
  rwa [hnew]

theorem says_pure (a : α) :
    Says (pure a : Talk C A ε σ α) fun s new answer t => new = [] ∧ answer = .ok a ∧ t = s :=
  fun h _ => ⟨[], (List.append_nil h).symm, rfl, rfl, rfl⟩

theorem says_raise (e : ε) :
    Says (Action.raise e : Talk C A ε σ α) fun s new answer t => new = [] ∧ answer = .error e ∧ t = s :=
  fun h _ => ⟨[], (List.append_nil h).symm, rfl, rfl, rfl⟩

theorem says_ofExcept (x : Except ε α) :
    Says (Action.ofExcept x : Talk C A ε σ α) fun s new answer t => new = [] ∧ answer = x ∧ t = s :=
  fun h _ => ⟨[], (List.append_nil h).symm, rfl, rfl, rfl⟩

theorem says_modify (f : σ → σ) :
    Says (modify f : Talk C A ε σ Unit) fun s new answer t => new = [] ∧ answer = .ok () ∧ t = f s :=
  fun h _ => ⟨[], (List.append_nil h).symm, rfl, rfl, rfl⟩

theorem says_gets (f : σ → α) :
    Says (gets f : Talk C A ε σ α) fun s new answer t => new = [] ∧ answer = .ok (f s) ∧ t = s :=
  fun h _ => ⟨[], (List.append_nil h).symm, rfl, rfl, rfl⟩

theorem says_ask (o : Outside C A) (c : C) :
    Says (ask o c : Talk C A ε σ (A c)) fun s new answer t =>
      ∃ a, new = [⟨c, a⟩] ∧ answer = .ok a ∧ t = s :=
  fun h _ => ⟨[⟨c, o h c⟩], rfl, o h c, rfl, rfl, rfl⟩

theorem Says.bind {f : α → Talk C A ε σ β} {S : α → Spec C A ε σ β} (hm : Says m R)
    (hf : ∀ a, Says (f a) (S a)) : Says (m >>= f) (R.seq S) := by
  intro h s
  obtain ⟨new, hnew, hR⟩ := hm h s
  obtain ⟨answer, after, t, hcase⟩ : ∃ answer after t, m (h, s) = (answer, after, t) := ⟨_, _, _, rfl⟩
  rw [hcase] at hnew hR
  obtain rfl : after = h ++ new := hnew
  cases answer with
  | error e =>
    rw [Action.bind_of_error hcase]
    exact ⟨new, rfl, .inl ⟨e, rfl, hR⟩⟩
  | ok a =>
    obtain ⟨rest, hrest, hS⟩ := hf a (h ++ new) t
    rw [Action.bind_of_ok hcase]
    exact ⟨new ++ rest, by rw [hrest, List.append_assoc], .inr ⟨a, new, t, rest, rfl, hR, hS⟩⟩

theorem Says.orExcept {handle : ε → Talk C A ε σ α} {H : ε → Spec C A ε σ α} (hm : Says m R)
    (hh : ∀ e, Says (handle e) (H e)) : Says (Action.orExcept m handle) (R.orElse H) := by
  intro h s
  obtain ⟨new, hnew, hR⟩ := hm h s
  obtain ⟨answer, after, t, hcase⟩ : ∃ answer after t, m (h, s) = (answer, after, t) := ⟨_, _, _, rfl⟩
  rw [hcase] at hnew hR
  obtain rfl : after = h ++ new := hnew
  cases answer with
  | ok a =>
    rw [Action.orExcept_of_ok hcase]
    exact ⟨new, rfl, .inl ⟨a, rfl, hR⟩⟩
  | error e =>
    obtain ⟨rest, hrest, hH⟩ := hh e (h ++ new) t
    rw [Action.orExcept_of_error hcase]
    exact ⟨new ++ rest, by rw [hrest, List.append_assoc], .inr ⟨e, new, t, rest, rfl, hR, hH⟩⟩

theorem Says.captured {ε' : Type} (hm : Says m R) :
    Says (Action.captured m : Talk C A ε' σ (Except ε α)) fun s new answer t =>
      ∃ a, answer = .ok a ∧ R s new a t := by
  intro h s
  obtain ⟨new, hnew, hR⟩ := hm h s
  exact ⟨new, hnew, (m (h, s)).1, rfl, hR⟩

/-- A `finally` whose last part raises nothing. -/
theorem Says.andFinally {last : Talk C A ε σ Unit} {L : Spec C A ε σ Unit} (hm : Says m R)
    (hlast : Says last L) (hnever : ∀ s new e t, ¬ L s new (.error e) t) :
    Says (Action.andFinally m last) (R.andLast L) := by
  intro h s
  obtain ⟨new, hnew, hR⟩ := hm h s
  obtain ⟨rest, hrest, hL⟩ := hlast (m (h, s)).2.1 (m (h, s)).2.2
  obtain ⟨answer, u, hcase⟩ : ∃ answer u, last (m (h, s)).2 = (answer, u) := ⟨_, _, rfl⟩
  rw [Prod.mk.eta, hcase] at hrest hL
  cases answer with
  | error e => exact absurd hL (hnever _ _ _ _)
  | ok done =>
    rw [Action.andFinally_of_ok hcase]
    refine ⟨new ++ rest, ?_, new, (m (h, s)).2.2, rest, rfl, hR, hL⟩
    rw [hrest, hnew, List.append_assoc]

theorem says_gets_bind {g : σ → β} {f : β → Talk C A ε σ α} {R : β → Spec C A ε σ α}
    (hf : ∀ b, Says (f b) (R b)) :
    Says (gets g >>= f) fun s new answer t => R (g s) s new answer t := by
  refine ((says_gets g).bind hf).mono fun s new answer t h => ?_
  rcases h with ⟨e, -, -, h, -⟩ | ⟨b, first, mid, rest, rfl, ⟨rfl, hb, rfl⟩, hR⟩
  · cases h
  · cases hb
    exact hR

theorem says_modify_bind {g : σ → σ} (hm : Says m R) :
    Says (modify g >>= fun _ => m) fun s new answer t => R (g s) new answer t := by
  refine ((says_modify g).bind fun _ => hm).mono fun s new answer t h => ?_
  rcases h with ⟨e, -, -, h, -⟩ | ⟨b, first, mid, rest, rfl, ⟨rfl, hb, rfl⟩, hR⟩
  · cases h
  · exact hR

theorem says_ask_bind {o : Outside C A} {c : C} {f : A c → Talk C A ε σ α} {R : A c → Spec C A ε σ α}
    (hf : ∀ a, Says (f a) (R a)) :
    Says (ask o c >>= f) fun s new answer t => ∃ a rest, new = ⟨c, a⟩ :: rest ∧ R a s rest answer t := by
  refine ((says_ask o c).bind hf).mono fun s new answer t h => ?_
  rcases h with ⟨e, -, a, -, h, -⟩ | ⟨b, first, mid, rest, rfl, ⟨a, rfl, hb, rfl⟩, hR⟩
  · cases h
  · cases hb
    exact ⟨b, rest, rfl, hR⟩

end Rules

/-! ### What holds from part to part -/

/-- A relation between the states before and after some calls that composes with them. -/
structure Composes (I : σ → History C A → σ → Prop) : Prop where
  refl : ∀ s, I s [] s
  trans : ∀ {s t u : σ} {first rest : History C A}, I s first t → I t rest u → I s (first ++ rest) u

/-- The relation, as a spec: whatever the answer. -/
abbrev Around (I : σ → History C A → σ → Prop) : Spec C A ε σ α := fun s new _ t => I s new t

theorem around_gets_bind {I : σ → History C A → σ → Prop} {g : σ → β} {f : β → Talk C A ε σ α}
    (hf : ∀ b, Says (f b) (Around I)) : Says (gets g >>= f) (Around I) :=
  (says_gets_bind hf).mono fun _ _ _ _ h => h

namespace Composes
variable {I : σ → History C A → σ → Prop} (hI : Composes I)
include hI

theorem pure (a : α) : Says (Pure.pure a : Talk C A ε σ α) (Around I) :=
  (says_pure a).mono fun s new answer t h => by
    obtain ⟨rfl, rfl, rfl⟩ := h
    exact hI.refl _

theorem ofExcept (x : Except ε α) : Says (Action.ofExcept x : Talk C A ε σ α) (Around I) :=
  (says_ofExcept x).mono fun s new answer t h => by
    obtain ⟨rfl, rfl, rfl⟩ := h
    exact hI.refl _

theorem bind {m : Talk C A ε σ α} {f : α → Talk C A ε σ β} (hm : Says m (Around I))
    (hf : ∀ a, Says (f a) (Around I)) : Says (m >>= f) (Around I) := by
  refine (hm.bind hf).mono fun s new answer t h => ?_
  rcases h with ⟨e, -, h⟩ | ⟨a, first, mid, rest, rfl, hfirst, hrest⟩
  · exact h
  · exact hI.trans hfirst hrest

theorem orExcept {m : Talk C A ε σ α} {handle : ε → Talk C A ε σ α} (hm : Says m (Around I))
    (hhandle : ∀ e, Says (handle e) (Around I)) : Says (Action.orExcept m handle) (Around I) := by
  refine (hm.orExcept hhandle).mono fun s new answer t h => ?_
  rcases h with ⟨a, -, h⟩ | ⟨e, first, mid, rest, rfl, hfirst, hrest⟩
  · exact h
  · exact hI.trans hfirst hrest

/-- A `finally`, also of one whose last part may raise. -/
theorem andFinally {m : Talk C A ε σ α} {last : Talk C A ε σ Unit} (hm : Says m (Around I))
    (hlast : Says last (Around I)) : Says (Action.andFinally m last) (Around I) := by
  intro h s
  obtain ⟨new, hnew, hR⟩ := hm h s
  obtain ⟨rest, hrest, hL⟩ := hlast (m (h, s)).2.1 (m (h, s)).2.2
  obtain ⟨answer, u, hcase⟩ : ∃ answer u, last (m (h, s)).2 = (answer, u) := ⟨_, _, rfl⟩
  rw [Prod.mk.eta, hcase] at hrest hL
  have hstate : (Action.andFinally m last (h, s)).2 = u := by
    cases answer <;> simp only [Action.andFinally, hcase]
  rw [hstate]
  exact ⟨new ++ rest, by rw [hrest, hnew, List.append_assoc], hI.trans hR hL⟩

theorem attempts {body : Nat → Talk C A ε σ Bool} (hbody : ∀ attempt, Says (body attempt) (Around I))
    (first n : Nat) : Says (Action.attempts body first n) (Around I) := by
  induction n generalizing first with
  | zero => exact hI.pure false
  | succ n ih =>
    refine hI.bind (hbody first) fun ok => ?_
    cases ok with
    | true => exact hI.pure true
    | false => exact ih (first + 1)

end Composes

end Talk

/-! ### Calls and what was said before them -/

/-- Every call of `new` is as `P` asks of it after what was said before. -/
def Each {C : Type} {A : C → Type} (P : History C A → (Σ c, A c) → Prop) : History C A → History C A → Prop
  | _, [] => True
  | before, said :: new => P before said ∧ Each P (before ++ [said]) new

section Each
variable {C : Type} {A : C → Type} {P : History C A → (Σ c, A c) → Prop} {before xs ys : History C A}

@[simp] theorem each_nil : Each P before [] := trivial

@[simp] theorem each_cons {said : Σ c, A c} :
    Each P before (said :: xs) ↔ P before said ∧ Each P (before ++ [said]) xs := Iff.rfl

theorem each_append : Each P before (xs ++ ys) ↔ Each P before xs ∧ Each P (before ++ xs) ys := by
  induction xs generalizing before with
  | nil => simp
  | cons said xs ih => rw [List.cons_append, each_cons, each_cons, ih, List.append_assoc, and_assoc]; rfl

/-- A call anywhere in `new` is as `P` asks. -/
theorem each_iff : Each P before xs ↔
    ∀ front said rest, xs = front ++ said :: rest → P (before ++ front) said := by
  constructor
  · rintro h front said rest rfl
    rw [each_append, each_cons] at h
    exact h.2.1
  · intro h
    induction xs generalizing before with
    | nil => exact each_nil
    | cons said xs ih =>
      refine ⟨by simpa using h [] said xs rfl, ih fun front said' rest hxs => ?_⟩
      have hsaid := h (said :: front) said' rest (by rw [hxs]; rfl)
      rwa [List.append_cons] at hsaid

end Each

/-! ### Answers of a loop of attempts -/

/-- The answers of at most `n` tries: each but the last was a miss, and the last is one only if no
try was left. -/
inductive Tried {α : Type} (Miss : α → Prop) : Nat → List α → Prop where
  | done : Tried Miss 0 []
  | last {n : Nat} {a : α} : ¬ Miss a → Tried Miss (n + 1) [a]
  | miss {n : Nat} {a : α} {rest : List α} : Miss a → Tried Miss n rest → Tried Miss (n + 1) (a :: rest)

namespace Tried
variable {α : Type} {Miss : α → Prop} {n : Nat} {answers : List α}

theorem one (h : Tried Miss 1 answers) : ∃ a, answers = [a] := by
  cases h with
  | last _ => exact ⟨_, rfl⟩
  | miss _ h =>
    cases h
    exact ⟨_, rfl⟩

theorem single (a : α) (h : Miss a → n = 0) : Tried Miss (n + 1) [a] := by
  by_cases ha : Miss a
  · obtain rfl := h ha
    exact .miss ha .done
  · exact .last ha

/-- An answer that is no miss is the last. -/
theorem last_of_mem {a : α} (h : Tried Miss n answers) (ha : a ∈ answers) (hmiss : ¬ Miss a) :
    answers.getLast? = some a := by
  induction h with
  | done => cases ha
  | last _ =>
    rw [List.mem_singleton.mp ha]
    rfl
  | miss hb _ ih =>
    rcases List.mem_cons.mp ha with rfl | ha
    · exact absurd hb hmiss
    · rw [List.getLast?_cons, ih ha]
      rfl

end Tried

end RaceLink.Library
