import RaceLink.Library.Runs
import RaceLink.Library.Sections
import Mathlib.Algebra.Order.Group.Defs

/-! Keys that are left alone for a while after they were acted on.

A thread that is asked to act on a key reads the clock, and then looks the key up among the recent times,
where it drops whatever is too old. If the key was not acted on of late, it notes the time and acts. Other
threads read the clock and drop old times in between. A key has its own thread. Two times a key is acted on
are a cooldown apart, and whoever asks is told to act, or was preceded by less than a cooldown. -/
namespace RaceLink.Library

variable {κ τ ω : Type}

/-- How long a key is left alone, and how long its time is remembered. -/
structure Times (τ : Type) [AddCommGroup τ] [LinearOrder τ] where
  cooldown : τ
  expiry : τ
  pos : 0 < cooldown
  le : cooldown ≤ expiry

/-- Where a thread is that was asked to act on a key. -/
inductive Asker (κ τ : Type) where
  | idle
  | asking (k : κ)
  | asked (k : κ) (now : τ)
  | passed (k : κ) (now : τ)

/-- The clock, and the recent time of each key. For reasoning only: when each key was acted on, and when it
was asked for, in order. -/
structure Recent (κ τ : Type) where
  clock : τ
  recent : κ → Option τ := fun _ => none
  acted : List (κ × τ) := []
  answered : List (κ × τ) := []

namespace Cooldown
variable [AddCommGroup τ] [LinearOrder τ] {T : Times τ} {f : Recent κ τ} {k : κ} {now t : τ}

/-- What is too old is dropped. -/
def prune (T : Times τ) (f : Recent κ τ) (now : τ) : Recent κ τ :=
  {f with recent := fun k => (f.recent k).filter fun t => now - t < T.expiry}

def answer (f : Recent κ τ) (k : κ) (now : τ) : Recent κ τ := {f with answered := f.answered ++ [(k, now)]}

/-- A key without a time was acted on at 0. -/
def Suppressed (T : Times τ) (f : Recent κ τ) (k : κ) (now : τ) : Prop := now - (f.recent k).getD 0 < T.cooldown

instance decidableSuppressed (T : Times τ) (f : Recent κ τ) (k : κ) (now : τ) : Decidable (Suppressed T f k now) :=
  inferInstanceAs (Decidable (_ < _))

section Steps
variable [DecidableEq κ]

def mark (f : Recent κ τ) (k : κ) : Recent κ τ :=
  {f with recent := Function.update f.recent k (some f.clock), acted := f.acted ++ [(k, f.clock)]}

/-- The next step of a thread. -/
def advance (T : Times τ) (f : Recent κ τ) : Asker κ τ → Asker κ τ × Recent κ τ
  | .idle => (.idle, f)
  | .asking k => (.asked k f.clock, f)
  | .asked k now =>
    if Suppressed T (prune T f now) k now then (.idle, answer (prune T f now) k now)
    else (.passed k now, prune T f now)
  | .passed k now => (.idle, answer (mark f k) k now)

/-- What happens: the thread of a key is asked, a thread goes on, and time passes. -/
inductive Act (κ τ ω : Type) where
  | ask (k : κ)
  | next (p : ω)
  | wait (d : τ)

def step [DecidableEq ω] (T : Times τ) (owner : κ → ω) (s : Threads ω (Asker κ τ) (Recent κ τ)) :
    Act κ τ ω → Threads ω (Asker κ τ) (Recent κ τ)
  | .ask k => match s.pc (owner k) with
    | .idle => s.move (owner k) (.asking k, s.shared)
    | _ => s
  | .next p => s.move p (advance T s.shared (s.pc p))
  | .wait d => if 0 ≤ d then ⟨{s.shared with clock := s.shared.clock + d}, s.pc⟩ else s

end Steps

def begun (clock : τ) : Threads ω (Asker κ τ) (Recent κ τ) := ⟨{ clock }, fun _ => .idle⟩

/-! ### What is remembered -/

/-- The times of a key that are remembered are enough: what was dropped is older than it matters. -/
structure Kept (T : Times τ) (f : Recent κ τ) : Prop where
  started : T.cooldown ≤ f.clock
  past : ∀ {k t}, (k, t) ∈ f.acted → t ≤ f.clock
  known : ∀ {k t}, f.recent k = some t → (k, t) ∈ f.acted
  remembered : ∀ {k t}, (k, t) ∈ f.acted →
    (∃ later, f.recent k = some later ∧ t ≤ later) ∨ t + T.expiry ≤ f.clock
  spaced : f.acted.Pairwise fun a b => a.1 = b.1 → a.2 + T.cooldown ≤ b.2
  preceded : ∀ {k now}, (k, now) ∈ f.answered → ∃ t, (k, t) ∈ f.acted ∧ now < t + T.cooldown

/-- What the place of a thread says. -/
def Says (T : Times τ) (f : Recent κ τ) : Asker κ τ → Prop
  | .idle => True
  | .asking _ => True
  | .asked _ now => T.cooldown ≤ now ∧ now ≤ f.clock
  | .passed k now => now ≤ f.clock ∧ ∀ {t}, (k, t) ∈ f.acted → t + T.cooldown ≤ f.clock

/-- The key a thread was asked for. -/
def keyOf : Asker κ τ → Option κ
  | .idle => none
  | .asking k => some k
  | .asked k _ => some k
  | .passed k _ => some k

/-- What a place says stays so while time passes and other keys are acted on. -/
theorem Says.mono {f' : Recent κ τ} {p : Asker κ τ} (h : Says T f p) (hclock : f.clock ≤ f'.clock)
    (hacted : ∀ {k t}, keyOf p = some k → (k, t) ∈ f'.acted → (k, t) ∈ f.acted) : Says T f' p := by
  cases p with
  | idle => trivial
  | asking k => trivial
  | asked k now => exact ⟨h.1, h.2.trans hclock⟩
  | passed k now => exact ⟨h.1.trans hclock, fun ht => (h.2 (hacted rfl ht)).trans hclock⟩

variable {owner : κ → ω} {s : Threads ω (Asker κ τ) (Recent κ τ)}

/-- Each thread is where its place says, for a key of its own. -/
structure Holds (T : Times τ) (owner : κ → ω) (s : Threads ω (Asker κ τ) (Recent κ τ)) : Prop where
  kept : Kept T s.shared
  placed : ∀ p, Says T s.shared (s.pc p)
  owned : ∀ {p k}, keyOf (s.pc p) = some k → owner k = p

theorem holds_begun {clock : τ} (h : T.cooldown ≤ clock) :
    Holds T owner (begun clock : Threads ω (Asker κ τ) (Recent κ τ)) := by
  refine ⟨⟨h, ?_, ?_, ?_, List.Pairwise.nil, ?_⟩, fun p => trivial, ?_⟩
  all_goals
    intro _ _ h
    cases h

/-- A thread goes on with its own key. -/
theorem Holds.move [DecidableEq ω] (h : Holds T owner s) {p : ω} {next : Asker κ τ} {f : Recent κ τ} (hkept : Kept T f)
    (hclock : s.shared.clock ≤ f.clock) (hplaced : Says T f next)
    (hown : ∀ {k}, keyOf next = some k → owner k = p)
    (hacted : ∀ {k t}, owner k ≠ p → (k, t) ∈ f.acted → (k, t) ∈ s.shared.acted) :
    Holds T owner (s.move p (next, f)) := by
  refine ⟨hkept, fun q => ?_, fun {q k} hkey => ?_⟩
  · by_cases hq : q = p
    · rw [hq, Threads.pc_move]
      exact hplaced
    · rw [Threads.pc_move_of_ne hq]
      refine (h.placed q).mono hclock fun hkey => hacted ?_
      rw [h.owned hkey]
      exact hq
  · by_cases hq : q = p
    · rw [hq, Threads.pc_move] at hkey
      exact (hown hkey).trans hq.symm
    · rw [Threads.pc_move_of_ne hq] at hkey
      exact h.owned hkey

/-! ### The steps -/

variable [IsOrderedAddMonoid τ]

theorem Kept.prune (h : Kept T f) (hnow : now ≤ f.clock) : Kept T (prune T f now) := by
  refine ⟨h.started, h.past, fun hrecent => ?_, fun {k t} hacted => ?_, h.spaced, h.preceded⟩
  · exact h.known (Option.filter_eq_some_iff.mp hrecent).1
  · rcases h.remembered hacted with ⟨later, hlater, hle⟩ | hold
    · by_cases hfresh : now - later < T.expiry
      · exact .inl ⟨later, by simp [Cooldown.prune, hlater, hfresh], hle⟩
      · have hexpired : later + T.expiry ≤ now := by
          rw [add_comm]
          exact add_le_of_le_sub_right (not_lt.mp hfresh)
        exact .inr ((add_le_add_left hle _).trans (hexpired.trans hnow))
    · exact .inr hold

theorem Kept.wait {d : τ} (h : Kept T f) (hd : 0 ≤ d) : Kept T {f with clock := f.clock + d} := by
  have hle : f.clock ≤ f.clock + d := le_add_of_nonneg_right hd
  refine ⟨h.started.trans hle, fun hacted => (h.past hacted).trans hle, h.known, fun hacted => ?_, h.spaced, h.preceded⟩
  exact (h.remembered hacted).imp id fun hold => hold.trans hle

/-- A key that is left alone was acted on less than a cooldown before. -/
theorem Kept.skip (h : Kept T f) (hnow : T.cooldown ≤ now) (hsuppressed : Suppressed T f k now) :
    Kept T (answer f k now) := by
  refine ⟨h.started, h.past, h.known, h.remembered, h.spaced, fun {k' now'} hmem => ?_⟩
  rcases List.mem_append.mp hmem with hmem | hmem
  · exact h.preceded hmem
  · cases List.mem_singleton.mp hmem
    unfold Suppressed at hsuppressed
    cases hrecent : f.recent k with
    | none =>
      rw [hrecent, Option.getD_none, sub_zero] at hsuppressed
      exact absurd hnow (not_le.mpr hsuppressed)
    | some t =>
      rw [hrecent, Option.getD_some] at hsuppressed
      exact ⟨t, h.known hrecent, by rwa [add_comm, ← sub_lt_iff_lt_add]⟩

/-- A key that is not left alone was not acted on for a cooldown. -/
theorem Kept.pass (h : Kept T f) (hnow : now ≤ f.clock) (hsuppressed : ¬ Suppressed T f k now)
    (hacted : (k, t) ∈ f.acted) : t + T.cooldown ≤ f.clock := by
  rcases h.remembered hacted with ⟨later, hlater, hle⟩ | hold
  · unfold Suppressed at hsuppressed
    rw [hlater, Option.getD_some, not_lt] at hsuppressed
    have hexpired : later + T.cooldown ≤ now := by
      rw [add_comm]
      exact add_le_of_le_sub_right hsuppressed
    exact (add_le_add_left hle _).trans (hexpired.trans hnow)
  · exact (add_le_add_right T.le _).trans hold

theorem Kept.mark [DecidableEq κ] (h : Kept T f) (hnow : now ≤ f.clock)
    (hpast : ∀ {t}, (k, t) ∈ f.acted → t + T.cooldown ≤ f.clock) : Kept T (answer (Cooldown.mark f k) k now) := by
  have hmem : ∀ {e}, e ∈ (answer (Cooldown.mark f k) k now).acted → e ∈ f.acted ∨ e = (k, f.clock) := fun he =>
    (List.mem_append.mp he).imp id List.mem_singleton.mp
  have hold : ∀ {e}, e ∈ f.acted → e ∈ (answer (Cooldown.mark f k) k now).acted := fun he => List.mem_append_left _ he
  have hnew : (k, f.clock) ∈ (answer (Cooldown.mark f k) k now).acted := List.mem_append_right _ (List.mem_singleton_self _)
  have hself : (answer (Cooldown.mark f k) k now).recent k = some f.clock := Function.update_self ..
  have hother : ∀ {k'}, k' ≠ k → (answer (Cooldown.mark f k) k now).recent k' = f.recent k' :=
    fun hk => Function.update_of_ne hk ..
  refine ⟨h.started, fun hacted => ?_, fun {k' t} hrecent => ?_, fun {k' t} hacted => ?_, ?_, fun {k' now'} hans => ?_⟩
  · rcases hmem hacted with hacted | heq
    · exact h.past hacted
    · cases heq
      exact le_refl f.clock
  · by_cases hk : k' = k
    · rw [hk] at hrecent ⊢
      rw [← Option.some.inj (hself.symm.trans hrecent)]
      exact hnew
    · exact hold (h.known ((hother hk).symm.trans hrecent))
  · by_cases hk : k' = k
    · refine .inl ⟨f.clock, hk ▸ hself, ?_⟩
      rcases hmem hacted with hacted | heq
      · exact h.past hacted
      · cases heq
        exact le_refl f.clock
    · rcases hmem hacted with hacted | heq
      · refine (h.remembered hacted).imp (fun hlater => ?_) id
        obtain ⟨later, hlater, hle⟩ := hlater
        exact ⟨later, (hother hk).trans hlater, hle⟩
      · cases heq
        exact absurd rfl hk
  · refine List.pairwise_append.mpr ⟨h.spaced, List.pairwise_singleton .., fun a ha b hb hkey => ?_⟩
    cases List.mem_singleton.mp hb
    obtain ⟨k', t⟩ := a
    cases hkey
    exact hpast ha
  · rcases List.mem_append.mp hans with hans | hans
    · obtain ⟨t, ht, hlt⟩ := h.preceded hans
      exact ⟨t, hold ht, hlt⟩
    · cases List.mem_singleton.mp hans
      exact ⟨f.clock, hnew, lt_of_le_of_lt hnow (lt_add_of_pos_right _ T.pos)⟩

variable [DecidableEq κ] [DecidableEq ω]

theorem Holds.next (h : Holds T owner s) (p : ω) : Holds T owner (s.move p (advance T s.shared (s.pc p))) := by
  have hplaced := h.placed p
  have hown := @Holds.owned _ _ _ _ _ _ _ _ h p
  have hnone : ∀ {k : κ}, keyOf (.idle : Asker κ τ) = some k → owner k = p := fun h => by cases h
  revert hplaced hown
  generalize s.pc p = place
  intro hplaced hown
  cases place with
  | idle => exact h.move h.kept le_rfl trivial hnone fun _ => id
  | asking k => exact h.move h.kept le_rfl ⟨h.kept.started, le_rfl⟩ hown fun _ => id
  | asked k now =>
    rw [advance]
    split
    · next hsuppressed =>
      exact h.move ((h.kept.prune hplaced.2).skip hplaced.1 hsuppressed) le_rfl trivial hnone fun _ => id
    · next hsuppressed =>
      refine h.move (h.kept.prune hplaced.2) le_rfl ⟨hplaced.2, fun ht => ?_⟩ hown fun _ => id
      exact (h.kept.prune hplaced.2).pass hplaced.2 hsuppressed ht
  | passed k now =>
    refine h.move (h.kept.mark hplaced.1 hplaced.2) le_rfl trivial hnone fun hne hmem => ?_
    rcases List.mem_append.mp hmem with hmem | hmem
    · exact hmem
    · cases List.mem_singleton.mp hmem
      exact absurd (hown rfl) hne

theorem Holds.step (h : Holds T owner s) (a : Act κ τ ω) : Holds T owner (step T owner s a) := by
  cases a with
  | ask k =>
    simp only [Cooldown.step]
    split
    · refine h.move h.kept le_rfl trivial (fun hkey => ?_) fun _ => id
      rw [← Option.some.inj hkey]
    · exact h
  | next p => exact h.next p
  | wait d =>
    simp only [Cooldown.step]
    split
    · next hd =>
      exact ⟨h.kept.wait hd, fun p => (h.placed p).mono (le_add_of_nonneg_right hd) fun _ => id, h.owned⟩
    · exact h

/-- **A key is never acted on twice within a cooldown, and whoever asks is answered: the key is acted on, or
was acted on less than a cooldown before.** -/
theorem kept_run {clock : τ} (h : T.cooldown ≤ clock) (acts : List (Act κ τ ω)) :
    Kept T (acts.foldl (step T owner) (begun clock)).shared :=
  (List.foldlRecOn (motive := Holds T owner) acts (step T owner) (holds_begun h) fun _ hs a _ => hs.step a).kept

end Cooldown

end RaceLink.Library
