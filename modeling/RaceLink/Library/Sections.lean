import Mathlib.Logic.Function.Basic

/-! Threads over shared data, with sections that are not to overlap.

Each thread is at a place of its program, and each place says what is to hold of the shared data
while its thread is there. When a thread enters a section only if no other one is inside, what the
places say is proved a thread at a time, as of a sequential program. -/
namespace RaceLink.Library

variable {ι P σ : Type}

/-- Shared data, and the place of each thread. -/
structure Threads (ι P σ : Type) where
  shared : σ
  pc : ι → P

/-- A thread goes on: its next place, and the shared data after it. -/
def Threads.move [DecidableEq ι] (s : Threads ι P σ) (i : ι) (next : P × σ) : Threads ι P σ :=
  ⟨next.2, Function.update s.pc i next.1⟩

theorem Threads.pc_move [DecidableEq ι] (s : Threads ι P σ) (i : ι) (next : P × σ) :
    (s.move i next).pc i = next.1 := Function.update_self ..

theorem Threads.pc_move_of_ne [DecidableEq ι] {s : Threads ι P σ} {i j : ι} {next : P × σ} (h : j ≠ i) :
    (s.move i next).pc j = s.pc j := Function.update_of_ne h ..

theorem Threads.move_move [DecidableEq ι] (s : Threads ι P σ) (i : ι) (next next' : P × σ) :
    (s.move i next).move i next' = s.move i next' := by
  simp only [Threads.move, Function.update_idem]

/-- The threads seen otherwise, place by place. -/
def Threads.view {P' σ' : Type} (place : P → P') (data : σ → σ') (s : Threads ι P σ) : Threads ι P' σ' :=
  ⟨data s.shared, fun i => place (s.pc i)⟩

theorem Threads.view_move [DecidableEq ι] {P' σ' : Type} (place : P → P') (data : σ → σ') (s : Threads ι P σ)
    (i : ι) (next : P × σ) :
    (s.move i next).view place data = (s.view place data).move i (place next.1, data next.2) := by
  simp only [Threads.view, Threads.move, Threads.mk.injEq, true_and]
  funext j
  exact Function.apply_update (fun _ => place) s.pc i next.1 j

theorem Threads.move_self [DecidableEq ι] (s : Threads ι P σ) (i : ι) : s.move i (s.pc i, s.shared) = s := by
  simp only [Threads.move, Function.update_eq_self]

/-- A thread that goes on unseen. -/
theorem Threads.view_move_self [DecidableEq ι] {P' σ' : Type} {place : P → P'} {data : σ → σ'}
    {s : Threads ι P σ} {i : ι} {next : P × σ} (hplace : place next.1 = place (s.pc i))
    (hdata : data next.2 = data s.shared) : (s.move i next).view place data = s.view place data := by
  rw [Threads.view_move, hplace, hdata]
  exact (s.view place data).move_self i

/-- The places inside a section, and what places say of the shared data. All the places outside say
the same. -/
structure Sections (P σ : Type) where
  Inside : P → Prop
  Says : P → σ → Prop
  settled : σ → Prop
  outside : ∀ p f, ¬ Inside p → (Says p f ↔ settled f)

namespace Sections
variable {S : Sections P σ} {s : Threads ι P σ} {i : ι}

/-- No thread is inside. -/
def Quiet (S : Sections P σ) (s : Threads ι P σ) : Prop := ∀ j, ¬ S.Inside (s.pc j)

/-- No other thread is inside. -/
def Alone (S : Sections P σ) (s : Threads ι P σ) (i : ι) : Prop := ∀ j, S.Inside (s.pc j) → j = i

/-- One thread at most is inside, and the data are as its place says. -/
structure Holds (S : Sections P σ) (s : Threads ι P σ) : Prop where
  one : ∀ i j, S.Inside (s.pc i) → S.Inside (s.pc j) → i = j
  inside : ∀ i, S.Inside (s.pc i) → S.Says (s.pc i) s.shared
  quiet : S.Quiet s → S.settled s.shared

theorem Quiet.alone (h : S.Quiet s) : S.Alone s i := fun j hj => absurd hj (h j)

theorem Holds.alone (h : S.Holds s) (hi : S.Inside (s.pc i)) : S.Alone s i := fun j hj => h.one j i hj hi

/-- What the place of a thread says holds when no other thread is inside. -/
theorem Holds.told (h : S.Holds s) (hi : S.Alone s i) : S.Says (s.pc i) s.shared := by
  by_cases hin : S.Inside (s.pc i)
  · exact h.inside i hin
  · refine (S.outside _ _ hin).mpr (h.quiet fun j hj => hin ?_)
    rw [← hi j hj]
    exact hj

/-- The data are settled, or some place says how they are. -/
theorem Holds.settled_or (h : S.Holds s) :
    S.settled s.shared ∨ ∃ i, S.Inside (s.pc i) ∧ S.Says (s.pc i) s.shared := by
  by_cases hquiet : S.Quiet s
  · exact .inl (h.quiet hquiet)
  · obtain ⟨i, hi⟩ := not_forall.mp hquiet
    exact .inr ⟨i, not_not.mp hi, h.inside i (not_not.mp hi)⟩

/-- **A thread that no other one disturbs goes on as in a sequential program.** -/
theorem Holds.move [DecidableEq ι] (h : S.Holds s) (hi : S.Alone s i) {next : P × σ}
    (hnext : S.Says (s.pc i) s.shared → S.Says next.1 next.2) : S.Holds (s.move i next) := by
  have hsays : S.Says next.1 next.2 := hnext (h.told hi)
  have hown : ∀ j, S.Inside ((s.move i next).pc j) → j = i := by
    intro j hj
    by_contra hne
    have hold : (s.move i next).pc j = s.pc j := Function.update_of_ne hne ..
    rw [hold] at hj
    exact hne (hi j hj)
  have hself : (s.move i next).pc i = next.1 := Function.update_self ..
  refine ⟨fun j k hj hk => (hown j hj).trans (hown k hk).symm, fun j hj => ?_, fun hquiet => ?_⟩
  · rw [hown j hj, hself]
    exact hsays
  · have hout : ¬ S.Inside next.1 := hself ▸ hquiet i
    exact (S.outside _ _ hout).mp hsays

/-- A thread goes on outside, and every place still says what it says. -/
theorem Holds.moveOutside [DecidableEq ι] (h : S.Holds s) {p : P} {f : σ} (hi : ¬ S.Inside (s.pc i))
    (hp : ¬ S.Inside p) (hinside : ∀ q, S.Inside q → S.Says q s.shared → S.Says q f)
    (hsettled : S.settled s.shared → S.settled f) : S.Holds (s.move i (p, f)) := by
  have hin : ∀ j, S.Inside ((s.move i (p, f)).pc j) ↔ S.Inside (s.pc j) := by
    intro j
    by_cases hj : j = i
    · have hself : (s.move i (p, f)).pc j = p := by
        rw [hj]
        exact Function.update_self ..
      rw [hself, hj]
      exact iff_of_false hp hi
    · have hold : (s.move i (p, f)).pc j = s.pc j := Function.update_of_ne hj ..
      rw [hold]
  have hsame : ∀ j, S.Inside (s.pc j) → (s.move i (p, f)).pc j = s.pc j := by
    intro j hj
    have hne : j ≠ i := by
      rintro rfl
      exact hi hj
    exact Function.update_of_ne hne ..
  refine ⟨fun j k hj hk => h.one j k ((hin j).mp hj) ((hin k).mp hk), fun j hj => ?_, fun hquiet => ?_⟩
  · rw [hsame j ((hin j).mp hj)]
    exact hinside _ ((hin j).mp hj) (h.inside j ((hin j).mp hj))
  · exact hsettled (h.quiet fun j hj => hquiet j ((hin j).mpr hj))

/-- The data change by themselves, and every place still says what it says. -/
theorem Holds.disturb (h : S.Holds s) {f : σ} (hinside : ∀ p, S.Inside p → S.Says p s.shared → S.Says p f)
    (hsettled : S.settled s.shared → S.settled f) : S.Holds ⟨f, s.pc⟩ :=
  ⟨h.one, fun i hi => hinside _ hi (h.inside i hi), fun hquiet => hsettled (h.quiet hquiet)⟩

/-- The data change while no thread is inside. -/
theorem Holds.change (h : S.Holds s) (hquiet : S.Quiet s) {f : σ} (hf : S.settled s.shared → S.settled f) :
    S.Holds ⟨f, s.pc⟩ :=
  ⟨h.one, fun i hi => absurd hi (hquiet i), fun _ => hf (h.quiet hquiet)⟩

end Sections

end RaceLink.Library
