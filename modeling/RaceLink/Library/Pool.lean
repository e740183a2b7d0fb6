import Mathlib.Algebra.Order.Group.Multiset

/-! A pool of threads, each with the calls that it still has to make.

A call is one step. It changes the shared data, and is replaced by the calls that it makes in turn. What each call
keeps, whatever calls other threads are still to make, is kept by the pool. -/
namespace RaceLink.Library

variable {σ κ : Type}

/-- Shared data, and the calls that each thread still has to make. -/
structure Pool (σ κ : Type) where
  shared : σ
  threads : List (List κ)

namespace Pool

/-- The calls that are still to be made. -/
def pending (s : Pool σ κ) : Multiset κ := s.threads.flatten

/-- A thread is started with a call. -/
def spawn (s : Pool σ κ) (c : κ) : Pool σ κ := ⟨s.shared, s.threads ++ [[c]]⟩

/-- A thread makes its next call, which is told the others that are still to be made. -/
def next [DecidableEq κ] (call : Multiset κ → κ → σ → List κ × σ) (s : Pool σ κ) (i : Nat) : Pool σ κ :=
  match s.threads[i]? with
  | some (c :: rest) =>
    let made := call (s.pending.erase c) c s.shared
    ⟨made.2, s.threads.set i (made.1 ++ rest)⟩
  | _ => s

@[simp] theorem shared_spawn (s : Pool σ κ) (c : κ) : (s.spawn c).shared = s.shared := rfl

@[simp] theorem pending_spawn (s : Pool σ κ) (c : κ) : (s.spawn c).pending = c ::ₘ s.pending := by
  simp only [pending, spawn, List.flatten_append, List.flatten_singleton, ← Multiset.coe_add]
  exact Multiset.add_comm ..

/-- The calls of the other threads, and those of a thread. -/
theorem pending_set {s : Pool σ κ} {i : Nat} {calls : List κ} (hi : s.threads[i]? = some calls) :
    ∃ others : Multiset κ, s.pending = calls + others ∧
      ∀ (calls' : List κ) (f : σ), Pool.pending ⟨f, s.threads.set i calls'⟩ = calls' + others := by
  obtain ⟨hlt, hget⟩ := List.getElem?_eq_some_iff.mp hi
  refine ⟨(s.threads.take i).flatten + (s.threads.drop (i + 1)).flatten, ?_, fun calls' f => ?_⟩
  · have hsplit : s.threads = s.threads.take i ++ calls :: s.threads.drop (i + 1) := by
      rw [← hget, List.getElem_cons_drop, List.take_append_drop]
    rw [pending]
    conv_lhs => rw [hsplit]
    simp only [List.flatten_append, List.flatten_cons, ← Multiset.coe_add]
    exact add_left_comm ..
  · simp only [pending, List.set_eq_take_append_cons_drop, if_pos hlt, List.flatten_append, List.flatten_cons,
      ← Multiset.coe_add]
    exact add_left_comm ..

/-- **What each call keeps, the pool keeps.** -/
theorem keeps_next [DecidableEq κ] {call : Multiset κ → κ → σ → List κ × σ} {I : Multiset κ → σ → Prop}
    (hcall : ∀ c others f, I (c ::ₘ others) f → I ((call others c f).1 + others) (call others c f).2)
    {s : Pool σ κ} (hs : I s.pending s.shared) (i : Nat) :
    I (s.next call i).pending (s.next call i).shared := by
  rw [next]
  split
  · next c rest hi =>
    obtain ⟨others, hpending, hset⟩ := pending_set hi
    have hcons : s.pending = c ::ₘ (rest + others) := by
      rw [hpending, ← Multiset.cons_coe, Multiset.cons_add]
    have herase : s.pending.erase c = rest + others := by rw [hcons, Multiset.erase_cons_head]
    have hnext := hcall c (rest + others) s.shared (hcons ▸ hs)
    simp only [herase, hset, ← Multiset.coe_add, Multiset.add_assoc]
    exact hnext
  · exact hs

end Pool

end RaceLink.Library
