import Mathlib.Data.List.Nodup
import RaceLink.Library.Runs

/-! A ledger: entries with an id and a key, under a counter from which new ids are
taken.

The counter is kept with the entries (`durable`); the one in use may be ahead of
it, when ids were claimed that no entry got, and falls back to it when the ledger is
read again. The entries lie below the durable counter, so an id that an entry ever
had is not taken again, also when the entry is gone (`Lifelong`). -/
namespace RaceLink.Library

structure Ledger (κ : Type) where
  entries : List (Int × κ)
  durable : Int
  ahead : Int
  ids_nodup : (entries.map Prod.fst).Nodup
  keys_nodup : (entries.map Prod.snd).Nodup
  below : ∀ e ∈ entries, e.1 < durable
  counter : durable ≤ ahead

namespace Ledger
variable {κ : Type}

/-- The same entries under another counter in use. -/
def recount (l : Ledger κ) (ahead : Int) (h : l.durable ≤ ahead) : Ledger κ :=
  {l with ahead, counter := h}

@[simp] theorem recount_entries (l : Ledger κ) (ahead : Int) (h : l.durable ≤ ahead) :
    (l.recount ahead h).entries = l.entries := rfl

@[simp] theorem recount_durable (l : Ledger κ) (ahead : Int) (h : l.durable ≤ ahead) :
    (l.recount ahead h).durable = l.durable := rfl

@[simp] theorem recount_ahead (l : Ledger κ) (ahead : Int) (h : l.durable ≤ ahead) :
    (l.recount ahead h).ahead = ahead := rfl

/-- What one or several steps may do: the durable counter does not fall, and each
entry was there before or has an id from it on. -/
structure Advance (l l' : Ledger κ) : Prop where
  durable : l.durable ≤ l'.durable
  entries : ∀ e ∈ l'.entries, e ∈ l.entries ∨ l.durable ≤ e.1

theorem Advance.refl (l : Ledger κ) : l.Advance l := ⟨Int.le_refl _, fun _ he => .inl he⟩

theorem Advance.trans {l l' l'' : Ledger κ} (h : l.Advance l') (h' : l'.Advance l'') :
    l.Advance l'' := by
  refine ⟨Int.le_trans h.durable h'.durable, fun e he => ?_⟩
  rcases h'.entries e he with he | he
  · exact h.entries e he
  · exact .inr (Int.le_trans h.durable he)

/-- Equal entries under a counter that did not fall. -/
theorem Advance.of_eq {l l' : Ledger κ} (hentries : l'.entries = l.entries)
    (hdurable : l.durable ≤ l'.durable) : l.Advance l' :=
  ⟨hdurable, fun _ he => .inl (hentries ▸ he)⟩

theorem advance_recount (l : Ledger κ) (ahead : Int) (h : l.durable ≤ ahead) :
    l.Advance (l.recount ahead h) := .of_eq rfl (Int.le_refl _)

/-- An id that was once used is below the counter ever after. -/
theorem Advance.used_below {l l' : Ledger κ} (h : l.Advance l') {id : Int}
    (hid : id ∈ l.entries.map Prod.fst) : id < l'.durable := by
  obtain ⟨e, he, rfl⟩ := List.mem_map.mp hid
  exact Int.lt_of_lt_of_le (l.below e he) h.durable

/-! ### What is written -/

/-- Entries that replace those of a ledger: old ones, and ones with claimed ids. -/
structure Rewrite (l : Ledger κ) (entries : List (Int × κ)) (next : Int) : Prop where
  ids : (entries.map Prod.fst).Nodup
  keys : (entries.map Prod.snd).Nodup
  claimed : l.ahead ≤ next
  fresh : ∀ e ∈ entries, e ∈ l.entries ∨ l.ahead ≤ e.1
  below : ∀ e ∈ entries, e.1 < next

/-- A rewrite that is durable, under a counter that was not lowered on the way. -/
theorem Rewrite.advance {l l' : Ledger κ} {entries : List (Int × κ)} {next : Int}
    (h : l.Rewrite entries next) (hentries : l'.entries = entries) (hnext : next ≤ l'.durable) :
    l.Advance l' := by
  refine ⟨Int.le_trans l.counter (Int.le_trans h.claimed hnext), fun e he => ?_⟩
  rcases h.fresh e (hentries ▸ he) with he | he
  · exact .inl he
  · exact .inr (Int.le_trans l.counter he)

/-- Some of the entries, as they are. -/
theorem rewrite_sublist (l : Ledger κ) {entries : List (Int × κ)} (h : entries.Sublist l.entries) :
    l.Rewrite entries l.ahead where
  ids := l.ids_nodup.sublist (h.map _)
  keys := l.keys_nodup.sublist (h.map _)
  claimed := Int.le_refl _
  fresh := fun _ he => .inl (h.subset he)
  below := fun e he => Int.lt_of_lt_of_le (l.below e (h.subset he)) l.counter

/-- One more entry, with the claimed id. -/
theorem rewrite_append (l : Ledger κ) {key : κ} (h : key ∉ l.entries.map Prod.snd) :
    l.Rewrite (l.entries ++ [(l.ahead, key)]) (l.ahead + 1) where
  ids := by
    rw [List.map_append, List.nodup_append]
    refine ⟨l.ids_nodup, List.nodup_singleton _, fun id hid id' hid' => ?_⟩
    have hbelow := (Advance.refl l).used_below hid
    have hcounter := l.counter
    rw [List.mem_singleton.mp hid']
    exact fun heq => by omega
  keys := by
    rw [List.map_append, List.nodup_append]
    refine ⟨l.keys_nodup, List.nodup_singleton _, fun k hk k' hk' heq => h ?_⟩
    obtain rfl : k' = key := List.mem_singleton.mp hk'
    exact heq ▸ hk
  claimed := by omega
  fresh := fun e he => by
    rcases List.mem_append.mp he with he | he
    · exact .inl he
    · rw [List.mem_singleton.mp he]
      exact .inr (Int.le_refl _)
  below := fun e he => by
    have hcounter := l.counter
    rcases List.mem_append.mp he with he | he
    · have hbelow := l.below e he
      omega
    · rw [List.mem_singleton.mp he]
      show l.ahead < l.ahead + 1
      omega

/-- Entries that come in the order of their claimed ids. -/
def Claims : Int → List (Int × κ) → Int → Prop
  | next, [], last => next = last
  | next, e :: rest, last => e.1 = next ∧ Claims (next + 1) rest last

theorem Claims.spec {next last : Int} {entries : List (Int × κ)} (h : Claims next entries last) :
    next ≤ last ∧ (entries.map Prod.fst).Nodup ∧ ∀ e ∈ entries, next ≤ e.1 ∧ e.1 < last := by
  induction entries generalizing next with
  | nil => exact ⟨Int.le_of_eq h, List.nodup_nil, by simp⟩
  | cons e rest ih =>
    obtain ⟨heq, hrest⟩ := h
    obtain ⟨hle, hnodup, hall⟩ := ih hrest
    refine ⟨by omega, List.nodup_cons.mpr ⟨fun hmem => ?_, hnodup⟩, fun e' he' => ?_⟩
    · obtain ⟨e', he', heq'⟩ := List.mem_map.mp hmem
      have hbound := hall e' he'
      omega
    · rcases List.mem_cons.mp he' with rfl | he'
      · omega
      · have hbound := hall e' he'
        omega

/-- All entries replaced, each with an id of its own. -/
theorem rewrite_claims (l : Ledger κ) {entries : List (Int × κ)} {next : Int}
    (hkeys : (entries.map Prod.snd).Nodup) (h : Claims l.ahead entries next) :
    l.Rewrite entries next := by
  obtain ⟨hle, hnodup, hall⟩ := h.spec
  exact ⟨hnodup, hkeys, hle, fun e he => .inr (hall e he).1, fun e he => (hall e he).2⟩

end Ledger

/-! ### Over whole runs -/

section Lifelong
variable {σ α κ : Type} (view : σ → List (Int × κ)) (next : σ → α → σ)

/-- What a store owes at the end of a run: distinct ids, distinct keys, and after the
last step no new entry with an id that an entry had at any time before. -/
structure Lifelong (s : σ) (as : List α) : Prop where
  ids : ((view (as.foldl next s)).map Prod.fst).Nodup
  keys : ((view (as.foldl next s)).map Prod.snd).Nodup
  fresh : ∀ before a, as = before ++ [a] → ∀ e ∈ view (as.foldl next s),
    e ∈ view (before.foldl next s) ∨
      ∀ earlier, earlier <+: before → e.1 ∉ (view (earlier.foldl next s)).map Prod.fst

variable {view next} {R : σ → Ledger κ → Prop} {Q : σ → α → Prop}

/-- A run of steps that each advance a ledger advances it from every state on the way. -/
theorem ledger_run
    (hstep : ∀ s a l, R s l → Q s a → ∃ l', R (next s a) l' ∧ l.Advance l') {s : σ} {l : Ledger κ}
    (hs : R s l) {as : List α} (has : Along next Q s as) :
    ∃ l', R (as.foldl next s) l' ∧ l.Advance l' ∧
      ∀ earlier, earlier <+: as → ∃ e, R (earlier.foldl next s) e ∧ e.Advance l' := by
  induction as generalizing s l with
  | nil =>
    refine ⟨l, hs, .refl l, fun earlier hprefix => ⟨l, ?_, .refl l⟩⟩
    rw [List.prefix_nil.mp hprefix]
    exact hs
  | cons a rest ih =>
    obtain ⟨l₁, hs₁, hadvance⟩ := hstep s a l hs has.1
    obtain ⟨l', hs', hrest, hearlier⟩ := ih hs₁ has.2
    refine ⟨l', hs', hadvance.trans hrest, fun earlier hprefix => ?_⟩
    cases earlier with
    | nil => exact ⟨l, hs, hadvance.trans hrest⟩
    | cons a' earlier =>
      obtain ⟨rfl, htail⟩ := List.cons_prefix_cons.mp hprefix
      exact hearlier earlier htail

/-- **A store that refines a ledger keeps its ids and keys for life.** -/
theorem lifelong_of_ledger (hview : ∀ s l, R s l → view s = l.entries)
    (hstep : ∀ s a l, R s l → Q s a → ∃ l', R (next s a) l' ∧ l.Advance l') {s : σ} {l : Ledger κ}
    (hs : R s l) {as : List α} (has : Along next Q s as) : Lifelong view next s as := by
  obtain ⟨l', hs', -, -⟩ := ledger_run hstep hs has
  refine ⟨?_, ?_, ?_⟩
  · rw [hview _ _ hs']
    exact l'.ids_nodup
  · rw [hview _ _ hs']
    exact l'.keys_nodup
  · rintro before a rfl e he
    obtain ⟨hbefore, ha, -⟩ := along_append.mp has
    obtain ⟨m, hm, -, hearlier⟩ := ledger_run hstep hs hbefore
    obtain ⟨m', hm', hadvance⟩ := hstep _ a m hm ha
    rw [List.foldl_append, List.foldl_cons, List.foldl_nil, hview _ _ hm'] at he
    rw [hview _ _ hm]
    rcases hadvance.entries e he with he | he
    · exact .inl he
    · refine .inr fun earlier hprefix hid => ?_
      obtain ⟨k, hk, hkm⟩ := hearlier earlier hprefix
      rw [hview _ _ hk] at hid
      have hbelow := hkm.used_below hid
      omega

end Lifelong

end RaceLink.Library
