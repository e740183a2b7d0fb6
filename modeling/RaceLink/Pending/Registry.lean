import RaceLink.Library.Buckets
import RaceLink.Library.Runs
import RaceLink.Pending.Matcher
import Mathlib.Data.List.Find

/-! The registry of the waits for replies (`services/pending_requests.py`).

Waits are known by a name `ι`; what they expect is fixed, what they have collected is not.
`try_match` takes its candidates under the lock and serves them after it, so the calls of
other threads `τ` may come in between. `runs_deliver` says when that makes no difference,
and an event reaches the wait that a plain scan finds. -/
namespace RaceLink.Pending
open Library Python Protocol

/-- `PendingMatcherRegistry` with its waits. `registered` is for reasoning only: the waits
that were registered and not cancelled, in that order. -/
structure Registry (ι τ : Type) where
  unicast : Buckets (Bytes × Int) ι
  broadcast : List ι
  collected : ι → List ReplyEvent
  flagged : ι → Bool
  serving : τ → Option (ReplyEvent × List ι)
  registered : List ι

/-- What threads do: `try_match` is two steps, of which the first holds the lock. -/
inductive Call (ι τ : Type) where
  | register (i : ι)
  | cancel (i : ι)
  | offer (t : τ) (ev : ReplyEvent)
  | deliver (t : τ)

section
variable {ι τ : Type} [DecidableEq ι] [DecidableEq τ] (matcher : ι → PendingMatcher)

namespace Registry

def empty : Registry ι τ := ⟨[], [], fun _ => [], fun _ => false, fun _ => none, []⟩

/-- `pending_count`. -/
def pendingCount (s : Registry ι τ) : Nat := s.unicast.total + s.broadcast.length

/-- `done`. -/
def done (s : Registry ι τ) (i : ι) : Bool := s.flagged i || (matcher i).complete (s.collected i)

/-- `register`; a wait that is refused leaves the registry as it is. -/
def register (s : Registry ι τ) (i : ι) : Registry ι τ :=
  if (matcher i).registrable then
    match (matcher i).unicastKey with
    | some key => {s with unicast := s.unicast.push key i, registered := s.registered ++ [i]}
    | none => {s with broadcast := s.broadcast ++ [i], registered := s.registered ++ [i]}
  else s

/-- `cancel`. -/
def cancel (s : Registry ι τ) (i : ι) : Registry ι τ :=
  match (matcher i).unicastKey with
  | some key => {s with unicast := s.unicast.remove key i, registered := s.registered.erase i}
  | none => {s with broadcast := s.broadcast.erase i, registered := s.registered.erase i}

/-- The candidates of `try_match`: the buckets of the event, then the broadcast list. -/
def candidates (s : Registry ι τ) (ev : ReplyEvent) : List ι :=
  ev.keys.flatMap (Buckets.get s.unicast) ++ s.broadcast

/-- The first candidate that accepts the event. -/
def taker (ev : ReplyEvent) (candidates : List ι) : Option ι :=
  candidates.find? fun i => (matcher i).accepts ev

/-- The wait `i` takes an event. -/
def collect (s : Registry ι τ) (i : ι) (ev : ReplyEvent) : Registry ι τ :=
  let collected := s.collected i ++ [ev]
  {s with collected := Function.update s.collected i collected,
          flagged := Function.update s.flagged i (s.flagged i || (matcher i).complete collected)}

def offer (s : Registry ι τ) (t : τ) (ev : ReplyEvent) : Registry ι τ :=
  {s with serving := Function.update s.serving t (some (ev, s.candidates ev))}

def deliver (s : Registry ι τ) (t : τ) : Registry ι τ :=
  match s.serving t with
  | none => s
  | some (ev, candidates) =>
    let s := {s with serving := Function.update s.serving t none}
    match taker matcher ev candidates with
    | none => s
    | some i => s.collect matcher i ev

def next (s : Registry ι τ) : Call ι τ → Registry ι τ
  | .register i => s.register matcher i
  | .cancel i => s.cancel matcher i
  | .offer t ev => s.offer t ev
  | .deliver t => s.deliver matcher t

/-! ### The plain scan -/

/-- All waits, those for one sender and one kind of reply before the others. -/
def inOrder (s : Registry ι τ) : List ι :=
  s.registered.filter (fun i => ((matcher i).unicastKey).isSome) ++
    s.registered.filter (fun i => ((matcher i).unicastKey).isNone)

/-- The first wait that accepts the event, complete or not. -/
def firstAccepting (s : Registry ι τ) (ev : ReplyEvent) : Option ι :=
  (s.inOrder matcher).find? fun i => (matcher i).accepts ev

/-- The first wait that is not complete and accepts the event. -/
def scan (s : Registry ι τ) (ev : ReplyEvent) : Option ι :=
  (s.inOrder matcher).find? fun i => !s.done matcher i && (matcher i).accepts ev

/-! ### The invariant -/

/-- The buckets and the list hold the registered waits, each of which is regular. -/
structure Indexed (s : Registry ι τ) : Prop where
  unicast : Buckets.Filed (fun i => (matcher i).unicastKey) s.registered s.unicast
  broadcast : s.broadcast = s.registered.filter fun i => ((matcher i).unicastKey).isNone
  regular : ∀ i ∈ s.registered, (matcher i).Regular
  nodup : s.registered.Nodup

variable {matcher} {s : Registry ι τ}

omit [DecidableEq ι] [DecidableEq τ] in
theorem indexed_empty : Indexed matcher (empty : Registry ι τ) :=
  ⟨Buckets.filed_nil, rfl, nofun, List.nodup_nil⟩

omit [DecidableEq ι] [DecidableEq τ] in
theorem Indexed.register (h : s.Indexed matcher) {i : ι} (hregular : (matcher i).Regular)
    (hnew : i ∉ s.registered) : (s.register matcher i).Indexed matcher := by
  have hall : ∀ j ∈ s.registered ++ [i], (matcher j).Regular := by
    intro j hj
    rcases List.mem_append.mp hj with hj | hj
    · exact h.regular j hj
    · rw [List.mem_singleton.mp hj]
      exact hregular
  have hnodup : (s.registered ++ [i]).Nodup := List.nodup_append.mpr
    ⟨h.nodup, List.nodup_singleton i, fun j hj k hk hjk => hnew (by
      rw [← List.mem_singleton.mp hk, ← hjk]
      exact hj)⟩
  unfold Registry.register
  split
  · cases hkey : (matcher i).unicastKey with
    | some key => exact ⟨h.unicast.push hkey, by simp [h.broadcast, hkey], hall, hnodup⟩
    | none => exact ⟨h.unicast.skip hkey, by simp [h.broadcast, hkey], hall, hnodup⟩
  · exact h

omit [DecidableEq τ] in
theorem Indexed.cancel (h : s.Indexed matcher) (i : ι) : (s.cancel matcher i).Indexed matcher := by
  have hall : ∀ j ∈ s.registered.erase i, (matcher j).Regular := fun j hj =>
    h.regular j (List.mem_of_mem_erase hj)
  have hnodup := h.nodup.erase i
  unfold Registry.cancel
  cases hkey : (matcher i).unicastKey with
  | some key =>
    refine ⟨h.unicast.remove hkey, ?_, hall, hnodup⟩
    simp only [h.broadcast, Buckets.filter_erase, hkey]
    rfl
  | none =>
    refine ⟨h.unicast.drop hkey, ?_, hall, hnodup⟩
    simp only [h.broadcast, Buckets.filter_erase, hkey]
    rfl

/-- Events change neither the index nor what is registered. -/
theorem deliver_index (matcher : ι → PendingMatcher) (s : Registry ι τ) (t : τ) :
    (s.deliver matcher t).unicast = s.unicast ∧ (s.deliver matcher t).broadcast = s.broadcast ∧
      (s.deliver matcher t).registered = s.registered := by
  unfold deliver
  split
  · exact ⟨rfl, rfl, rfl⟩
  · dsimp only
    split <;> exact ⟨rfl, rfl, rfl⟩

theorem Indexed.deliver (h : s.Indexed matcher) (t : τ) : (s.deliver matcher t).Indexed matcher := by
  obtain ⟨hunicast, hbroadcast, hregistered⟩ := deliver_index matcher s t
  constructor
  · rw [hunicast, hregistered]
    exact h.unicast
  · rw [hbroadcast, hregistered]
    exact h.broadcast
  · rw [hregistered]
    exact h.regular
  · rw [hregistered]
    exact h.nodup

omit [DecidableEq ι] [DecidableEq τ] in
/-- The count is that of the registered waits. -/
theorem Indexed.pendingCount (h : s.Indexed matcher) : s.pendingCount = s.registered.length := by
  have hsplit := List.length_eq_length_filter_add (l := s.registered)
    fun i => ((matcher i).unicastKey).isSome
  rw [Registry.pendingCount, h.unicast.total, h.broadcast]
  simpa using hsplit.symm

/-! ### The index agrees with the scan -/

omit [DecidableEq ι] [DecidableEq τ] in
/-- In a bucket other than the event's first one, no wait accepts it that the first has not. -/
theorem Indexed.find?_bucket (h : s.Indexed matcher) (ev : ReplyEvent) {key : Bytes × Int}
    (hkey : ev.keys.head? = some key) :
    (Buckets.get s.unicast key).find? (fun i => (matcher i).accepts ev) =
      (s.registered.filter fun i => ((matcher i).unicastKey).isSome).find?
        fun i => (matcher i).accepts ev := by
  rw [h.unicast.get, List.find?_filter, List.find?_filter]
  refine List.find?_congr fun i hi => ?_
  by_cases haccepts : (matcher i).accepts ev = true
  · cases hi' : (matcher i).unicastKey with
    | none => simp
    | some key' =>
      have heq := (h.regular i hi).key haccepts hi'
      rw [hkey] at heq
      cases heq
      simp
  · simp [haccepts]

omit [DecidableEq ι] [DecidableEq τ] in
/-- **The candidates give the wait that a scan of all of them gives.** -/
theorem Indexed.taker (h : s.Indexed matcher) (ev : ReplyEvent) :
    taker matcher ev (s.candidates ev) = s.firstAccepting matcher ev := by
  have hnone : ∀ i ∈ s.registered, ev.keys.head? = none →
      ((matcher i).unicastKey).isSome = true → (matcher i).accepts ev = false := by
    intro i hi hkeys hsome
    obtain ⟨key, hkey⟩ := Option.isSome_iff_exists.mp hsome
    by_contra haccepts
    rw [Bool.not_eq_false] at haccepts
    rw [(h.regular i hi).key haccepts hkey] at hkeys
    cases hkeys
  rw [Registry.taker, candidates, firstAccepting, inOrder, List.find?_append, List.find?_append,
    ← h.broadcast]
  congr 1
  cases hkeys : ev.keys with
  | nil =>
    rw [List.flatMap_nil, List.find?_nil, eq_comm, List.find?_eq_none]
    intro i hi
    obtain ⟨hmem, hsome⟩ := List.mem_filter.mp hi
    rw [hnone i hmem (by rw [hkeys]; rfl) hsome]
    exact Bool.false_ne_true
  | cons key rest =>
    have hfirst := h.find?_bucket ev (show ev.keys.head? = some key by rw [hkeys]; rfl)
    rw [List.flatMap_cons, List.find?_append, hfirst]
    cases hfound : (s.registered.filter fun i => ((matcher i).unicastKey).isSome).find?
        fun i => (matcher i).accepts ev with
    | some i => rfl
    | none =>
      rw [Option.none_or, List.find?_eq_none]
      intro i hi
      obtain ⟨key', -, hi⟩ := List.mem_flatMap.mp hi
      rw [h.unicast.get] at hi
      obtain ⟨hmem, hi⟩ := List.mem_filter.mp hi
      refine List.find?_eq_none.mp hfound i (List.mem_filter.mpr ⟨hmem, ?_⟩)
      simp only [decide_eq_true_eq] at hi
      rw [hi]
      rfl

omit [DecidableEq ι] [DecidableEq τ] in
theorem mem_inOrder {i : ι} : i ∈ s.inOrder matcher ↔ i ∈ s.registered := by
  rw [inOrder, List.mem_append, List.mem_filter, List.mem_filter, ← and_or_left]
  cases (matcher i).unicastKey <;> simp

omit [DecidableEq ι] [DecidableEq τ] in
/-- The first wait that accepts is the first that is not complete and accepts, unless it is complete. -/
theorem scan_eq_firstAccepting {ev : ReplyEvent}
    (h : ∀ i, s.firstAccepting matcher ev = some i → s.done matcher i = false) :
    s.scan matcher ev = s.firstAccepting matcher ev := by
  unfold scan
  cases hfirst : s.firstAccepting matcher ev with
  | none =>
    rw [List.find?_eq_none]
    intro i hi hboth
    exact List.find?_eq_none.mp hfirst i hi (Bool.and_eq_true_iff.mp hboth).2
  | some i =>
    obtain ⟨haccepts, before, after, hsplit, hbefore⟩ := List.find?_eq_some_iff_append.mp hfirst
    refine List.find?_eq_some_iff_append.mpr ⟨?_, before, after, hsplit, fun j hj => ?_⟩
    · rw [h i hfirst, haccepts]
      rfl
    · have hj' := hbefore j hj
      simp only [Bool.not_eq_true'] at hj' ⊢
      rw [hj', Bool.and_false]

end Registry

/-! ### Runs -/

/-- What is asked of a call of a thread. -/
structure Meets (s : Registry ι τ) (call : Call ι τ) : Prop where
  /-- An event that is served goes to the wait that the scan finds, or to none. -/
  delivered : ∀ t ev candidates, call = .deliver t → s.serving t = some (ev, candidates) →
    Registry.taker matcher ev candidates = s.scan matcher ev
  cancelled : ∀ i ∉ s.registered, (s.next matcher call).collected i = s.collected i
  bounded : ∀ i, (((s.next matcher call).collected i).length : Int) ≤ max 0 (matcher i).expectedCount
  cancelTwice : ∀ i, (s.cancel matcher i).cancel matcher i = s.cancel matcher i
  pendingCount : (s.next matcher call).pendingCount = (s.next matcher call).registered.length

/-- A wait is regular and not registered already; an event that is served finds the
registry as it was offered, and the first wait that accepts it is not complete. -/
def Orderly (s : Registry ι τ) : Call ι τ → Prop
  | .register i => (matcher i).Regular ∧ i ∉ s.registered
  | .cancel _ => True
  | .offer _ _ => True
  | .deliver t => ∀ ev candidates, s.serving t = some (ev, candidates) →
      candidates = s.candidates ev ∧
        ∀ i, s.firstAccepting matcher ev = some i → s.done matcher i = false

variable {matcher}

theorem next_indexed {s : Registry ι τ} (h : s.Indexed matcher) {call : Call ι τ}
    (hcall : Orderly matcher s call) : (s.next matcher call).Indexed matcher := by
  cases call with
  | register i => exact h.register hcall.1 hcall.2
  | cancel i => exact h.cancel i
  | offer t ev => exact ⟨h.unicast, h.broadcast, h.regular, h.nodup⟩
  | deliver t => exact h.deliver t

/-- No wait holds more replies than it expects. -/
def Bounded (matcher : ι → PendingMatcher) (s : Registry ι τ) : Prop :=
  ∀ i, ((s.collected i).length : Int) ≤ max 0 (matcher i).expectedCount

/-- Only an event that is served is collected, and by one wait. -/
theorem next_collected (matcher : ι → PendingMatcher) (s : Registry ι τ) (call : Call ι τ) (i : ι) :
    (s.next matcher call).collected i = s.collected i ∨
      ∃ t ev candidates, call = .deliver t ∧ s.serving t = some (ev, candidates) ∧
        Registry.taker matcher ev candidates = some i ∧
        (s.next matcher call).collected i = s.collected i ++ [ev] := by
  cases call with
  | register j =>
    left
    show (s.register matcher j).collected i = _
    unfold Registry.register
    split
    · split <;> rfl
    · rfl
  | cancel j =>
    left
    show (s.cancel matcher j).collected i = _
    unfold Registry.cancel
    split <;> rfl
  | offer t ev => exact .inl rfl
  | deliver t =>
    have hdeliver : s.next matcher (.deliver t) = s.deliver matcher t := rfl
    rw [hdeliver]
    unfold Registry.deliver
    cases hserving : s.serving t with
    | none => exact .inl rfl
    | some served =>
      obtain ⟨ev, candidates⟩ := served
      dsimp only
      cases htaker : Registry.taker matcher ev candidates with
      | none => exact .inl rfl
      | some j =>
        by_cases hij : i = j
        · subst hij
          exact .inr ⟨t, ev, candidates, rfl, hserving, htaker, Function.update_self ..⟩
        · exact .inl (Function.update_of_ne hij ..)

omit [DecidableEq ι] [DecidableEq τ] in
/-- What an orderly call serves goes to a registered wait that is not complete. -/
theorem Orderly.taker {s : Registry ι τ} (h : s.Indexed matcher) {t : τ}
    (hcall : Orderly matcher s (.deliver t)) {ev : ReplyEvent} {candidates : List ι}
    (hserving : s.serving t = some (ev, candidates)) :
    Registry.taker matcher ev candidates = s.scan matcher ev ∧
      ∀ i, Registry.taker matcher ev candidates = some i →
        i ∈ s.registered ∧ s.done matcher i = false := by
  obtain ⟨hcurrent, hdone⟩ := hcall ev candidates hserving
  have htaker := h.taker ev
  rw [← hcurrent] at htaker
  rw [htaker]
  refine ⟨(Registry.scan_eq_firstAccepting hdone).symm, fun i hi => ⟨?_, hdone i hi⟩⟩
  exact Registry.mem_inOrder.mp (List.mem_of_find?_eq_some hi)

omit [DecidableEq τ] in
theorem cancel_cancel {s : Registry ι τ} (h : s.Indexed matcher) (i : ι) :
    (s.cancel matcher i).cancel matcher i = s.cancel matcher i := by
  have hregistered : (s.registered.erase i).erase i = s.registered.erase i :=
    List.erase_of_not_mem h.nodup.not_mem_erase
  unfold Registry.cancel
  cases hkey : (matcher i).unicastKey with
  | some key =>
    have hbucket : (Buckets.get s.unicast key).Nodup := by
      rw [h.unicast.get]
      exact h.nodup.filter _
    simp only [Buckets.remove_remove h.unicast.nodup hbucket, hregistered]
  | none =>
    have hbroadcast : (s.broadcast.erase i).erase i = s.broadcast.erase i := by
      refine List.erase_of_not_mem (List.Nodup.not_mem_erase ?_)
      rw [h.broadcast]
      exact h.nodup.filter _
    simp only [hbroadcast, hregistered]

/-- **An orderly call meets what is asked of it, and no wait overflows.** -/
theorem next_meets {s : Registry ι τ} (h : s.Indexed matcher) (hbounded : Bounded matcher s)
    {call : Call ι τ} (hcall : Orderly matcher s call) :
    Meets matcher s call ∧ Bounded matcher (s.next matcher call) := by
  have hnext : Bounded matcher (s.next matcher call) := by
    intro i
    obtain hsame | ⟨t, ev, candidates, rfl, hserving, htaker, hcollected⟩ :=
      next_collected matcher s call i
    · rw [hsame]
      exact hbounded i
    · have hnot := ((hcall.taker h hserving).2 i htaker).2
      simp only [Registry.done, PendingMatcher.complete, Bool.or_eq_false_iff,
        decide_eq_false_iff_not, not_le] at hnot
      rw [hcollected, List.length_append, List.length_singleton]
      omega
  refine ⟨⟨?_, fun i hi => ?_, hnext, cancel_cancel h, (next_indexed h hcall).pendingCount⟩, hnext⟩
  · rintro t ev candidates rfl hserving
    exact (hcall.taker h hserving).1
  · obtain hsame | ⟨t, ev, candidates, rfl, hserving, htaker, -⟩ :=
      next_collected matcher s call i
    · exact hsame
    · exact absurd ((hcall.taker h hserving).2 i htaker).1 hi

theorem run_meets {s : Registry ι τ} (h : s.Indexed matcher) (hbounded : Bounded matcher s)
    {calls : List (Call ι τ)} (hcalls : Along (Registry.next matcher) (Orderly matcher) s calls) :
    Along (Registry.next matcher) (Meets matcher) s calls := by
  induction calls generalizing s with
  | nil => trivial
  | cons call rest ih =>
    obtain ⟨hmeets, hnext⟩ := next_meets h hbounded hcalls.1
    exact ⟨hmeets, ih (next_indexed h hcalls.1) hnext hcalls.2⟩

/-- **In every orderly run of the registry each event reaches the wait that a plain scan
finds, no wait takes more than it expects or anything after it was cancelled, and the count
is that of the registered waits.** -/
theorem runs_deliver (matcher : ι → PendingMatcher) {calls : List (Call ι τ)}
    (h : Along (Registry.next matcher) (Orderly matcher) Registry.empty calls) :
    Along (Registry.next matcher) (Meets matcher) Registry.empty calls :=
  run_meets Registry.indexed_empty (fun _ => Int.le_max_left _ _) h

end

/-! ### One wait done and still registered -/

/-- Two waits for the status of one device: the second is registered when the first is done. -/
def statusWait : PendingMatcher :=
  ⟨some [[0xDD, 0xEE, 0xFF]], some OPC_STATUS, none, none, some "AABBCCDDEEFF", 1⟩

def statusReply : ReplyEvent := ⟨some "AABBCCDDEEFF", some [0xDD, 0xEE, 0xFF], some OPC_STATUS, none, []⟩

/-- The first wait takes both replies, and the second gets none. -/
theorem done_wait_delivers : ¬ Along (Registry.next fun _ : Bool => statusWait)
    (Meets fun _ => statusWait) (Registry.empty : Registry Bool Unit)
    [.register false, .offer () statusReply, .deliver (), .register true, .offer () statusReply,
      .deliver ()] := by
  intro h
  have hmeets := h.2.2.2.2.2.1
  exact absurd (hmeets.bounded false) (by decide)

/-- With the first wait cancelled in time, each gets its reply. -/
theorem cancelled_wait_delivers : Along (Registry.next fun _ : Bool => statusWait)
    (Meets fun _ => statusWait) (Registry.empty : Registry Bool Unit)
    [.register false, .offer () statusReply, .deliver (), .cancel false, .register true,
      .offer () statusReply, .deliver ()] := by
  have hregular : statusWait.Regular := ⟨fun _ _ => by decide, fun _ => nofun⟩
  refine runs_deliver _ ⟨⟨hregular, List.not_mem_nil⟩, trivial, ?_, trivial,
    ⟨hregular, List.not_mem_nil⟩, trivial, ?_, trivial⟩
  · rintro ev candidates hserving
    cases hserving
    exact ⟨rfl, by rintro i hi; cases hi; rfl⟩
  · rintro ev candidates hserving
    cases hserving
    exact ⟨rfl, by rintro i hi; cases hi; rfl⟩

end RaceLink.Pending
