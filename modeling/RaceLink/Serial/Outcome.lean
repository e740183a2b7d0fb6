import RaceLink.Library.Runs
import RaceLink.Serial.Framing
import Mathlib.Logic.Function.Basic

/-! Who is told how a frame went out (`_send_m2n` and `_fulfill_pending_outcome` of
`transport/gateway_serial.py`).

A call writes its frame and waits on a condition, which gives the lock free meanwhile; an
outcome event fills the one slot that is registered, whoever registered it. Nothing in an
event names its frame: whose it is, is kept for reasoning only. `attributed_of_orderly`
says that every call gets its own outcome as long as one frame is under way at a time. -/
namespace RaceLink.Serial
open Library Python

def EV_TX_DONE : UInt8 := 0xF3
def EV_TX_REJECTED : UInt8 := 0xF4
def TX_REJECT_UNKNOWN : UInt8 := 0xFF

/-- `SendOutcome`, by its code. -/
inductive SendOutcome where
  | success
  | rejected (reason : UInt8)
  | timeout
  | usbError
deriving DecidableEq, Repr

/-- The outcome `_handle_frame` takes a frame of the gateway for, if any. -/
def outcomeOf (frame : RxFrame) : Option SendOutcome :=
  if frame.typeByte = EV_TX_DONE then some .success
  else if frame.typeByte = EV_TX_REJECTED then some (.rejected (frame.data.getD 1 TX_REJECT_UNKNOWN))
  else none

/-- Told by the gateway, not made up by the host. -/
def SendOutcome.Reported : SendOutcome → Prop
  | .success => True
  | .rejected _ => True
  | .timeout => False
  | .usbError => False

theorem outcomeOf_reported {frame : RxFrame} {outcome : SendOutcome} (h : outcomeOf frame = some outcome) :
    outcome.Reported := by
  unfold outcomeOf at h
  split at h
  · cases h
    trivial
  · split at h
    · cases h
      trivial
    · cases h

inductive Phase where
  | idle
  | waiting
  | returned (outcome : SendOutcome)
deriving DecidableEq, Repr

/-- A call of `_send_m2n` with its slot. For reasoning only: whose event filled the slot, and the
outcomes of its own frame since that was written. -/
structure SendCall (ι : Type) where
  phase : Phase
  slot : Option SendOutcome
  source : Option ι
  heard : List SendOutcome
deriving DecidableEq, Repr

/-- The transport and its calls. `outstanding` is for reasoning only: the frames that were
written and whose outcome has not come. -/
structure Line (ι : Type) where
  pending : Option ι
  calls : ι → SendCall ι
  outstanding : List ι

/-- What happens, in the order in which the lock is taken: a call writes, a frame of the gateway
arrives, the port is lost, a wait ends. -/
inductive LineStep (ι : Type) where
  | send (i : ι) (writes : Bool)
  | receive (frame : RxFrame) (about : Option ι)
  | disconnect
  | finish (i : ι)

section
variable {ι : Type} [DecidableEq ι]

namespace Line

def start : Line ι := ⟨none, fun _ => ⟨.idle, none, none, []⟩, []⟩

def set (s : Line ι) (i : ι) (call : SendCall ι) : Line ι := {s with calls := Function.update s.calls i call}

/-- The first half of `_send_m2n`. -/
def send (s : Line ι) (i : ι) (writes : Bool) : Line ι :=
  if (s.calls i).phase ≠ .idle then s
  else if writes then
    {s.set i ⟨.waiting, none, none, []⟩ with pending := some i, outstanding := i :: s.outstanding}
  else {s.set i ⟨.returned .usbError, some .usbError, none, []⟩ with pending := none}

/-- `_fulfill_pending_outcome`: the registered slot is filled once. -/
def fulfillPendingOutcome (s : Line ι) (outcome : SendOutcome) (about : Option ι) : Line ι :=
  match s.pending with
  | none => s
  | some i =>
    if (s.calls i).slot = none then s.set i {s.calls i with slot := some outcome, source := about} else s

/-- The frame's own call hears of it. -/
def note (s : Line ι) (outcome : SendOutcome) : Option ι → Line ι
  | none => s
  | some j =>
    {s.set j {s.calls j with heard := (s.calls j).heard ++ [outcome]} with
      outstanding := s.outstanding.erase j}

/-- `_handle_frame`, as far as it concerns a call. -/
def receive (s : Line ι) (frame : RxFrame) (about : Option ι) : Line ι :=
  match outcomeOf frame with
  | none => s
  | some outcome => (s.note outcome about).fulfillPendingOutcome outcome about

/-- The second half of `_send_m2n`, woken or timed out: the slot of the line is cleared, whose ever it is. -/
def finish (s : Line ι) (i : ι) : Line ι :=
  if (s.calls i).phase = .waiting then
    {s.set i {s.calls i with phase := .returned ((s.calls i).slot.getD .timeout)} with pending := none}
  else s

/-- A lost port tells nobody who waits. -/
def next (s : Line ι) : LineStep ι → Line ι
  | .send i writes => s.send i writes
  | .receive frame about => s.receive frame about
  | .disconnect => s
  | .finish i => s.finish i

/-! ### Attribution -/

/-- An outcome that a call returns as told by the gateway is one of its own frame, which came
after that was written. -/
def Attributed (s : Line ι) : Prop :=
  ∀ i outcome, (s.calls i).phase = .returned outcome → outcome.Reported →
    (s.calls i).source = some i ∧ outcome ∈ (s.calls i).heard

/-- A frame is written while no call waits and no outcome is outstanding; and while a call
waits, an outcome is that of a frame that is outstanding. -/
def Orderly (s : Line ι) : LineStep ι → Prop
  | .send _ _ => (∀ j, (s.calls j).phase ≠ .waiting) ∧ s.outstanding = []
  | .receive frame about => outcomeOf frame ≠ none → (∃ j, (s.calls j).phase = .waiting) →
      ∃ j ∈ s.outstanding, about = some j
  | .disconnect => True
  | .finish _ => True

/-- One frame is under way at a time, and its call has heard only of it. -/
structure Sound (s : Line ι) : Prop where
  waiting : ∀ i, (s.calls i).phase = .waiting → s.pending = some i ∧ ∀ j ∈ s.outstanding, j = i
  pending : ∀ i, s.pending = some i → (s.calls i).phase = .waiting
  slot : ∀ i outcome, (s.calls i).phase = .waiting → (s.calls i).slot = some outcome →
    outcome.Reported ∧ (s.calls i).source = some i ∧ outcome ∈ (s.calls i).heard
  returned : s.Attributed

omit [DecidableEq ι] in
theorem sound_start : (start : Line ι).Sound := ⟨nofun, nofun, nofun, nofun⟩

variable {s : Line ι}

theorem calls_set (s : Line ι) (i j : ι) (call : SendCall ι) :
    (s.set i call).calls j = if j = i then call else s.calls j := Function.update_apply ..

/-- A change of one call that does not wait, while no other waits, and nothing is registered. -/
theorem Sound.settle (h : s.Sound) {i : ι} {call : SendCall ι} {outstanding : List ι}
    (hothers : ∀ j, j ≠ i → (s.calls j).phase ≠ .waiting) (hphase : call.phase ≠ .waiting)
    (hcall : ∀ outcome, call.phase = .returned outcome → outcome.Reported →
      call.source = some i ∧ outcome ∈ call.heard) :
    Sound {s.set i call with pending := none, outstanding} := by
  have hnobody : ∀ j, ((s.set i call).calls j).phase ≠ .waiting := by
    intro j
    rw [calls_set]
    by_cases hj : j = i
    · rwa [if_pos hj]
    · rw [if_neg hj]
      exact hothers j hj
  refine ⟨fun j hj => absurd hj (hnobody j), nofun, fun j _ hj => absurd hj (hnobody j),
    fun j outcome hj hreported => ?_⟩
  have hset := calls_set s i j call
  show ((s.set i call).calls j).source = some j ∧ outcome ∈ ((s.set i call).calls j).heard
  change ((s.set i call).calls j).phase = _ at hj
  by_cases hij : j = i
  · subst hij
    rw [hset, if_pos rfl] at hj ⊢
    exact hcall outcome hj hreported
  · rw [hset, if_neg hij] at hj ⊢
    exact h.returned j outcome hj hreported

theorem Sound.send (h : s.Sound) {i : ι} {writes : Bool} (hstep : Orderly s (.send i writes)) :
    (s.send i writes).Sound := by
  obtain ⟨hnobody, hnone⟩ := hstep
  unfold Line.send
  split
  · exact h
  · split
    · have hphase : ∀ j, ((s.set i ⟨.waiting, none, none, []⟩).calls j).phase = .waiting ↔ j = i := by
        intro j
        rw [calls_set]
        by_cases hj : j = i
        · rw [if_pos hj]
          exact iff_of_true rfl hj
        · rw [if_neg hj]
          exact iff_of_false (hnobody j) hj
      refine ⟨fun j hj => ?_, fun j hj => ?_, fun j outcome hj hslot => ?_, fun j outcome hj hreported => ?_⟩
      · refine ⟨congrArg some ((hphase j).mp hj).symm, fun k hk => ?_⟩
        rw [hnone, List.mem_singleton] at hk
        rw [hk, (hphase j).mp hj]
      · exact (hphase j).mpr (Option.some.inj hj).symm
      · dsimp only at hslot
        rw [calls_set, if_pos ((hphase j).mp hj)] at hslot
        cases hslot
      · dsimp only at hj ⊢
        rw [calls_set] at hj ⊢
        split at hj
        · cases hj
        · next hij =>
          rw [if_neg hij]
          exact h.returned j outcome hj hreported
    · exact h.settle (fun j _ => hnobody j) nofun fun outcome hout hreported => by
        cases hout
        exact hreported.elim

theorem Sound.finish (h : s.Sound) (i : ι) : (s.finish i).Sound := by
  unfold Line.finish
  split
  · next hwaiting =>
    refine h.settle (fun j hj hw => ?_) nofun fun outcome hout hreported => ?_
    · exact hj (Option.some.inj ((h.waiting j hw).1.symm.trans (h.waiting i hwaiting).1))
    · cases hslot : (s.calls i).slot with
      | none =>
        rw [hslot] at hout
        cases hout
        exact hreported.elim
      | some filled =>
        rw [hslot] at hout
        cases hout
        exact (h.slot i filled hwaiting hslot).2
  · exact h

/-- What a call hears of its own frame decides nothing yet. -/
theorem Sound.note (h : s.Sound) (outcome : SendOutcome) (about : Option ι) : (s.note outcome about).Sound := by
  cases about with
  | none => exact h
  | some j =>
    have hcall : ∀ k, ((s.note outcome (some j)).calls k).phase = (s.calls k).phase ∧
        ((s.note outcome (some j)).calls k).slot = (s.calls k).slot ∧
        ((s.note outcome (some j)).calls k).source = (s.calls k).source ∧
        ∀ told ∈ (s.calls k).heard, told ∈ ((s.note outcome (some j)).calls k).heard := by
      intro k
      have hset := calls_set s j k {s.calls j with heard := (s.calls j).heard ++ [outcome]}
      change (s.note outcome (some j)).calls k = _ at hset
      rw [hset]
      by_cases hk : k = j
      · subst hk
        rw [if_pos rfl]
        exact ⟨rfl, rfl, rfl, fun told htold => List.mem_append_left _ htold⟩
      · rw [if_neg hk]
        exact ⟨rfl, rfl, rfl, fun _ htold => htold⟩
    refine ⟨fun k hk => ?_, fun k hk => ?_, fun k told hk hslot => ?_, fun k told hk hreported => ?_⟩
    · rw [(hcall k).1] at hk
      obtain ⟨hpending, hout⟩ := h.waiting k hk
      exact ⟨hpending, fun l hl => hout l (List.mem_of_mem_erase hl)⟩
    · rw [(hcall k).1]
      exact h.pending k hk
    · rw [(hcall k).1] at hk
      rw [(hcall k).2.1] at hslot
      obtain ⟨hreported, hsource, hheard⟩ := h.slot k told hk hslot
      exact ⟨hreported, by rw [(hcall k).2.2.1, hsource], (hcall k).2.2.2 told hheard⟩
    · rw [(hcall k).1] at hk
      obtain ⟨hsource, hheard⟩ := h.returned k told hk hreported
      exact ⟨by rw [(hcall k).2.2.1, hsource], (hcall k).2.2.2 told hheard⟩

/-- The slot of a waiting call is filled with what it has heard. -/
theorem Sound.fulfillPendingOutcome (h : s.Sound) {outcome : SendOutcome} (hreported : outcome.Reported)
    {about : Option ι}
    (habout : ∀ i, s.pending = some i → about = some i ∧ outcome ∈ (s.calls i).heard) :
    (s.fulfillPendingOutcome outcome about).Sound := by
  unfold Line.fulfillPendingOutcome
  cases hpending : s.pending with
  | none => exact h
  | some i =>
    dsimp only
    split
    · have hwaiting := h.pending i hpending
      obtain ⟨rfl, hheard⟩ := habout i hpending
      have hphase : ∀ j, ((s.set i {s.calls i with slot := some outcome, source := some i}).calls j).phase =
          (s.calls j).phase := by
        intro j
        rw [calls_set]
        by_cases hj : j = i
        · rw [if_pos hj, hj]
        · rw [if_neg hj]
      refine ⟨fun j hj => ?_, fun j hj => ?_, fun j told hj hslot => ?_, fun j told hj htold => ?_⟩
      · rw [hphase] at hj
        exact h.waiting j hj
      · rw [hphase]
        exact h.pending j hj
      · rw [hphase] at hj
        rw [calls_set] at hslot ⊢
        by_cases hji : j = i
        · subst hji
          rw [if_pos rfl] at hslot ⊢
          cases hslot
          exact ⟨hreported, rfl, hheard⟩
        · rw [if_neg hji] at hslot ⊢
          exact h.slot j told hj hslot
      · rw [hphase] at hj
        have hji : j ≠ i := by
          rintro rfl
          rw [hwaiting] at hj
          cases hj
        rw [calls_set, if_neg hji]
        exact h.returned j told hj htold
    · exact h

theorem Sound.receive (h : s.Sound) {frame : RxFrame} {about : Option ι}
    (hstep : Orderly s (.receive frame about)) : (s.receive frame about).Sound := by
  unfold Line.receive
  cases houtcome : outcomeOf frame with
  | none => exact h
  | some outcome =>
    have hpending : (s.note outcome about).pending = s.pending := by cases about <;> rfl
    refine (h.note outcome about).fulfillPendingOutcome (outcomeOf_reported houtcome) fun i hi => ?_
    rw [hpending] at hi
    have hwaiting := h.pending i hi
    obtain ⟨j, hj, rfl⟩ := hstep (by rw [houtcome]; nofun) ⟨i, hwaiting⟩
    obtain rfl := (h.waiting i hwaiting).2 j hj
    refine ⟨rfl, ?_⟩
    have hset := calls_set s j j {s.calls j with heard := (s.calls j).heard ++ [outcome]}
    change (s.note outcome (some j)).calls j = _ at hset
    rw [hset, if_pos rfl]
    exact List.mem_append_right _ (List.mem_singleton_self outcome)

/-- An orderly step keeps the invariant. -/
theorem Sound.next (h : s.Sound) {step : LineStep ι} (hstep : Orderly s step) : (s.next step).Sound := by
  cases step with
  | send i writes => exact h.send hstep
  | receive frame about => exact h.receive hstep
  | disconnect => exact h
  | finish i => exact h.finish i

end Line

/-- **In every run of orderly steps, with any number of calls, each call that is told an outcome
by the gateway is told that of its own frame.** -/
theorem attributed_of_orderly (steps : List (LineStep ι))
    (h : Along Line.next Line.Orderly Line.start steps) : (steps.foldl Line.next Line.start).Attributed := by
  exact (h.invariant (fun _ _ hs hstep => hs.next hstep) Line.sound_start).returned

end

/-- The gateway's EV_TX_DONE for a frame of a length, and an EV_TX_REJECTED. -/
def txDone (lastLen : UInt8) : RxFrame := ⟨EV_TX_DONE, [lastLen]⟩
def txRejected (typeFull reason : UInt8) : RxFrame := ⟨EV_TX_REJECTED, [typeFull, reason]⟩

/-- A call that starts while another waits is told its outcome, and one that starts after a
timeout is told the late outcome of the frame before. -/
theorem outcomes_crossed :
    ¬ ([.send false true, .send true true, .receive (txDone 4) (some false), .finish true,
        .receive (txRejected 4 1) (some true), .finish false].foldl Line.next
      (Line.start : Line Bool)).Attributed ∧
    ¬ ([.send false true, .finish false, .send true true, .receive (txDone 4) (some false),
        .finish true].foldl Line.next (Line.start : Line Bool)).Attributed := by
  constructor
  · intro h
    exact absurd (h true .success rfl trivial).1 (by decide)
  · intro h
    exact absurd (h true .success rfl trivial).1 (by decide)

/-- One call after the other, each with its outcome in time, with a change of state between. -/
theorem outcomes_in_turn :
    ([.send false true, .receive ⟨0xF1, [1]⟩ none, .receive (txDone 4) (some false), .finish false,
        .send true true, .receive (txRejected 4 1) (some true), .finish true].foldl Line.next
      (Line.start : Line Bool)).Attributed := by
  refine attributed_of_orderly _ ⟨⟨fun j => by cases j <;> decide, rfl⟩, fun h => absurd rfl h, ?_, trivial,
    ⟨fun j => by cases j <;> decide, rfl⟩, ?_, trivial, trivial⟩
  · exact fun _ _ => ⟨false, by decide, rfl⟩
  · exact fun _ _ => ⟨true, by decide, rfl⟩

end RaceLink.Serial
