import RaceLink.Gateways.State
import RaceLink.Library.Runs
import Mathlib.Logic.Function.Basic

/-! The poll for gateways that are missing (`services/missing_transport_tracker.py`).

While a gateway is expected and not attached, a timer runs whose callback looks for it and arms
the next one. A cancel stops a timer only as long as it waits: once its thread is past the
check, the callback runs. It then drops the reference to whatever timer is armed by that time,
which is where a second one comes from. As long as it finds none (`Coherent`), there is one
timer at most, and there is one just while it is needed. -/
namespace RaceLink.Gateways.Missing
open Python Library Domain Routing

/-! ### The tracker -/

/-- How far a timer is: it waits, is past its check, looks for gateways, or is to evaluate. -/
inductive Phase where
  | unborn
  | waiting
  | due
  | rediscovering
  | evaluating
  | done
deriving DecidableEq, Repr

/-- `MissingTransportTracker` with the timers it has made, which are numbered, and the host around
it. For reasoning only: the ticks that began after the shutdown. -/
structure Tracker where
  host : State
  timer : Option Nat := none
  cancelledMacs : List String := []
  isShutdown : Bool := false
  made : Nat := 0
  phase : Nat → Phase := fun _ => .unborn
  cancelled : Nat → Bool := fun _ => false
  late : Nat → Bool := fun _ => false

/-- `expected_macs`. -/
def expectedMacs (s : State) : List String := (s.networks.filterMap fun n => nonEmpty n.gatewayMac).map upper

/-- `attached_macs`. -/
def attachedMacs (s : State) : List String := (s.transports.filter fun t => t.identMac ≠ "").map (·.ident)

/-- `missing_macs`. -/
def missingMacs (s : Tracker) : List String :=
  (expectedMacs s.host).filter fun mac => mac ∉ attachedMacs s.host ∧ mac ∉ s.cancelledMacs

/-- `_arm_locked`. -/
def arm (s : Tracker) : Tracker :=
  {s with
    timer := some s.made
    made := s.made + 1
    phase := Function.update s.phase s.made .waiting
    cancelled := Function.update s.cancelled s.made false}

/-- `_cancel_timer_locked`. -/
def cancelTimer (s : Tracker) : Tracker :=
  match s.timer with
  | none => s
  | some t => {s with timer := none, cancelled := Function.update s.cancelled t true}

/-- `evaluate_and_arm`. -/
def evaluateAndArm (s : Tracker) : Tracker :=
  if s.isShutdown then cancelTimer s
  else if missingMacs s = [] then cancelTimer s
  else if s.timer = none then arm s
  else s

/-- The part of `_fire` that holds the lock. -/
def fire (s : Tracker) (t : Nat) : Tracker :=
  let next : Phase := if s.isShutdown then .done else if missingMacs s = [] then .evaluating else .rediscovering
  {s with timer := none
          phase := Function.update s.phase t next
          late := Function.update s.late t s.isShutdown}

/-- The part of `cancel` that holds the lock. -/
def cancel (s : Tracker) (identMac : Option String) : Tracker :=
  let macs := match identMac with
    | none => (expectedMacs s.host).filter (· ∉ attachedMacs s.host)
    | some mac => [upper mac]
  {s with cancelledMacs := s.cancelledMacs ++ macs}

/-! ### Steps -/

/-- What happens, in the order in which the lock is taken. `cancel` and `clear_cancelled` evaluate
after their own step. A tick looks for gateways, which leaves the host in some state, and
evaluates; other threads change the host as well. -/
inductive Act where
  | evaluate
  | cancel (identMac : Option String)
  | clearCancelled
  | shutdown
  | elapse (t : Nat)
  | fire (t : Nat)
  | rediscover (t : Nat) (host : State)
  | finish (t : Nat)
  | change (host : State)

def step (s : Tracker) : Act → Tracker
  | .evaluate => evaluateAndArm s
  | .cancel identMac => Missing.cancel s identMac
  | .clearCancelled => {s with cancelledMacs := []}
  | .shutdown => {cancelTimer s with isShutdown := true}
  | .elapse t =>
    if s.phase t = .waiting then
      {s with phase := Function.update s.phase t (if s.cancelled t then .done else .due)}
    else s
  | .fire t => if s.phase t = .due then Missing.fire s t else s
  | .rediscover t host =>
    if s.phase t = .rediscovering then {s with host, phase := Function.update s.phase t .evaluating} else s
  | .finish t =>
    if s.phase t = .evaluating then evaluateAndArm {s with phase := Function.update s.phase t .done} else s
  | .change host => {s with host}

/-! ### What is to hold -/

/-- A timer that is started, not cancelled and has not fired. -/
def Live (s : Tracker) (t : Nat) : Prop := (s.phase t = .waiting ∨ s.phase t = .due) ∧ s.cancelled t = false

/-- A tick is in progress. -/
def Ticking (s : Tracker) (t : Nat) : Prop := s.phase t = .rediscovering ∨ s.phase t = .evaluating

/-- A step that completes an evaluation. -/
def Act.Evaluates (s : Tracker) : Act → Prop
  | .evaluate => True
  | .finish t => s.phase t = .evaluating
  | _ => False

/-- **What a step is to leave.** -/
structure StepRight (s : Tracker) (act : Act) : Prop where
  one : ∀ t t', Live (step s act) t → Live (step s act) t' → t = t'
  polls : act.Evaluates s → (∀ t, ¬ Ticking (step s act) t) →
    ((∃ t, Live (step s act) t) ↔ missingMacs (step s act) ≠ [] ∧ (step s act).isShutdown = false)
  /-- Gateways are looked for by a tick that began before the shutdown. -/
  silent : ∀ t host, act = .rediscover t host → s.phase t = .rediscovering → s.late t = false

/-- A timer that fires drops the reference to itself, or none. -/
def Coherent (s : Tracker) : Act → Prop
  | .fire t => s.phase t = .due → s.timer = none ∨ s.timer = some t
  | _ => True

/-- Before the first evaluation. -/
structure Started (s : Tracker) : Prop where
  timer : s.timer = none
  phase : ∀ t, s.phase t = .unborn

/-! ### The invariant -/

/-- The timer that is referred to is the one that is live. -/
structure Tracked (s : Tracker) : Prop where
  live : ∀ t, Live s t ↔ s.timer = some t
  unborn : ∀ t, s.made ≤ t → s.phase t = .unborn
  silent : ∀ t, s.phase t = .rediscovering → s.late t = false

variable {s : Tracker} {t : Nat} {act : Act}

theorem Started.tracked (h : Started s) : Tracked s where
  live t := by simp [Live, h.phase, h.timer]
  unborn t _ := h.phase t
  silent t ht := by
    rw [h.phase] at ht
    cases ht

/-- A timer whose phase is not one of a live one's drops out. -/
theorem live_update {p : Phase} (hp : p ≠ .waiting ∧ p ≠ .due) (host : State) (t' : Nat) :
    Live {s with host, phase := Function.update s.phase t p} t' ↔ Live s t' ∧ t' ≠ t := by
  unfold Live
  by_cases ht : t' = t
  · simp [ht, hp]
  · simp [ht]

theorem Tracked.arm (h : Tracked s) (hnone : s.timer = none) : Tracked (Missing.arm s) where
  live t := by
    have hold := h.live t
    rw [hnone] at hold
    unfold Missing.arm Live
    by_cases ht : t = s.made
    · simp [ht]
    · simp only [Function.update_of_ne ht, Option.some.injEq, Ne.symm ht, iff_false]
      exact fun hlive => nomatch hold.mp hlive
  unborn t ht := by
    have hne : t ≠ s.made := fun heq => by
      rw [heq] at ht
      exact Nat.not_succ_le_self _ ht
    show Function.update s.phase s.made .waiting t = .unborn
    rw [Function.update_of_ne hne]
    exact h.unborn t (Nat.le_of_succ_le ht)
  silent t ht := by
    have hphase : Function.update s.phase s.made .waiting t = .rediscovering := ht
    by_cases hne : t = s.made
    · rw [hne, Function.update_self] at hphase
      cases hphase
    · rw [Function.update_of_ne hne] at hphase
      exact h.silent t hphase

theorem Tracked.cancelTimer (h : Tracked s) : Tracked (Missing.cancelTimer s) ∧ (Missing.cancelTimer s).timer = none := by
  unfold Missing.cancelTimer
  cases hs : s.timer with
  | none => exact ⟨h, hs⟩
  | some t =>
    refine ⟨⟨fun t' => ?_, h.unborn, h.silent⟩, rfl⟩
    refine ⟨fun hlive => ?_, nofun⟩
    obtain ⟨hphase, hcancelled⟩ := hlive
    dsimp only at hphase hcancelled
    by_cases ht : t' = t
    · rw [ht, Function.update_self] at hcancelled
      cases hcancelled
    · rw [Function.update_of_ne ht] at hcancelled
      have hother := (h.live t').mp ⟨hphase, hcancelled⟩
      exact absurd (Option.some.inj (hother.symm.trans hs)) ht

theorem Tracked.evaluate (h : Tracked s) : Tracked (evaluateAndArm s) := by
  unfold evaluateAndArm
  split
  · exact h.cancelTimer.1
  · split
    · exact h.cancelTimer.1
    · split
      · next hnone => exact h.arm hnone
      · exact h

/-- After an evaluation there is a timer just if one is needed. -/
theorem Tracked.polls (h : Tracked s) : ((∃ t, Live (evaluateAndArm s) t) ↔
    missingMacs (evaluateAndArm s) ≠ [] ∧ (evaluateAndArm s).isShutdown = false) := by
  have hlive : (∃ t, Live (evaluateAndArm s) t) ↔ (evaluateAndArm s).timer ≠ none := by
    rw [Option.ne_none_iff_exists']
    exact exists_congr h.evaluate.live
  have hsame : missingMacs (evaluateAndArm s) = missingMacs s ∧ (evaluateAndArm s).isShutdown = s.isShutdown := by
    have hcancel : missingMacs (Missing.cancelTimer s) = missingMacs s ∧
        (Missing.cancelTimer s).isShutdown = s.isShutdown := by
      unfold Missing.cancelTimer
      split <;> exact ⟨rfl, rfl⟩
    unfold evaluateAndArm
    split
    · exact hcancel
    · split
      · exact hcancel
      · split <;> exact ⟨rfl, rfl⟩
  rw [hlive, hsame.1, hsame.2]
  unfold evaluateAndArm
  split
  · next hshut => simp [h.cancelTimer.2, hshut]
  · next hopen =>
    split
    · next hmissing => simp [h.cancelTimer.2, hmissing]
    · next hmissing =>
      split
      · simp [Missing.arm, hmissing, hopen]
      · next htimer => simp [htimer, hmissing, hopen]

/-- A timer goes on from a phase in which it is not live to another one. -/
theorem Tracked.goesOn (h : Tracked s) {p : Phase} (host : State) (hfrom : Ticking s t)
    (hp : p = .evaluating ∨ p = .done) : Tracked {s with host, phase := Function.update s.phase t p} := by
  have hdead : p ≠ .waiting ∧ p ≠ .due ∧ p ≠ .rediscovering := by
    rcases hp with rfl | rfl <;> exact ⟨nofun, nofun, nofun⟩
  have hborn : s.phase t ≠ .unborn := by
    rcases hfrom with hfrom | hfrom <;> rw [hfrom] <;> nofun
  have hnot : ¬ Live s t := by
    rintro ⟨hphase | hphase, -⟩ <;> rcases hfrom with hfrom | hfrom <;> rw [hphase] at hfrom <;> cases hfrom
  refine ⟨fun t' => ?_, fun t' ht' => ?_, fun t' ht' => ?_⟩
  · rw [live_update ⟨hdead.1, hdead.2.1⟩, ← h.live t']
    exact ⟨And.left, fun hlive => ⟨hlive, fun heq => hnot (heq ▸ hlive)⟩⟩
  · have hne : t' ≠ t := fun heq => hborn (h.unborn t (heq ▸ ht'))
    show Function.update s.phase t p t' = .unborn
    rw [Function.update_of_ne hne]
    exact h.unborn t' ht'
  · have hphase : Function.update s.phase t p t' = .rediscovering := ht'
    by_cases hne : t' = t
    · rw [hne, Function.update_self] at hphase
      exact absurd hphase hdead.2.2
    · rw [Function.update_of_ne hne] at hphase
      exact h.silent t' hphase

/-- The wait of a timer is over. -/
theorem Tracked.elapse (h : Tracked s) (ht : s.phase t = .waiting) :
    Tracked {s with phase := Function.update s.phase t (if s.cancelled t then .done else .due)} := by
  refine ⟨fun t' => ?_, fun t' ht' => ?_, fun t' ht' => ?_⟩
  · rw [← h.live t']
    unfold Live
    by_cases hne : t' = t
    · rw [hne]
      dsimp only
      rw [Function.update_self, ht]
      cases s.cancelled t <;> simp
    · dsimp only
      rw [Function.update_of_ne hne]
  · have hne : t' ≠ t := by
      rintro rfl
      rw [h.unborn t' ht'] at ht
      cases ht
    show Function.update s.phase t _ t' = .unborn
    rw [Function.update_of_ne hne]
    exact h.unborn t' ht'
  · have hphase : Function.update s.phase t (if s.cancelled t then .done else .due) t' = .rediscovering := ht'
    by_cases hne : t' = t
    · rw [hne, Function.update_self] at hphase
      split at hphase <;> cases hphase
    · rw [Function.update_of_ne hne] at hphase
      exact h.silent t' hphase

/-- A timer fires and drops the reference to itself, or none. -/
theorem Tracked.fire (h : Tracked s) (ht : s.phase t = .due) (hown : s.timer = none ∨ s.timer = some t) :
    Tracked (Missing.fire s t) := by
  have hnext : ∀ p, (p = if s.isShutdown then Phase.done else if missingMacs s = [] then .evaluating
      else .rediscovering) → (p ≠ .waiting ∧ p ≠ .due) ∧ (p = .rediscovering → s.isShutdown = false) := by
    rintro p rfl
    split
    · exact ⟨⟨nofun, nofun⟩, nofun⟩
    · next hopen => split <;> exact ⟨⟨nofun, nofun⟩, fun _ => by simpa using hopen⟩
  obtain ⟨hdead, hopen⟩ := hnext _ rfl
  refine ⟨fun t' => ⟨fun hlive => ?_, nofun⟩, fun t' ht' => ?_, fun t' ht' => ?_⟩
  · obtain ⟨hlive, hne⟩ := (live_update hdead s.host t').mp hlive
    have hother := (h.live t').mp hlive
    rcases hown with hown | hown <;> rw [hown] at hother
    · cases hother
    · exact absurd (Option.some.inj hother).symm hne
  · have hne : t' ≠ t := by
      rintro rfl
      rw [h.unborn t' ht'] at ht
      cases ht
    show Function.update s.phase t _ t' = .unborn
    rw [Function.update_of_ne hne]
    exact h.unborn t' ht'
  · have hphase : Function.update s.phase t _ t' = .rediscovering := ht'
    show Function.update s.late t s.isShutdown t' = false
    by_cases hne : t' = t
    · rw [hne, Function.update_self] at hphase ⊢
      exact hopen hphase
    · rw [Function.update_of_ne hne] at hphase ⊢
      exact h.silent t' hphase

/-- **A coherent step keeps track.** -/
theorem Tracked.step (h : Tracked s) (hc : Coherent s act) : Tracked (Missing.step s act) := by
  cases act with
  | evaluate => exact h.evaluate
  | cancel identMac => exact ⟨h.live, h.unborn, h.silent⟩
  | clearCancelled => exact ⟨h.live, h.unborn, h.silent⟩
  | shutdown =>
    obtain ⟨hlive, hunborn, hsilent⟩ := h.cancelTimer.1
    exact ⟨hlive, hunborn, hsilent⟩
  | elapse t =>
    rw [Missing.step]
    split
    · next ht => exact h.elapse ht
    · exact h
  | fire t =>
    rw [Missing.step]
    split
    · next ht => exact h.fire ht (hc ht)
    · exact h
  | rediscover t host =>
    rw [Missing.step]
    split
    · next ht => exact h.goesOn host (.inl ht) (.inl rfl)
    · exact h
  | finish t =>
    rw [Missing.step]
    split
    · next ht => exact (h.goesOn s.host (.inr ht) (.inr rfl)).evaluate
    · exact h
  | change host => exact ⟨h.live, h.unborn, h.silent⟩

theorem Tracked.right (h : Tracked s) (hc : Coherent s act) : StepRight s act where
  one t t' ht ht' := by
    have hsome := ((h.step hc).live t).mp ht
    rw [((h.step hc).live t').mp ht'] at hsome
    exact (Option.some.inj hsome).symm
  polls hevaluates _ := by
    cases act with
    | evaluate => exact h.polls
    | finish t =>
      have ht : s.phase t = .evaluating := hevaluates
      rw [Missing.step, if_pos ht]
      exact (h.goesOn s.host (.inr ht) (.inr rfl)).polls
    | cancel _ => exact hevaluates.elim
    | clearCancelled => exact hevaluates.elim
    | shutdown => exact hevaluates.elim
    | elapse _ => exact hevaluates.elim
    | fire _ => exact hevaluates.elim
    | rediscover _ _ => exact hevaluates.elim
    | change _ => exact hevaluates.elim
  silent t _ _ ht := h.silent t ht

/-- **In a coherent run there is one timer at most, and one just while a gateway is missing.** -/
theorem polling_right (hs : Started s) {acts : List Act} (h : Along Missing.step Coherent s acts) :
    Along Missing.step StepRight s acts :=
  along_of_invariant (I := Tracked) (fun _ _ ht hc => ht.step hc) (fun _ _ ht hc => ht.right hc) hs.tracked h

/-! ### Two runs -/

/-- A host whose network expects a gateway that is not attached. -/
def detached : State where
  networks := [⟨⟨"A", .rf, some "AABBCCDDEE01"⟩, "Track", "EU868", some 1, none, none, .finite 0⟩]
  devices := []
  groups := []
  transports := []
  records := []
  saves := 0

theorem detached_started : Started { host := detached } := ⟨rfl, fun _ => rfl⟩

/-- The gateway is found by the first tick. -/
theorem polling_right_found : Along Missing.step StepRight { host := detached }
    [.evaluate, .elapse 0, .fire 0,
      .rediscover 0 {detached with transports := [⟨⟨1, some "A", "AABBCCDDEE01"⟩, .rf⟩]}, .finish 0, .shutdown] :=
  polling_right detached_started ⟨trivial, trivial, fun _ => .inr rfl, trivial, trivial, trivial, trivial⟩

/-- The first timer is cancelled when its wait is over, and its callback drops the reference to
the second one: with the third there are two. -/
theorem polling_doubled : ¬ Along Missing.step StepRight { host := detached }
    [.evaluate, .elapse 0, .cancel none, .evaluate, .clearCancelled, .evaluate, .fire 0,
      .rediscover 0 detached, .finish 0] := by
  intro h
  obtain ⟨-, -, -, -, -, -, -, -, hlast, -⟩ := h
  exact absurd (hlast.one 1 2 ⟨by decide +kernel, by decide +kernel⟩ ⟨by decide +kernel, by decide +kernel⟩)
    (by decide)

end RaceLink.Gateways.Missing
