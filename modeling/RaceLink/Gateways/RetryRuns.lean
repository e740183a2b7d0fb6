import RaceLink.Gateways.Retry

/-! Runs of the automatic retry: what each place says is kept by the step from it, and so a coherent
run has one timer at most. Two runs that are not coherent end with two timers, and with one that looks
for the gateway after a success. -/
namespace RaceLink.Gateways.Retry
open Python Library

variable {f f' : Fields} {t t' : Nat} {p : Pc}

/-! ### Live timers -/

theorem live_setTimer_self (timer : Timer) :
    Live (f.setTimer t timer) t ↔ (timer.phase = .waiting ∨ timer.phase = .due) ∧ timer.cancelled = false := by
  simp [Live, Fields.setTimer]

theorem live_setTimer_of_ne (timer : Timer) (h : t' ≠ t) : Live (f.setTimer t timer) t' ↔ Live f t' := by
  simp [Live, Fields.setTimer, h]

/-- A timer that is set and not live leaves the others. -/
theorem live_setTimer_dead (timer : Timer) (hdead : (timer.phase ≠ .waiting ∧ timer.phase ≠ .due) ∨ timer.cancelled)
    (h : Live (f.setTimer t timer) t') : Live f t' ∧ t' ≠ t := by
  have hne : t' ≠ t := by
    rintro rfl
    obtain ⟨hphase, hcancelled⟩ := (live_setTimer_self timer).mp h
    rcases hdead with ⟨hwaiting, hdue⟩ | hdead
    · exact hphase.elim hwaiting hdue
    · rw [hdead] at hcancelled
      cases hcancelled
  exact ⟨(live_setTimer_of_ne timer hne).mp h, hne⟩

/-- A phase is nothing that the fit of a timer depends on. -/
theorem Fits.setPhase (h : Fits f t) (phase : Phase) (t' : Nat) :
    Fits (f.setTimer t' {f.timers t' with phase}) t := by
  by_cases ht : t = t'
  · subst ht
    refine ⟨?_, ?_, ?_, h.running⟩
    · show (Function.update f.timers t _ t).delay = _
      rw [Function.update_self]
      exact h.delay
    · show (Function.update f.timers t _ t).attemptNext = _
      rw [Function.update_self]
      exact h.attemptNext
    · show (Function.update f.timers t _ t).stale = _
      rw [Function.update_self]
      exact h.fresh
  · have hsame : (f.setTimer t' {f.timers t' with phase}).timers t = f.timers t := Function.update_of_ne ht ..
    exact ⟨hsame ▸ h.delay, hsame ▸ h.attemptNext, hsame ▸ h.fresh, h.running⟩

/-- Settled fields have one live timer at most. -/
theorem Settled.referred (h : Settled f) : ∀ t, Live f t → f.timer = some t := fun t ht => (h.live t ht).1

theorem settled_of_noneLive (hattempt : f.attempt = f.retries) (h : NoneLive f) : Settled f :=
  ⟨hattempt, fun t ht => absurd ht (h t)⟩

/-- **Whatever place is reached, one timer is live at most.** -/
theorem one_of_says (h : Says p f) (ht : Live f t) (ht' : Live f t') : t = t' := by
  have hone : ∀ r : Option Nat, (∀ t, Live f t → r = some t) → t = t' :=
    fun r hr => Option.some.inj ((hr t ht).symm.trans (hr t' ht'))
  cases p with
  | idle => exact hone _ h.referred
  | failed => exact hone _ h.referred
  | delayed _ => exact hone _ h.1.referred
  | cancel _ => exact hone _ h.2.1
  | dropping _ _ => exact hone _ h.2.1
  | stopping _ _ => exact hone _ h.2.1
  | arming _ => exact absurd ht (h.2.1 t)
  | storing _ _ => exact absurd ht (h.2.1 t)
  | starting _ => exact absurd ht (h.2.1 t)
  | resetting => exact absurd ht (h t)
  | unlinking => exact absurd ht (h.2 t)
  | closing => exact hone _ h.referred
  | firing _ => exact absurd ht (h.2.1 t)
  | discovering _ => exact absurd ht (h.2.1 t)

/-! ### The step from a place -/

/-- The timer that was read is cancelled, and no other one was live. -/
theorem noneLive_stop {timer : Option Nat} (h : ∀ t, Live f t → timer = some t) : NoneLive (f.stop timer) := by
  intro t' ht'
  cases timer with
  | none => exact nomatch h t' ht'
  | some t =>
    obtain ⟨hlive, hne⟩ := live_setTimer_dead _ (.inr rfl) ht'
    exact hne (Option.some.inj (h t' hlive)).symm

/-- A cancel touches the timers alone. -/
theorem stop_fields (f : Fields) (timer : Option Nat) : ∃ timers, f.stop timer = {f with timers} := by
  cases timer
  · exact ⟨f.timers, rfl⟩
  · exact ⟨_, rfl⟩

theorem says_stopping {timer : Option Nat} {next : Next} (h : Says (.stopping timer next) f) :
    Says next.pc (f.stop timer) := by
  obtain ⟨hattempt, hlive, hfits⟩ := h
  have hnone := noneLive_stop hlive
  obtain ⟨timers, hfields⟩ := stop_fields f timer
  rw [hfields] at hnone ⊢
  cases next with
  | schedule delay => exact ⟨hattempt, hnone, hfits⟩
  | clear => exact ⟨hattempt, hnone⟩
  | retry => exact hnone
  | shutdown => exact settled_of_noneLive hattempt hnone

theorem says_storing {delay attemptNext : Nat} (h : Says (.storing delay attemptNext) f) :
    Says (advance f (.storing delay attemptNext)).1 (advance f (.storing delay attemptNext)).2 := by
  obtain ⟨hattempt, hnone, ⟨hdelay, hrunning⟩, hnext⟩ := h
  have hstored : (Function.update f.timers f.made { delay, attemptNext }) f.made = { delay, attemptNext } :=
    Function.update_self ..
  refine ⟨hattempt, fun t ht => ?_, rfl, ?_, ?_, ?_, hrunning⟩
  · have hold : Live (f.setTimer f.made { delay, attemptNext }) t := ht
    exact hnone t (live_setTimer_dead { delay, attemptNext } (.inl ⟨nofun, nofun⟩) hold).1
  · show (Function.update f.timers f.made _ f.made).delay = backoff f.retries
    rw [hstored, ← hattempt]
    exact hdelay
  · show (Function.update f.timers f.made _ f.made).attemptNext = f.retries + 1
    rw [hstored, ← hattempt]
    exact hnext
  · show (Function.update f.timers f.made _ f.made).stale = false
    rw [hstored]

theorem says_starting (h : Says (.starting t) f) : Settled (f.setTimer t {f.timers t with phase := .waiting}) := by
  obtain ⟨hattempt, hnone, htimer, hfits⟩ := h
  refine ⟨hattempt, fun t' ht' => ?_⟩
  by_cases hne : t' = t
  · rw [hne]
    exact ⟨htimer, hfits.setPhase ..⟩
  · exact absurd ((live_setTimer_of_ne _ hne).mp ht') (hnone t')

/-- **The step from each place leads to what the next place says.** -/
theorem says_advance (h : Says p f) : Says (advance f p).1 (advance f p).2 := by
  cases p with
  | idle => exact h
  | failed => exact ⟨h, rfl⟩
  | delayed delay =>
    rw [advance]
    split
    · exact h.1
    · next hrunning => exact ⟨h.1.attempt, h.1.referred, h.2, by simpa using hrunning⟩
  | cancel next => exact h
  | dropping timer next => cases next <;> exact h
  | stopping timer next => exact says_stopping h
  | arming delay => exact ⟨h.1, h.2.1, h.2.2, rfl⟩
  | storing delay attemptNext => exact says_storing h
  | starting t => exact says_starting h
  | resetting => exact ⟨rfl, h⟩
  | unlinking => exact settled_of_noneLive h.1 h.2
  | closing => exact ⟨h.attempt, h.referred, trivial⟩
  | firing t => exact ⟨h.2.2.attemptNext, h.2.1, h.2.2.fresh⟩
  | discovering t => exact settled_of_noneLive h.1 h.2.1

/-- The callback of a timer that has not been cancelled begins. -/
theorem says_fire (h : Settled f) (hdue : (f.timers t).phase = .due) (hcancelled : (f.timers t).cancelled = false) :
    Says (begin_ f (.fire t)).1 (begin_ f (.fire t)).2 := by
  obtain ⟨htimer, hfits⟩ := h.live t ⟨.inr hdue, hcancelled⟩
  rw [begin_, if_pos hdue, hfits.running]
  refine ⟨h.attempt, fun t' ht' => ?_, hfits.setPhase ..⟩
  obtain ⟨hlive, hne⟩ := live_setTimer_dead {f.timers t with phase := .fired} (.inl ⟨nofun, nofun⟩) ht'
  exact hne (Option.some.inj ((h.referred t' hlive).symm.trans htimer))

/-! ### The end of a wait -/

theorem elapse_timer (f : Fields) (t t' : Nat) :
    ((elapse f t).timers t').delay = (f.timers t').delay ∧
      ((elapse f t).timers t').attemptNext = (f.timers t').attemptNext ∧
      ((elapse f t).timers t').stale = (f.timers t').stale ∧ (Live (elapse f t) t' ↔ Live f t') := by
  unfold elapse
  split
  · next hwaiting =>
    by_cases ht : t' = t
    · subst ht
      simp only [Live, Fields.setTimer, Function.update_self, true_and]
      rw [hwaiting]
      cases (f.timers t').cancelled <;> simp
    · have hsame : ∀ timer, (f.setTimer t timer).timers t' = f.timers t' := fun _ => Function.update_of_ne ht ..
      rw [hsame]
      exact ⟨rfl, rfl, rfl, live_setTimer_of_ne _ ht⟩
  · exact ⟨rfl, rfl, rfl, Iff.rfl⟩

/-- The fields themselves are not touched. -/
theorem elapse_fields (f : Fields) (t : Nat) : ∃ timers, elapse f t = {f with timers} := by
  unfold elapse
  split
  · exact ⟨_, rfl⟩
  · exact ⟨f.timers, rfl⟩

theorem fits_elapse (h : Fits f t') (t : Nat) : Fits (elapse f t) t' := by
  obtain ⟨timers, hfields⟩ := elapse_fields f t
  obtain ⟨hdelay, hnext, hstale, -⟩ := elapse_timer f t t'
  rw [hfields] at hdelay hnext hstale ⊢
  exact ⟨hdelay.trans h.delay, hnext.trans h.attemptNext, hstale.trans h.fresh, h.running⟩

theorem settled_elapse (h : Settled f) (t : Nat) : Settled (elapse f t) := by
  obtain ⟨timers, hfields⟩ := elapse_fields f t
  have hattempt : (elapse f t).attempt = (elapse f t).retries := by
    rw [hfields]
    exact h.attempt
  have htimer : (elapse f t).timer = f.timer := by rw [hfields]
  refine ⟨hattempt, fun t' ht' => ?_⟩
  obtain ⟨hreferred, hfits⟩ := h.live t' ((elapse_timer f t t').2.2.2.mp ht')
  exact ⟨htimer.trans hreferred, fits_elapse hfits t⟩

/-- Every place says the same when a wait has ended. -/
theorem says_elapse (h : Says p f) (t : Nat) : Says p (elapse f t) := by
  obtain ⟨timers, hfields⟩ := elapse_fields f t
  have hlive : ∀ t', Live (elapse f t) t' → Live f t' := fun t' => (elapse_timer f t t').2.2.2.mp
  have hnone : NoneLive f → NoneLive (elapse f t) := fun hf t' ht' => hf t' (hlive t' ht')
  have hattempt : f.attempt = f.retries → (elapse f t).attempt = (elapse f t).retries := by
    rw [hfields]
    exact id
  have hnext : ∀ next : Next, next.Fits f → next.Fits (elapse f t) := by
    rw [hfields]
    rintro (_ | _) <;> exact id
  have htimer : (elapse f t).timer = f.timer := by rw [hfields]
  have hcount : (elapse f t).attempt = f.attempt := by rw [hfields]
  cases p with
  | idle => exact settled_elapse h t
  | failed => exact settled_elapse h t
  | delayed _ => exact ⟨settled_elapse h.1 t, by rw [hcount]; exact h.2⟩
  | cancel next =>
    refine ⟨hattempt h.1, fun t' ht' => ?_, hnext next h.2.2⟩
    rw [htimer]
    exact h.2.1 t' (hlive t' ht')
  | dropping _ next => exact ⟨hattempt h.1, fun t' ht' => h.2.1 t' (hlive t' ht'), hnext next h.2.2⟩
  | stopping _ next => exact ⟨hattempt h.1, fun t' ht' => h.2.1 t' (hlive t' ht'), hnext next h.2.2⟩
  | arming delay => exact ⟨hattempt h.1, hnone h.2.1, hnext (.schedule delay) h.2.2⟩
  | storing delay _ =>
    exact ⟨hattempt h.1, hnone h.2.1, hnext (.schedule delay) h.2.2.1, by rw [hcount]; exact h.2.2.2⟩
  | starting _ => exact ⟨hattempt h.1, hnone h.2.1, htimer.trans h.2.2.1, fits_elapse h.2.2.2 t⟩
  | resetting => exact hnone h
  | unlinking => exact ⟨hattempt h.1, hnone h.2⟩
  | closing => exact settled_elapse h t
  | firing _ => exact ⟨hattempt h.1, hnone h.2.1, fits_elapse h.2.2 t⟩
  | discovering t' => exact ⟨hattempt h.1, hnone h.2.1, ((elapse_timer f t t').2.2.1).trans h.2.2⟩

/-- That a link is lost concerns the code of the next error only. -/
theorem says_lost (h : Says p f) : Says p {f with linkRecoveryPending := true} := by
  have hsettled : Settled f → Settled {f with linkRecoveryPending := true} := fun hs =>
    ⟨hs.attempt, fun t ht =>
      ⟨hs.referred t ht, (hs.live t ht).2.delay, (hs.live t ht).2.attemptNext, (hs.live t ht).2.fresh,
        (hs.live t ht).2.running⟩⟩
  cases p with
  | idle => exact hsettled h
  | failed => exact hsettled h
  | delayed _ => exact ⟨hsettled h.1, h.2⟩
  | cancel next => cases next <;> exact h
  | dropping _ next => cases next <;> exact h
  | stopping _ next => cases next <;> exact h
  | arming _ => exact h
  | storing _ _ => exact h
  | starting _ =>
    exact ⟨h.1, h.2.1, h.2.2.1, h.2.2.2.delay, h.2.2.2.attemptNext, h.2.2.2.fresh, h.2.2.2.running⟩
  | resetting => exact h
  | unlinking => exact h
  | closing => exact hsettled h
  | firing _ => exact ⟨h.1, h.2.1, h.2.2.delay, h.2.2.attemptNext, h.2.2.fresh, h.2.2.running⟩
  | discovering _ => exact h

/-! ### Runs -/

section Threads
variable {τ : Type} {s : Threads τ Pc Fields}

/-- What the place of a thread inside says of it. -/
theorem says_of_pc {i : τ} (h : sections.Holds s) (hp : s.pc i = p) (hin : p.Inside) : Says p s.shared := by
  subst hp
  exact h.inside i hin

theorem constructed_holds : sections.Holds (constructed : Threads τ Pc Fields) where
  one _ _ hi := hi.elim
  inside _ hi := hi.elim
  quiet _ := ⟨rfl, fun _ ht => ht.1.elim nofun nofun⟩

end Threads

variable {τ : Type} [DecidableEq τ] {s : Threads τ Pc Fields} {act : Act τ}

/-- The call of an idle thread that Coherent lets begin. -/
theorem holds_start {i : τ} {call : Call} (h : sections.Holds s) (hidle : s.pc i = .idle)
    (hc : Coherent s (.start i call)) : sections.Holds (s.move i (begin_ s.shared call)) := by
  have hsettled : Says (s.pc i) s.shared → Settled s.shared := by
    rw [hidle]
    exact id
  cases call with
  | recordGatewayError reason code =>
    have hout : ¬ sections.Inside (s.pc i) := by
      rw [hidle]
      exact id
    rw [begin_]
    split
    · exact h.moveOutside hout id (fun _ _ => id) id
    · exact h.moveOutside hout id (fun _ _ => id) id
  | clearGatewayError =>
    have hquiet : sections.Quiet s := hc
    exact h.move hquiet.alone fun hs => ⟨rfl, (hsettled hs).referred, trivial⟩
  | retryGateway =>
    have hquiet : sections.Quiet s := hc
    exact h.move hquiet.alone fun hs => ⟨(hsettled hs).attempt, (hsettled hs).referred, trivial⟩
  | shutdown =>
    have hquiet : sections.Quiet s := hc
    refine h.move hquiet.alone fun hs => ?_
    rw [begin_]
    split
    · exact hsettled hs
    · exact hsettled hs
  | fire t =>
    by_cases hdue : (s.shared.timers t).phase = .due
    · obtain ⟨hquiet, hcancelled⟩ := hc hdue
      exact h.move hquiet.alone fun hs => says_fire (hsettled hs) hdue hcancelled
    · have hout : ¬ sections.Inside (s.pc i) := by
        rw [hidle]
        exact id
      rw [begin_, if_neg hdue]
      exact h.moveOutside hout id (fun _ _ => id) id

/-- **A coherent step keeps what the places say.** -/
theorem holds_step (h : sections.Holds s) (hc : Coherent s act) : sections.Holds (step s act) := by
  cases act with
  | start i call =>
    rw [step]
    split
    · next hidle => exact holds_start h hidle hc
    · exact h
  | next i =>
    have hmove : sections.Alone s i → sections.Holds (s.move i (advance s.shared (s.pc i))) := fun halone =>
      h.move halone fun hs => says_advance hs
    cases hp : s.pc i with
    | idle =>
      have hout : ¬ sections.Inside (s.pc i) := by
        rw [hp]
        exact id
      rw [step, hp, advance]
      exact h.moveOutside hout id (fun _ _ => id) id
    | failed => exact hmove (hc hp).alone
    | _ => exact hmove (h.alone (by rw [hp]; trivial))
  | elapse t => exact h.disturb (fun p _ hp => says_elapse hp t) fun hs => settled_elapse hs t
  | lost => exact h.disturb (fun p _ hp => says_lost hp) fun hs => says_lost (p := .idle) hs

theorem stepRight_of_holds (h : sections.Holds s) (hc : Coherent s act) : StepRight s act where
  one t t' ht ht' := by
    rcases (holds_step h hc).settled_or with hs | ⟨i, -, hs⟩
    · exact one_of_says (p := .idle) hs ht ht'
    · exact one_of_says hs ht ht'
  fresh i t _ hp := (says_of_pc h hp trivial).2.2
  silent i _ harms := by
    cases hp : s.pc i with
    | storing => exact (says_of_pc h hp trivial).2.2.1.2
    | starting => exact (says_of_pc h hp trivial).2.2.2.running
    | _ =>
      rw [hp] at harms
      exact harms.elim
  delay i t _ hp := (says_of_pc h hp trivial).2.2.delay

/-- **In a coherent run there is one timer at most, none acts out of its time, and each comes at its
delay.** -/
theorem retries_right {acts : List (Act τ)} (h : Along step Coherent constructed acts) :
    Along step StepRight constructed acts :=
  along_of_invariant (fun _ _ hs hc => holds_step hs hc) (fun _ _ hs hc => stepRight_of_holds hs hc)
    constructed_holds h

/-! ### Some runs -/

/-- The calls of a thread, with no other one between: the call begins and goes on `n` times. -/
def whole (i : Fin 2) (call : Call) (n : Nat) : List (Act (Fin 2)) := .start i call :: List.replicate n (.next i)

/-- What the transport reports when another process holds the port. -/
def busy : Call := .recordGatewayError "port busy" none

/-- An error, its retry, an error again, and a manual retry that succeeds. -/
def orderly : List (Act (Fin 2)) :=
  whole 0 busy 8 ++ [.elapse 0] ++ whole 1 (.fire 0) 2 ++ whole 1 busy 8 ++ whole 0 .retryGateway 5 ++
    whole 0 .clearGatewayError 4 ++ whole 0 .shutdown 4

instance (p : Pc) : Decidable p.Inside := by
  cases p <;> unfold Pc.Inside <;> infer_instance

instance (s : Threads (Fin 2) Pc Fields) : Decidable (sections.Quiet s) :=
  inferInstanceAs (Decidable (∀ i : Fin 2, ¬ (s.pc i).Inside))

instance (s : Threads (Fin 2) Pc Fields) (act : Act (Fin 2)) : Decidable (Coherent s act) := by
  cases act with
  | start i call => cases call <;> unfold Coherent <;> infer_instance
  | _ => unfold Coherent; infer_instance

theorem retries_right_orderly : Along step StepRight constructed orderly :=
  retries_right (by decide +kernel)

/-- Two threads record an error: both cancel, then both arm. -/
theorem retries_doubled : ¬ Along step StepRight constructed
    (whole 0 busy 5 ++ whole 1 busy 8 ++ [.next 0, .next 0] ++ [.next 0]) := fun h =>
  absurd (h.last.one 0 1 ⟨by decide +kernel, by decide +kernel⟩ ⟨by decide +kernel, by decide +kernel⟩) (by decide)

/-- A callback has begun when the gateway is found: it looks for the gateway once more. -/
theorem retries_late : ¬ Along step StepRight constructed
    (whole 0 busy 8 ++ [.elapse 0, .start 1 (.fire 0)] ++ whole 0 .clearGatewayError 4 ++ [.next 1] ++ [.next 1]) :=
  fun h => absurd (h.last.fresh 1 0 rfl (by decide +kernel)) (by decide +kernel)

end RaceLink.Gateways.Retry
