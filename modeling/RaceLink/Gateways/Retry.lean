import Mathlib.Data.List.Infix
import RaceLink.Library.Sections
import RaceLink.Library.Runs
import RaceLink.Python.Text

/-! The automatic retry of the gateway (`controller.py`).

A recorded error arms a timer whose callback looks for the gateway again; a success, a manual retry
and the shutdown cancel it. Nothing locks the fields these calls share, and a cancel does not stop a
callback that is on its way. As long as the calls do not overlap in what they do to the fields, and
no cancelled callback starts (`Coherent`), there is one timer at most, and it comes at the delay the
backoff schedule has for it. -/
namespace RaceLink.Gateways.Retry
open Python Library

/-! ### The code of an error -/

/-- `GW_ERR_*`. -/
inductive Code where
  | notFound
  | portBusy
  | linkLost
  | hostError
deriving DecidableEq, Repr

/-- `part in text`. -/
def contains (text part : String) : Bool := decide (part.toList <:+: text.toList)

/-- `classify_gateway_error`, with its default `fallback`. -/
def classifyGatewayError (reason : String) : Code :=
  let text := lower reason
  if text = "" then .hostError
  else if contains text "no racelink gateway" || contains text "not found" || contains text "no device" then .notFound
  else if contains text "exclusive lock" || contains text "could not exclusively lock"
      || contains text "resource temporarily unavailable" || contains text "port busy" then .portBusy
  else if contains text "disconnect" || contains text "link lost" || contains text "read error" then .linkLost
  else .hostError

/-- `_GATEWAY_RETRY_BACKOFF_S`, in seconds. -/
def gatewayRetryBackoffS : List Nat := [5, 5, 5, 5, 5, 5, 10]

/-- The entry for an attempt; the last one serves all that follow. -/
def backoff (attempt : Nat) : Nat :=
  gatewayRetryBackoffS.getD (min attempt (gatewayRetryBackoffS.length - 1)) 0

/-! ### The fields the calls share -/

/-- How far a timer is: it is not started, waits, is past its check, or its callback has begun. -/
inductive Phase where
  | unstarted
  | waiting
  | due
  | fired
  | over
deriving DecidableEq, Repr

/-- A timer with what its callback captured. For reasoning only: whether it was armed before a
success or the shutdown. -/
structure Timer where
  delay : Nat := 0
  attemptNext : Nat := 0
  phase : Phase := .unstarted
  cancelled : Bool := false
  stale : Bool := false
deriving DecidableEq, Repr

/-- The retry fields of the controller, with the timers it has made, which are numbered. For reasoning
only: the automatic retries since the last success or manual retry. -/
structure Fields where
  timer : Option Nat := none
  attempt : Nat := 0
  linkRecoveryPending : Bool := false
  shutdownCalled : Bool := false
  made : Nat := 0
  timers : Nat → Timer := fun _ => {}
  retries : Nat := 0

def Fields.setTimer (f : Fields) (t : Nat) (timer : Timer) : Fields :=
  {f with timers := Function.update f.timers t timer}

/-- The timer is cancelled, if there is one. -/
def Fields.stop (f : Fields) : Option Nat → Fields
  | none => f
  | some t => f.setTimer t {f.timers t with cancelled := true}

/-- All timers are of before. -/
def Fields.outdate (f : Fields) : Fields := {f with timers := fun t => {f.timers t with stale := true}}

/-! ### The programs -/

/-- What the caller of `_cancel_gateway_retry` goes on with. -/
inductive Next where
  | schedule (delay : Nat)
  | clear
  | retry
  | shutdown
deriving DecidableEq, Repr

/-- Where a thread is: what it does next, with what it has read. -/
inductive Pc where
  | idle
  | failed
  | delayed (delay : Nat)
  | cancel (next : Next)
  | dropping (timer : Option Nat) (next : Next)
  | stopping (timer : Option Nat) (next : Next)
  | arming (delay : Nat)
  | storing (delay attemptNext : Nat)
  | starting (t : Nat)
  | resetting
  | unlinking
  | closing
  | firing (t : Nat)
  | discovering (t : Nat)
deriving DecidableEq, Repr

/-- Where the caller of `_cancel_gateway_retry` goes on. -/
def Next.pc : Next → Pc
  | .schedule delay => .arming delay
  | .clear => .unlinking
  | .retry => .resetting
  | .shutdown => .idle

/-- The calls of a thread. The callback of a timer is the call of the timer's own thread, which goes on
with the errors and successes of its `discoverPort`. -/
inductive Call where
  | recordGatewayError (reason : String) (code : Option Code)
  | clearGatewayError
  | retryGateway
  | shutdown
  | fire (t : Nat)
deriving DecidableEq, Repr

/-- The code `_record_gateway_error` settles on. -/
def resolvedCode (f : Fields) (reason : String) (code : Option Code) : Code :=
  let resolved := code.getD (classifyGatewayError reason)
  if resolved = .notFound ∧ f.linkRecoveryPending then .linkLost else resolved

/-- The first step of a call. -/
def begin_ (f : Fields) : Call → Pc × Fields
  | .recordGatewayError reason code =>
    if resolvedCode f reason code = .portBusy ∨ resolvedCode f reason code = .linkLost then (.failed, f)
    else (.idle, f)
  | .clearGatewayError => (.cancel .clear, {f.outdate with attempt := 0, retries := 0})
  | .retryGateway => (.cancel .retry, f)
  | .shutdown => if f.shutdownCalled then (.idle, f) else (.closing, f)
  | .fire t =>
    if (f.timers t).phase = .due then
      (if f.shutdownCalled then .idle else .firing t, f.setTimer t {f.timers t with phase := .fired})
    else (.idle, f)

/-- The next read or write of a call. -/
def advance (f : Fields) : Pc → Pc × Fields
  | .idle => (.idle, f)
  | .failed => (.delayed (backoff f.attempt), f)
  | .delayed delay => if f.shutdownCalled then (.idle, f) else (.cancel (.schedule delay), f)
  | .cancel next => (.dropping f.timer next, f)
  | .dropping timer next => (.stopping timer next, {f with timer := none})
  | .stopping timer next => (next.pc, f.stop timer)
  | .arming delay => (.storing delay (f.attempt + 1), f)
  | .storing delay attemptNext =>
    (.starting f.made,
      {f.setTimer f.made { delay, attemptNext } with timer := some f.made, made := f.made + 1})
  | .starting t => (.idle, f.setTimer t {f.timers t with phase := .waiting})
  | .resetting => (.unlinking, {f with attempt := 0, retries := 0})
  | .unlinking => (.idle, {f with linkRecoveryPending := false})
  | .closing => (.cancel .shutdown, {f.outdate with shutdownCalled := true})
  | .firing t => (.discovering t, {f with attempt := (f.timers t).attemptNext, retries := f.retries + 1})
  | .discovering _ => (.idle, f)

/-! ### Steps -/

variable {τ : Type}

/-- What happens: an idle thread begins a call, a thread goes on, the wait of a timer ends, and the
link of a gateway that was ready is lost (`schedule_reconnect`). -/
inductive Act (τ : Type) where
  | start (i : τ) (call : Call)
  | next (i : τ)
  | elapse (t : Nat)
  | lost

/-- The wait of a timer is over; a cancelled one ends. -/
def elapse (f : Fields) (t : Nat) : Fields :=
  if (f.timers t).phase = .waiting then
    f.setTimer t {f.timers t with phase := if (f.timers t).cancelled then .over else .due}
  else f

def step [DecidableEq τ] (s : Threads τ Pc Fields) : Act τ → Threads τ Pc Fields
  | .start i call => if s.pc i = .idle then s.move i (begin_ s.shared call) else s
  | .next i => s.move i (advance s.shared (s.pc i))
  | .elapse t => ⟨Retry.elapse s.shared t, s.pc⟩
  | .lost => ⟨{s.shared with linkRecoveryPending := true}, s.pc⟩

/-- The controller as it is constructed. -/
def constructed : Threads τ Pc Fields := ⟨{}, fun _ => .idle⟩

/-! ### What is to hold -/

/-- A timer that is started, not cancelled and has not fired. -/
def Live (f : Fields) (t : Nat) : Prop :=
  ((f.timers t).phase = .waiting ∨ (f.timers t).phase = .due) ∧ (f.timers t).cancelled = false

/-- A thread that stores or starts a timer. -/
def Pc.Arms : Pc → Prop
  | .storing .. => True
  | .starting _ => True
  | _ => False

/-- **What a step is to leave.** -/
structure StepRight [DecidableEq τ] (s : Threads τ Pc Fields) (act : Act τ) : Prop where
  one : ∀ t t', Live (step s act).shared t → Live (step s act).shared t' → t = t'
  /-- No timer of before a success or the shutdown looks for the gateway. -/
  fresh : ∀ i t, act = .next i → s.pc i = .discovering t → (s.shared.timers t).stale = false
  silent : ∀ i, act = .next i → (s.pc i).Arms → s.shared.shutdownCalled = false
  /-- A timer that retries came at the delay that the retries before it ask for. -/
  delay : ∀ i t, act = .next i → s.pc i = .firing t → (s.shared.timers t).delay = backoff s.shared.retries

/-! ### The sections -/

/-- The places from the first access that is to be undisturbed to the last one. -/
def Pc.Inside : Pc → Prop
  | .idle => False
  | .failed => False
  | _ => True

/-- What the timer that is armed has captured fits the attempts made. -/
structure Fits (f : Fields) (t : Nat) : Prop where
  delay : (f.timers t).delay = backoff f.retries
  attemptNext : (f.timers t).attemptNext = f.retries + 1
  fresh : (f.timers t).stale = false
  running : f.shutdownCalled = false

def NoneLive (f : Fields) : Prop := ∀ t, ¬ Live f t

/-- Outside the sections, a live timer is the one that is referred to. -/
structure Settled (f : Fields) : Prop where
  attempt : f.attempt = f.retries
  live : ∀ t, Live f t → f.timer = some t ∧ Fits f t

/-- What is to be armed fits. -/
def Next.Fits (f : Fields) : Next → Prop
  | .schedule delay => delay = backoff f.attempt ∧ f.shutdownCalled = false
  | _ => True

/-- What each place says of the fields. -/
def Says : Pc → Fields → Prop
  | .idle, f => Settled f
  | .failed, f => Settled f
  | .delayed delay, f => Settled f ∧ delay = backoff f.attempt
  | .cancel next, f => f.attempt = f.retries ∧ (∀ t, Live f t → f.timer = some t) ∧ next.Fits f
  | .dropping timer next, f => f.attempt = f.retries ∧ (∀ t, Live f t → timer = some t) ∧ next.Fits f
  | .stopping timer next, f => f.attempt = f.retries ∧ (∀ t, Live f t → timer = some t) ∧ next.Fits f
  | .arming delay, f => f.attempt = f.retries ∧ NoneLive f ∧ Next.Fits f (.schedule delay)
  | .storing delay attemptNext, f =>
    f.attempt = f.retries ∧ NoneLive f ∧ Next.Fits f (.schedule delay) ∧ attemptNext = f.attempt + 1
  | .starting t, f => f.attempt = f.retries ∧ NoneLive f ∧ f.timer = some t ∧ Fits f t
  | .resetting, f => NoneLive f
  | .unlinking, f => f.attempt = f.retries ∧ NoneLive f
  | .closing, f => Settled f
  | .firing t, f => f.attempt = f.retries ∧ NoneLive f ∧ Fits f t
  | .discovering t, f => f.attempt = f.retries ∧ NoneLive f ∧ (f.timers t).stale = false

/-- The sections of the controller. -/
def sections : Sections Pc Fields where
  Inside := Pc.Inside
  Says := Says
  settled := Settled
  outside p f hp := by
    cases p with
    | idle => exact Iff.rfl
    | failed => exact Iff.rfl
    | _ => exact (hp trivial).elim

/-- A thread that enters a section finds no other one inside, and no callback starts that has been
cancelled. -/
def Coherent (s : Threads τ Pc Fields) : Act τ → Prop
  | .start _ (.recordGatewayError ..) => True
  | .start _ (.fire t) => (s.shared.timers t).phase = .due → sections.Quiet s ∧ (s.shared.timers t).cancelled = false
  | .start _ _ => sections.Quiet s
  | .next i => s.pc i = .failed → sections.Quiet s
  | _ => True

end RaceLink.Gateways.Retry
