import Mathlib.Data.Finset.Basic
import RaceLink.Library.Pool
import RaceLink.Python.Text

/-! Who listens to the transports (`controller.py`, `services/gateway_service.py`, `web/sse.py`).

A transport hands what it hears to its listeners. The service keeps the addresses of the transports that it listens
to, and the bridge of the page keeps those that it listens to; neither looks at a transport twice. An address that
is in such a set stays there when its transport is gone, until it is taken out, and a new transport may lie there.
Transports come and go on several threads, also while the bridge walks the list of them. -/
namespace RaceLink.Gateways.Wiring
open Python Library

/-! ### The transports -/

/-- A transport object: the ident that it has, its kind, where it lies (`id`), and whether it opens, starts and
finds a network. -/
structure Made where
  ident : String
  ethernet : Bool := false
  address : Nat
  opens : Bool := true
  starts : Bool := true
  bound : Bool := true
deriving DecidableEq

/-- Who listens: the service to what is heard and to what is sent, and the bridge to what is heard. -/
inductive Listener where
  | onTransportEvent
  | onTransportTx
  | bridge
deriving DecidableEq

/-- The calls, down to those that are one step. Transports have numbers. -/
inductive Call where
  | discoverPort (ethernet found : List Nat) (pinned busy : Bool)
  | softRediscover (found : List Nat) (cancelled : List String)
  | reconnect (ethernet found : List Nat) (cancelled : List String) (pinned busy : Bool)
  | attachEthernetTransports (found : List Nat)
  | detachOneTransport (ident : String)
  | ensureTransportHooked
  | hookPrimary
  | walk (list i : Nat)
  | rebindTransport
  | installTransportHooks (n : Nat)
  | closeAllTransports
  | clearHooks
  | finishDiscovery (opened busy : Bool)
  | open_ (n : Nat)
  | attachTransport (n : Nat)
  | append (n : Nat)
  | addListener (n : Nat) (l : Listener)
  | appendListener (n : Nat) (l : Listener)
  | markInstalled (n : Nat)
  | hookSingleTransport (n : Nat)
  | markHooked (n : Nat)
  | remove (n : Nat)
  | discardHooks (n : Nat)
deriving DecidableEq

/-- The transport that a thread holds for a call. -/
def Call.holds : Call → Option Nat
  | .installTransportHooks n | .attachTransport n | .append n | .addListener n _ | .appendListener n _
  | .markInstalled n | .hookSingleTransport n | .markHooked n | .remove n | .discardHooks n => some n
  | _ => none

/-- `_transports`, `_transport_hooks_installed_for`, `_hooked_transports` and the listeners of each transport, with
the transports that were made and those that are gone, and the lists that `_transports` was before it was replaced,
by number. For reasoning only: the transports that were marked when they were no longer attached, or left with their
marks when all were closed, those that were looked at while all marks were to be cleared, listeners that two threads
were adding at once, and for the bridge: the transports that were attached at its last rebind and not anew since,
those that it has looked at and that it has marked since, and those that were moved from before a walk to behind it. -/
structure Hub where
  born : List Nat := []
  gone : List Nat := []
  attached : List Nat := []
  lists : Nat := 0
  former : Nat → List Nat := fun _ => []
  installed : Finset Nat := ∅
  hooked : Finset Nat := ∅
  listeners : Nat → List Listener := fun _ => []
  late : List Nat := []
  hasty : List Nat := []
  crossed : List (Nat × Listener) := []
  rebound : List Nat := []
  seen : List Nat := []
  passed : List Nat := []
  skipped : List Nat := []

/-- A list of transports, by its number; the last is the one that is attached. -/
def Hub.list (s : Hub) (k : Nat) : List Nat := if k = s.lists then s.attached else s.former k

/-- The list that a walk goes over. -/
def Call.over (s : Hub) : Call → List Nat
  | .walk k _ => s.list k
  | _ => []

/-- What a walk has still to come to. -/
def Call.ahead (s : Hub) : Call → List Nat
  | .walk k i => (s.list k).drop i
  | _ => []

/-- The service listens to a transport and has marked it. -/
def Hub.Marked (s : Hub) (address n : Nat) : Prop :=
  address ∈ s.installed ∧ .onTransportEvent ∈ s.listeners n ∧ .onTransportTx ∈ s.listeners n

instance (s : Hub) (address n : Nat) : Decidable (s.Marked address n) := inferInstanceAs (Decidable (_ ∧ _))

/-! ### Calls -/

variable (made : Nat → Made)

/-- The ident of a transport, in upper case. -/
def identOf (n : Nat) : String := upper (made n).ident

/-- Which transports `soft_rediscover` attaches: those that open, one for each ident that is neither attached nor
cancelled. -/
def rediscovered (cancelled : List String) : List String → List Nat → List Nat
  | _, [] => []
  | macs, n :: rest =>
    if identOf made n ≠ "" ∧ (identOf made n ∈ macs ∨ identOf made n ∈ cancelled) then
      rediscovered cancelled macs rest
    else if (made n).opens = false then rediscovered cancelled macs rest
    else n :: rediscovered cancelled (identOf made n :: macs) rest

/-- Whether `discoverPort` counts a transport as opened. -/
def counted (pinned : Bool) (n : Nat) : Bool :=
  (made n).opens && (pinned || (made n).ident ≠ "" || ((made n).starts && (made n).bound))

/-- What comes after a listener is there: the service listens to what is sent as well, and then marks the
transport. -/
def afterwards (n : Nat) : Listener → Call
  | .onTransportEvent => .addListener n .onTransportTx
  | .onTransportTx => .markInstalled n
  | .bridge => .markHooked n

/-- A call, told what others are still to be made: the calls that it makes in turn, and the hub after it. -/
def call (others : Multiset Call) (c : Call) (s : Hub) : List Call × Hub :=
  match c with
  | .discoverPort ethernet found pinned busy =>
    ([.closeAllTransports, .clearHooks, .attachEthernetTransports ethernet] ++ found.map .open_ ++
      [.finishDiscovery (found.any (counted made pinned)) busy], s)
  -- `_transports` is a new list, and the marks stay. Only `discoverPort` goes on with them.
  | .closeAllTransports =>
    ([], {s with
      attached := []
      lists := s.lists + 1
      former := Function.update s.former s.lists s.attached
      late := if .clearHooks ∈ others then s.late
        else s.attached.filter (fun n => s.Marked (made n).address n) ++ s.late})
  | .clearHooks => ([], {s with installed := ∅})
  | .finishDiscovery opened busy =>
    if opened = true ∨ busy = false ∧ ∃ n ∈ s.attached, (made n).ethernet = true then ([.rebindTransport], s)
    else ([], s)
  | .softRediscover found cancelled =>
    ((rediscovered made cancelled ((s.attached.map (identOf made)).filter (· ≠ "")) found).map .open_, s)
  | .reconnect ethernet found cancelled pinned busy =>
    if s.attached = [] then ([.closeAllTransports, .discoverPort ethernet found pinned busy], s)
    else ([.softRediscover found cancelled], s)
  | .attachEthernetTransports found =>
    (found.map .open_ ++ if found.any fun n => (made n).opens then [.rebindTransport] else [], s)
  | .open_ n =>
    if (made n).opens = true ∧ n ∉ s.born ∧ ∀ m ∈ s.born, m ∉ s.gone → (made m).address ≠ (made n).address then
      ([.attachTransport n], {s with born := n :: s.born})
    else ([], s)
  | .attachTransport n =>
    if identOf made n ≠ "" ∧ identOf made n ∈ s.attached.map (identOf made) ∨ (made n).starts = false then ([], s)
    else ([.append n], s)
  | .append n =>
    ([.installTransportHooks n],
      {s with attached := s.attached ++ [n], rebound := s.rebound.filter fun m => m ≠ n})
  | .installTransportHooks n =>
    (if (made n).address ∈ s.installed then [] else [.addListener n .onTransportEvent],
      if .clearHooks ∈ others then {s with hasty := n :: s.hasty} else s)
  | .addListener n l =>
    if l ∈ s.listeners n then ([afterwards n l], s)
    else ([.appendListener n l],
      if .appendListener n l ∈ others then {s with crossed := (n, l) :: s.crossed} else s)
  | .appendListener n l =>
    ([afterwards n l], {s with listeners := Function.update s.listeners n (s.listeners n ++ [l])})
  | .markInstalled n =>
    ([], {s with
      installed := insert (made n).address s.installed
      late := if n ∈ s.attached then s.late else n :: s.late})
  | .detachOneTransport ident =>
    (((s.attached.find? fun n => identOf made n = upper ident).toList).map .remove, s)
  | .remove n =>
    let t := {s with attached := s.attached.erase n}
    ([.discardHooks n],
      {t with skipped := t.attached.filter (fun m => ¬ ∀ c ∈ others, m ∈ c.ahead s → m ∈ c.ahead t) ++ s.skipped})
  | .discardHooks n => ([], {s with installed := s.installed.erase (made n).address})
  | .rebindTransport =>
    ([.ensureTransportHooked], {s with hooked := ∅, passed := [], seen := [], skipped := [], rebound := s.attached})
  | .ensureTransportHooked => (if s.attached = [] then [.hookPrimary] else [.walk s.lists 0], s)
  | .hookPrimary => (s.attached.head?.toList.map .hookSingleTransport, s)
  -- The list is walked as it is: what a detach takes out moves the rest down.
  | .walk k i =>
    match (s.list k)[i]? with
    | some n => ([.hookSingleTransport n, .walk k (i + 1)], s)
    | none => ([], s)
  | .hookSingleTransport n =>
    (if (made n).address ∈ s.hooked then [] else [.addListener n .bridge], {s with seen := n :: s.seen})
  | .markHooked n => ([], {s with hooked := insert (made n).address s.hooked, passed := n :: s.passed})

/-! ### Steps -/

/-- What is called from outside; `shutdown` closes all transports. Hooks are installed by whoever sends through a
transport that it has found attached. -/
def entry (s : Hub) : Call → Bool
  | .discoverPort .. | .softRediscover .. | .reconnect .. | .attachEthernetTransports _ | .detachOneTransport _
  | .closeAllTransports | .ensureTransportHooked | .rebindTransport => true
  | .installTransportHooks n => n ∈ s.attached
  | _ => false

/-- What happens: a thread is started with a call, one goes on, or a transport is gone that nobody holds. -/
inductive Act where
  | spawn (c : Call)
  | next (i : Nat)
  | collect (n : Nat)

abbrev System := Pool Hub Call

/-- A transport that is neither attached nor held by a thread, nor in a list that a thread walks. -/
def Dropped (s : System) (n : Nat) : Prop :=
  n ∈ s.shared.born ∧ n ∉ s.shared.attached ∧
    ∀ calls ∈ s.threads, ∀ c ∈ calls, c.holds ≠ some n ∧ n ∉ c.over s.shared

instance (s : System) (n : Nat) : Decidable (Dropped s n) := inferInstanceAs (Decidable (_ ∧ _))

def step (s : System) : Act → System
  | .spawn c => if entry s.shared c then s.spawn c else s
  | .next i => s.next (call made) i
  | .collect n => if Dropped s n then ⟨{s.shared with gone := n :: s.shared.gone}, s.threads⟩ else s

def run (acts : List Act) : System := acts.foldl (step made) ⟨{}, []⟩

end RaceLink.Gateways.Wiring
