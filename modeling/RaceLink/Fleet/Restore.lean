import RaceLink.Fleet.Identify
import RaceLink.Library.Cooldown
import Mathlib.Algebra.Order.Ring.Rat

/-! Known devices that come back without a group (`services/gateway_service.py`).

A device that reports no group has lost it, so the group of its record is sent to it again, by a worker. The
readers of the gateways hear it at the same time, so one that was sent its group lately by a gateway is left
alone there. Whoever flashes a device waits for its worker. What the worker sends, and what comes of it, is
not told here. -/
namespace RaceLink.Fleet.Restore
open Python Library Domain Routing Gateways

/-! ### Who is sent its group -/

/-- What the IDENTIFY branch of `on_transport_event` leaves to the rest of `_restore_known_device_group`: the
MAC of a device that has lost its group, and the group of its record. -/
def lost (s : State) (body : Bytes) (gatewayId : Option String) (discovering : Bool) : Option (String × Int) :=
  match parseIdentify body with
  | none => none
  | some ev =>
    let known := (deviceAt s ev.mac12).isSome
    let s' := bindHeard (hear s ev) (heard s ev) (networkIdForGatewayId s gatewayId)
    match deviceAt s' ev.mac12 with
    | none => none
    | some d =>
      let stored := d.groupId % 256
      if known = false ∨ ev.groupId % 256 ≠ 0 ∨ discovering = true then none
      else if (s'.groups.length : Int) ≤ stored ∨ stored = 0 ∨ upper d.addr = "" then none
      else some (upper d.addr, stored)

/-! ### The workers -/

/-- What a worker is for, and when it was noted. -/
structure Worker where
  key : Option String × String
  group : Int
  noted : ℚ

/-- `_normalize_mac_key`. -/
def normalizeMacKey (mac : String) : String := upper (String.ofList (mac.toList.filter isAlnum))

/-- `_auto_reassign_cooldown_s`, and how long `_prune_auto_reassign_cache_locked` keeps a time, in seconds. -/
def times : Times ℚ := ⟨2, max (2 * 4) 5, by decide, le_max_of_le_right (by decide)⟩

/-- The fleet, `_auto_reassign_recent` with the clock, `_auto_restore_futures` in the order they were submitted,
those by MAC, and which are done. For reasoning only: each device that was found to have lost its group, and
when. -/
structure Host where
  fleet : State
  cache : Recent (Option String × String) ℚ
  futures : List Worker := []
  byMac : String → Option Nat := fun _ => none
  done : Nat → Bool := fun _ => false
  found : List ((Option String × String) × ℚ) := []

/-- `_spawn_auto_reassign_worker`: those by MAC that are done are dropped. -/
def Host.submit (h : Host) (w : Worker) : Host :=
  let kept := fun mac => (h.byMac mac).filter fun i => !h.done i
  {h with
    futures := h.futures ++ [w]
    byMac := if normalizeMacKey w.key.2 = "" then kept
      else Function.update kept (normalizeMacKey w.key.2) (some h.futures.length)}

/-- Whether `wait_for_auto_restore` returns at once. -/
def Host.free (h : Host) (mac : String) : Bool :=
  if normalizeMacKey mac = "" then true
  else match h.byMac (normalizeMacKey mac) with
    | none => true
    | some i => h.done i

/-! ### The readers -/

/-- Where the reader of a gateway is. -/
inductive Reader where
  | idle
  | wanting (key : Option String × String) (group : Int)
  | asked (key : Option String × String) (group : Int) (now : ℚ)
  | passed (key : Option String × String) (group : Int) (now : ℚ)
  | noted (key : Option String × String) (group : Int) (time : ℚ)
deriving DecidableEq

/-- `_restore_known_device_group`, with `_auto_reassign_suppressed`, `_mark_auto_reassign` and the worker. -/
def advance (h : Host) : Reader → Reader × Host
  | .idle => (.idle, h)
  | .wanting key group => (.asked key group h.cache.clock, h)
  | .asked key group now =>
    let cache := Cooldown.prune times h.cache now
    if Cooldown.Suppressed times cache key now then (.idle, {h with cache := Cooldown.answer cache key now})
    else (.passed key group now, {h with cache})
  | .passed key group now =>
    (.noted key group h.cache.clock, {h with cache := Cooldown.answer (Cooldown.mark h.cache key) key now})
  | .noted key group time => (.idle, h.submit ⟨key, group, time⟩)

/-- What happens: a reader has an IDENTIFY reply or goes on, time passes, a worker is done, or the fleet
changes otherwise. -/
inductive Act where
  | identify (gatewayId : Option String) (body : Bytes) (discovering : Bool)
  | next (gatewayId : Option String)
  | wait (d : ℚ)
  | finish (i : Nat)
  | change (fleet : State)

def step (s : Threads (Option String) Reader Host) : Act → Threads (Option String) Reader Host
  | .identify gatewayId body discovering => match s.pc gatewayId with
    | .idle =>
      let h := {s.shared with fleet := identify s.shared.fleet body gatewayId discovering}
      match lost s.shared.fleet body gatewayId discovering with
      | none => s.move gatewayId (.idle, h)
      | some (mac, group) => s.move gatewayId
        (.wanting (gatewayId, mac) group, {h with found := h.found ++ [((gatewayId, mac), h.cache.clock)]})
    | _ => s
  | .next gatewayId => s.move gatewayId (advance s.shared (s.pc gatewayId))
  | .wait d => if 0 ≤ d then
      ⟨{s.shared with cache := {s.shared.cache with clock := s.shared.cache.clock + d}}, s.pc⟩ else s
  | .finish i => if i < s.shared.futures.length then
      ⟨{s.shared with done := Function.update s.shared.done i true}, s.pc⟩ else s
  | .change fleet => ⟨{s.shared with fleet}, s.pc⟩

def begun (fleet : State) (clock : ℚ) : Threads (Option String) Reader Host :=
  ⟨{ fleet, cache := { clock } }, fun _ => .idle⟩

def run (fleet : State) (clock : ℚ) (acts : List Act) : Threads (Option String) Reader Host :=
  acts.foldl step (begun fleet clock)

end RaceLink.Fleet.Restore
