import RaceLink.Domain.Devices
import RaceLink.Library.Keyed
import RaceLink.Library.Runs
import RaceLink.Routing.Host
import Mathlib.Logic.Function.Basic

/-! How the config byte of a device is mirrored (`send_config` and `handle_ack_event` of
`services/gateway_service.py`, the pending slots of `controller.py`, `apply_config_update` of
`services/config_service.py`).

A send notes its option and value under the last three bytes of the device, and an ACK applies what
is noted there. An ACK names the opcode that it answers, not the frame, and a later send takes the
place of an earlier one: so an ACK applies the pair of the send it answers as long as no config was
sent to these bytes in between (`Coherent`). -/
namespace RaceLink.Pending
open Python Library Domain Routing

/-! ### The host -/

/-- `last_ack`. -/
structure LastAck where
  ok : Bool
  opcode : Int
  status : Int
  seq : Option Int
deriving DecidableEq, Repr

/-- A device record, with the config byte it mirrors. -/
structure ConfigDevice extends Device where
  configByte : Nat := 0
  lastAck : Option LastAck := none
deriving DecidableEq, Repr

/-- A pair that waits for its ACK. For reasoning only: the send that it is of. -/
structure PendingConfig where
  option : Nat
  data0 : Nat
  sent : Nat
deriving DecidableEq, Repr

/-- A pair that was applied: to which record, and of which send. For reasoning only. -/
structure Applied where
  addr : String
  sent : Nat
deriving DecidableEq, Repr

structure Controller where
  devices : List ConfigDevice
  pendingConfig : String → Option PendingConfig := fun _ => none
  applied : List Applied := []

namespace Controller

/-- `getDeviceFromAddress`. -/
def getDeviceFromAddress (c : Controller) (addr : String) : Option Device :=
  Host.getDeviceFromAddress ⟨[], [], c.devices.map (·.toDevice), []⟩ addr

/-- A change of the record with an address. -/
def change (c : Controller) (addr : String) (f : ConfigDevice → ConfigDevice) : Controller :=
  {c with devices := updateKey (·.addr) addr f c.devices}

/-- `stash_pending_config`. -/
def stashPendingConfig (c : Controller) (recv3Hex : String) (option data0 : Int) (sent : Nat) : Controller :=
  let entry : PendingConfig := ⟨(option % 256).toNat, (data0 % 256).toNat, sent⟩
  {c with pendingConfig := Function.update c.pendingConfig recv3Hex (some entry)}

/-- What `take_pending_config` leaves. -/
def dropPendingConfig (c : Controller) (recv3Hex : String) : Controller :=
  {c with pendingConfig := Function.update c.pendingConfig recv3Hex none}

/-- The mirrored config bytes. -/
def configBytes (c : Controller) : List (String × Nat) := c.devices.map fun d => (d.addr, d.configByte)

end Controller

/-- The bit of an option. -/
def configBit (option : Nat) : Option Nat :=
  if option = 0x01 then some 0
  else if option = 0x03 then some 1
  else if option = 0x04 then some 2
  else none

/-- `apply_config_update`. -/
def applyConfigUpdate (option data0 : Nat) (dev : ConfigDevice) : ConfigDevice :=
  match configBit option with
  | none => dev
  | some bit =>
    let mask := 1 <<< bit
    if data0 ≠ 0 then {dev with configByte := dev.configByte ||| mask}
    else {dev with configByte := dev.configByte &&& (0xFF ^^^ mask)}

/-- `ack_update`. -/
def ackUpdate (opcode status : Int) (seq : Option Int) (dev : ConfigDevice) : ConfigDevice :=
  {dev with lastAck := some ⟨decide (status = 0), opcode, status, seq⟩}

/-- `ack_clear`. -/
def ackClear (dev : ConfigDevice) : ConfigDevice := {dev with lastAck := none}

/-- `send_config` up to its first write, when there is a transport: a send to everyone is not noted. -/
def sendConfig (c : Controller) (recv3 : Bytes) (option data0 : Int) (waitForAck : Bool) (sent : Nat) : Controller :=
  let recv3Hex := hexUpper recv3
  if recv3Hex ≠ "" ∧ recv3Hex ≠ "FFFFFF" then
    let c := c.stashPendingConfig recv3Hex option data0 sent
    match c.getDeviceFromAddress recv3Hex with
    | none => c
    | some dev => if waitForAck then c.change dev.addr ackClear else c
  else c

/-- The event of an ACK that a gateway has heard. -/
structure AckEvent where
  sender3 : Option Bytes
  ackOf : Option Int
  ackStatus : Option Int
  ackSeq : Option Int
deriving DecidableEq, Repr

/-- `_to_hex_str`. -/
def AckEvent.sender3Hex (ev : AckEvent) : String := (ev.sender3.map hexUpper).getD ""

def OPC_CONFIG : Int := 5

/-- What a device's OK to a config does: the pair that waits under its bytes is taken and applied. -/
def applyPending (c : Controller) (sender3Hex addr : String) : Controller :=
  match c.pendingConfig sender3Hex with
  | none => c
  | some pending =>
    let taken := {c.dropPendingConfig sender3Hex with applied := c.applied ++ [(⟨addr, pending.sent⟩ : Applied)]}
    taken.change addr (applyConfigUpdate pending.option pending.data0)

/-- `handle_ack_event`. -/
def handleAckEvent (c : Controller) (ev : AckEvent) : Controller :=
  match c.getDeviceFromAddress ev.sender3Hex with
  | none => c
  | some dev =>
    match ev.ackOf, ev.ackStatus with
    | some ackOf, some ackStatus =>
      let c := c.change dev.addr (ackUpdate ackOf ackStatus ev.ackSeq)
      if ackOf = OPC_CONFIG ∧ ackStatus = 0 then applyPending c ev.sender3Hex dev.addr else c
    | _, _ => c

/-! ### The air -/

/-- A config that was sent. -/
structure ConfigSend where
  recv3 : Bytes
  option : Int
  data0 : Int
deriving DecidableEq, Repr

def ConfigSend.recv3Hex (send : ConfigSend) : String := hexUpper send.recv3

/-- The last three bytes of a device's MAC. -/
def last3 (mac : Bytes) : Bytes := mac.drop (mac.length - 3)

/-- An ACK to a config: whose it is, and the send that it answers (which is not on the wire). -/
structure ConfigAck where
  mac : Bytes
  sent : Nat
  status : Int
deriving DecidableEq, Repr

/-- What the host makes of it. Each ACK has the same sequence number. -/
def ConfigAck.event (ack : ConfigAck) : AckEvent := ⟨some (last3 ack.mac), some OPC_CONFIG, some ack.status, some 0⟩

/-- The host, the sends it has begun, the frames and ACKs on their way, and (for reasoning only) which
device has accepted which send. -/
structure Air where
  controller : Controller
  sends : List ConfigSend := []
  frames : List Nat := []
  acks : List ConfigAck := []
  accepted : List (Bytes × Nat) := []

/-- What happens: a send begins, a transport writes its frame (again, too), a device that hears a frame
for it answers, the ACK comes in (again, too), any other ACK comes in, and frames and ACKs get lost. A
wait that times out leaves all this as it is. -/
inductive ConfigAct where
  | send (recv3 : Bytes) (option data0 : Int) (waitForAck : Bool)
  | write (sent : Nat)
  | answer (mac : Bytes) (sent : Nat) (status : Int)
  | deliver (ack : ConfigAck)
  | other (ev : AckEvent)
  | loseFrame (sent : Nat)
  | loseAck (ack : ConfigAck)
deriving DecidableEq, Repr

namespace Air

/-- The send is one to the last three bytes of a device. -/
def To (w : Air) (sent : Nat) (mac : Bytes) : Prop := ∃ send ∈ w.sends[sent]?, send.recv3 = last3 mac

instance (w : Air) (sent : Nat) (mac : Bytes) : Decidable (w.To sent mac) :=
  inferInstanceAs (Decidable (∃ send ∈ w.sends[sent]?, send.recv3 = last3 mac))

def step (w : Air) : ConfigAct → Air
  | .send recv3 option data0 waitForAck =>
    {w with
      controller := sendConfig w.controller recv3 option data0 waitForAck w.sends.length
      sends := w.sends ++ [⟨recv3, option, data0⟩]}
  | .write sent => if sent < w.sends.length then {w with frames := sent :: w.frames} else w
  | .answer mac sent status =>
    if sent ∈ w.frames ∧ w.To sent mac then
      {w with
        acks := ⟨mac, sent, status⟩ :: w.acks
        accepted := if status = 0 then (mac, sent) :: w.accepted else w.accepted}
    else w
  | .deliver ack => if ack ∈ w.acks then {w with controller := handleAckEvent w.controller ack.event} else w
  | .other ev =>
    if ev.ackOf = some OPC_CONFIG ∧ ev.ackStatus = some 0 then w
    else {w with controller := handleAckEvent w.controller ev}
  | .loseFrame sent => {w with frames := w.frames.filter (· ≠ sent)}
  | .loseAck ack => {w with acks := w.acks.filter (· ≠ ack)}

/-- A fleet to which nothing was sent. -/
def quiet (devices : List ConfigDevice) : Air where
  controller := {devices}

/-! ### What is to hold -/

/-- Nothing is applied. -/
structure Untouched (c c' : Controller) : Prop where
  applied : c'.applied = c.applied
  bytes : c'.configBytes = c.configBytes

/-- **An ACK applies the send that it answers**, which went to the device of the record and was accepted by
it, and was not applied before. -/
structure Attributed (w : Air) (c' : Controller) (ack : ConfigAck) (addr : String) (send : ConfigSend) : Prop where
  ok : ack.status = 0
  record : upper addr = hexUpper ack.mac
  sent : w.sends[ack.sent]? = some send
  target : send.recv3 = last3 ack.mac
  accepted : (ack.mac, ack.sent) ∈ w.accepted
  first : ack.sent ∉ w.controller.applied.map (·.sent)
  applied : c'.applied = w.controller.applied ++ [⟨addr, ack.sent⟩]
  bytes : c'.configBytes =
    (w.controller.change addr (applyConfigUpdate (send.option % 256).toNat (send.data0 % 256).toNat)).configBytes

/-- **What a step is to leave.** -/
def StepRight (w : Air) (act : ConfigAct) : Prop :=
  Untouched w.controller (w.step act).controller ∨
    ∃ ack addr send, act = .deliver ack ∧ Attributed w (w.step act).controller ack addr send

/-! ### When it does -/

/-- No later config went to the same three bytes. -/
def Newest (w : Air) (sent : Nat) (recv3Hex : String) : Prop :=
  ∀ m later, sent < m → w.sends[m]? = some later → later.recv3Hex ≠ recv3Hex

/-- An OK to a config finds nothing to apply, or it answers the config that was sent last to the device's
three bytes, and the record found by these is the device's. -/
def Coherent (w : Air) : ConfigAct → Prop
  | .deliver ack => ack ∈ w.acks → ack.status = 0 →
    ∀ dev, w.controller.getDeviceFromAddress (hexUpper (last3 ack.mac)) = some dev →
      w.controller.pendingConfig (hexUpper (last3 ack.mac)) ≠ none →
        upper dev.addr = hexUpper ack.mac ∧ w.Newest ack.sent (hexUpper (last3 ack.mac))
  | _ => True

end Air

end RaceLink.Pending
