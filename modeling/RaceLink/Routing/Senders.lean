import RaceLink.Dispatch.Planner
import RaceLink.Routing.Host

/-! What the senders hand to the transports (`services/control_service.py`,
`services/sync_service.py`, and the parts of `gateway_service.py` and
`transport/` they end in).

A sender answers or raises, and has handed over some frames by then. The body is
built once the transport is known, so a parameter that is no number raises before
anything is sent; in a fan-out each worker's exception is its own. -/
namespace RaceLink.Routing
open Python Library Domain Protocol Scenes Dispatch

/-! ### Frames -/

inductive Opcode where
  | preset
  | control
  | offset
  | sync
  | stream
deriving DecidableEq, Repr

/-- What `_send_m2n` writes to a transport, and for whom (which is not on the wire): a
sync is for nobody in particular. -/
structure Frame where
  transport : Transport
  opcode : Opcode
  destination : Option Destination
  recv3 : Bytes
  body : Bytes
deriving DecidableEq, Repr

def everyone : Bytes := [0xFF, 0xFF, 0xFF]

def hexValue (c : Char) : Option Nat :=
  if '0' ≤ c ∧ c ≤ '9' then some (c.toNat - 48)
  else if 'A' ≤ c ∧ c ≤ 'F' then some (c.toNat - 55)
  else if 'a' ≤ c ∧ c ≤ 'f' then some (c.toNat - 87)
  else none

/-- `bytes.fromhex`: pairs of digits, with ASCII whitespace before a pair. -/
def fromhex : List Char → Option Bytes
  | [] => some []
  | c :: rest =>
    if c = ' ' ∨ (9 ≤ c.toNat ∧ c.toNat ≤ 13) then fromhex rest
    else match rest with
      | [] => none
      | d :: rest => do
        let high ← hexValue c
        let low ← hexValue d
        let bytes ← fromhex rest
        return UInt8.ofNat (16 * high + low) :: bytes

/-- `mac_last3_from_hex`: the last six digits, everyone if there are fewer. -/
def macLast3FromHex (mac12 : String) : Except PyError Bytes :=
  let mac := ((stripChars mac12.toList).filter (· ≠ ':')).flatMap upperChar
  match fromhex (if mac.length < 6 then "FFFFFF".toList else mac.drop (mac.length - 6)) with
  | some recv3 => .ok recv3
  | none => .error (.valueError "non-hexadecimal number found in fromhex()" [])

/-- `_send_m2n`. -/
def sendM2n (opcode : Opcode) (destination : Option Destination) (recv3 body : Bytes) (t : Transport) :
    Except PyError Frame :=
  if recv3.length = 3 then .ok ⟨t, opcode, destination, recv3, body⟩
  else .error (.valueError "recv3 must be 3 bytes" [])

/-! ### One send -/

/-- What a sender answers or raises, and what it has handed over by then. -/
structure Sent where
  answer : Except PyError Bool
  frames : List Frame

def Sent.nothing : Sent := ⟨.ok false, []⟩

/-- One frame on one transport; without a transport the sender fails. -/
def sendOn (send : Transport → Except PyError Frame) : Option Transport → Sent
  | none => .nothing
  | some t =>
    match send t with
    | .ok frame => ⟨.ok true, [frame]⟩
    | .error e => ⟨.error e, []⟩

/-- `broadcast_fanout`: a worker that raises sends nothing, and nobody hears of it. -/
def broadcastFanout (send : Transport → Except PyError Frame) (transports : List Transport) :
    List Frame :=
  transports.filterMap fun t => (send t).toOption

/-- A fan-out fails only if there is no transport for it. -/
def fanOut (send : Transport → Except PyError Frame) : List Transport → Sent
  | [] => .nothing
  | transports => ⟨.ok true, broadcastFanout send transports⟩

/-- How every sender ends: a group is sent to everyone with its number, over its own
transport or over those of an explicit target; a device over its own. -/
def sendTo (h : Host) (opcode : Opcode) (build : Int → Except PyError Bytes)
    (destination : Destination) (target : Option (List String)) : Sent :=
  match destination with
  | .group groupId =>
    let send := fun t => do
      let body ← build (groupId % 256)
      sendM2n opcode (some destination) everyone body t
    match target with
    | none => sendOn send (h.transportForGroupSend (groupId % 256))
    | some _ => fanOut send (h.resolveBroadcastTransports target)
  | .device d =>
    sendOn (fun t => do
      let recv3 ← macLast3FromHex d.addr
      let body ← build (d.groupId % 256)
      sendM2n opcode (some destination) recv3 body t) (h.transportForDeviceSend d)

/-- Where `sendTo` sends. -/
def routes (h : Host) (destination : Destination) (target : Option (List String)) : List Transport :=
  match destination, target with
  | .group groupId, none => (h.transportForGroupSend (groupId % 256)).toList
  | .group _, some networkIds => h.resolveBroadcastTransports (some networkIds)
  | .device d, _ => (h.transportForDeviceSend d).toList

theorem sendM2n_ok {opcode : Opcode} {destination : Option Destination} {recv3 body : Bytes}
    {t : Transport} {frame : Frame} (h : sendM2n opcode destination recv3 body t = .ok frame) :
    frame = ⟨t, opcode, destination, recv3, body⟩ := by
  unfold sendM2n at h
  split at h
  · exact (Except.ok.inj h).symm
  · cases h

theorem mem_broadcastFanout {send : Transport → Except PyError Frame} {transports : List Transport}
    {frame : Frame} : frame ∈ broadcastFanout send transports ↔ ∃ t ∈ transports, send t = .ok frame := by
  simp only [broadcastFanout, List.mem_filterMap]
  refine exists_congr fun t => and_congr_right fun _ => ?_
  cases send t <;> simp [Except.toOption]

/-- What the frame of a send on one transport is. -/
theorem mem_sendOn {send : Transport → Except PyError Frame} {t : Option Transport} {frame : Frame} :
    frame ∈ (sendOn send t).frames ↔ ∃ t' ∈ t.toList, send t' = .ok frame := by
  cases t with
  | none => simp [sendOn, Sent.nothing]
  | some t =>
    rw [sendOn]
    cases hsend : send t with
    | ok frame' => simp [hsend, eq_comm]
    | error e => simp [hsend]

theorem mem_fanOut {send : Transport → Except PyError Frame} {transports : List Transport} {frame : Frame} :
    frame ∈ (fanOut send transports).frames ↔ ∃ t ∈ transports, send t = .ok frame := by
  cases transports with
  | nil => simp [fanOut, Sent.nothing]
  | cons t rest => exact mem_broadcastFanout

/-- **A frame goes to a transport that its destination is routed to.** -/
theorem sendTo_routes {h : Host} {opcode : Opcode} {build : Int → Except PyError Bytes}
    {destination : Destination} {target : Option (List String)} {frame : Frame}
    (hframe : frame ∈ (sendTo h opcode build destination target).frames) :
    frame.transport ∈ routes h destination target ∧ frame.opcode = opcode ∧
      frame.destination = some destination := by
  cases destination with
  | device d =>
    obtain ⟨t, ht, hsend⟩ := mem_sendOn.mp hframe
    obtain ⟨recv3, -, hsend⟩ := bind_ok.mp hsend
    obtain ⟨body, -, hsend⟩ := bind_ok.mp hsend
    rw [sendM2n_ok hsend]
    exact ⟨ht, rfl, rfl⟩
  | group groupId =>
    cases target with
    | none =>
      obtain ⟨t, ht, hsend⟩ := mem_sendOn.mp hframe
      obtain ⟨body, -, hsend⟩ := bind_ok.mp hsend
      rw [sendM2n_ok hsend]
      exact ⟨ht, rfl, rfl⟩
    | some networkIds =>
      obtain ⟨t, ht, hsend⟩ := mem_fanOut.mp hframe
      obtain ⟨body, -, hsend⟩ := bind_ok.mp hsend
      rw [sendM2n_ok hsend]
      exact ⟨ht, rfl, rfl⟩

theorem sendOn_bodies {send : Transport → Except PyError Frame} {n : Nat}
    (hlength : ∀ t frame, send t = .ok frame → frame.body.length = n) {t : Option Transport}
    (hanswer : (sendOn send t).answer = .ok true) :
    (sendOn send t).frames.map (·.body.length) = List.replicate t.toList.length n ∧ t.toList ≠ [] := by
  cases t with
  | none => cases hanswer
  | some t =>
    rw [sendOn] at hanswer ⊢
    cases hsend : send t with
    | error e =>
      rw [hsend] at hanswer
      cases hanswer
    | ok frame => exact ⟨by simp [hlength t frame hsend], by simp⟩

theorem broadcastFanout_bodies {send : Transport → Except PyError Frame} {n : Nat}
    (hsend : ∀ t, ∃ frame, send t = .ok frame ∧ frame.body.length = n) (transports : List Transport) :
    (broadcastFanout send transports).map (·.body.length) = List.replicate transports.length n := by
  induction transports with
  | nil => rfl
  | cons t rest ih =>
    obtain ⟨frame, hframe, hlen⟩ := hsend t
    rw [List.length_cons, List.replicate_succ, ← ih, ← hlen, broadcastFanout, List.filterMap_cons, hframe]
    rfl

theorem fanOut_bodies {send : Transport → Except PyError Frame} {n : Nat}
    (hsend : ∀ t, ∃ frame, send t = .ok frame ∧ frame.body.length = n) {transports : List Transport}
    (hanswer : (fanOut send transports).answer = .ok true) :
    (fanOut send transports).frames.map (·.body.length) = List.replicate transports.length n ∧
      transports ≠ [] := by
  cases transports with
  | nil => cases hanswer
  | cons t rest => exact ⟨broadcastFanout_bodies hsend (t :: rest), List.cons_ne_nil t rest⟩

/-- The bodies of a send that answered: one on each route, all of the length the builder gives. -/
theorem sendTo_bodies {h : Host} {opcode : Opcode} {build : Int → Except PyError Bytes}
    {destination : Destination} {target : Option (List String)} {n : Nat}
    (hbuild : ∀ groupId, ∃ body, build groupId = .ok body ∧ body.length = n)
    (hanswer : (sendTo h opcode build destination target).answer = .ok true) :
    (sendTo h opcode build destination target).frames.map (·.body.length) =
        List.replicate (routes h destination target).length n ∧
      routes h destination target ≠ [] := by
  cases destination with
  | device d =>
    refine sendOn_bodies (fun t frame hsend => ?_) hanswer
    obtain ⟨recv3, -, hsend⟩ := bind_ok.mp hsend
    obtain ⟨body, hbody, hsend⟩ := bind_ok.mp hsend
    obtain ⟨body', hbody', hlen⟩ := hbuild (d.groupId % 256)
    rw [sendM2n_ok hsend, ← hlen, Except.ok.inj (hbody.symm.trans hbody')]
  | group groupId =>
    obtain ⟨body, hbody, hlen⟩ := hbuild (groupId % 256)
    have hsend : ∀ t, (build (groupId % 256) >>= fun body =>
        sendM2n opcode (some (.group groupId)) everyone body t) =
          .ok ⟨t, opcode, some (.group groupId), everyone, body⟩ := fun t => by
      rw [hbody]
      rfl
    cases target with
    | none =>
      refine sendOn_bodies (fun t frame hframe => ?_) hanswer
      rw [← Except.ok.inj ((hsend t).symm.trans hframe), hlen]
    | some networkIds => exact fanOut_bodies (fun t => ⟨_, hsend t, hlen⟩) hanswer

/-! ### The senders -/

/-- The flags byte; a brightness is always claimed. -/
def flagsOf (params : Dict) (powerOn : Bool) : Int :=
  buildFlagsByte powerOn true (params.get "arm_on_sync").truthy (params.get "force_tt0").truthy
    (params.get "force_reapply").truthy (params.get "offset_mode").truthy

/-- The keyword arguments of `send_control` for the body. -/
def controlArgs (params : Dict) : Except PyError (Int × ControlFields) := do
  let brightness ← intField params "brightness"
  let fields ← effectFields params brightness
  return (flagsOf params (0 < brightness.getD 0), fields)

/-- `send_control`. -/
def sendControl (h : Host) (params : Dict) (destination : Destination)
    (target : Option (List String)) : Sent :=
  if h.transports = [] then .nothing
  else match controlArgs params with
    | .error e => ⟨.error e, []⟩
    | .ok args =>
      sendTo h .control (fun groupId => buildControlBody groupId args.1 args.2) destination target

/-- The flags, the preset and the brightness of `send_wled_preset`. -/
def presetArgs (params : Dict) : Except PyError (Int × Int × Int) := do
  let presetId ← (params.getD "presetId" (.int 1)).toInt
  let brightness ← (params.getD "brightness" (.int 0)).toInt
  return (flagsOf params (0 < brightness), presetId % 256, brightness % 256)

/-- `send_wled_preset`. -/
def sendWledPreset (h : Host) (params : Dict) (destination : Destination)
    (target : Option (List String)) : Sent :=
  match presetArgs params with
  | .error e => ⟨.error e, []⟩
  | .ok args =>
    sendTo h .preset (fun groupId => .ok (buildPresetBody groupId args.1 args.2.1 args.2.2))
      destination target

/-- `send_offset`. -/
def sendOffset (h : Host) (targetGroup : Int) (config : OffsetConfig)
    (target : Option (List String)) : Sent :=
  sendTo h .offset (fun groupId => .ok (buildOffsetBody groupId config)) (.group targetGroup) target

/-- `send_sync` of the sync service and of the gateway service below it. -/
def sendSync (h : Host) (ts24 brightness : Int) (triggerArmed : Bool)
    (target : Option (List String)) : List Frame :=
  if h.transports = [] then []
  else broadcastFanout
    (sendM2n .sync none everyone (buildSyncBody (ts24 % 0x1000000) (brightness % 256)
      (if triggerArmed then SYNC_FLAG_TRIGGER_ARMED else 0)))
    (h.resolveBroadcastTransports target)

/-- The transport of `send_stream`, which falls back on the first for a device as well. -/
def transportForStream (h : Host) : Destination → Option Transport
  | .group groupId => (h.transportForGroup groupId).or h.transport
  | .device d => (h.transportForDevice d.addr).or h.transport

/-- The receiver of a stream. -/
def streamRecv3 : Destination → Except PyError Bytes
  | .group _ => .ok everyone
  | .device d => macLast3FromHex d.addr

/-- `send_startblock_control`. `streams` gives the payloads handed over, repeats included,
and how the call ends. -/
def sendStartblock (streams : Host → Dict → Destination → Except PyError Unit × List Bytes)
    (h : Host) (params : Dict) (destination : Destination) : Sent :=
  match h.transport, transportForStream h destination with
  | some _, some t =>
    let out := streams h params destination
    ⟨out.1.map fun _ => true, out.2.filterMap fun payload => (do
      let recv3 ← streamRecv3 destination
      sendM2n .stream (some destination) recv3 payload t).toOption⟩
  | _, _ => .nothing

/-! ### Ops -/

/-- The repositories, the transports, and every frame handed over so far. -/
structure World where
  host : Host
  frames : List Frame

/-- What the senders and the runner ask of the rest of the program. -/
structure Environment where
  inputs : Host → PlannerInputs
  clockMs : World → Int
  streams : Host → Dict → Destination → Except PyError Unit × List Bytes

/-- The call that `_dispatch_op` makes for an op. -/
def sendOp (env : Environment) (target : Option (List String)) (op : WireOp) (w : World) : Sent :=
  match op.payload with
  | .offset config => sendOffset w.host op.targetGroup config target
  | .control params destination => sendControl w.host params destination target
  | .wledPreset params destination => sendWledPreset w.host params destination target
  | .startblock params destination => sendStartblock env.streams w.host params destination
  | .sync brightness triggerArmed =>
    ⟨.ok true, sendSync w.host (env.clockMs w % 0x1000000) brightness triggerArmed target⟩

end RaceLink.Routing
