import RaceLink.Fleet.Groups

/-! What an IDENTIFY reply does to the fleet (`services/gateway_service.py`).

The reply makes the record or brings it up to date, and with it perhaps the group. The
network of the gateway that heard it then becomes the device's. A device without a
network takes its group along; one that moves leaves a group of another network. -/
namespace RaceLink.Fleet
open Python Library Domain Routing Gateways

/-- `_network_id_for_gateway_id`. -/
def networkIdForGatewayId (s : State) (gatewayId : Option String) : Option String :=
  match nonEmpty gatewayId with
  | none => none
  | some gid =>
    match s.transports.find? fun t => t.identMac == gid with
    | some t => nonEmpty t.networkId
    | none => if gid.startsWith "ETH:" then nonEmpty (some (gid.drop 4).copy) else none

/-- The record of a device that is heard for the first time. -/
def newDevice (ev : Identify) : DeviceRecord :=
  createDevice ev.caps { addr := ev.mac12, name := defaultDeviceName ev.mac12 } []

/-- The device as it reports itself: known or new, with what the reply says. -/
def heard (s : State) (ev : Identify) : DeviceRecord :=
  ((deviceAt s ev.mac12).getD (newDevice ev)).updateFromIdentify ev

/-- The record is made or brought up to date. -/
def hear (s : State) (ev : Identify) : State :=
  match deviceAt s ev.mac12 with
  | none => {s with devices := s.devices ++ [(newDevice ev).updateFromIdentify ev]}
  | some _ => changeDevice s ev.mac12 (·.updateFromIdentify ev)

/-- A device that moves leaves its group, if that belongs to another network. -/
def leavesGroup (s : State) (d : DeviceRecord) (new : String) : Bool :=
  0 < d.groupId && match s.groups[d.groupId.toNat]? with
    | none => false
    | some group => (nonEmpty group.networkId).any fun n => n != new

/-- The settings of a network that its devices are on, unless there are none. -/
def knownConfig (s : State) (networkId : String) : Option Dict :=
  ((s.networkById networkId).bind (·.rfConfig)).filter fun cfg => !cfg.isEmpty

/-- `_relocate_device_network`. -/
def relocateDeviceNetwork (s : State) (d : DeviceRecord) (new : String) : State :=
  let leaves := leavesGroup s d new
  let s := changeDevice s d.addr fun d =>
    {d with
      groupId := if leaves then 0 else d.groupId
      networkId := some new
      lastKnownRfConfig := (knownConfig s new).or d.lastKnownRfConfig}
  if leaves then (reconcileGroupNetwork s d.groupId).2 else s

/-- The device is put on the network of the gateway that heard it. -/
def bindHeard (s : State) (d : DeviceRecord) (inferred : Option String) : State :=
  match inferred with
  | none => s
  | some new =>
    if d.networkId.getD "" = new then s
    else if (network d).isSome then relocateDeviceNetwork s d new
    else (reconcileGroupNetwork (changeDevice s d.addr fun d => {d with networkId := some new}) d.groupId).2

/-- `_restore_known_device_group`, up to the SET_GROUP: a group that is gone is forgotten. -/
def restoreKnownDeviceGroup (s : State) (mac12 : String) (reportedGroup : Int) (known discovering : Bool) : State :=
  match deviceAt s mac12 with
  | none => s
  | some d =>
    if known = false ∨ reportedGroup % 256 ≠ 0 ∨ discovering = true then s
    else if (s.groups.length : Int) ≤ d.groupId % 256 then
      changeDevice s mac12 fun d => {d with groupId := 0}
    else s

/-- The IDENTIFY branch of `on_transport_event`, for a frame's body and the gateway it came from. -/
def identify (s : State) (body : Bytes) (gatewayId : Option String) (discovering : Bool) : State :=
  match parseIdentify body with
  | none => s
  | some ev =>
    let known := (deviceAt s ev.mac12).isSome
    let d := heard s ev
    let s := bindHeard (hear s ev) d (networkIdForGatewayId s gatewayId)
    restoreKnownDeviceGroup s ev.mac12 ev.groupId known discovering

end RaceLink.Fleet
