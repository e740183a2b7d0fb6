import RaceLink.Fleet.Identify
import RaceLink.Gateways.Networks

/-! Devices that are put into a group: by a discovery that collects who answers
(`services/discovery_service.py`), and by the request that regroups a selection
(`web/api.py`, with the check of `domain/network_boundary.py`).

The request is checked first, and derives anew every group that a device left or joined.
A discovery has no check and derives only the group it fills. -/
namespace RaceLink.Fleet
open Python Library Domain Routing Gateways

/-! ### SET_GROUP -/

/-- `mac_last3_from_hex` gives the broadcast address. -/
def broadcastAddr (addr : String) : Bool :=
  let mac := (upper (strip addr)).toList.filter fun c => c != ':'
  mac.length < 6 || mac.drop (mac.length - 6) == "FFFFFF".toList

/-- `setNodeGroupId`, for the status that the device acknowledges with, if it does. -/
def setNodeGroupId (s : State) (addr : String) (answer : Option Int) : Bool × State :=
  match s.host.transportForDevice addr with
  | none => (false, s)
  | some _ =>
    if broadcastAddr addr then (true, s)
    else match answer with
      | none => (false, changeDevice s addr markOffline)
      | some status => (status == 0, s)

/-! ### Discovery -/

/-- A responder joins the group of the discovery. -/
def collect (group : Int) (answers : String → Option Int) (s : State) (responder : String) : State :=
  match deviceAt s responder with
  | none => s
  | some d =>
    (setNodeGroupId (changeDevice s responder fun d => {d with groupId := group}) d.addr (answers responder)).2

/-- `discover_devices` once the replies are in, and the group it assigned. -/
def discoverDevices (s : State) (addToGroup : Int) (responders : List String) (answers : String → Option Int) :
    Option Int × State :=
  if 0 < addToGroup ∧ addToGroup < 255 then
    let s := responders.foldl (collect addToGroup answers) s
    (some addToGroup, (reconcileGroupNetwork s addToGroup).2)
  else (none, s)

/-! ### The boundary -/

/-- `NetworkBoundaryViolation`. -/
structure BoundaryViolation where
  reason : String
  args : List Json
  detail : List (String × Json)
deriving DecidableEq, Repr

/-- The networks of a selection, each with its devices. -/
def networksSeen (devices : List DeviceRecord) : List (String × List String) :=
  (keepFirst id [] (devices.filterMap network)).map fun n =>
    (n, (devices.filter fun d => network d = some n).map (·.addr))

/-- `validate_group_membership`. -/
def validateGroupMembership (devices : List DeviceRecord) (target : Option GroupRecord) (targetGroupId : Int) :
    Except BoundaryViolation Unit :=
  if targetGroupId = 0 then .ok ()
  else
    match networksSeen devices with
    | [] => .ok ()
    | [(device, macs)] =>
      match target with
      | none => .ok ()
      | some group =>
        match nonEmpty group.networkId with
        | none => .ok ()
        | some network =>
          if device = network then .ok ()
          else .error
            { reason := "Group '%s' belongs to a different network than the selected devices. " ++
                "Migrate the devices to the target network first (Stage-3 RF migration), " ++
                "then re-run this action."
              args := [if group.name ≠ "" then .str group.name else .int targetGroupId]
              detail := [("code", .str "group_network_mismatch"), ("device_network_id", .str device),
                ("group_network_id", .str network), ("device_macs", .arr (macs.map .str)),
                ("group_id", .int targetGroupId), ("group_name", .str group.name)] }
    | seen => .error
        { reason := "Selected devices span multiple networks (%d different network_ids); " ++
            "move them one network at a time."
          args := [.int seen.length]
          detail := [("code", .str "devices_span_multiple_networks"),
            ("networks", dict (seen.map fun e => (e.1, .arr (e.2.map .str))))] }

/-! ### Bulk regroup -/

/-- The body of an update request, with its MACs as texts. -/
structure MetaBody where
  macs : List String
  groupId : Json := .null
  name : Json := .null
  names : Json := .null
deriving DecidableEq, Repr

/-- A name that the operator typed; a blank one stands for the default. -/
def chosenName (raw : Json) (mac : String) : String :=
  match raw with
  | .str text => if strip text ≠ "" then strip text else defaultDeviceName mac
  | _ => defaultDeviceName mac

/-- The new name of a device: one of several, or the only one's. -/
def newName (body : MetaBody) (mac : String) : Option String :=
  let own := match body.names with
    | .obj names => Dict.get? names mac
    | _ => none
  match own, body.name with
  | some raw, _ => some (chosenName raw mac)
  | none, .str text => if body.macs.length = 1 then some (chosenName (.str text) mac) else none
  | none, _ => none

/-- The counts of `_apply_device_meta_updates`. -/
structure MetaCounts where
  changed : Nat := 0
  skippedOffline : Nat := 0
  timedOut : Nat := 0
deriving DecidableEq, Repr

/-- The state of the loop: with the groups whose members changed. -/
structure MetaRun where
  state : State
  counts : MetaCounts := {}
  affected : List Int := []

/-- A device is renamed. -/
def MetaRun.rename (r : MetaRun) (mac : String) : Option String → MetaRun
  | none => r
  | some name =>
    {r with
      state := changeDevice r.state mac fun d => {d with name}
      counts := {r.counts with changed := r.counts.changed + 1}}

/-- A device is moved, and told so if it is online. -/
def MetaRun.move (r : MetaRun) (mac : String) (d : DeviceRecord) (group : Int) (answer : Option Int) : MetaRun :=
  let s := changeDevice r.state mac fun d => {d with groupId := group}
  let affected := (r.affected.insert d.groupId).insert group
  if d.linkOnline = false then
    ⟨s, {r.counts with skippedOffline := r.counts.skippedOffline + 1}, affected⟩
  else
    let (ok, s) := setNodeGroupId s d.addr answer
    if ok then ⟨s, {r.counts with changed := r.counts.changed + 1}, affected⟩
    else ⟨s, {r.counts with timedOut := r.counts.timedOut + 1}, affected⟩

/-- One pass of the loop. -/
def MetaRun.next (body : MetaBody) (newGroup : Option Int) (answers : String → Option Int) (r : MetaRun)
    (mac : String) : MetaRun :=
  match deviceAt r.state mac with
  | none => r
  | some d =>
    let r := r.rename mac (newName body mac)
    match newGroup with
    | none => r
    | some group => r.move mac d group (answers mac)

/-- The groups are derived anew. -/
def reconcileAll (s : State) (groupIds : List Int) : State :=
  groupIds.foldl (fun s groupId => (reconcileGroupNetwork s groupId).2) s

/-- `_apply_device_meta_updates`. -/
def applyDeviceMetaUpdates (s : State) (body : MetaBody) (newGroup : Option Int)
    (answers : String → Option Int) : MetaCounts × State :=
  let r := body.macs.foldl (MetaRun.next body newGroup answers) ⟨s, {}, []⟩
  (r.counts, reconcileAll r.state r.affected)

/-- The group of a request as the check reads it. -/
def targetGroupId (raw : Json) : Except PyError Int :=
  match raw.toInt with
  | .ok n => .ok n
  | .error .overflowError => .error .overflowError
  | .error _ => .ok (-1)

/-- The check of a request that moves devices, and the group it names. -/
def checkUpdateMeta (s : State) (body : MetaBody) : Except ApiError Int := do
  match targetGroupId body.groupId with
  | .error e => .error (.raised e)
  | .ok target =>
    let group := if 0 ≤ target then s.groups[target.toNat]? else none
    match validateGroupMembership (body.macs.filterMap (deviceAt s)) group target with
    | .error violation => .error (.refused 400 violation.reason violation.args violation.detail)
    | .ok () =>
      match body.groupId.toInt with
      | .error e => .error (.raised e)
      | .ok newGroup => .ok newGroup

/-- `api_devices_update_meta`. -/
def apiDevicesUpdateMeta (s : State) (body : MetaBody) (answers : String → Option Int) :
    Except ApiError MetaCounts × State :=
  if body.groupId = .null then
    let (counts, s) := applyDeviceMetaUpdates s body none answers
    (.ok counts, s.save)
  else
    match checkUpdateMeta s body with
    | .error e => (.error e, s)
    | .ok newGroup =>
      let (counts, s) := applyDeviceMetaUpdates s body (some newGroup) answers
      (.ok counts, s.save)

end RaceLink.Fleet
