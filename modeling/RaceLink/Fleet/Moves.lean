import RaceLink.Fleet.Regroup
import RaceLink.Gateways.Migration

/-! Devices and groups that are moved to another network
(`services/rf_migration_service.py`).

A device is filed under its new network before it is told, and stays there whatever it
answers; its group is left alone. The move of groups moves their members first, and then
files the groups under the network even if the members were refused. -/
namespace RaceLink.Fleet
open Python Library Domain Routing Gateways

/-! ### The result -/

inductive MoveStatus where
  | notFound
  | alreadyOnTarget
  | offlineMetadataOnly
  | pushed
  | pushFailed (ackStatus : Option Int) (error : Option String)
deriving DecidableEq, Repr

/-- An entry of `per_device`. -/
structure MoveEntry where
  mac : String
  status : MoveStatus
deriving DecidableEq, Repr

structure MoveSummary where
  totalRequested : Nat
  notFound : List String
  alreadyOnTarget : List String
  offlineSkipped : List String
  pushCount : Nat
  pushedOk : Nat
  pushedFail : Nat
  metadataFlipped : Nat
deriving DecidableEq, Repr

/-- The dict that the moves answer with; a request that is not valid has no summary. -/
structure MoveResult where
  ok : Bool
  stage : String
  error : Option (String × List Json) := none
  detail : List (String × Json) := []
  targetNetworkId : Option String := none
  perDevice : List MoveEntry := []
  stranded : List String := []
  summary : Option MoveSummary := none
  groupIds : Option (List Int) := none
  groupsFlipped : Option (List Int) := none
deriving DecidableEq, Repr

/-- What a move answers or raises, the frames it handed over, the addresses of the records that ACKs were
written into, and the state it leaves. -/
structure Moved where
  answer : Except PyError MoveResult
  frames : List RfFrame := []
  acked : List String := []
  state : State

def moveRefused (text : String) (args : List Json) : MoveResult where
  ok := false
  stage := "validate"
  error := some (text, args)

/-! ### Devices -/

/-- The MACs of a request, each once. -/
def cleanMacs (macs : List String) : List String :=
  keepFirst id [] ((macs.map fun m => upper (strip m)).filter (· ≠ ""))

inductive MoveChoice where
  | notFound
  | alreadyOnTarget
  | offline
  | push
deriving DecidableEq, Repr

/-- Where the pre-check sorts a MAC. -/
def moveChoice (s : State) (target : String) (force : Bool) (mac : String) : MoveChoice :=
  match deviceAt s mac with
  | none => .notFound
  | some d =>
    if d.networkId.getD "" = target then .alreadyOnTarget
    else if d.linkOnline = false ∧ force = false then .offline
    else .push

/-- The entry of a MAC that the pre-check is done with. -/
def checkEntry (s : State) (target : String) (force : Bool) (mac : String) : Option MoveEntry :=
  match moveChoice s target force mac with
  | .notFound => some ⟨mac, .notFound⟩
  | .alreadyOnTarget => some ⟨mac, .alreadyOnTarget⟩
  | _ => none

def filedUnder (target : String) (rf : Dict) (d : DeviceRecord) : DeviceRecord :=
  {d with networkId := some target, lastKnownRfConfig := some rf}

/-- `_apply_metadata_flip`. -/
def applyMetadataFlip (target : String) (rf : Dict) (s : State) (mac : String) : State :=
  changeDevice s mac (filedUnder target rf)

/-- A device is filed under the network, and offline until it is heard there. -/
def fileMove (target : String) (rf : Dict) (s : State) (mac : String) : State :=
  changeDevice (applyMetadataFlip target rf s mac) mac markOffline

/-- A device is filed under the network, and then told to go there, over the transport
that it had before. -/
def pushMove (target : String) (rf : Dict) (air : String → Exchange) (s : State) (mac : String) :
    MoveEntry × List RfFrame × State :=
  let source := s.transportForDevice mac
  let (outcome, frames, s) := pushRf (fileMove target rf s mac) mac rf source (air mac)
  (⟨mac, if outcome.ok then .pushed else .pushFailed outcome.ackStatus outcome.error⟩, frames, s)

theorem pushMove_state (target : String) (rf : Dict) (air : String → Exchange) (s : State) (mac : String) :
    (pushMove target rf air s mac).2 =
      (pushRf (fileMove target rf s mac) mac rf (s.transportForDevice mac) (air mac)).2 := by
  rw [pushMove]

/-- The network that a move goes to, and its settings. -/
def moveTarget (s : State) (target : String) : Except PyError (Except MoveResult Dict) :=
  match s.networkById target with
  | none => .ok (.error (moveRefused "unknown target network_id %r" [.str target]))
  | some network => do
    match ← normalizeRfConfig network.rfConfig with
    | none => return .error (moveRefused
        "target network %r has no rf_config — configure it via NetworkManager first" [.str target])
    | some rf => return .ok rf

/-- `migrate_devices_to` once its target is known. -/
def moveDevices (s : State) (target : String) (rf : Dict) (macs : List String) (force : Bool)
    (air : String → Exchange) : MoveResult × List RfFrame × State :=
  let sorted := fun choice => macs.filter fun mac => moveChoice s target force mac == choice
  let offline := sorted .offline
  let filed := offline.foldl (applyMetadataFlip target rf) s
  let (pushed, frames, told) := pushEach (pushMove target rf air) (sorted .push) filed
  let failed := pushed.filter fun e => e.status != .pushed
  let checked := macs.filterMap (checkEntry s target force)
  let flipped := offline.length + pushed.length
  ({ ok := failed.isEmpty && (sorted .notFound).isEmpty, stage := "done", targetNetworkId := some target,
     perDevice := checked ++ offline.map (⟨·, .offlineMetadataOnly⟩) ++ pushed,
     stranded := failed.map (·.mac),
     summary := some
       { totalRequested := macs.length, notFound := sorted .notFound,
         alreadyOnTarget := sorted .alreadyOnTarget, offlineSkipped := offline, pushCount := pushed.length,
         pushedOk := pushed.length - failed.length, pushedFail := failed.length,
         metadataFlipped := flipped } },
    frames, if flipped = 0 then told else told.save)

/-- The records that the ACKs of some pushes are written into. -/
def ackedBy (target : String) (rf : Dict) (air : String → Exchange) : List String → State → List String
  | [], _ => []
  | mac :: rest, s =>
    (acknowledged (fileMove target rf s mac) mac (s.transportForDevice mac) (air mac)).toList ++
      ackedBy target rf air rest (pushMove target rf air s mac).2.2

/-- The records that the ACKs of a move are written into: those of its pushes, once the devices that are not
told are filed. -/
def moveAcks (s : State) (target : String) (rf : Dict) (macs : List String) (force : Bool)
    (air : String → Exchange) : List String :=
  let sorted := fun choice => macs.filter fun mac => moveChoice s target force mac == choice
  ackedBy target rf air (sorted .push) ((sorted .offline).foldl (applyMetadataFlip target rf) s)

/-- `migrate_devices_to`, with `force` for the offline mode of that name. -/
def migrateDevicesTo (s : State) (target : String) (macs : List String) (force : Bool)
    (air : String → Exchange) : Moved :=
  match moveTarget s target with
  | .error e => {answer := .error e, state := s}
  | .ok (.error refused) => {answer := .ok refused, state := s}
  | .ok (.ok rf) =>
    let acked := moveAcks s target rf (cleanMacs macs) force air
    let (result, frames, s) := moveDevices s target rf (cleanMacs macs) force air
    {answer := .ok result, frames, acked, state := s}

/-! ### Groups -/

def kindName : NetworkKind → String
  | .rf => "rf"
  | .ethernet => "ethernet"

/-- `validate_network_kind_match`, for networks that are all different. -/
def validateNetworkKindMatch (target : NetworkRecord) (sources : List NetworkRecord) :
    Except BoundaryViolation Unit :=
  match sources.filter fun n => n.kind ≠ target.kind with
  | [] => .ok ()
  | first :: rest => .error
      { reason := "Cannot migrate across network types: the target network is '%s' but the selection " ++
          "lives on %d '%s' network(s). RF and Ethernet networks cannot be mixed."
        args := [.str (kindName target.kind), .int (rest.length + 1), .str (kindName first.kind)]
        detail := [("code", .str "network_kind_mismatch"), ("target_kind", .str (kindName target.kind)),
          ("target_network_id", .str target.id),
          ("source_networks", .arr ((first :: rest).map fun n =>
            dict [("network_id", .str n.id), ("kind", .str (kindName n.kind))]))] }

/-- The ids of a request as bytes, each once. -/
def cleanGroupIds (groupIds : List Int) : List Int := keepFirst id [] (groupIds.map (· % 256))

/-- The networks that some groups are on. -/
def sourceNetworks (s : State) (groupIds : List Int) : List NetworkRecord :=
  (keepFirst id [] (groupIds.filterMap fun g => s.groups[g.toNat]?.bind fun group =>
    nonEmpty group.networkId)).filterMap s.networkById

/-- The checks of `migrate_groups_to`, on ids that are bytes. -/
def checkGroups (s : State) (target : String) (groupIds : List Int) : Except MoveResult Unit :=
  match s.networkById target with
  | none => .error (moveRefused "unknown target network_id %r" [.str target])
  | some network =>
    if groupIds = [] then .error (moveRefused "group_ids must be a non-empty list" [])
    else
      let unknown := groupIds.filter fun g => (s.groups[g.toNat]?).isNone
      if unknown ≠ [] then .error (moveRefused "unknown group_id(s): %s" [.arr (unknown.map .int)])
      else match validateNetworkKindMatch network (sourceNetworks s groupIds) with
        | .ok () => .ok ()
        | .error violation =>
          .error {moveRefused violation.reason violation.args with detail := violation.detail}

/-- The MACs of the members of some groups. -/
def memberMacs (s : State) (groupIds : List Int) : List String :=
  keepFirst id []
    (((s.devices.filter fun d => d.groupId ∈ groupIds).map fun d => upper d.addr).filter (· ≠ ""))

/-- `group.network_id = target`. -/
def flipGroup (target : String) (s : State) (groupId : Int) : State :=
  {s with groups := s.groups.modify groupId.toNat fun group => {group with networkId := some target}}

/-- `migrate_groups_to`. -/
def migrateGroupsTo (s : State) (target : String) (groupIds : List Int) (force : Bool)
    (air : String → Exchange) : Moved :=
  let ids := cleanGroupIds groupIds
  match checkGroups s target ids with
  | .error refused =>
    let known := (s.networkById target).isSome
    let result := {refused with groupIds := some (if known then ids else groupIds), groupsFlipped := some []}
    {answer := .ok result, state := s}
  | .ok () =>
    let moved := migrateDevicesTo s target (memberMacs s ids) force air
    match moved.answer with
    | .error _ => moved
    | .ok result =>
      { answer := .ok {result with groupIds := some ids, groupsFlipped := some ids}
        frames := moved.frames
        acked := moved.acked
        state := (ids.foldl (flipGroup target) moved.state).save }

end RaceLink.Fleet
