import RaceLink.Gateways.Networks
import RaceLink.Gateways.Push

/-! The migration of a network onto other RF settings (`services/rf_migration_service.py`):
first its devices, then its gateway, then what the network expects.

The target is not compared with the other networks. -/
namespace RaceLink.Gateways
open Python Library Domain Routing

/-! ### What is asked of the outside -/

/-- What the devices and the gateway answer to a migration: what happens on air to each
push by its MAC, the gateway's refusal (none, if it takes the settings), who is heard
afterwards, and what the gateway then reports. -/
structure MigrationAnswers where
  air : String → Exchange
  refusal : Option String := none
  responders : List String := []
  report : Option RfSettings := none
  token : String

/-! ### The result -/

inductive PushStatus where
  | pushed
  | pushFailed (ackStatus : Option Int) (error : Option String)
  | verified
  | stranded
deriving DecidableEq, Repr

/-- An entry of `per_device`. -/
structure DeviceEntry where
  mac : String
  status : PushStatus
deriving DecidableEq, Repr

structure MigrationSummary where
  totalDevicesOnNetwork : Nat
  skippedAlreadyTarget : List String
  skippedOffline : List String
  pushCount : Nat
  pushedOk : Nat
  pushedFail : Nat
  verified : List String
deriving DecidableEq, Repr

/-- The dict that `migrate_network_to` answers with; a request that is not valid has no summary. -/
structure MigrationResult where
  ok : Bool
  stage : String
  error : Option (String × List Json) := none
  detail : List (String × Json) := []
  networkId : Option String := none
  identMac : Option String := none
  perDevice : List DeviceEntry := []
  stranded : List String := []
  summary : Option MigrationSummary := none
deriving DecidableEq, Repr

/-- What a migration answers or raises, the frames it handed over, and the state it leaves. -/
structure Migrated where
  answer : Except PyError MigrationResult
  frames : List RfFrame := []
  state : State

/-! ### The phases -/

def notValid (text : String) (args : List Json) (detail : List (String × Json)) : MigrationResult where
  ok := false
  stage := "validate"
  error := some (text, args)
  detail := detail

/-- What a migration is about: the settings, the network and its transport. -/
structure MigrationPlan where
  target : Dict
  network : NetworkRecord
  transport : Attached
deriving DecidableEq, Repr

/-- The checks of `migrate_network_to`. -/
def planMigration (s : State) (networkId : String) (targetRfConfig : Dict) :
    Except PyError (Except MigrationResult MigrationPlan) := do
  match ← normalizeRfConfig (some targetRfConfig) with
  | none => return .error (notValid "target_rf_config is missing wire-format fields" [] [])
  | some target =>
    match s.networkById networkId with
    | none => return .error (notValid "unknown network_id %r" [.str networkId] [])
    | some network =>
      if network.kind ≠ .rf then
        return .error (notValid "network %r is a '%s' network — RF migration only applies to RF networks"
          [.str networkId, .str "ethernet"]
          [("code", .str "network_kind_mismatch"), ("target_kind", .str "rf"),
            ("target_network_id", .str networkId),
            ("source_networks", .arr [dict [("network_id", .str networkId), ("kind", .str "ethernet")]])])
      match s.transportForNetwork networkId with
      | none =>
        return .error (notValid ("network %r has no attached transport — plug the gateway in or bind it " ++
          "via the wizard first") [.str networkId] [])
      | some transport => return .ok ⟨target, network, transport⟩

inductive PushChoice where
  | nameless
  | already
  | offline
  | push
deriving DecidableEq, Repr

/-- Whether a device takes part: the body of the loop of the pre-check. -/
def pushChoice (target : Dict) (force : Bool) (d : DeviceRecord) : Except PyError PushChoice :=
  if upper d.addr = "" then .ok .nameless
  else do
    if ← rfEqual d.lastKnownRfConfig (some target) then return .already
    else if force = false ∧ d.linkOnline = false then return .offline
    else return .push

/-- The MACs of the devices with a choice. -/
def chosen (choice : PushChoice) (choices : List (DeviceRecord × PushChoice)) : List String :=
  (choices.filter fun e => e.2 == choice).map fun e => upper e.1.addr

/-- The push to a device over the transport of the network, and its entry. -/
def pushToNetwork (plan : MigrationPlan) (air : String → Exchange) (s : State) (mac : String) :
    DeviceEntry × List RfFrame × State :=
  let (outcome, frames, s) := pushRf s mac plan.target (some plan.transport) (air mac)
  (⟨mac, if outcome.ok then .pushed else .pushFailed outcome.ackStatus outcome.error⟩, frames, s)

/-- `set_gateway_rf_config`, as far as its refusal; only a serial transport can send it. -/
def gatewayRefusal (t : Attached) (refusal : Option String) : Option String :=
  match t.kind with
  | .rf => refusal
  | .ethernet => some "no reply within timeout"

/-- Who is heard after the reboot. -/
def seenAfter (responders : List String) : List String :=
  (responders.map fun m => upper (strip m)).filter fun m => m.length = 12

/-- An entry after the verification. -/
def verifyEntry (seen : List String) (e : DeviceEntry) : DeviceEntry :=
  match e.status with
  | .pushed => if e.mac ∈ seen then {e with status := .verified} else {e with status := .stranded}
  | _ => e

/-- The device with a MAC is known to be on the target. -/
def State.setLastKnown (s : State) (target : Dict) (mac : String) : State :=
  match s.host.getDeviceFromAddress mac with
  | none => s
  | some d =>
    {s with devices := updateKey (fun d => d.addr) d.addr
              (fun d => {d with lastKnownRfConfig := some target}) s.devices}

/-- The MACs with a status. -/
def macsOf (status : PushStatus) (entries : List DeviceEntry) : List String :=
  (entries.filter fun e => e.status == status).map fun e => e.mac

/-- The phases after the gateway has taken the settings. -/
def finishMigration (s : State) (plan : MigrationPlan) (entries : List DeviceEntry)
    (answers : MigrationAnswers) : List DeviceEntry × State :=
  let s := (s.setRfConfig plan.network.id (some plan.target)).save
  let entries := entries.map (verifyEntry (seenAfter answers.responders))
  let verified := macsOf .verified entries
  let s := verified.foldl (fun s mac => s.setLastKnown plan.target mac) s
  let s := if verified = [] then s else s.save
  (entries, if plan.transport.ident = "" then s
    else (reEvaluate s plan.transport.ident answers.report answers.token).2)

/-- `migrate_network_to`. -/
def migrateNetworkTo (s : State) (networkId : String) (targetRfConfig : Dict) (forceOffline : Bool)
    (answers : MigrationAnswers) : Migrated :=
  match planMigration s networkId targetRfConfig with
  | .error e => {answer := .error e, state := s}
  | .ok (.error result) => {answer := .ok result, state := s}
  | .ok (.ok plan) =>
    let devices := s.devices.filter fun d => d.networkId.getD "" = networkId
    match devices.mapM (pushChoice plan.target forceOffline) with
    | .error e => {answer := .error e, state := s}
    | .ok choices =>
      let choices := devices.zip choices
      let (pushed, frames, s) := pushEach (pushToNetwork plan answers.air) (chosen .push choices) s
      let summary : MigrationSummary :=
        { totalDevicesOnNetwork := devices.length, skippedAlreadyTarget := chosen .already choices,
          skippedOffline := chosen .offline choices, pushCount := pushed.length,
          pushedOk := (macsOf .pushed pushed).length,
          pushedFail := pushed.length - (macsOf .pushed pushed).length, verified := [] }
      let identMac := nonEmpty (some plan.transport.ident)
      match gatewayRefusal plan.transport answers.refusal with
      | some reason =>
        let result : MigrationResult :=
          { ok := false, stage := "gateway-migration-failed", networkId := some networkId, identMac,
            error := some ("gateway persist-switch failed: %s", [.str reason]), perDevice := pushed,
            summary := some summary }
        {answer := .ok result, frames, state := s}
      | none =>
        let (entries, s) := finishMigration s plan pushed answers
        let stranded := macsOf .stranded entries
        let result : MigrationResult :=
          { ok := summary.pushedFail == 0 && stranded.isEmpty, stage := "done",
            networkId := some networkId, identMac, perDevice := entries, stranded,
            summary := some {summary with verified := macsOf .verified entries} }
        {answer := .ok result, frames, state := s}

end RaceLink.Gateways
