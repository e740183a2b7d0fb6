import RaceLink.Gateways.State
import RaceLink.Library.Lists
import RaceLink.Library.Runs
import Mathlib.Logic.Function.Basic

/-! What the web layer shows of the gateways: one mirrored state for each network (`web/sse.py`).

A state is an object of its own that the map refers to under the id of a network. It is made when the
network is first spoken of, and the bridge keeps hold of the one that was the default's in the
beginning, for the updates that name no network. -/
namespace RaceLink.Web.Masters
open Python Library Domain

/-! ### One state -/

/-- `GATEWAY_STATE_NAME`. -/
def gatewayStateName (stateByte : Int) : String :=
  match stateByte with
  | 0 => "IDLE"
  | 1 => "TX"
  | 2 => "RX_WINDOW"
  | 3 => "RX"
  | 254 => "ERROR"
  | _ => "UNKNOWN"

def gatewayStateRxWindow : Int := 2
def gatewayStateUnknown : Int := 255

/-- `MasterState`, without the time of its last event. -/
structure MasterState where
  state : String := "UNKNOWN"
  stateByte : Int := gatewayStateUnknown
  stateMetadataMs : Int := 0
  lastEvent : Option String := none
  lastError : Option String := none
deriving DecidableEq, Repr

/-- The fields `apply_gateway_state` sets. -/
def MasterState.applyGatewayState (x : MasterState) (stateByte metadataMs : Int) (sourceEvent : String) :
    MasterState :=
  let sb := stateByte % 256
  {x with
    state := gatewayStateName sb
    stateByte := sb
    stateMetadataMs := if sb = gatewayStateRxWindow then metadataMs % 65536 else 0
    lastError := none
    lastEvent := some sourceEvent}

/-- `set` with what other callers than a state event set: the last event, the last error, or both. -/
def MasterState.note (x : MasterState) (lastEvent lastError : Option (Option String)) : MasterState :=
  {x with lastEvent := lastEvent.getD x.lastEvent, lastError := lastError.getD x.lastError}

/-- A row of a snapshot. -/
structure Row where
  networkId : String
  name : String
  master : MasterState
deriving DecidableEq, Repr

/-! ### The map -/

/-- The host with its networks. Their ids are UUIDs: none is empty, and they are distinct. -/
structure Repository where
  host : Gateways.State
  named : ∀ n ∈ host.networks, n.id ≠ ""
  distinct : (host.networks.map (·.id)).Nodup

/-- `DEFAULT_NETWORK_ID`. -/
def defaultId : String := "00000000-0000-4000-8000-000000000001"

/-- `SSEBridge` with its `MasterStateMap`. The objects are numbered as they are made. For reasoning only:
the state that was last sent to each network, what each gateway reported last, and whether the default
network has changed. -/
structure Bridge where
  repository : Repository
  attached : Bool := false
  objects : Nat → MasterState := fun _ => {}
  made : Nat := 0
  states : List (String × Nat) := []
  defaultNetworkId : String := defaultId
  master : Nat := 0
  sent : String → String := fun _ => "UNKNOWN"
  reported : String → Option String := fun _ => none
  moved : Bool := false

namespace Bridge

/-- `_ensure_state_locked`: the object of a network, which is made if there is none. -/
def ensureState (m : Bridge) (networkId : String) : Nat × Bridge :=
  match m.states.lookup networkId with
  | some o => (o, m)
  | none =>
    (m.made,
      {m with
        objects := Function.update m.objects m.made {}
        made := m.made + 1
        states := m.states ++ [(networkId, m.made)]})

/-- The networks that a snapshot has rows for, with their names. -/
def shown (m : Bridge) : List (String × String) :=
  let persisted := if m.attached then m.repository.host.networks.map fun n => (n.id, n.name) else []
  let named := (persisted.filter fun n => n.1 ≠ "").map fun n => (n.1, if n.2 = "" then "Network" else n.2)
  keepFirst Prod.fst []
    (named ++ m.states.map (fun e => (e.1, "Network")) ++ [(m.defaultNetworkId, "Default")])

/-- The rows, one after the other. -/
def rowsOf (m : Bridge) : List (String × String) → List Row × Bridge
  | [] => ([], m)
  | n :: rest =>
    let (o, m') := m.ensureState n.1
    let (rows, m'') := rowsOf m' rest
    (⟨n.1, n.2, m'.objects o⟩ :: rows, m'')

/-- `snapshot`, and the map after it. -/
def snapshot (m : Bridge) : List Row × Bridge := m.rowsOf m.shown

/-- `set` on an object: a change is broadcast, with a snapshot. -/
def set (m : Bridge) (o : Nat) (x : MasterState) : Bridge :=
  if m.objects o = x then m else ({m with objects := Function.update m.objects o x}).snapshot.2

/-- The network that `for_gateway` picks. -/
def networkFor (m : Bridge) (gatewayId : Option String) : String :=
  match gatewayId with
  | none => m.defaultNetworkId
  | some gid =>
    if gid = "" then m.defaultNetworkId
    else match gid.toList with
      | 'E' :: 'T' :: 'H' :: ':' :: nid => if nid = [] then m.defaultNetworkId else String.ofList nid
      | _ =>
        if m.attached then
          match m.repository.host.networkByGatewayMac gid with
          | none => m.defaultNetworkId
          | some n => if n.id = "" then m.defaultNetworkId else n.id
        else m.defaultNetworkId

/-- `for_gateway`. -/
def forGateway (m : Bridge) (gatewayId : Option String) : Nat × Bridge := m.ensureState (m.networkFor gatewayId)

/-- The slot of the default network that was is dropped, if nobody needs it. -/
def dropDefault (m : Bridge) (before : String) : Bridge :=
  if before ≠ "" ∧ before ≠ m.defaultNetworkId ∧ before ∉ m.repository.host.networks.map (·.id) then
    match m.states.lookup before with
    | none => m
    | some o =>
      if (m.objects o).state = "UNKNOWN" then {m with states := m.states.filter fun e => e.1 ≠ before} else m
  else m

/-- `attach_controller`. -/
def attachController (m : Bridge) : Bridge :=
  match m.repository.host.networks with
  | [] => {m with attached := true}
  | n :: _ =>
    if n.id = "" then {m with attached := true}
    else
      let moved := {m with attached := true, defaultNetworkId := n.id, moved := m.moved || n.id ≠ m.defaultNetworkId}
      (moved.ensureState n.id).2.dropDefault m.defaultNetworkId

/-- A state of a gateway reaches its slot. -/
def apply (m : Bridge) (gatewayId : Option String) (stateByte metadataMs : Int) (sourceEvent : String) : Bridge :=
  let (o, m') := m.forGateway gatewayId
  let m'' := m'.set o ((m'.objects o).applyGatewayState stateByte metadataMs sourceEvent)
  let name := gatewayStateName (stateByte % 256)
  {m'' with
    sent := Function.update m''.sent (m.networkFor gatewayId) name
    reported := match gatewayId with
      | none => m''.reported
      | some gid => Function.update m''.reported (upper gid) (some name)}

end Bridge

/-! ### Steps -/

/-- What happens: the networks of the host are edited, the bridge hooks the transports, a transport that
it hooks tells its state (`_seed_master_state_from_transport`), a gateway sends a state event, somebody
updates `SSEBridge.master`, or asks for a snapshot. -/
inductive Act where
  | edit (repository : Repository)
  | attach
  | seed (gatewayId : Option String) (stateByte metadataMs : Int)
  | event (gatewayId : Option String) (stateByte metadataMs : Int) (report : Bool)
  | direct (lastEvent lastError : Option (Option String))
  | snapshot

def step (m : Bridge) : Act → Bridge
  | .edit repository => {m with repository}
  | .attach => m.attachController
  | .seed gatewayId stateByte metadataMs =>
    if stateByte = gatewayStateUnknown then m else m.apply gatewayId stateByte metadataMs "HOOK_SEED"
  | .event gatewayId stateByte metadataMs report =>
    m.apply gatewayId stateByte metadataMs (if report then "STATE_REPORT" else "STATE_CHANGED")
  | .direct lastEvent lastError => m.set m.master ((m.objects m.master).note lastEvent lastError)
  | .snapshot => m.snapshot.2

/-- The bridge as it is constructed. -/
def constructed (repository : Repository) : Bridge :=
  let m : Bridge := { repository }
  let (o, m') := m.ensureState m.defaultNetworkId
  {m' with master := o}

end RaceLink.Web.Masters
