import RaceLink.Gateways.Bind

/-! What else changes the networks and the transports: gateways that come and go
(`controller.py`, `services/gateway_service.py`), the requests of the web interface
(`web/api.py`), and the migration of a network (`services/rf_migration_service.py`).

All of them write past the bind service. -/
namespace RaceLink.Gateways
open Python Library Domain Routing

/-! ### Transports -/

/-- A gateway that enumeration finds: whether its transport starts, and what it reports. -/
structure Gateway where
  handle : Nat
  identMac : String
  starts : Bool := true
  report : Option RfSettings := none
  token : String
deriving DecidableEq, Repr

/-- The network for a gateway that none lists: the first without a gateway, whatever its
kind, if the transport is the only one. -/
def State.freeNetwork (s : State) : Option NetworkRecord :=
  if s.transports.length + 1 ≤ 1 then s.networks.find? fun n => nonEmpty n.gatewayMac == none else none

/-- `_bind_transport_to_network` of the controller. The transport that is asked for is
about to join the attached ones. -/
def bindTransportToNetwork (s : State) (identMac : String) : Option String × State :=
  match (s.networkByGatewayMac identMac).bind fun n => nonEmpty (some n.id) with
  | some bound => (some bound, s)
  | none =>
    if identMac = "" then (none, s)
    else match s.freeNetwork with
      | none => (none, s)
      | some target => (nonEmpty (some target.id), (s.setGatewayMac target.id (some identMac)).save)

/-- The transport that holds the ident of another one already. -/
def State.duplicateOf (s : State) (t : Attached) : Option Attached :=
  if t.ident = "" then none else s.transports.find? fun u => u.ident == t.ident

/-- `_attach_transport`. Only an RF transport is bound and evaluated. -/
def attachTransport (s : State) (t : Attached) (starts : Bool) (report : Option RfSettings) (token : String) :
    Option String × State :=
  match s.duplicateOf t with
  | some existing => (nonEmpty existing.networkId, s)
  | none =>
    if starts = false then (none, s)
    else match t.kind with
      | .ethernet => (nonEmpty t.networkId, {s with transports := s.transports ++ [t]})
      | .rf =>
        let (bound, s) := bindTransportToNetwork s t.identMac
        let t := {t with networkId := bound}
        (bound, (evaluate {s with transports := s.transports ++ [t]} t report token).2)

/-- The transport of a gateway. -/
def Gateway.transport (g : Gateway) : Attached where
  handle := g.handle
  networkId := none
  identMac := g.identMac
  kind := .rf

def attachGateway (s : State) (g : Gateway) : Option String × State :=
  attachTransport s g.transport g.starts g.report g.token

/-- The transports of the Ethernet networks: which objects they are, and which of them
open and start. -/
structure Sockets where
  handle : String → Nat
  opens : String → Bool
  starts : String → Bool

/-- `EthernetTransport`. -/
def ethernetTransport (sockets : Sockets) (networkId : String) : Attached where
  handle := sockets.handle networkId
  networkId := some networkId
  identMac := "ETH:" ++ networkId
  kind := .ethernet

/-- The Ethernet networks whose transports open. -/
def openable (sockets : Sockets) (networks : List NetworkRecord) : List NetworkRecord :=
  networks.filter fun n => n.kind == .ethernet && sockets.opens n.id

/-- `_attach_ethernet_transports`. -/
def attachEthernetTransports (s : State) (sockets : Sockets) : Nat × State :=
  let found := openable sockets s.networks
  (found.length, found.foldl (fun s n =>
    (attachTransport s (ethernetTransport sockets n.id) (sockets.starts n.id) none "").2) s)

/-- `_close_all_transports`; the bind records stay. -/
def closeAllTransports (s : State) : State := {s with transports := []}

/-- `_detach_one_transport`. -/
def detachOneTransport (s : State) (identMac : String) : State :=
  match s.transportFor identMac with
  | none => s
  | some _ =>
    let transports := s.transports.eraseP fun t => t.ident == upper identMac
    {s with transports}.forget identMac

/-! ### Requests -/

/-- A request that is refused with a status and a message, or ends in an exception. -/
inductive ApiError where
  | refused (status : Nat) (error : String) (args : List Json) (detail : List (String × Json))
  | raised (error : PyError)
deriving Repr

/-- `int(body.get(key, default) or default)`, or the default. -/
def intOr (value : Option Json) (default : Int) : Except PyError Int :=
  match ((value.getD (.int default)).orElse (.int default)).toInt with
  | .ok n => .ok n
  | .error .overflowError => .error .overflowError
  | .error _ => .ok default

/-- The body of a create request, its texts after `str(x or default)`. -/
structure CreateBody where
  name : String := ""
  kind : String := "ethernet"
  nodePort : Option Json := none
  hostPort : Option Json := none
  bindHost : String := "0.0.0.0"
  broadcastHost : String := "255.255.255.255"
  discovery : String := "broadcast"
deriving DecidableEq, Repr

/-- The network that `api_network_create` makes. -/
def checkNetworkCreate (body : CreateBody) (networkId : String) (now : PyFloat) :
    Except ApiError NetworkRecord :=
  if strip body.name = "" then .error (.refused 400 "name required" [] [])
  else if lower (strip body.kind) ≠ "ethernet" then
    .error (.refused 400 ("only kind='ethernet' networks can be created here " ++
      "(RF networks are created via the gateway bind wizard)") [] [])
  else
    match intOr body.nodePort 5078, intOr body.hostPort 5079 with
    | .ok nodePort, .ok hostPort =>
      .ok { id := networkId, kind := .ethernet, gatewayMac := none, name := strip body.name,
            region := "EU868", channelId := none, rfConfig := none, createdTs := now,
            ethConfig := some [(.str "node_port", .int nodePort), (.str "host_port", .int hostPort),
              (.str "bind_host", .str body.bindHost), (.str "broadcast_host", .str body.broadcastHost),
              (.str "discovery", .str body.discovery)] }
    | .error e, _ => .error (.raised e)
    | .ok _, .error e => .error (.raised e)

/-- `api_network_create`. -/
def apiNetworkCreate (s : State) (body : CreateBody) (networkId : String) (now : PyFloat)
    (sockets : Sockets) : Except ApiError NetworkRecord × State :=
  match checkNetworkCreate body networkId now with
  | .error e => (.error e, s)
  | .ok net =>
    let s := {s with networks := s.networks ++ [net]}
    (.ok net, (attachEthernetTransports s.save sockets).2)

/-- The body of an update request: names after `str`, and what else was sent. -/
structure UpdateBody where
  name : Option String := none
  region : Option String := none
  channelId : Option Json := none
  rfConfig : Option Json := none
deriving DecidableEq, Repr

/-- The settings that an update asks for; none leaves them, or takes them away. -/
def requestedConfig (region : String) (body : UpdateBody) : Except ApiError (Option Dict) :=
  match body.rfConfig, body.channelId with
  | some .null, _ => .ok none
  | some (.obj cfg), _ => .ok (some cfg)
  | some _, _ => .error (.refused 400 "rf_config must be an object" [] [])
  | none, none => .ok none
  | none, some .null => .ok none
  | none, some channelId =>
    match channelId.toInt with
    | .error .overflowError => .error (.raised .overflowError)
    | .error _ => .error (.refused 400 "channel_id must be an integer" [] [])
    | .ok channelId =>
      match channelRfConfig region channelId with
      | none =>
        .error (.refused 400 "unknown channel_id %d in region %r" [.int channelId, .str region] [])
      | some cfg => .ok (some cfg)

def Tuned.toJson (t : Tuned) : Json :=
  dict [("id", .str t.id), ("name", .str t.name), ("freq_hz", .int t.freqHz), ("sync_word", .int t.syncWord)]

def SeparationConflict.toJson (c : SeparationConflict) : Json :=
  dict [("a", c.a.toJson), ("b", c.b.toJson), ("gap_hz", .int c.gapHz),
    ("min_separation_hz", .int MIN_SEPARATION_HZ), ("reason", .str "freq_too_close_same_sync")]

/-- A network in `format_conflict`. -/
def Tuned.label (t : Tuned) : String := if t.name ≠ "" then t.name else if t.id ≠ "" then t.id else "?"

/-- The refusal of settings that collide, with `format_conflict` of the first conflict. -/
def separationError (c : SeparationConflict) (conflicts : List SeparationConflict) : ApiError :=
  .refused 400 "%s and %s share SyncWord 0x%02X and are only %d kHz apart (need ≥%d kHz)"
    [.str c.a.label, .str c.b.label, .int (c.a.syncWord % 256), .int (c.gapHz / 1000),
      .int (MIN_SEPARATION_HZ / 1000)]
    [("code", .str "rf_separation"), ("conflicts", .arr (conflicts.map SeparationConflict.toJson))]

/-- The separation check of `api_network_update`, on the would-be network and the others. -/
def checkSeparation (s : State) (net : NetworkRecord) (cfg : Dict) : Except ApiError Unit :=
  let others := s.networks.filter fun n => n.id ≠ net.id
  match validateNetworksSeparation ({net with rfConfig := some cfg} :: others) with
  | .error e => .error (.raised e)
  | .ok [] => .ok ()
  | .ok (c :: rest) => .error (separationError c (c :: rest))

/-- What `api_network_update` checks: the network and the settings that are asked for. -/
def checkNetworkUpdate (s : State) (networkId : String) (body : UpdateBody) :
    Except ApiError (NetworkRecord × Option Dict) :=
  match s.networkById networkId with
  | none => .error (.refused 404 "unknown network_id %r" [.str networkId] [])
  | some net =>
    if body.name.map strip = some "" then .error (.refused 400 "name cannot be empty" [] [])
    else if (body.region.map strip).any fun region => channelsOf region == [] then
      .error (.refused 400 "unknown region %r" [.str (strip (body.region.getD ""))] [])
    else do
      let region := ((nonEmpty (body.region.map strip)).or (nonEmpty (some net.region))).getD "EU868"
      let cfg ← requestedConfig region body
      match cfg with
      | none => .ok (net, none)
      | some cfg => do
        checkSeparation s net cfg
        .ok (net, some cfg)

/-- The channel an update sets. -/
def requestedChannel (channelId : Json) : Except PyError (Option Int) :=
  match channelId with
  | .null => .ok none
  | channelId =>
    match channelId.toInt with
    | .ok n => .ok (some n)
    | .error .overflowError => .error .overflowError
    | .error _ => .ok none

/-- `api_network_update`. A channel that is no finite number ends it after the first writes,
if settings were sent with it. -/
def apiNetworkUpdate (s : State) (networkId : String) (body : UpdateBody) :
    Except ApiError (Option NetworkRecord) × State :=
  match checkNetworkUpdate s networkId body with
  | .error e => (.error e, s)
  | .ok (net, cfg) =>
    let s := s.changeNetwork net.id fun n =>
      {n with name := (body.name.map strip).getD n.name, region := (body.region.map strip).getD n.region}
    match (body.channelId.map requestedChannel).getD (.ok net.channelId) with
    | .error e => (.error (.raised e), s)
    | .ok channelId =>
      let s := s.changeNetwork net.id fun n => {n with channelId}
      let s := if cfg ≠ none ∨ (body.rfConfig = some .null ∧ body.channelId = some .null) then
          s.setRfConfig net.id cfg
        else s
      (.ok (s.networkById net.id), s.save)

/-- What `api_network_delete` checks. -/
def checkNetworkDelete (s : State) (networkId : String) : Except ApiError NetworkRecord :=
  match s.networkById networkId with
  | none => .error (.refused 404 "unknown network_id %r" [.str networkId] [])
  | some net =>
    let devices := s.devices.filter fun d => d.networkId.getD "" = networkId
    let groups := s.groups.filter fun g => g.networkId.getD "" = networkId
    if s.networks.length ≤ 1 then
      .error (.refused 400 "cannot delete the last network — at least one must exist" [] [])
    else if devices ≠ [] then
      .error (.refused 400 "%d device(s) still reference this network. Migrate or re-assign them first."
        [.int devices.length]
        [("code", .str "devices_attached"), ("device_macs", .arr ((devices.take 8).map fun d => .str d.addr))])
    else if groups ≠ [] then
      .error (.refused 400 "%d group(s) still belong to this network. Reassign them first."
        [.int groups.length]
        [("code", .str "groups_attached"), ("group_names", .arr ((groups.take 8).map fun g => .str g.name))])
    else .ok net

/-- `api_network_delete`. The bind record goes, what is stamped on the transport stays. -/
def apiNetworkDelete (s : State) (networkId : String) : Except ApiError String × State :=
  match checkNetworkDelete s networkId with
  | .error e => (.error e, s)
  | .ok net =>
    let s := {s with networks := s.networks.filter fun n => n.id ≠ net.id}.save
    (.ok networkId, if net.gatewayMac.getD "" = "" then s else s.forget (net.gatewayMac.getD ""))

end RaceLink.Gateways
