import RaceLink.Gateways.State

/-! The bind service (`services/gateway_bind_service.py`): `evaluate` compares what a
gateway reports with what its network expects, `resolve` carries out what the operator
decides.

A resolve action that is refused raises `_BindActionError`, which `resolve` turns into
a reply; any other exception passes through. What was written before stays written. -/
namespace RaceLink.Gateways
open Python Library Domain Routing

/-! ### What is asked of the outside -/

/-- How the start of a migration task ends. -/
inductive TaskStart where
  | missing
  | busy
  | raced
  | started (id : String)
deriving DecidableEq, Repr

/-- What a call is given from outside: the gateway's refusal of a write (none, if it is
accepted), fresh UUIDs, the clock, and the task manager. -/
structure Answers where
  refusal : Option String := none
  token : String
  networkId : String
  now : PyFloat := .finite 0
  tasks : TaskStart := .missing
deriving DecidableEq, Repr

/-- The parameters of a resolve request, after `str(x or default)`. -/
structure ResolveParams where
  token : Option String := none
  name : String := ""
  region : String := "EU868"
  channelId : Json := .null
  networkId : String := ""
  onMismatch : String := "ask"
deriving DecidableEq, Repr

/-- `_BindActionError`, or another exception. -/
inductive BindError where
  | action (text : String) (args : List Json)
  | raised (error : PyError)
deriving Repr

def raising {α : Type} : Except PyError α → Except BindError α
  | .ok a => .ok a
  | .error e => .error (.raised e)

/-- The dict that `resolve` answers with. -/
structure Reply where
  ok : Bool
  error : Option (String × List Json) := none
  state : Option BindState := none
  networkId : Option String := none
  conflictFields : Option (List String) := none
  migrationPending : Bool := false
  rebooting : Bool := false
  rfConfig : Option Dict := none
  taskId : Option String := none
  token : Option String := none
deriving DecidableEq, Repr

/-! ### Evaluation -/

/-- `evaluate`, of an attached transport and what its gateway reports. -/
def evaluate (s : State) (t : Attached) (report : Option RfSettings) (token : String) :
    Except PyError (Option BindRecord) × State :=
  if t.ident = "" then (.ok none, s)
  else
    let actual := report.map RfSettings.toDict
    let known := (findKey (·.identMac) t.ident s.records).getD { identMac := t.ident, token }
    let record := {known with token, rfConfigActual := actual, migrationPending := false}
    match (nonEmpty t.networkId).bind s.networkById with
    | none =>
      let record := {record with state := .unbound, networkId := none, networkName := none,
                                 rfConfigExpected := none, conflictFields := []}
      (.ok (some record), s.putRecord record)
    | some network =>
      let record := {record with networkId := some network.id, networkName := some network.name,
                                 rfConfigExpected := network.rfConfig}
      match network.rfConfig, actual with
      | none, none =>
        let record := {record with state := .bound, conflictFields := []}
        (.ok (some record), s.putRecord record)
      | none, some cfg =>
        -- first contact: the settings are adopted as they are, whoever else is on them
        let record := {record with rfConfigExpected := some cfg, state := .bound, conflictFields := []}
        (.ok (some record), ((s.setRfConfig network.id (some cfg)).putRecord record).save)
      | some _, none =>
        let record := {record with state := .pending, conflictFields := []}
        (.ok (some record), s.putRecord record)
      | some expected, some actual =>
        match rfDiff (some actual) (some expected) with
        | .error e => (.error e, s.putRecord record)
        | .ok [] =>
          let record := {record with state := .bound, conflictFields := []}
          (.ok (some record), s.putRecord record)
        | .ok diffs =>
          let record := {record with state := .conflict, conflictFields := diffs}
          (.ok (some record), s.putRecord record)

/-- `re_evaluate`; a gateway that is gone loses its record. -/
def reEvaluate (s : State) (identMac : String) (report : Option RfSettings) (token : String) :
    Except PyError (Option BindRecord) × State :=
  match s.transportFor identMac with
  | some t => evaluate s t report token
  | none => (.ok none, s.forget identMac)

/-! ### Parts of the actions -/

/-- `_push_rf_to_gateway`. An Ethernet transport cannot send the command. -/
def pushRfToGateway (s : State) (record : BindRecord) (refusal : Option String) : Except BindError Unit :=
  match s.transportFor record.identMac with
  | none => .error (.action "gateway %s is not attached — reconnect it and retry" [.str record.identMac])
  | some t =>
    match t.kind, refusal with
    | .rf, none => .ok ()
    | .rf, some reason => .error (.action "gateway rejected the RF config: %s" [.str reason])
    | .ethernet, _ =>
      .error (.action "gateway rejected the RF config: %s" [.str "no reply within timeout"])

/-- `_lookup_network`. -/
def lookupNetwork (s : State) (networkId : Option String) : Except BindError NetworkRecord :=
  match nonEmpty networkId with
  | none => .error (.action "no network_id on record — refusing to mutate" [])
  | some networkId =>
    match s.networkById networkId with
    | none => .error (.action "unknown network_id %s" [.str networkId])
    | some network => .ok network

/-- `_adopt_gateway_config`. -/
def adoptGatewayConfig (s : State) (record : BindRecord) (network : NetworkRecord) :
    Except BindError (State × BindRecord) :=
  match record.rfConfigActual with
  | none => .error (.action "gateway did not report an rf_config" [])
  | some cfg => do
    let clash ← raising (occupantsOf s.networks cfg network.id)
    if clash ≠ [] then
      .error (.action ("the gateway's channel already belongs to %s — adopting it would put two " ++
        "networks on one frequency. Move the gateway to a free channel instead.")
        [.str (formatOccupants clash)])
    else
      .ok (s.setRfConfig network.id (some cfg),
        {record with rfConfigExpected := some cfg, state := .bound, conflictFields := [],
                     migrationPending := false})

/-- The check of the state with which the actions begin. -/
def requireState (text : String) (states : List BindState) (record : BindRecord) : Except BindError Unit :=
  if record.state ∈ states then .ok () else .error (.action text [.str record.state.value])

/-! ### Actions -/

/-- `_action_retune_gateway`. -/
def actionRetuneGateway (s : State) (record : BindRecord) (answers : Answers) :
    Except BindError Reply × State :=
  let check : Except BindError Dict := do
    requireState "retune_gateway requires state=conflict (current: %s)" [.conflict] record
    let target := record.rfConfigExpected.getD []
    if target = [] then
      .error (.action ("network has no rf_config to push — assign a channel to the network first, " ++
        "or use accept_gateway") [])
    else do
      pushRfToGateway s record answers.refusal
      .ok target
  match check with
  | .error e => (.error e, s)
  | .ok target =>
    let record := {record with rfConfigActual := some target, state := .bound, conflictFields := [],
                               migrationPending := false, token := answers.token}
    (.ok { ok := true, state := some record.state, token := some record.token, rebooting := true,
           rfConfig := some target }, s.putRecord record)

/-- `_action_accept_gateway`. -/
def actionAcceptGateway (s : State) (record : BindRecord) (answers : Answers) :
    Except BindError Reply × State :=
  let check : Except BindError (State × BindRecord) := do
    requireState "accept_gateway requires state=conflict (current: %s)" [.conflict] record
    if record.rfConfigActual = none then .error (.action "gateway did not report an rf_config" [])
    else do
      let network ← lookupNetwork s record.networkId
      adoptGatewayConfig s record network
  match check with
  | .error e => (.error e, s)
  | .ok (s, record) =>
    let record := {record with token := answers.token}
    (.ok { ok := true, state := some record.state, token := some record.token }, (s.putRecord record).save)

/-- `_action_accept_host`; the migration itself runs in the task. -/
def actionAcceptHost (s : State) (record : BindRecord) (answers : Answers) :
    Except BindError Reply × State :=
  let check : Except BindError Unit := do
    requireState "accept_host requires state=conflict (current: %s)" [.conflict] record
    if record.rfConfigExpected = none then .error (.action "host has no rf_config to push" [])
    else match answers.tasks with
      | .missing =>
        .error (.action "host not ready (TaskManager or rf_migration_service missing)" [])
      | .busy => .error (.action "host busy — another task is running" [])
      | _ => .ok ()
  match check with
  | .error e => (.error e, s)
  | .ok () =>
    let record := {record with token := answers.token}
    match answers.tasks with
    | .started id =>
      (.ok { ok := true, state := some record.state, migrationPending := true, token := some record.token,
             taskId := some id }, s.putRecord {record with migrationPending := true})
    | _ =>
      (.error (.action "host busy — another task started concurrently" []),
        s.putRecord {record with migrationPending := false})

/-- The settings of a new network: those of a channel, or the gateway's own. -/
def seededConfig (params : ResolveParams) (actual : Dict) : Except BindError Dict :=
  if params.channelId = .null ∨ params.channelId = .str "" then .ok actual
  else
    match params.channelId.toInt with
    | .error .overflowError => .error (.raised .overflowError)
    | .error _ => .error (.action "channel_id must be an integer" [])
    | .ok channelId =>
      match channelRfConfig params.region channelId with
      | none =>
        .error (.action "unknown channel_id %s in region %r" [.int channelId, .str params.region])
      | some cfg => .ok cfg

/-- What `_action_create_network` does before it writes: the name and the settings of the
new network, and whether the gateway was moved onto them. -/
def checkCreate (s : State) (record : BindRecord) (params : ResolveParams) (answers : Answers) :
    Except BindError (String × Dict × Bool) := do
  requireState "create_network requires state=unbound or conflict (current: %s)" [.unbound, .conflict] record
  let name := strip params.name
  if name = "" then .error (.action "create_network requires a non-empty 'name'" [])
  else match record.rfConfigActual with
    | none =>
      .error (.action ("gateway did not respond to GET_RF_CONFIG — cannot create network, please " ++
        "check hardware / firmware and retry") [])
    | some actual => do
      let seeded ← seededConfig params actual
      let clash ← raising (occupantsOf s.networks seeded "")
      if clash ≠ [] then
        .error (.action ("that channel is already used by %s — two networks cannot share a frequency " ++
          "and SyncWord. Pick a free channel for the new network.") [.str (formatOccupants clash)])
      else do
        let diffs ← raising (rfDiff (some actual) (some seeded))
        if diffs = [] then .ok (name, seeded, false)
        else do
          pushRfToGateway s record answers.refusal
          .ok (name, seeded, true)

/-- The network that `_action_create_network` makes. -/
def newNetwork (record : BindRecord) (params : ResolveParams) (answers : Answers) (name : String)
    (seeded : Dict) : NetworkRecord where
  id := answers.networkId
  kind := .rf
  gatewayMac := some record.identMac
  name := name
  region := params.region
  channelId := none
  rfConfig := some seeded
  ethConfig := none
  createdTs := answers.now

/-- `_action_create_network`. -/
def actionCreateNetwork (s : State) (record : BindRecord) (params : ResolveParams) (answers : Answers) :
    Except BindError Reply × State :=
  match checkCreate s record params answers with
  | .error e => (.error e, s)
  | .ok (name, seeded, retuned) =>
    let net := newNetwork record params answers name seeded
    let s := s.releaseIdent record.identMac none
    let s := {s with networks := s.networks ++ [net]}
    let s := s.stampTransport record.identMac net.id
    let record := {record with networkId := some net.id, networkName := some name,
                               rfConfigExpected := some seeded, rfConfigActual := some seeded,
                               state := .bound, conflictFields := [], token := answers.token}
    (.ok { ok := true, state := some record.state, networkId := some net.id, token := some record.token,
           rebooting := retuned, rfConfig := some seeded }, (s.putRecord record).save)

/-- What `_action_rebind` checks first: the network to bind to. -/
def rebindTarget (s : State) (record : BindRecord) (params : ResolveParams) :
    Except BindError NetworkRecord := do
  requireState "rebind requires state=unbound or conflict (current: %s)" [.unbound, .conflict] record
  let targetId := strip params.networkId
  if targetId = "" then .error (.action "rebind requires a 'network_id'" [])
  else if strip params.onMismatch ∉ ["ask", "retune_gateway", "accept_gateway"] then
    .error (.action "unknown on_mismatch %r — expected ask, retune_gateway or accept_gateway"
      [.str (strip params.onMismatch)])
  else do
    let network ← lookupNetwork s (some targetId)
    if network.kind = .rf then .ok network
    else .error (.action ("cannot bind an RF gateway to a '%s' network — RF and Ethernet networks " ++
      "cannot share hardware") [.str "ethernet"])

/-- The network takes over the gateway. -/
def bindTo (s : State) (record : BindRecord) (network : NetworkRecord) : State :=
  let s := s.releaseIdent record.identMac (some network.id)
  let s := s.setGatewayMac network.id (some record.identMac)
  s.stampTransport record.identMac network.id

/-- The record of a gateway that was bound to a network. -/
def boundRecord (record : BindRecord) (network : NetworkRecord) : BindRecord :=
  {record with networkId := some network.id, networkName := some network.name,
               rfConfigExpected := network.rfConfig}

/-- The first contact of a network without settings, in `_action_rebind`. -/
def adoptFirst (s : State) (record : BindRecord) (network : NetworkRecord) (cfg : Dict) :
    Except BindError (State × BindRecord) := do
  let clash ← raising (occupantsOf s.networks cfg network.id)
  if clash ≠ [] then
    .error (.action ("the gateway is on a channel already used by %s — assign a free channel to " ++
      "\"%s\" first, or move the gateway to one.") [.str (formatOccupants clash), .str network.name])
  else
    .ok (s.setRfConfig network.id (some cfg),
      {record with rfConfigExpected := some cfg, state := .bound, conflictFields := []})

/-- The end of `_action_rebind`, for settings that disagree. -/
def settleMismatch (s : State) (record : BindRecord) (network : NetworkRecord) (onMismatch : String)
    (answers : Answers) (diffs : List String) : Except BindError (Reply × State × BindRecord) :=
  if onMismatch = "retune_gateway" then do
    pushRfToGateway s record answers.refusal
    .ok ({ ok := true, state := some .bound, token := some answers.token, rebooting := true,
           rfConfig := record.rfConfigExpected }, s,
      {record with rfConfigActual := record.rfConfigExpected, state := .bound, conflictFields := []})
  else if onMismatch = "accept_gateway" then do
    let (s, record) ← adoptGatewayConfig s record network
    .ok ({ ok := true, state := some record.state, token := some answers.token }, s, record)
  else
    .ok ({ ok := true, state := some .conflict, conflictFields := some diffs,
           token := some answers.token }, s,
      {record with state := .conflict, conflictFields := diffs})

/-- What `_action_rebind` does with a gateway that was bound: the reply, and the state and
record to be saved. -/
def settle (s : State) (record : BindRecord) (network : NetworkRecord) (onMismatch : String)
    (answers : Answers) : Except BindError (Reply × State × BindRecord) :=
  match record.rfConfigExpected, record.rfConfigActual with
  | none, some cfg => do
    let (s, record) ← adoptFirst s record network cfg
    .ok ({ ok := true, state := some record.state, token := some answers.token }, s, record)
  | expected, actual => do
    let diffs ← raising (rfDiff actual expected)
    if diffs = [] then
      .ok ({ ok := true, state := some .bound, token := some answers.token }, s,
        {record with state := .bound, conflictFields := []})
    else settleMismatch s record network onMismatch answers diffs

/-- `_action_rebind`. The network is the gateway's before the settings are compared. -/
def actionRebind (s : State) (record : BindRecord) (params : ResolveParams) (answers : Answers) :
    Except BindError Reply × State :=
  match rebindTarget s record params with
  | .error e => (.error e, s)
  | .ok network =>
    match settle (bindTo s record network) (boundRecord record network) network (strip params.onMismatch)
      answers with
    | .error e => (.error e, (bindTo s record network).putRecord (boundRecord record network))
    | .ok (reply, s, record) => (.ok reply, (s.putRecord {record with token := answers.token}).save)

/-! ### Resolve -/

inductive Action where
  | retuneGateway
  | acceptGateway
  | acceptHost
  | createNetwork
  | rebind
  | other (name : String)
deriving DecidableEq, Repr

/-- The action of a record, before its exception is caught. -/
def act (s : State) (record : BindRecord) (action : Action) (params : ResolveParams) (answers : Answers) :
    Except BindError Reply × State :=
  match action with
  | .retuneGateway => actionRetuneGateway s record answers
  | .acceptGateway => actionAcceptGateway s record answers
  | .acceptHost => actionAcceptHost s record answers
  | .createNetwork => actionCreateNetwork s record params answers
  | .rebind => actionRebind s record params answers
  | .other name => (.error (.action "unknown action %r" [.str name]), s)

/-- `resolve`. -/
def resolve (s : State) (identMac : String) (action : Action) (params : ResolveParams)
    (answers : Answers) : Except PyError Reply × State :=
  match s.recordFor identMac with
  | none => (.ok { ok := false, error := some ("unknown gateway %s", [.str identMac]) }, s)
  | some record =>
    if params.token ≠ none ∧ params.token ≠ some record.token then
      (.ok { ok := false, state := some record.state,
             error := some ("stale token — gateway re-evaluated since the wizard opened", []) }, s)
    else
      match act s record action params answers with
      | (.ok reply, s) => (.ok reply, s)
      | (.error (.action text args), s) =>
        (.ok { ok := false, error := some (text, args), state := some record.state }, s)
      | (.error (.raised e), s) => (.error e, s)

end RaceLink.Gateways
