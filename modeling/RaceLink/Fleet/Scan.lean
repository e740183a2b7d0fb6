import RaceLink.Fleet.ConsistentRuns
import RaceLink.Fleet.Sweep
import RaceLink.Gateways.Onboarding

/-! The channel scan (`services/channel_scan_service.py`): one gateway walks the channels of a
region, and who answers there is looked up among the devices.

What is received meanwhile goes through the same handler as ever, on the thread that
reads the gateway. It comes before each step of the scan here, in any number. -/
namespace RaceLink.Fleet
open Python Library Domain Routing Gateways

/-! ### What is asked of the outside -/

/-- What the handler is given while the scan runs: an IDENTIFY reply with its sender, which the discovery may
collect, or another reply, with what it writes into the records. -/
inductive RxEvent where
  | identify (body sender3 : Bytes) (gatewayId : Option String) (discovering collected : Bool)
  | report (change : DeviceRecord → DeviceRecord)

/-- How a switch to a channel ends. -/
inductive SwitchEnd where
  | done
  | refused (reason : String)
  | raised (error : PyError)
deriving DecidableEq, Repr

/-- A turn of the scan from outside: what is received until the switch is answered, its end,
what is received in the discovery, whether that raises, and what is received before a
responder is looked up. -/
structure TurnAnswers where
  before : List RxEvent := []
  switch : SwitchEnd := .done
  heard : List RxEvent := []
  fails : Bool := false
  meanwhile : String → List RxEvent := fun _ => []

/-- A turn: a channel with its settings, and what happens there. -/
structure ScanTurn where
  channel : Channel
  rf : Dict
  answers : TurnAnswers

/-! ### The result -/

structure KnownEntry where
  mac : String
  name : String
  networkId : Option String
  channelId : Int
  channelName : String
deriving DecidableEq, Repr

structure UnknownEntry where
  mac : String
  channelId : Int
  channelName : String
deriving DecidableEq, Repr

/-- A row of `channels_result`. -/
structure ScanRow where
  channelId : Int
  channelName : String
  rfConfig : Dict
  responders : List String := []
  known : List KnownEntry := []
  unknown : List String := []
  error : Option (String × List Json) := none
deriving DecidableEq, Repr

structure ScanSummary where
  channels : Nat := 0
  respondersTotal : Nat := 0
  knownCount : Nat := 0
  unknownCount : Nat := 0
deriving DecidableEq, Repr

/-- The dict that `scan_region` answers with. -/
structure ScanResult where
  ok : Bool := false
  gatewayId : String
  region : String
  channelsScanned : List Int := []
  channelsResult : List ScanRow := []
  allKnown : List KnownEntry := []
  allUnknown : List UnknownEntry := []
  summary : ScanSummary := {}
  error : Option (String × List Json) := none
deriving DecidableEq, Repr

/-- A scan: what it answers or raises, the switches it asked of the gateway, and the state. -/
structure ScanRun where
  answer : Except PyError ScanResult
  switches : List RfSwitch := []
  state : State

/-! ### Receiving -/

def receive (s : State) : RxEvent → State
  | .identify body _ gatewayId discovering _ => identify s body gatewayId discovering
  | .report change => {s with devices := s.devices.map change}

def receiveAll (s : State) (events : List RxEvent) : State := events.foldl receive s

/-- The address of a reply that the discovery collects: its MAC, or its sender if the body is of another length. -/
def collectedMac : RxEvent → Option String
  | .identify body sender3 _ _ true => responderOf ⟨(parseIdentify body).map (·.mac6), some sender3⟩
  | _ => none

/-! ### A turn -/

/-- The responders of a turn, if it gets that far. -/
def ScanTurn.responders (t : ScanTurn) : List String :=
  match t.answers.switch with
  | .done =>
    if t.answers.fails then []
    else sortMacs ((t.answers.heard.filterMap collectedMac).map fun m => upper (strip m))
  | _ => []

/-- One responder: it is known if there is a record, which is then on the channel. -/
def lookUp (t : ScanTurn) (s : State) (mac : String) : Option KnownEntry × State :=
  match deviceAt s mac with
  | none => (none, s)
  | some d =>
    (some { mac, name := d.name, networkId := nonEmpty d.networkId, channelId := t.channel.id
            channelName := t.channel.name },
      s.setLastKnown t.rf mac)

/-- The responders, each with its entry if it is known. -/
def lookUpAll (t : ScanTurn) : List String → State → List (String × Option KnownEntry) × State
  | [], s => ([], s)
  | mac :: rest, s =>
    let (entry, s) := lookUp t (receiveAll s (t.answers.meanwhile mac)) mac
    let (entries, s) := lookUpAll t rest s
    ((mac, entry) :: entries, s)

/-- The row of a turn before its switch is answered. -/
def ScanTurn.row (t : ScanTurn) : ScanRow where
  channelId := t.channel.id
  channelName := t.channel.name
  rfConfig := t.rf

/-- The body of the loop. -/
def scanTurn (t : ScanTurn) (s : State) : Except PyError ScanRow × State :=
  let s := receiveAll s t.answers.before
  match t.answers.switch with
  | .raised e => (.error e, s)
  | .refused reason => (.ok {t.row with error := some ("volatile-switch failed: %s", [.str reason])}, s)
  | .done =>
    let (entries, s) := lookUpAll t (t.responders.filter (·.length = 12)) (receiveAll s t.answers.heard)
    (.ok {t.row with
            responders := t.responders
            known := entries.filterMap (·.2)
            unknown := (entries.filter fun e => e.2.isNone).map (·.1)}, s)

/-! ### The scan -/

/-- The loop: the rows, the switches, what is raised and the state. -/
def scanLoop : List ScanTurn → State → List ScanRow × List RfSwitch × Option PyError × State
  | [], s => ([], [], none, s)
  | t :: rest, s =>
    let switch : RfSwitch := {rf := t.rf, persist := false}
    match scanTurn t s with
    | (.error e, s) => ([], [switch], some e, s)
    | (.ok row, s) =>
      let (rows, switches, raised, s) := scanLoop rest s
      (row :: rows, switch :: switches, raised, s)

/-- The transport of a scan, and its channels. -/
def planScan (s : State) (gatewayId region : String) (channelIds : Option (List Int)) (result : ScanResult) :
    Except ScanResult (Attached × List Channel) :=
  match if upper gatewayId = "" then none else s.transportFor gatewayId with
  | none => .error {result with error := some ("no attached transport carries ident_mac=%r", [.str gatewayId])}
  | some t =>
    let available := channelsOf region
    let wanted := channelIds.getD (available.map (·.id))
    let channels := wanted.filterMap fun i => available.find? fun c => c.id == i
    if available = [] then .error {result with error := some ("region %r has no channels", [.str region])}
    else if channels = [] then
      .error {result with error := some ("no matching channel ids in region %r: requested=%s available=%s",
        [.str region, .arr (wanted.map .int), .arr (available.map fun c => .int c.id)])}
    else .ok (t, channels)

/-- The turns of a scan, with their answers by position. -/
def scanTurns (region : String) (channels : List Channel) (answers : Nat → TurnAnswers) : List ScanTurn :=
  channels.zipIdx.map fun (c, i) => ⟨c, (channelRfConfig region c.id).getD [], answers i⟩

/-- The scan from the snapshot of the gateway's settings on. -/
def scanFrom (s : State) (result : ScanResult) (turns : List ScanTurn) (original : Dict) (after : List RxEvent) :
    ScanRun :=
  let (rows, switches, raised, s) := scanLoop turns s
  -- The settings are restored in a `finally` block.
  let switches := switches ++ [{rf := original, persist := false}]
  let s := receiveAll s after
  match raised with
  | some e => {answer := .error e, switches, state := s}
  | none =>
    let allKnown := keepFirst KnownEntry.mac [] (rows.flatMap (·.known))
    let allUnknown := keepFirst UnknownEntry.mac []
      (rows.flatMap fun row => row.unknown.map fun mac => ⟨mac, row.channelId, row.channelName⟩)
    { answer := .ok
        {result with
          ok := true
          channelsScanned := rows.map (·.channelId)
          channelsResult := rows
          allKnown, allUnknown
          summary :=
            { channels := turns.length, respondersTotal := (rows.flatMap (·.responders)).length,
              knownCount := allKnown.length, unknownCount := allUnknown.length } }
      switches
      state := if allKnown = [] then s else s.save }

/-- `scan_region`. -/
def scanRegion (s : State) (gatewayId region : String) (channelIds : Option (List Int))
    (snapshot : Option Dict) (answers : Nat → TurnAnswers) (after : List RxEvent) : ScanRun :=
  let result : ScanResult := {gatewayId := upper gatewayId, region}
  match planScan s gatewayId region channelIds result with
  | .error refused => {answer := .ok refused, state := s}
  | .ok (_, channels) =>
    match snapshot with
    | none =>
      let text := "could not read the gateway's current RF config (GW_CMD_GET_RF_CONFIG timed out)"
      {answer := .ok {result with error := some (text, [])}, state := s}
    | some original => scanFrom s result (scanTurns region channels answers) original after

end RaceLink.Fleet
