import RaceLink.Domain.Devices
import RaceLink.Gateways.State
import RaceLink.Saved.Migrations

/-! The state file (`state/persistence.py`, `controller.py`): what the host writes of its devices, groups and
networks, and what it makes of a file that it reads.

A group is known by its place in the list. What is written is the list as it is; what is read is the list without
the names that older hosts had for it, so that the groups after such a name move up. -/
namespace RaceLink.Saved
open Python Library Domain Gateways

/-! ### Writing -/

def textOrNull (x : Option String) : Json := (x.map Json.str).getD .null

def dictOrNull (x : Option Dict) : Json := (x.map Json.obj).getD .null

/-- The attributes of a device that are read again, and two that are not. -/
def deviceFields (d : DeviceRecord) : Dict :=
  [(.str "addr", .str d.addr), (.str "dev_type", .int d.devType), (.str "name", .str d.name),
    (.str "version", .int d.version), (.str "caps", .int d.caps), (.str "groupId", .int d.groupId),
    (.str "network_id", textOrNull d.networkId), (.str "last_known_rf_config", dictOrNull d.lastKnownRfConfig),
    (.str "flags", .int d.flags), (.str "presetId", .int d.presetId), (.str "brightness", .int d.brightness),
    (.str "specials", .obj d.specials), (.str "link_online", .bool d.linkOnline)]

/-- `_as_record` of a device. -/
def deviceRecord (d : DeviceRecord) : Json := .obj (deviceFields d)

/-- `_as_record` of a group. -/
def groupRecord (g : GroupRecord) : Json :=
  dict [("name", .str g.name), ("static_group", .int g.staticGroup), ("dev_type", .int g.devType),
    ("network_id", textOrNull g.networkId)]

def kindText : NetworkKind → String
  | .rf => "rf"
  | .ethernet => "ethernet"

/-- `_as_record` of a network. -/
def networkRecord (n : NetworkRecord) : Json :=
  dict [("id", .str n.id), ("name", .str n.name), ("kind", .str (kindText n.kind)),
    ("gateway_mac", textOrNull n.gatewayMac), ("region", .str n.region),
    ("channel_id", (n.channelId.map Json.int).getD .null), ("rf_config", dictOrNull n.rfConfig),
    ("eth_config", dictOrNull n.ethConfig), ("created_ts", .float n.createdTs)]

/-- `dump_state`, as what its text says. -/
def dumpState (keyText : Key → String) (devices : List DeviceRecord) (groups : List GroupRecord)
    (networks : List NetworkRecord) (schemaVersion : Int) : Json :=
  (dict [("schema_version", .int schemaVersion), ("devices", .arr (devices.map deviceRecord)),
    ("groups", .arr (groups.map groupRecord)), ("networks", .arr (networks.map networkRecord))]).dump keyText

/-- `default_backup_groups`. -/
def defaultBackupGroups : List GroupRecord :=
  [{ networkId := none, name := "All WLED Nodes", staticGroup := 1, devType := 0 }]

/-- `save_to_db`: what it puts into the option `rl_state_v1`. -/
def saveToDb (keyText : Key → String) (s : State) : Json :=
  let groups := if s.groups.length < defaultBackupGroups.length then defaultBackupGroups else s.groups
  dumpState keyText s.devices groups s.networks CURRENT_SCHEMA_VERSION

/-! ### Reading records -/

/-- What reading needs from outside: `str` of what is no string, `float` of what is no float, new ids by the place
of the network, and the clock. -/
structure Reader where
  text : Json → String
  text_ne : ∀ x, text x ≠ ""
  float : Json → Except PyError PyFloat
  uuid : Nat → String
  uuid_ne : ∀ n, uuid n ≠ ""
  now : PyFloat

/-- `str(x)`. -/
def Reader.str (r : Reader) : Json → String
  | .str s => s
  | x => r.text x

/-- `str(x) if x else None`. -/
def Reader.strOrNone (r : Reader) (x : Json) : Option String := if x.truthy then some (r.str x) else none

/-- `str(x or default)`. -/
def Reader.strOr (r : Reader) (x : Json) (default : String) : String := if x.truthy then r.str x else default

/-- `dict(x) if isinstance(x, dict) else None`. -/
def asDict : Json → Option Dict
  | .obj fields => some fields
  | _ => none

/-- The flags of a record, or what older hosts had for them. -/
def loadFlags (device : Dict) : Except PyError Int :=
  match Dict.get device "flags" with
  | .null => do
    let state ← ((Dict.getD device "state" (.int 1)).orElse (.int 0)).toInt
    let flags := if state ≠ 0 then RL_FLAG_POWER_ON else 0
    .ok (if Dict.has device "brightness" then flags ||| RL_FLAG_HAS_BRI else flags : Nat)
  | flags => flags.toInt

def loadPresetId (device : Dict) : Except PyError Int :=
  match Dict.get device "presetId" with
  | .null => ((Dict.getD device "effect" (.int 1)).orElse (.int 1)).toInt
  | presetId => presetId.toInt

/-- The type of a device under its names over time. -/
def loadDevType (device : Dict) : Except PyError Int :=
  let raw := match Dict.get device "dev_type", Dict.get device "device_type" with
    | .null, .null => Dict.getD device "caps" (Dict.getD device "type" (.int 0))
    | .null, devType => devType
    | devType, _ => devType
  (raw.orElse (.int 0)).toInt

/-- `build_specials_state(dev_type, device.get("specials") or {})`. -/
def loadSpecials (devType : Int) (device : Dict) : Except PyError Dict :=
  match (Dict.get device "specials").orElse (.obj []) with
  | .obj stored => .ok (buildSpecialsState devType stored)
  | _ => .error .attributeError

/-- `int(device.get(key, default) or 0)`. -/
def loadNumber (device : Dict) (key : String) (default : Int) : Except PyError Int :=
  ((Dict.getD device key (.int default)).orElse (.int 0)).toInt

/-- The body of the loop over the devices. -/
def loadDevice (r : Reader) : Json → Except PyError DeviceRecord
  | .obj device => do
    let flags ← loadFlags device
    let presetId ← loadPresetId device
    let brightness ← loadNumber device "brightness" 70
    let devType ← loadDevType device
    let specials ← loadSpecials devType device
    let groupId ← loadNumber device "groupId" 0
    let version ← loadNumber device "version" 0
    let d := createDevice devType
      { addr := upper (r.str (Dict.getD device "addr" (.str ""))), name := r.str (Dict.getD device "name" (.str "")),
        groupId, version, caps := devType, flags, presetId, brightness } specials
    .ok {d with
      networkId := r.strOrNone (Dict.get device "network_id")
      lastKnownRfConfig := asDict (Dict.get device "last_known_rf_config")}
  | _ => .error .attributeError

/-- What ends `load_from_db`: a `KeyError`, or another exception. -/
inductive LoadError where
  | keyError (key : String)
  | raised (error : PyError)
deriving DecidableEq, Repr

def item (record : Dict) (key : String) : Except LoadError Json :=
  match Dict.get? record key with
  | some x => .ok x
  | none => .error (.keyError key)

/-- The body of the loop over the groups. The name and the mark of a static group are kept as they are; only
strings and integers are written there, so they are read as such. -/
def loadGroup (r : Reader) : Json → Except LoadError GroupRecord
  | .obj group => do
    let name ← item group "name"
    let staticGroup ← item group "static_group"
    let devType ← ((Dict.getD group "dev_type" (Dict.getD group "device_type" (.int 0))).toInt).mapError .raised
    .ok { networkId := r.strOrNone (Dict.get group "network_id"), name := r.str name
          staticGroup := match staticGroup with
            | .int n => n
            | mark => if mark.truthy then 1 else 0
          devType }
  | _ => .error (.raised .attributeError)

/-- `_normalize_kind`. -/
def normalizeKind (r : Reader) (kind : Json) : NetworkKind :=
  if lower (strip (r.strOr kind "rf")) = "ethernet" then .ethernet else .rf

/-- `int(channel_id) if channel_id is not None else None`. -/
def loadChannelId : Json → Except PyError (Option Int)
  | .null => .ok none
  | channelId => channelId.toInt.map some

/-- `float(created_ts) if created_ts is not None else time.time()`. -/
def loadCreatedTs (r : Reader) : Json → Except PyError PyFloat
  | .null => .ok r.now
  | .float x => .ok x
  | x => r.float x

/-- `RL_Network`, of the `i`th record. -/
def loadNetwork (r : Reader) (i : Nat) : Json → Except PyError NetworkRecord
  | .obj net => do
    let channelId ← loadChannelId (Dict.get net "channel_id")
    let createdTs ← loadCreatedTs r (Dict.get net "created_ts")
    .ok { id := r.strOr (Dict.get net "id") (r.uuid i), name := r.strOr (Dict.get net "name") "Default"
          kind := normalizeKind r (Dict.get net "kind")
          gatewayMac := (r.strOrNone (Dict.get net "gateway_mac")).map upper
          region := r.strOr (Dict.get net "region") "EU868", channelId
          rfConfig := asDict (Dict.get net "rf_config"), ethConfig := asDict (Dict.get net "eth_config"), createdTs }
  | _ => .error .attributeError

/-! ### The groups of a file -/

/-- `str(group.name).strip().lower()`. -/
def groupKey (g : GroupRecord) : String := lower (strip g.name)

/-- A group that older hosts had and this one does not. -/
def isLegacyGroup (g : GroupRecord) : Bool := groupKey g = "unconfigured" ∨ groupKey g = "all wled devices"

def isAllNodes (g : GroupRecord) : Bool := groupKey g = "all wled nodes"

/-- "All WLED Nodes" as it is to be. -/
def asAllNodes (g : GroupRecord) : GroupRecord := {g with name := "All WLED Nodes", staticGroup := 1, devType := 0}

/-- What is made of the groups that were read. -/
def settleGroups (groups : List GroupRecord) : List GroupRecord :=
  let groups := groups.filter fun g => !isLegacyGroup g
  if groups.any isAllNodes then groups.map fun g => if isAllNodes g then asAllNodes g else g
  else groups ++ defaultBackupGroups

/-! ### Reading a file -/

/-- What the option `rl_state_v1` holds: nothing, or a text, with what it says if it is JSON. -/
abbrev OptionText : Type := Option (Option Json)

/-- `_load_from_legacy_keys`: the devices and groups of the keys before the combined one, if there are any. -/
abbrev LegacyKeys : Type := Option (List Json × List Json)

/-- The lists that are read, with their version, and whether they are written back. -/
structure Read where
  sections : Sections
  version : Int
  needsSave : Bool
deriving DecidableEq, Repr

def backupSections : Sections := ⟨[], defaultBackupGroups.map groupRecord, []⟩

/-- The first part of `load_from_db`: the combined key, or those before it. -/
def readOption (legacy : LegacyKeys) : OptionText → Read
  | none =>
    match legacy with
    | none => ⟨backupSections, 0, true⟩
    | some (devices, groups) => ⟨⟨devices, groups, []⟩, 0, true⟩
  | some payload =>
    let (loaded, version) := loadState payload backupSections
    if version = 0 then
      match legacy with
      | none => ⟨loaded, 0, true⟩
      | some (devices, groups) => ⟨{loaded with devices, groups}, 0, true⟩
    else ⟨loaded, version, false⟩

/-- The lists after the migrations. -/
def readSections (legacy : LegacyKeys) (raw : OptionText) : Read :=
  let read := readOption legacy raw
  let (sections, version) := migrateState read.sections.devices read.sections.groups (some read.sections.networks)
    read.version CURRENT_SCHEMA_VERSION
  ⟨sections, version, read.needsSave || version < CURRENT_SCHEMA_VERSION⟩

/-- The devices of a file; what raises is logged and left out. -/
def loadDevices (r : Reader) (records : List Json) : List DeviceRecord :=
  records.filterMap fun x => (loadDevice r x).toOption

def loadGroups (r : Reader) (records : List Json) : Except LoadError (List GroupRecord) :=
  let records := if records = [] then defaultBackupGroups.map groupRecord else records
  (records.mapM (loadGroup r)).map settleGroups

def loadNetworks (r : Reader) (records : List Json) : List NetworkRecord :=
  records.zipIdx.filterMap fun (x, i) => (loadNetwork r i x).toOption

/-- `load_from_db`. A group that cannot be read ends it; the devices are replaced by then. -/
def loadFromDb (r : Reader) (legacy : LegacyKeys) (raw : OptionText) (s : State) : Except LoadError Unit × State :=
  let read := readSections legacy raw
  let s := {s with devices := loadDevices r read.sections.devices}
  match loadGroups r read.sections.groups with
  | .error e => (.error e, s)
  | .ok groups =>
    let s := {s with groups, networks := loadNetworks r read.sections.networks}
    (.ok (), if read.needsSave then s.save else s)

end RaceLink.Saved
