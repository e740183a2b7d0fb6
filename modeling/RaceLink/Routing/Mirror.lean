import RaceLink.Presets.Service
import RaceLink.Routing.Senders

/-! What the senders write into the device records (`services/control_service.py`): the host takes it
that a device does what it was told, and keeps the values it sent.

A send to a group writes its members before it looks for a transport, wherever they are; a send to a
device writes it once the frame is handed over. -/
namespace RaceLink.Routing.Mirror
open Python Library Domain Protocol Scenes Dispatch

/-! ### The records -/

/-- A device record with the values that are mirrored. -/
structure CachedDevice extends Device where
  flags : Int
  presetId : Int
  brightness : Int
  effectId : Int := 0
deriving DecidableEq, Repr

/-- The repositories, the transports, and the RL-presets, if that service is there. -/
structure Desk where
  networks : List Network := []
  groups : List DeviceGroup := []
  transports : List Transport := []
  devices : List CachedDevice := []
  presets : Option (List Presets.Preset) := none

def Desk.host (s : Desk) : Host := ⟨s.networks, s.groups, s.devices.map (·.toDevice), s.transports⟩

/-- Is a device in a group. -/
def CachedDevice.inGroup (d : CachedDevice) (groupB : Int) : Bool := d.groupId % 256 == groupB

/-- A change of the members of a group. -/
def updateGroup (groupB : Int) (f : CachedDevice → CachedDevice) (devices : List CachedDevice) : List CachedDevice :=
  devices.map fun d => if d.inGroup groupB then f d else d

/-- A sender: what was handed over and answered, and the records. -/
abbrev Outcome : Type := Sent × List CachedDevice

/-- The records, if the answer is True. -/
def whenSent (sent : Sent) (devices : List CachedDevice) (f : List CachedDevice → List CachedDevice) : Outcome :=
  match sent.answer with
  | .ok true => (sent, f devices)
  | _ => (sent, devices)

/-! ### Presets -/

/-- What a preset leaves in a record. -/
def withPreset (flags presetId brightness : Int) (d : CachedDevice) : CachedDevice := {d with flags, presetId, brightness}

/-- `send_group_preset`, with `_update_group_preset_cache`. -/
def sendGroupPreset (s : Desk) (groupId flags presetId brightness : Int) (target : Option (List String)) : Outcome :=
  let groupB := groupId % 256
  let flagsB := flags % 256
  let presetB := presetId % 256
  let brightnessB := brightness % 256
  (sendTo s.host .preset (fun g => .ok (buildPresetBody g flagsB presetB brightnessB)) (.group groupB) target,
    updateGroup groupB (withPreset flagsB presetB brightnessB) s.devices)

/-- `send_device_preset`; what is not given is what the record says. The device is one of the list. -/
def sendDevicePreset (s : Desk) (device : Nat) (flags presetId brightness : Option Int) : Outcome :=
  match s.devices[device]? with
  | none => (.nothing, s.devices)
  | some d =>
    let flagsB := flags.getD d.flags % 256
    let presetB := presetId.getD d.presetId % 256
    let brightnessB := brightness.getD d.brightness % 256
    whenSent (sendTo s.host .preset (fun g => .ok (buildPresetBody g flagsB presetB brightnessB)) (.device d.toDevice) none)
      s.devices fun devices => devices.modify device (withPreset flagsB presetB brightnessB)

/-- `send_wled_preset`. -/
def sendWledPreset (s : Desk) (targetDevice : Option Nat) (targetGroup : Option Int) (params : Dict)
    (target : Option (List String)) : Outcome :=
  match presetArgs params with
  | .error e => (⟨.error e, []⟩, s.devices)
  | .ok (flags, presetId, brightness) =>
    match targetGroup, targetDevice with
    | some groupId, _ => sendGroupPreset s groupId flags presetId brightness target
    | none, some device => sendDevicePreset s device (some flags) (some presetId) (some brightness)
    | none, none => (.nothing, s.devices)

/-! ### Control -/

/-- `_apply_control_locally`. -/
def applyControlLocally (flags : Int) (fields : ControlFields) (d : CachedDevice) : CachedDevice :=
  {d with
    flags := flags % 256
    effectId := fields.mode.getD d.effectId
    brightness := fields.brightness.getD d.brightness}

/-- `send_control`, with `_update_group_control_cache`. -/
def sendControl (s : Desk) (targetDevice : Option Nat) (targetGroup : Option Int) (params : Dict)
    (target : Option (List String)) : Outcome :=
  if s.transports = [] then (.nothing, s.devices)
  else match controlArgs params with
    | .error e => (⟨.error e, []⟩, s.devices)
    | .ok (flags, fields) =>
      let build := fun g => buildControlBody g flags fields
      match targetGroup, targetDevice with
      | some groupId, _ =>
        (sendTo s.host .control build (.group (groupId % 256)) target,
          updateGroup (groupId % 256) (applyControlLocally flags fields) s.devices)
      | none, some device =>
        match s.devices[device]? with
        | none => (.nothing, s.devices)
        | some d => whenSent (sendTo s.host .control build (.device d.toDevice) none) s.devices fun devices =>
          devices.modify device (applyControlLocally flags fields)
      | none, none => (.nothing, s.devices)

/-! ### RL-presets -/

/-- The parameters of a preset with its flags and the brightness that goes before its own. -/
def mergedParams (preset : Presets.Preset) (brightnessOverride : Option Json) : Except PyError Dict := do
  let params ← preset.params.toJson.toDict
  let params ← match brightnessOverride with
    | none => .ok params
    | some brightness => do
      let n ← brightness.toInt
      .ok (params.set (.str "brightness") (.int n))
  let flagsMeta := preset.flags.orElse (.obj [])
  userFlags.foldlM (fun params flag => do
    let set ← flagsMeta.attrGet flag.key
    .ok (if set.truthy then params.set (.str flag.key) (.bool true) else params)) params

/-- The record that a send of an RL-preset leaves its id in. -/
def stamp (pid : Int) (d : CachedDevice) : CachedDevice := {d with presetId := pid % 256}

/-- `send_rl_preset_by_id`, with `get_by_id`. -/
def sendRlPresetById (s : Desk) (presetId : Json) (targetDevice : Option Nat) (targetGroup : Option Int)
    (brightnessOverride : Option Json) : Outcome :=
  match s.presets with
  | none => (.nothing, s.devices)
  | some presets =>
    match presetId.toInt with
    | .error .typeError => (.nothing, s.devices)
    | .error (.valueError _ _) => (.nothing, s.devices)
    | .error e => (⟨.error e, []⟩, s.devices)
    | .ok pid =>
      match presets.find? fun p => p.id == pid with
      | none => (.nothing, s.devices)
      | some preset =>
        match mergedParams preset brightnessOverride with
        | .error e => (⟨.error e, []⟩, s.devices)
        | .ok merged =>
          let sent := sendControl s targetDevice targetGroup merged none
          whenSent sent.1 sent.2 fun devices =>
            match targetDevice, targetGroup with
            | some device, _ => devices.modify device (stamp pid)
            | none, some groupId => updateGroup (groupId % 256) (stamp pid) devices
            | none, none => devices

/-- The calls. -/
inductive Call where
  | groupPreset (groupId flags presetId brightness : Int) (target : Option (List String))
  | devicePreset (device : Nat) (flags presetId brightness : Option Int)
  | wledPreset (targetDevice : Option Nat) (targetGroup : Option Int) (params : Dict) (target : Option (List String))
  | control (targetDevice : Option Nat) (targetGroup : Option Int) (params : Dict) (target : Option (List String))
  | rlPresetById (presetId : Json) (targetDevice : Option Nat) (targetGroup : Option Int)
    (brightnessOverride : Option Json)

def run (s : Desk) : Call → Outcome
  | .groupPreset groupId flags presetId brightness target => sendGroupPreset s groupId flags presetId brightness target
  | .devicePreset device flags presetId brightness => sendDevicePreset s device flags presetId brightness
  | .wledPreset targetDevice targetGroup params target => sendWledPreset s targetDevice targetGroup params target
  | .control targetDevice targetGroup params target => sendControl s targetDevice targetGroup params target
  | .rlPresetById presetId targetDevice targetGroup brightnessOverride =>
    sendRlPresetById s presetId targetDevice targetGroup brightnessOverride

/-! ### What a frame says, and to whom -/

/-- The flags, the preset id and the brightness that a frame carries. -/
structure Values where
  flags : Int
  presetId : Option Int
  brightness : Option Int
deriving DecidableEq, Repr

/-- The group byte of a body and its values, by the layout of `racelink_proto.h`. -/
def valuesOf (opcode : Opcode) (body : Bytes) : Option (Int × Values) :=
  match opcode, body with
  | .preset, [g, flags, presetId, brightness] =>
    some (g.toNat, ⟨flags.toNat, some presetId.toNat, some brightness.toNat⟩)
  | .control, g :: flags :: mask :: rest =>
    some (g.toNat, ⟨flags.toNat, none, if mask.toNat.testBit 0 then rest.head?.map fun b => (b.toNat : Int) else none⟩)
  | _, _ => none

/-- The record shows the values. -/
structure Shows (d : CachedDevice) (v : Values) : Prop where
  flags : d.flags = v.flags
  presetId : ∀ p ∈ v.presetId, d.presetId = p
  brightness : ∀ b ∈ v.brightness, d.brightness = b

/-- A device is on the network of a transport; without a network it is on the only one there is. -/
def Hears (h : Host) (d : Device) (t : Transport) : Prop :=
  match nonEmpty d.networkId with
  | none => h.onlyTransport = some t
  | some _ => h.transportForNetwork d.networkId = some t

/-- The receiver bytes of a frame are everyone's or the device's. -/
def Receives (d : Device) (recv3 : Bytes) : Prop := recv3 = everyone ∨ macLast3FromHex d.addr = .ok recv3

/-- The frame is for the group of the device. -/
def ForGroup (d : Device) (groupB : Int) : Prop := groupB = d.groupId % 256 ∨ groupB = 255

/-- A frame is addressed to a device, with these values. -/
structure Addressed (h : Host) (frame : Frame) (d : Device) (v : Values) : Prop where
  hears : Hears h d frame.transport
  receives : Receives d frame.recv3
  values : ∃ groupB, valuesOf frame.opcode frame.body = some (groupB, v) ∧ ForGroup d groupB

/-- **What a call is to leave.** After True, every device that a frame was addressed to shows its values, and
no other record changed; after False, none did. -/
structure Right (s : Desk) (out : Outcome) : Prop where
  shows : out.1.answer = .ok true → ∀ (i : Nat) (d d' : CachedDevice), s.devices[i]? = some d →
    out.2[i]? = some d' →
    ∀ frame ∈ out.1.frames, ∀ v, Addressed s.host frame d.toDevice v → Shows d' v
  others : out.1.answer = .ok true → ∀ (i : Nat) (d d' : CachedDevice), s.devices[i]? = some d →
    out.2[i]? = some d' →
    (∀ frame ∈ out.1.frames, ∀ v, ¬ Addressed s.host frame d.toDevice v) → d' = d
  refused : out.1.answer = .ok false → ∀ (i : Nat) (d d' : CachedDevice), s.devices[i]? = some d →
    out.2[i]? = some d' → d' = d

end RaceLink.Routing.Mirror
