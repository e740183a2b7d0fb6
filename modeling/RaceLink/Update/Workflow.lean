import Mathlib.Data.List.Infix
import RaceLink.Library.Actions
import RaceLink.Library.Keyed
import RaceLink.Python.Value
import RaceLink.Update.Nodes

/-! The workflows that go over a node's own access point (`services/ota_workflow_service.py`): the
firmware update of a list of nodes and the download of the presets of one.

What they ask of the services around them (the host's Wi-Fi, the HTTP transfers, the radio, the task
that shows their progress) are calls on a world outside; how long a call may take is left out. The
state is what the workflow itself keeps: the results, and the rows the progress is shown in. -/
namespace RaceLink.Update
open Python Library

/-! ### What is kept -/

/-- `device_state`. -/
inductive RowState where
  | queued
  | running
  | ok
  | error
  | reannounceTimeout
deriving DecidableEq, Repr

/-- `dev_res["autoRestoreOk"]`. -/
inductive AutoRestore where
  | timeout
  | done
deriving DecidableEq, Repr

/-- `dev_res`. The entries that come later are `none` until then. -/
structure DevRes where
  addr : String
  expectedMac : String
  groupId : Int
  ok : Bool := false
  error : Option String := none
  ssid : Option String := none
  infoBefore : Option Dict := none
  autoRestoreOk : Option AutoRestore := none
deriving DecidableEq, Repr

/-- A line of `results["errors"]`. -/
inductive Note where
  /-- The text of an exception. -/
  | said (text : String)
  /-- `f"Host WiFi cleanup: disconnect from {ssid!r} failed: {text}"` -/
  | cleanupFailed (ssid text : String)
  /-- `f"Host WiFi restore failed: {text}"` -/
  | restoreFailed (text : String)
deriving DecidableEq, Repr

structure HostWifi where
  wasEnabled : Bool
  enabled : Bool
  restored : Bool := false
deriving DecidableEq, Repr

/-- A file to upload; a preset file has no id. -/
structure Upload where
  id : Option String := none
  name : String
  size : Nat
  sha256 : String
  path : String
deriving DecidableEq, Repr

/-- What the results say of a file. -/
structure Picked where
  id : Option String
  name : String
  size : Nat
  sha256 : String
deriving DecidableEq, Repr

def Upload.picked (u : Upload) : Picked := ⟨u.id, u.name, u.size, u.sha256⟩

/-- A preset file on disk. -/
structure SavedFile where
  name : String
  size : Nat
  savedTs : Int
deriving DecidableEq, Repr

/-- `results` of both workflows: a download has no devices, an update no file. -/
structure Results where
  ok : Bool := true
  errors : List Note := []
  cancelled : Bool := false
  hostWifi : HostWifi
  devices : List DevRes := []
  cancelledAfter : Option Nat := none
  fw : Option Picked := none
  presets : Option Picked := none
  cfg : Option Picked := none
  summary : String := ""
  file : Option SavedFile := none
  files : List SavedFile := []
deriving DecidableEq, Repr

abbrev Rows := List (String × RowState)

/-- What a workflow keeps; `apOpened` is about the device at hand. -/
structure State where
  results : Results
  deviceState : Rows := []
  deviceMessages : List (String × String) := []
  lastConnectedSsid : String := ""
  lastConnectedBssid : String := ""
  apOpened : Bool := false
deriving DecidableEq, Repr

/-! ### What is shown -/

inductive Stage where
  | hostWifiOn
  | connectWifi
  | racelinkApOn
  | waitHttp
  | uploadFw
  | deviceDone
  | deviceError
  | reannounceWait
  | reannounceTimeout
  | autorestoreWait
  | apClose
  | downloadPresets
deriving DecidableEq, Repr

/-- What `_meta_base` puts into every update. -/
structure Board where
  macs : List String
  total : Nat
  retries : Nat
  baseUrl : String
  deviceState : Rows
  deviceMessages : List (String × String)
deriving DecidableEq, Repr

/-- The `meta` of an update of the task. -/
structure Meta where
  stage : Stage
  message : String
  addr : Option String
  index : Option Nat := none
  attempt : Option Nat := none
  board : Option Board := none
deriving DecidableEq, Repr

/-! ### The world outside -/

inductive Call where
  | radioEnabled
  | setRadio (enabled : Bool)
  | waitIfaceReady (iface : String)
  | connectAp (ssids : List String) (password iface bssid avoidBssid : String)
  | disconnectAp (ssid : String)
  | activeBssid (iface : String)
  | disconnectIfaceFast (iface : String)
  | sendConfig (option data0 : Nat) (recv3 : Bytes)
  | waitForExpectedNode (baseUrl expectedMac : String)
  | wledUploadFile (baseUrl path destName : String)
  | wledUploadFirmware (baseUrl path otaPassword : String) (skipValidation : Bool)
  | wledDownloadPresets (baseUrl : String)
  | savePayload (payload : Bytes)
  | listFiles
  | clearIdentify (mac : String)
  | waitForIdentify (mac : String)
  | waitForAutoRestore (mac : String)
  | isCancelRequested
  | devices
  | update (shown : Meta)
deriving DecidableEq, Repr

/-- What a call answers; most may raise instead. Of an ACK that is waited for, whether it came. -/
abbrev Answer : Call → Type
  | .radioEnabled => Bool
  | .setRadio _ => Except Raised Unit
  | .waitIfaceReady _ => Except Raised Unit
  | .connectAp .. => Except Raised String
  | .disconnectAp _ => Except Raised Unit
  | .activeBssid _ => Except Raised String
  | .disconnectIfaceFast _ => Except Raised Unit
  | .sendConfig .. => Except Raised Bool
  | .waitForExpectedNode .. => Except Raised (Option Dict)
  | .wledUploadFile .. => Except Raised Unit
  | .wledUploadFirmware .. => Except Raised Unit
  | .wledDownloadPresets _ => Except Raised Bytes
  | .savePayload _ => Except Raised SavedFile
  | .listFiles => Except Raised (List SavedFile)
  | .clearIdentify _ => Except Raised Unit
  | .waitForIdentify _ => Except Raised Bool
  | .waitForAutoRestore _ => Except Raised Bool
  | .isCancelRequested => Bool
  | .devices => List Known
  | .update _ => Unit

abbrev World := Outside Call Answer
abbrev Calls := History Call Answer
abbrev Step (α : Type) := Talk Call Answer Raised State α

/-! ### What the caller asks for -/

/-- `wifi`, without its timeout. -/
structure Wifi where
  ssids : List String
  password : String
  otaPassword : String
  iface : String
  bssid : String
deriving DecidableEq, Repr

/-- The arguments of `run_firmware_update`, and whether the host has a gateway service. -/
structure Request where
  macs : List String
  baseUrl : String
  fwInfo : Option Upload := none
  presetsInfo : Option Upload := none
  cfgInfo : Option Upload := none
  retries : Nat := 3
  stopOnError : Bool := false
  wifi : Wifi
  hostWifiEnable : Bool
  hostWifiRestore : Bool
  skipValidation : Bool := false
  gatewayService : Bool := true
deriving DecidableEq, Repr

/-! ### Parts of both workflows -/

section Parts
variable (o : World)

/-- A call whose exception is raised. -/
abbrev raising {α : Type} (x : Step (Except Raised α)) : Step α := do
  Action.ofExcept (← x)

/-- `if not ok: raise ex`. -/
def orRaise (ok : Bool) (ex : Raised) : Step Unit := if ok then pure () else Action.raise ex

@[simp] theorem orRaise_true (ex : Raised) : orRaise true ex = pure () := rfl

@[simp] theorem orRaise_false (ex : Raised) : orRaise false ex = Action.raise ex := rfl

/-- `if condition: ...`. -/
def onlyIf (condition : Bool) (m : Step Unit) : Step Unit := if condition then m else pure ()

@[simp] theorem onlyIf_true (m : Step Unit) : onlyIf true m = m := rfl

@[simp] theorem onlyIf_false (m : Step Unit) : onlyIf false m = pure () := rfl

/-- The results are changed. -/
def modifyResults (f : Results → Results) : Step Unit := Talk.modify fun s => {s with results := f s.results}

def addNote (note : Note) : Step Unit := modifyResults fun r => {r with errors := r.errors ++ [note]}

def setEnabled (enabled : Bool) : Step Unit :=
  modifyResults fun r => {r with hostWifi := {r.hostWifi with enabled := enabled}}

/-- `part in text`. -/
def contains (text part : String) : Bool := decide (part.toList <:+: text.toList)

/-- The host leaves the AP it was connected to; a failure is noted and no more. -/
def leaveAp (ssid : String) : Step Unit :=
  Action.orExcept (raising (Talk.ask o (.disconnectAp ssid))) fun ex => addNote (.cleanupFailed ssid ex.message)

/-- The `try` of `_restore_host_wifi`. -/
def switchOff : Step Unit := do
  leaveAp o (← Talk.gets State.lastConnectedSsid)
  raising (Talk.ask o (.setRadio false))
  modifyResults fun r => {r with hostWifi := {r.hostWifi with enabled := false, restored := true}}

/-- The `except` of `_restore_host_wifi`. -/
def restoreFailed (ex : Raised) : Step Unit :=
  modifyResults fun r => {r with errors := r.errors ++ [.restoreFailed ex.message], ok := false}

/-- `_restore_host_wifi`. -/
def restoreHostWifi (hostWifiRestore hostWifiInitial : Bool) : Step Unit := do
  if hostWifiRestore && !hostWifiInitial then
    if ← Talk.ask o .radioEnabled then Action.orExcept (switchOff o) restoreFailed

/-- `_ensure_wifi_ready`, with the update it shows. -/
def ensureWifiReady (wifi : Wifi) (hostWifiEnable hostWifiInitial : Bool) (base : Meta) : Step Bool := do
  if hostWifiEnable && !hostWifiInitial then
    Talk.ask o (.update {base with stage := .hostWifiOn, message := "Enabling host WiFi radio..."})
    raising (Talk.ask o (.setRadio true))
    raising (Talk.ask o (.waitIfaceReady wifi.iface))
    setEnabled true
    pure true
  else pure false

/-- `ssids_label`. -/
def ssidsLabel : List String → String
  | [] => "<none>"
  | ssids => ", ".intercalate ssids

/-- `bssid_hint`. -/
def bssidHint (wifi : Wifi) (addr : Option String) : String :=
  let given := strip wifi.bssid
  if given = "" then
    match addr with
    | none => ""
    | some addr => if addr = "" then "" else expectedSoftapBssid addr
  else given

/-- The texts of an exception that says the radio is off. -/
def wifiIsDisabled (text : String) : Bool :=
  contains text "Wi-Fi is disabled" || contains (lower text) "wireless is disabled"

/-- `_connect_wled_wifi`: the SSID that was found. That the radio was turned on is left to the results,
where its callers look it up. -/
def connectWledWifi (wifi : Wifi) (hostWifiEnable hostWifiChanged : Bool) (base : Meta) (avoidBssid : String) :
    Step String := do
  let connect := Call.connectAp wifi.ssids wifi.password wifi.iface (bssidHint wifi base.addr) avoidBssid
  Talk.ask o (.update {base with
    stage := .connectWifi
    message := s!"Connecting host WiFi (iface {wifi.iface}) to SSID \"" ++ ssidsLabel wifi.ssids ++ "\""})
  Action.orExcept (raising (Talk.ask o connect)) fun ex =>
    if hostWifiEnable && !hostWifiChanged && wifiIsDisabled ex.text then do
      Talk.ask o (.update {base with
        stage := .hostWifiOn
        message := s!"Host WiFi appears disabled; enabling on {wifi.iface}..."})
      raising (Talk.ask o (.setRadio true))
      setEnabled true
      raising (Talk.ask o (.waitIfaceReady wifi.iface))
      raising (Talk.ask o connect)
    else Action.raise ex

end Parts

/-! ### The firmware update -/

/-- A file goes to at least one of the three places. -/
def Request.HasOps (req : Request) : Prop :=
  req.fwInfo.isSome ∨ req.presetsInfo.isSome ∨ req.cfgInfo.isSome

instance (req : Request) : Decidable req.HasOps := inferInstanceAs (Decidable (_ ∨ _))

/-- `d[key] = value` in a dict of rows. -/
def setRow {α : Type} (key : String) (value : α) (rows : List (String × α)) : List (String × α) :=
  putKey Prod.fst (key, value) rows

/-- The record of the device at hand, which is the last, is changed. -/
def modifyLast (f : DevRes → DevRes) (devices : List DevRes) : List DevRes :=
  devices.dropLast ++ (devices.getLast?.map f).toList

section Update
variable (o : World) (req : Request)

/-- `_meta_base`, as a snapshot. -/
def board (s : State) : Board :=
  ⟨req.macs, req.macs.length, req.retries, req.baseUrl, s.deviceState, s.deviceMessages⟩

/-- `emit`. -/
def emit (stage : Stage) (message addr : String) (index : Nat) (attempt : Option Nat := none) : Step Unit := do
  let shown ← Talk.gets (board req)
  Talk.ask o (.update {
    stage := stage, message := message, addr := some addr, index := some index, attempt := attempt,
    board := some shown})

def modifyDevice (f : DevRes → DevRes) : Step Unit :=
  modifyResults fun r => {r with devices := modifyLast f r.devices}

def setDeviceState (addr : String) (row : RowState) : Step Unit :=
  Talk.modify fun s => {s with deviceState := setRow addr row s.deviceState}

/-- A call that is not needed for what follows: its exception is dropped. -/
def swallow {α : Type} (x : Step (Except Raised α)) : Step Unit := do
  let _ ← x
  pure ()

/-- One try to have the AP of a node switched, with what it shows. -/
def switchAp (stage : Stage) (text : String) (data0 : Nat) (addr : String) (index attempt : Nat) : Step Bool := do
  emit o req stage (text ++ s!"(try {attempt}/2)") addr index (some attempt)
  let recv3 ← Action.ofExcept (recv3BytesFromAddr addr)
  raising (Talk.ask o (.sendConfig 4 data0 recv3))

/-- The loop of the firmware upload, with the last exception; an HTTP 500 or 503 ends it. -/
def uploadFirmware (path addr : String) (index : Nat) : Nat → Nat → Option Raised → Step (Bool × Option Raised)
  | _, 0, lastErr => pure (false, lastErr)
  | attempt, left + 1, _ => do
    emit o req .uploadFw s!"Uploading firmware (try {attempt}/{req.retries})" addr index (some attempt)
    match ← Talk.ask o (.wledUploadFirmware req.baseUrl path req.wifi.otaPassword req.skipValidation) with
    | .ok () => pure (true, none)
    | .error ex =>
      if contains ex.text "HTTP 500" || contains ex.text "HTTP 503" then pure (false, some ex)
      else uploadFirmware path addr index (attempt + 1) left (some ex)

def uploadFile (destName : String) : Option Upload → Step Unit
  | none => pure ()
  | some info => raising (Talk.ask o (.wledUploadFile req.baseUrl info.path destName))

/-- `{k: info.get(k) for k in (...)}`. -/
def infoBefore (info : Dict) : Dict :=
  ["mac", "ver", "arch", "name"].map fun k => (.str k, (info.get? k).getD .null)

/-- The AP of a device is switched on, or the update of it fails. -/
def enableAp (addr : String) (index : Nat) : Step Unit := do
  onlyIf req.gatewayService (swallow (Talk.ask o (.clearIdentify addr)))
  let okAp ← Action.attempts (switchAp o req .racelinkApOn "Enable WLED AP via RaceLink " 1 addr index) 1 2
  orRaise okAp (runtimeError s!"Timeout waiting for CONFIG ACK from {addr} (AP-enable)")

/-- The `try` of a device up to the connection to its AP. -/
def openAp (addr : String) (index : Nat) : Step Unit := do
  enableAp o req addr index
  Talk.modify fun s => {s with apOpened := true}

/-- The BSSID the host is connected to, if it can be found out. -/
def noteBssid : Step Unit := do
  match ← Talk.ask o (.activeBssid req.wifi.iface) with
  | .ok bssid => Talk.modify fun s => {s with lastConnectedBssid := if bssid = "" then s.lastConnectedBssid else bssid}
  | .error _ => pure ()

/-- The node says who it is, and is the expected one, or the update of it fails. -/
def awaitNode (expectedMac addr : String) (index : Nat) : Step Unit := do
  emit o req .waitHttp s!"Waiting for WLED /json/info mac to match {expectedMac}" addr index
  let info ← raising (Talk.ask o (.waitForExpectedNode req.baseUrl expectedMac))
  orRaise (!(info.getD []).isEmpty) (runtimeError
    s!"Timeout waiting for node (baseUrl={req.baseUrl}) to report expected mac {expectedMac}")
  modifyDevice fun d => {d with infoBefore := some (infoBefore (info.getD []))}

/-- The connection to the AP of a device, and what it says of itself there. -/
def reachNode (hostWifiInitial : Bool) (expectedMac addr : String) (index : Nat) : Step Unit := do
  let shown ← Talk.gets (board req)
  let changed ← Talk.gets fun s => s.results.hostWifi.enabled && !hostWifiInitial
  let avoid ← Talk.gets State.lastConnectedBssid
  let base : Meta := {
    stage := .connectWifi, message := "", addr := some addr, index := some index, board := some shown}
  let matched ← connectWledWifi o req.wifi req.hostWifiEnable changed base avoid
  noteBssid o req
  Talk.modify fun s => {s with lastConnectedSsid := if matched = "" then s.lastConnectedSsid else matched}
  modifyDevice fun d => {d with ssid := some matched}
  awaitNode o req expectedMac addr index

/-- The firmware upload, if there is one. -/
def updateFirmware (addr : String) (index : Nat) : Step Unit :=
  match req.fwInfo with
  | none => pure ()
  | some info => do
    let result ← uploadFirmware o req info.path addr index 1 req.retries none
    orRaise result.1 (runtimeError ("Firmware upload failed: " ++ (result.2.map Raised.text).getD "None"))

/-- The uploads to a node that was reached. -/
def uploadAll (addr : String) (index : Nat) : Step Unit := do
  uploadFile o req "presets.json" req.presetsInfo
  uploadFile o req "cfg.json" req.cfgInfo
  updateFirmware o req addr index

/-- The `try` of a device from there to the last file. -/
def deliver (hostWifiInitial : Bool) (expectedMac addr : String) (index : Nat) : Step Unit := do
  reachNode o req hostWifiInitial expectedMac addr index
  uploadAll o req addr index

/-- The end of the `try` of a device. -/
def succeeded (addr : String) (index : Nat) : Step Unit := do
  modifyDevice fun d => {d with ok := true}
  setDeviceState addr .ok
  emit o req .deviceDone s!"{addr}: update complete" addr index
  swallow (Talk.ask o (.disconnectIfaceFast req.wifi.iface))

/-- The `try` of a device. -/
def flash (hostWifiInitial : Bool) (expectedMac addr : String) (index : Nat) : Step Unit := do
  openAp o req addr index
  deliver o req hostWifiInitial expectedMac addr index
  succeeded o req addr index

/-- The `except` of a device. -/
def failed (addr : String) (index : Nat) (ex : Raised) : Step Unit := do
  modifyDevice fun d => {d with error := some ex.message}
  addNote (.said ex.message)
  setDeviceState addr .error
  Talk.modify fun s => {s with deviceMessages := setRow addr ex.message s.deviceMessages}
  emit o req .deviceError s!"{addr}: {ex.message}" addr index
  orRaise (!req.stopOnError) ex

/-- A wait whose exception counts as none. -/
def waited (x : Step (Except Raised Bool)) : Step Bool := do
  match ← x with
  | .ok answer => pure answer
  | .error _ => pure false

/-- `dev_res.get("ok")`. -/
def currentOk (s : State) : Bool := (s.results.devices.getLast?.map DevRes.ok).getD false

/-- The part of the `finally` of a device that waits for it to come back. -/
def awaitReturn (addr : String) (index : Nat) : Step Unit := do
  emit o req .reannounceWait s!"Waiting for {addr} to re-register on RaceLink radio after reboot" addr index
  if ← waited (Talk.ask o (.waitForIdentify addr)) then
    emit o req .autorestoreWait s!"Waiting for auto-restore SET_GROUP for {addr}" addr index
    let restored ← waited (Talk.ask o (.waitForAutoRestore addr))
    modifyDevice fun d => {d with autoRestoreOk := some (if restored then .done else .timeout)}
  else
    setDeviceState addr .reannounceTimeout
    modifyDevice fun d => {d with autoRestoreOk := some .timeout}
    emit o req .reannounceTimeout s!"{addr} did not re-register on RaceLink within 30s" addr index

/-- The part of the `finally` of a device that switches its AP off. -/
def closeAp (addr : String) (index : Nat) : Step Unit :=
  Action.orExcept
    (do
      let _ ← Action.attempts (switchAp o req .apClose "Disable WLED AP via RaceLink " 0 addr index) 1 2
      pure ())
    fun _ => pure ()

/-- The `finally` of a device. -/
def settle (addr : String) (index : Nat) : Step Unit := do
  let ok ← Talk.gets currentOk
  onlyIf (ok && req.gatewayService) (awaitReturn o req addr index)
  let opened ← Talk.gets State.apOpened
  onlyIf (opened && !ok) (closeAp o req addr index)

/-- The body of the loop for a device. -/
def updateDevice (hostWifiInitial : Bool) (addr : String) (index : Nat) : Step Unit := do
  setDeviceState addr .running
  let expectedMac := String.ofList (expectedMacHex addr)
  let known ← Talk.ask o .devices
  modifyResults fun r => {r with
    devices := r.devices ++ [{
      addr := addr, expectedMac := expectedMac, groupId := lookupGroupIdForAddr addr known}]}
  Talk.modify fun s => {s with apOpened := false}
  Action.andFinally
    (Action.orExcept (flash o req hostWifiInitial expectedMac addr index) (failed o req addr index))
    (settle o req addr index)

/-- The loop over the devices; the first index is 1. -/
def deviceLoop (hostWifiInitial : Bool) : Nat → List String → Step Unit
  | _, [] => pure ()
  | index, addr :: rest => do
    if ← Talk.ask o .isCancelRequested then
      modifyResults fun r => {r with cancelled := true, cancelledAfter := some (index - 1)}
    else
      updateDevice o req hostWifiInitial addr index
      deviceLoop hostWifiInitial (index + 1) rest

/-- The text the UI shows of a workflow that ended. -/
def summaryOf (total : Nat) (r : Results) : String :=
  let okCount := r.devices.countP DevRes.ok
  let errCount := r.errors.length
  if r.cancelled then
    s!"cancelled after {r.cancelledAfter.getD 0}/{total} device(s)" ++
      (if errCount = 0 then "" else s!", {errCount} error(s)")
  else if errCount ≠ 0 ∨ okCount < total then s!"{okCount}/{total} ok, {errCount} error(s)"
  else s!"{okCount}/{total} ok"

def State.start (hostWifiInitial : Bool) : State :=
  {results := {hostWifi := ⟨hostWifiInitial, hostWifiInitial, false⟩}}

/-- What the results say of the request, and the rows, all queued. -/
def State.accept (s : State) : State :=
  {s with
    results := {s.results with
      fw := req.fwInfo.map Upload.picked
      presets := req.presetsInfo.map Upload.picked
      cfg := req.cfgInfo.map Upload.picked}
    deviceState := req.macs.foldl (fun rows addr => setRow addr .queued rows) []}

/-- `run_firmware_update`; its answer are the results it leaves in the state. -/
def runFirmwareUpdate : Step Unit := do
  let hostWifiInitial ← Talk.ask o .radioEnabled
  Talk.modify fun _ => State.start hostWifiInitial
  orRaise (decide req.HasOps) (runtimeError <| "firmware-update called with no operations selected " ++
    "(no fw_info / presets_info / cfg_info); the API route should have rejected this with 400")
  Talk.modify (State.accept req)
  Action.andFinally
    (Action.orExcept
      (do
        let shown ← Talk.gets (board req)
        let base : Meta := {stage := .hostWifiOn, message := "", addr := none, index := some 0, board := some shown}
        let _ ← ensureWifiReady o req.wifi req.hostWifiEnable hostWifiInitial base
        deviceLoop o req hostWifiInitial 1 req.macs)
      fun _ => modifyResults fun r => {r with ok := false})
    (restoreHostWifi o req.hostWifiRestore hostWifiInitial)
  modifyResults fun r => {r with summary := summaryOf req.macs.length r}

end Update

/-! ### The download of presets -/

section Download
variable (o : World)

/-- The `try` of `download_presets`, up to the file that was saved. -/
def fetchPresets (mac baseUrl : String) (wifi : Wifi) (hostWifiEnable hostWifiInitial : Bool) : Step Unit := do
  if ← Talk.ask o .isCancelRequested then
    modifyResults fun r => {r with cancelled := true}
  else
    let base : Meta := {stage := .racelinkApOn, message := "", addr := some mac}
    let changed ← ensureWifiReady o wifi hostWifiEnable hostWifiInitial base
    Talk.ask o (.update {base with message := "Enable WLED AP via RaceLink (waiting for ACK)"})
    let recv3 ← Action.ofExcept (recv3BytesFromAddr mac)
    let okAp ← raising (Talk.ask o (.sendConfig 4 1 recv3))
    orRaise okAp (runtimeError s!"Timeout waiting for CONFIG ACK from {mac}")
    let matched ← connectWledWifi o wifi hostWifiEnable changed base ""
    Talk.modify fun s => {s with lastConnectedSsid := matched}
    if ← Talk.ask o .isCancelRequested then
      modifyResults fun r => {r with cancelled := true}
    else
      let expectedMac := String.ofList (expectedMacHex mac)
      Talk.ask o (.update {base with
        stage := .waitHttp, message := s!"Waiting for WLED /json/info mac to match {expectedMac}"})
      let info := (← raising (Talk.ask o (.waitForExpectedNode baseUrl expectedMac))).getD []
      orRaise (!info.isEmpty) (runtimeError
        s!"Timeout waiting for node (baseUrl={baseUrl}) to report expected mac {expectedMac}")
      Talk.ask o (.update {base with stage := .downloadPresets, message := "Downloading presets.json"})
      let payload ← raising (Talk.ask o (.wledDownloadPresets baseUrl))
      let saved ← raising (Talk.ask o (.savePayload payload))
      modifyResults fun r => {r with file := some saved}
      let files ← raising (Talk.ask o .listFiles)
      modifyResults fun r => {r with files := files}
      swallow (do
        match recv3BytesFromAddr mac with
        | .ok recv3 => Talk.ask o (.sendConfig 4 0 recv3)
        | .error ex => pure (.error ex))

/-- `download_presets`. -/
def downloadPresets (mac baseUrl : String) (wifi : Wifi) (hostWifiEnable hostWifiRestore : Bool) : Step Unit := do
  let hostWifiInitial ← Talk.ask o .radioEnabled
  Talk.modify fun _ => State.start hostWifiInitial
  Action.andFinally
    (Action.orExcept (fetchPresets o mac baseUrl wifi hostWifiEnable hostWifiInitial) fun ex => do
      modifyResults fun r => {r with ok := false}
      addNote (.said ex.message))
    (restoreHostWifi o hostWifiRestore hostWifiInitial)

end Download

end RaceLink.Update
