import RaceLink.Update.Nmcli
import RaceLink.Update.Workflow

/-! How the host joins the access point of a node (`connect_ap` of `services/host_wifi_service.py`).

All nodes show one SSID, so the one to join is told by its BSSID: the predicted one if it is in the scan,
else the only one that appeared since the run began and is not the last node's. What `nmcli` answers is
left open, and how many scans there is time for is a parameter. -/
namespace RaceLink.Update
open Python Library

/-! ### Calls -/

/-- The calls of `nmcli_run`, without their timeouts. -/
inductive Nmcli where
  /-- `-t -f DEVICE,TYPE,STATE dev status` -/
  | devStatus
  /-- `-t -f DEVICE,STATE,CONNECTION dev` -/
  | connections
  /-- `dev wifi rescan ifname iface` -/
  | rescan (iface : String)
  /-- `-t -f IN-USE,BSSID,SSID dev wifi list ifname iface --rescan no` -/
  | listAps (iface : String)
  /-- `-f IN-USE,BSSID,SSID,SIGNAL,CHAN dev wifi list ifname iface --rescan no` -/
  | showAps (iface : String)
  /-- `dev disconnect iface` -/
  | disconnect (iface : String)
  /-- `con delete id ssid` -/
  | deleteProfile (ssid : String)
  /-- `--wait n dev wifi connect ssid ifname iface [password password] [bssid bssid]` -/
  | connect (ssid iface : String) (password bssid : Option String)
deriving DecidableEq, Repr

/-- `subprocess.CompletedProcess`. -/
structure Proc where
  returncode : Int
  stdout : String
  stderr : String
deriving DecidableEq, Repr

/-- `(proc.stderr or proc.stdout or "").strip()`. -/
def Proc.out (proc : Proc) : String := strip (if proc.stderr = "" then proc.stdout else proc.stderr)

/-- A call of `nmcli` may raise. -/
abbrev Answered (_ : Nmcli) : Type := Except Raised Proc

abbrev NmcliWorld := Outside Nmcli Answered
abbrev NmcliCalls := History Nmcli Answered
abbrev Dial (ε α : Type) := Talk Nmcli Answered ε Unit α

section Helpers
variable (o : NmcliWorld)

/-- A call whose exception is raised. -/
def demand (c : Nmcli) : Dial Raised Proc := do
  Action.ofExcept (← Talk.ask o c)

/-- A call whose exception is dropped. -/
def attempt {ε : Type} (c : Nmcli) : Dial ε Unit := do
  let _ ← Talk.ask o c
  pure ()

/-- The access points of an answer, none if it is no list. -/
def scanned : Except Raised Proc → List Ap
  | .ok proc => if proc.returncode = 0 then apsOf proc.stdout else []
  | .error _ => []

/-- `list_aps_detailed`. -/
def listApsDetailed {ε : Type} (iface : String) : Dial ε (List Ap) := do
  pure (scanned (← Talk.ask o (.listAps iface)))

/-- `wifi_state_snapshot`; its text is for the log only. -/
def wifiStateSnapshot {ε : Type} (iface : String) : Dial ε Unit := do
  attempt o .connections
  attempt o (.showAps iface)

/-- `text.split(":", n)`. -/
def splitColons : Nat → List Char → List (List Char)
  | 0, text => [text]
  | n + 1, text =>
    match text.dropWhile (· ≠ ':') with
    | [] => [text]
    | _ :: rest => text.takeWhile (· ≠ ':') :: splitColons n rest

/-- The states of the Wi-Fi interface in the lines of `dev status`. -/
def ifaceStates (iface stdout : String) : List String :=
  (splitLines stdout).filterMap fun line =>
    match splitColons 3 line.toList with
    | device :: type :: state :: _ =>
      if String.ofList device = iface ∧ String.ofList type = "wifi" then some (String.ofList state) else none
    | _ => none

/-- The loop of `wait_iface_ready`, for as many looks as there is time for. -/
def waitIfaceReady (iface : String) : Nat → Option String → Dial Raised Unit
  | 0, lastState => Action.raise (runtimeError
      ("host WiFi iface '" ++ iface ++ "' not ready (state=" ++ lastState.getD "None" ++ ")"))
  | looks + 1, lastState => do
    let proc ← demand o .devStatus
    let states := if proc.returncode = 0 then ifaceStates iface proc.stdout else []
    if states.any fun state => decide (state ≠ "" ∧ lower state ≠ "unavailable") then pure ()
    else waitIfaceReady iface looks (states.getLast?.or lastState)

/-- A line of the interface that is connected to the SSID. -/
def boundTo (iface ssid line : String) : Bool :=
  splitColons 2 line.toList == [iface.toList, "connected".toList, ssid.toList]

/-- `_disconnect_iface_from_ssid`. -/
def disconnectIfaceFromSsid {ε : Type} (iface ssid : String) : Dial ε Unit := do
  if ssid = "" then pure ()
  else
    match ← Talk.ask o .connections with
    | .error _ => pure ()
    | .ok proc => if (splitLines proc.stdout).any (boundTo iface ssid) then attempt o (.disconnect iface) else pure ()

/-- For each candidate. -/
def disconnectAll {ε : Type} (iface : String) : List String → Dial ε Unit
  | [] => pure ()
  | ssid :: rest => do
    disconnectIfaceFromSsid o iface ssid
    disconnectAll iface rest

end Helpers

/-! ### Which access point -/

/-- What `connect_ap` goes by, and the command it tells an operator who may not use `nmcli`. -/
structure Wanted where
  candidates : List String
  password : String
  iface : String
  bssid : String
  avoidBssid : String
  setupCommand : String
deriving DecidableEq, Repr

/-- `_coerce_ssid_list`. -/
def coerceSsidList (ssids : List String) : List String := (ssids.map strip).filter (· ≠ "")

/-- The access points that show a candidate. -/
def Wanted.shown (w : Wanted) (aps : List Ap) : List Ap := aps.filter fun ap => decide (ap.ssid ∈ w.candidates)

/-- The access points that appeared since the run began, but for the last node's. -/
def Wanted.fresh (w : Wanted) (initial : List String) (aps : List Ap) : List Ap :=
  (w.shown aps).filter fun ap => decide (ap.bssid ≠ w.avoidBssid ∧ ap.bssid ∉ initial)

/-- The element of a list that has just one. -/
def only {α : Type} : List α → Option α
  | [x] => some x
  | _ => none

/-- (1) The predicted access point, if it is seen. -/
def Wanted.predicted (w : Wanted) (aps : List Ap) : Option (String × String) :=
  if w.bssid = "" then none
  else ((w.shown aps).find? fun ap => decide (ap.bssid = w.bssid)).map fun ap => (ap.ssid, w.bssid)

/-- (2) The only new access point, where there was a last node. -/
def Wanted.onlyFresh (w : Wanted) (initial : List String) (aps : List Ap) : Option (String × String) :=
  if w.avoidBssid = "" then none else (only (w.fresh initial aps)).map fun ap => (ap.ssid, ap.bssid)

/-- (3) The first candidate that is seen, without a BSSID, where there is nothing to tell one by. -/
def Wanted.firstShown (w : Wanted) (aps : List Ap) : Option (String × String) :=
  if w.bssid = "" ∧ w.avoidBssid = "" then
    (w.candidates.find? fun ssid => (w.shown aps).any fun ap => decide (ap.ssid = ssid)).map fun ssid => (ssid, "")
  else none

/-- The cascade of `connect_ap`: the SSID and the BSSID to join, which may be left open (`""`). -/
def Wanted.choose (w : Wanted) (initial : List String) (aps : List Ap) : Option (String × String) :=
  (w.predicted aps).or ((w.onlyFresh initial aps).or (w.firstShown aps))

/-! ### An attempt -/

section Attempts
variable (o : NmcliWorld) (w : Wanted)

/-- A string as an argument that is left out when empty. -/
def given (text : String) : Option String := if text = "" then none else some text

/-- The access point turned out to be an open one. -/
def Proc.isOpen (proc : Proc) : Bool := contains (lower proc.out) "key-mgmt" && contains (lower proc.out) "missing"

/-- The error of `_dev_wifi_connect` that was refused. -/
def Wanted.refusal (proc : Proc) : Raised :=
  if contains (lower proc.out) "insufficient privileges" || contains (lower proc.out) "not authorized" then
    runtimeError ("nmcli access denied (polkit). Run this command on the " ++
      "host to grant the running user unattended access, then " ++
      "restart the host (RotorHazard or racelink-standalone):\n" ++
      s!"  {w.setupCommand}\n" ++ s!"Raw nmcli output: {proc.out}")
  else runtimeError s!"nmcli dev wifi connect failed ({proc.returncode}): {proc.out}"

/-- `_nmcli_connect_once`, after `_delete_profile_if_exists`. -/
def connectOnce (ssid : String) (password : Option String) (bssid : String) : Dial Raised Proc := do
  let _ ← demand o (.deleteProfile ssid)
  demand o (.connect ssid w.iface password (given bssid))

/-- `_dev_wifi_connect`. -/
def devWifiConnect (ssid bssid : String) : Dial Raised Unit := do
  let first ← connectOnce o w ssid (given w.password) bssid
  if first.returncode = 0 then pure ()
  else if first.isOpen then
    let second ← connectOnce o w ssid none bssid
    if second.returncode = 0 then pure () else Action.raise (w.refusal first)
  else Action.raise (w.refusal first)

/-- The exceptions of `connect_ap`. -/
inductive NotJoined where
  /-- `"no candidate SSIDs supplied"` -/
  | noCandidates
  /-- `"AP password missing"` -/
  | noPassword
  /-- An exception of a step, as it is. -/
  | raised (ex : Raised)
  /-- The text of an exception that says the radio is off. -/
  | disabled (lastErr : String)
  /-- `f"AP {ssid!r}: authentication failed (Secrets rejected). ... Raw nmcli output: {lastErr}"` -/
  | secretsRejected (ssid lastErr : String)
  /-- `f"could not connect to any of {candidates}: {lastErr}"` -/
  | couldNotConnect (candidates : List String) (lastErr : String)
  /-- `f"timeout waiting for one of {candidates} to appear on {iface}"` -/
  | timeout (candidates : List String) (iface : String)
deriving DecidableEq, Repr

/-- The exception of an attempt that no other attempt follows. -/
def lastFailure (ssid : String) (ex : Raised) : Option NotJoined :=
  if wifiIsDisabled ex.text then some (.disabled ex.text)
  else if contains ex.text "Secrets were required" || contains (lower ex.text) "no secrets provided" then
    some (.secretsRejected ssid ex.text)
  else if contains ex.text "racelink-setup-nmcli" then some (.raised ex)
  else none

/-- What is left to say when the time is over; no error is `""`. -/
def Wanted.expired (lastErr : String) : NotJoined :=
  if lastErr = "" then .timeout w.candidates w.iface else .couldNotConnect w.candidates lastErr

/-- The `try` of the loop, and its `except`: the loop goes on after an exception that may pass. -/
def tryJoin (ssid bssid : String) (goOn : String → Dial NotJoined String) : Dial NotJoined String := do
  match ← Action.captured (devWifiConnect o w ssid bssid) with
  | .ok () => pure ssid
  | .error ex => do
    wifiStateSnapshot o w.iface
    match lastFailure ssid ex with
    | some failure => Action.raise failure
    | none => goOn ex.text

/-- The loop of `connect_ap`, for as many scans as there is time for. -/
def connectLoop (initial : List String) : Nat → String → Dial NotJoined String
  | 0, lastErr => Action.raise (w.expired lastErr)
  | scans + 1, lastErr => do
    attempt o (.rescan w.iface)
    let aps ← listApsDetailed o w.iface
    match w.choose initial aps with
    | none => connectLoop initial scans lastErr
    | some (ssid, bssid) => tryJoin o w ssid bssid fun lastErr => connectLoop initial scans lastErr

/-- The BSSIDs of a scan. -/
def bssidsOf (aps : List Ap) : List String := (aps.map Ap.bssid).filter (· ≠ "")

/-- `connect_ap` on arguments that were checked. -/
def joinAp (looks scans : Nat) : Dial NotJoined String := do
  match ← Action.captured (waitIfaceReady o w.iface looks none) with
  | .error ex => Action.raise (.raised ex)
  | .ok () => do
    disconnectAll o w.iface w.candidates
    let initial ← listApsDetailed o w.iface
    wifiStateSnapshot o w.iface
    connectLoop o w (bssidsOf initial) scans ""

end Attempts

/-- The arguments of `connect_ap`, as they are used. -/
def wanted (setupCommand : String) (ssids : List String) (password iface bssid avoidBssid : String) : Wanted where
  candidates := coerceSsidList ssids
  password := password
  iface := strip (if iface = "" then "wlan0" else iface)
  bssid := upper (strip bssid)
  avoidBssid := upper (strip avoidBssid)
  setupCommand := setupCommand

/-- `connect_ap`, when there is time to look at the interface `looks` times and to scan `scans` times. -/
def connectAp (o : NmcliWorld) (setupCommand : String) (looks scans : Nat) (ssids : List String)
    (password iface bssid avoidBssid : String) : Dial NotJoined String :=
  if coerceSsidList ssids = [] then Action.raise .noCandidates
  else if password = "" then Action.raise .noPassword
  else joinAp o (wanted setupCommand ssids password iface bssid avoidBssid) looks scans

end RaceLink.Update
