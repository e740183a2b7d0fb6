import RaceLink.Update.Runs

/-! The host's radio over a whole run of a workflow, whatever the world answers.

Before its end a workflow never asks whether the radio is on, switches it on at most, and that only if
it may, and leaves no AP; what it remembers for the end is the SSID of the last AP it joined. So the end
leaves that AP and switches the radio off as the last calls of the run, or does nothing. -/
namespace RaceLink.Update
open Python Library Talk

variable {s t u : State} {new : Calls} {ssid : String} {enable : Bool} {α β : Type}

/-! ### What is joined -/

/-- The SSID that is remembered when an AP answered that it is joined. -/
def picked (ssid matched : String) : String := if matched = "" then ssid else matched

/-- The SSID of the last AP that was joined in these calls, and of the one before if there was none. -/
def joined (ssid : String) (calls : Calls) : String :=
  calls.foldl (fun ssid said => match said with
    | ⟨.connectAp .., .ok matched⟩ => picked ssid matched
    | _ => ssid) ssid

theorem joined_append (ssid : String) (xs ys : Calls) : joined ssid (xs ++ ys) = joined (joined ssid xs) ys :=
  List.foldl_append

theorem picked_empty (matched : String) : picked "" matched = matched := by
  unfold picked
  split
  · next h => exact h.symm
  · rfl

/-! ### Calls before the end -/

/-- A call that a workflow may make before its end. -/
def Midway (enable : Bool) : Call → Prop
  | .radioEnabled => False
  | .setRadio enabled => enabled = true ∧ enable = true
  | .disconnectAp _ => False
  | _ => True

/-- One that joins no AP. -/
def Undialed (enable : Bool) : Call → Prop
  | .connectAp .. => False
  | c => Midway enable c

theorem Undialed.midway {c : Call} (h : Undialed enable c) : Midway enable c := by
  cases c with
  | connectAp => cases h
  | _ => exact h

/-- What the results say of the radio, but for whether it is on. -/
def radioOf (s : State) : Bool × Bool := (s.results.hostWifi.wasEnabled, s.results.hostWifi.restored)

/-- Calls that are all as `P` asks, with what is kept beside them: of the radio nothing new, and the SSID of the
last AP. -/
structure Tracks (P : Call → Prop) (s : State) (new : Calls) (t : State) : Prop where
  calls : ∀ said ∈ new, P said.1
  radio : radioOf t = radioOf s
  ssid : t.lastConnectedSsid = joined s.lastConnectedSsid new

theorem tracks (P : Call → Prop) : Composes (Tracks P) where
  refl _ := ⟨fun said h => (by cases h), rfl, rfl⟩
  trans h h' := {
    calls := fun said hsaid => (List.mem_append.mp hsaid).elim (h.calls said) (h'.calls said)
    radio := h'.radio.trans h.radio
    ssid := by rw [h'.ssid, h.ssid, joined_append]}

theorem joined_undialed (ssid : String) (h : ∀ said ∈ new, Undialed enable said.1) : joined ssid new = ssid := by
  induction new with
  | nil => rfl
  | cons said rest ih =>
    obtain ⟨hsaid, hrest⟩ := List.forall_mem_cons.mp h
    refine (congrArg (joined · rest) ?_).trans (ih hrest)
    obtain ⟨c, answer⟩ := said
    cases c with
    | connectAp => cases hsaid
    | _ => rfl

/-- Without a dial, the SSID of the last AP stays. -/
theorem Tracks.undialed (h : Tracks (Undialed enable) s new t) :
    Tracks (Midway enable) s new t ∧ t.lastConnectedSsid = s.lastConnectedSsid :=
  ⟨⟨fun said hsaid => (h.calls said hsaid).midway, h.radio, h.ssid⟩, h.ssid.trans (joined_undialed _ h.calls)⟩

section Steps
variable {P : Call → Prop}

theorem tracks_ask (o : World) {c : Call} (hc : P c) (hjoined : ∀ ssid a, joined ssid [⟨c, a⟩] = ssid) :
    Says (ask o c : Step (Answer c)) (Around (Tracks P)) :=
  (says_ask o c).mono fun s new answer t h => by
    obtain ⟨a, rfl, -, rfl⟩ := h
    exact ⟨fun said hsaid => List.mem_singleton.mp hsaid ▸ hc, rfl, (hjoined _ a).symm⟩

theorem tracks_modify {g : State → State} (hradio : ∀ s, radioOf (g s) = radioOf s)
    (hssid : ∀ s, (g s).lastConnectedSsid = s.lastConnectedSsid) :
    Says (Talk.modify g : Step Unit) (Around (Tracks P)) :=
  (says_modify g).mono fun s new answer t h => by
    obtain ⟨rfl, -, rfl⟩ := h
    exact ⟨fun said h => (by cases h), hradio s, hssid s⟩

theorem tracks_results (f : Results → Results) (hf : ∀ r, (f r).hostWifi = r.hostWifi) :
    Says (modifyResults f) (Around (Tracks P)) :=
  tracks_modify (fun s => by simp only [radioOf, hf]) fun _ => rfl

theorem tracks_raising {x : Step (Except Raised α)} (hx : Says x (Around (Tracks P))) :
    Says (raising x) (Around (Tracks P)) := (tracks P).bind hx (tracks P).ofExcept

theorem tracks_orRaise (ok : Bool) (ex : Raised) : Says (orRaise ok ex) (Around (Tracks P)) := by
  cases ok with
  | true => exact (tracks P).pure ()
  | false => exact (tracks P).ofExcept (.error ex)

theorem tracks_onlyIf {condition : Bool} {m : Step Unit} (hm : Says m (Around (Tracks P))) :
    Says (onlyIf condition m) (Around (Tracks P)) := by
  cases condition with
  | true => exact hm
  | false => exact (tracks P).pure ()

theorem tracks_swallow {x : Step (Except Raised α)} (hx : Says x (Around (Tracks P))) :
    Says (swallow x) (Around (Tracks P)) := (tracks P).bind hx fun _ => (tracks P).pure ()

theorem tracks_midway {m : Step α} (hm : Says m (Around (Tracks (Undialed enable)))) :
    Says m (Around (Tracks (Midway enable))) := hm.mono fun _ _ _ _ h => h.undialed.1

theorem undialed_ensureWifiReady (o : World) (wifi : Wifi) (enable hostWifiInitial : Bool) (base : Meta) :
    Says (ensureWifiReady o wifi enable hostWifiInitial base) (Around (Tracks (Undialed enable))) := by
  have hI := tracks (Undialed enable)
  unfold ensureWifiReady
  split
  · next henable =>
    have hon := (Bool.and_eq_true_iff.mp henable).1
    refine hI.bind (tracks_ask o trivial fun _ _ => rfl) fun _ => ?_
    refine hI.bind (tracks_raising (tracks_ask o ⟨rfl, hon⟩ fun _ _ => rfl)) fun _ => ?_
    refine hI.bind (tracks_raising (tracks_ask o trivial fun _ _ => rfl)) fun _ => ?_
    exact hI.bind (tracks_modify (fun _ => rfl) fun _ => rfl) fun _ => hI.pure true
  · exact hI.pure false

end Steps

/-! ### The connection -/

/-- A step that joins an AP, with the SSID it answers, which is not remembered yet. -/
structure JoinsAp (enable : Bool) (s : State) (new : Calls) (answer : Except Raised String) (t : State) : Prop where
  calls : ∀ said ∈ new, Midway enable said.1
  radio : radioOf t = radioOf s
  ssid : t.lastConnectedSsid = s.lastConnectedSsid
  joins : ∀ ssid, joined ssid new = match answer with
    | .ok matched => picked ssid matched
    | .error _ => ssid

theorem joinsAp_connect (o : World) (ssids : List String) (password iface bssid avoidBssid : String) :
    Says (raising (ask o (.connectAp ssids password iface bssid avoidBssid))) (JoinsAp enable) := by
  refine (says_ask_bind (o := o) (c := .connectAp ssids password iface bssid avoidBssid)
    fun a => says_ofExcept a).mono fun s new answer t h => ?_
  obtain ⟨a, rest, rfl, rfl, rfl, rfl⟩ := h
  refine ⟨fun said hsaid => List.mem_singleton.mp hsaid ▸ trivial, rfl, rfl, fun ssid => ?_⟩
  cases answer with
  | ok matched => rfl
  | error ex => rfl

theorem joinsAp_bind {m : Step α} {f : α → Step String} (hm : Says m (Around (Tracks (Undialed enable))))
    (hf : ∀ a, Says (f a) (JoinsAp enable)) : Says (m >>= f) (JoinsAp enable) := by
  refine (hm.bind hf).mono fun s new answer t h => ?_
  rcases h with ⟨ex, rfl, h⟩ | ⟨a, first, mid, rest, rfl, hfirst, hrest⟩
  · exact ⟨h.undialed.1.calls, h.radio, h.undialed.2, fun ssid => joined_undialed ssid h.calls⟩
  · refine ⟨fun said hsaid => ?_, hrest.radio.trans hfirst.radio, hrest.ssid.trans hfirst.undialed.2, fun ssid => ?_⟩
    · exact (List.mem_append.mp hsaid).elim (hfirst.undialed.1.calls said) (hrest.calls said)
    · rw [joined_append, joined_undialed ssid hfirst.calls]
      exact hrest.joins ssid

theorem joinsAp_orExcept {m : Step String} {handle : Raised → Step String} (hm : Says m (JoinsAp enable))
    (hhandle : ∀ ex, Says (handle ex) (JoinsAp enable)) : Says (Action.orExcept m handle) (JoinsAp enable) := by
  refine (hm.orExcept hhandle).mono fun s new answer t h => ?_
  rcases h with ⟨a, rfl, h⟩ | ⟨ex, first, mid, rest, rfl, hfirst, hrest⟩
  · exact h
  · refine ⟨fun said hsaid => ?_, hrest.radio.trans hfirst.radio, hrest.ssid.trans hfirst.ssid, fun ssid => ?_⟩
    · exact (List.mem_append.mp hsaid).elim (hfirst.calls said) (hrest.calls said)
    · rw [joined_append, hfirst.joins ssid]
      exact hrest.joins ssid

theorem joinsAp_raise (ex : Raised) : Says (Action.raise ex : Step String) (JoinsAp enable) :=
  (says_raise ex).mono fun s new answer t h => by
    obtain ⟨rfl, rfl, rfl⟩ := h
    exact ⟨fun said h => (by cases h), rfl, rfl, fun _ => rfl⟩

theorem joinsAp_connectWledWifi (o : World) (wifi : Wifi) (enable changed : Bool) (base : Meta) (avoidBssid : String) :
    Says (connectWledWifi o wifi enable changed base avoidBssid) (JoinsAp enable) := by
  have hconnect : ∀ bssid, Says (raising (ask o (.connectAp wifi.ssids wifi.password wifi.iface bssid avoidBssid)))
      (JoinsAp enable) := fun bssid => joinsAp_connect o _ _ _ bssid avoidBssid
  refine joinsAp_bind (tracks_ask o trivial fun _ _ => rfl) fun _ => joinsAp_orExcept (hconnect _) fun ex => ?_
  split
  · next henable =>
    have hon : enable = true := by
      simp only [Bool.and_eq_true] at henable
      exact henable.1.1
    refine joinsAp_bind (tracks_ask o trivial fun _ _ => rfl) fun _ => ?_
    refine joinsAp_bind (tracks_raising (tracks_ask o ⟨rfl, hon⟩ fun _ _ => rfl)) fun _ => ?_
    refine joinsAp_bind (tracks_modify (fun _ => rfl) fun _ => rfl) fun _ => ?_
    exact joinsAp_bind (tracks_raising (tracks_ask o trivial fun _ _ => rfl)) fun _ => hconnect _
  · exact joinsAp_raise ex

/-- What follows a dial goes on from its SSID. -/
theorem JoinsAp.tracks {mid : State} {first rest : Calls} {matched : String} (h : JoinsAp enable s first (.ok matched) mid)
    (hrest : Tracks (Midway enable) {mid with lastConnectedSsid := picked s.lastConnectedSsid matched} rest t) :
    Tracks (Midway enable) s (first ++ rest) t where
  calls said hsaid := (List.mem_append.mp hsaid).elim (h.calls said) (hrest.calls said)
  radio := hrest.radio.trans h.radio
  ssid := by
    rw [joined_append, h.joins]
    exact hrest.ssid

theorem JoinsAp.failed {ex : Raised} (h : JoinsAp enable s new (.error ex) t) : Tracks (Midway enable) s new t :=
  ⟨h.calls, h.radio, h.ssid.trans (h.joins _).symm⟩

/-! ### The firmware update -/

/-- A step before the end of a workflow. -/
abbrev Keeps (enable : Bool) : Spec Call Answer Raised State α := Around (Tracks (Midway enable))

theorem keeps (enable : Bool) : Composes (Tracks (Midway enable)) := tracks (Midway enable)

section Update
variable (o : World) (req : Request)

theorem keeps_emit {stage : Stage} {message addr : String} {index : Nat} {attempt : Option Nat} :
    Says (emit o req stage message addr index attempt) (Keeps enable) :=
  around_gets_bind fun _ => tracks_ask o trivial fun _ _ => rfl

theorem keeps_modifyDevice (f : DevRes → DevRes) : Says (modifyDevice f) (Keeps enable) := tracks_results _ fun _ => rfl

theorem keeps_setDeviceState (addr : String) (row : RowState) : Says (setDeviceState addr row) (Keeps enable) :=
  tracks_modify (fun _ => rfl) fun _ => rfl

theorem keeps_switchAps {stage : Stage} {text : String} {data0 : Nat} {addr : String} {index first n : Nat} :
    Says (Action.attempts (switchAp o req stage text data0 addr index) first n) (Keeps enable) := by
  refine (keeps enable).attempts (fun attempt => ?_) first n
  refine (keeps enable).bind (keeps_emit o req) fun _ => (keeps enable).bind ((keeps enable).ofExcept _) fun _ => ?_
  exact tracks_raising (tracks_ask o trivial fun _ _ => rfl)

theorem keeps_openAp (addr : String) (index : Nat) : Says (openAp o req addr index) (Keeps enable) := by
  have hclear : Says (onlyIf req.gatewayService (swallow (ask o (.clearIdentify addr)))) (Keeps enable) :=
    tracks_onlyIf (tracks_swallow (tracks_ask o trivial fun _ _ => rfl))
  have henable : Says (enableAp o req addr index) (Keeps enable) :=
    (keeps enable).bind hclear fun _ => (keeps enable).bind (keeps_switchAps o req) fun _ => tracks_orRaise _ _
  exact (keeps enable).bind henable fun _ => tracks_modify (fun _ => rfl) fun _ => rfl

theorem keeps_awaitNode (expectedMac addr : String) (index : Nat) :
    Says (awaitNode o req expectedMac addr index) (Keeps enable) := by
  refine (keeps enable).bind (keeps_emit o req) fun _ => ?_
  refine (keeps enable).bind (tracks_raising (tracks_ask o trivial fun _ _ => rfl)) fun _ => ?_
  exact (keeps enable).bind (tracks_orRaise _ _) fun _ => keeps_modifyDevice _

theorem says_noteBssid : Says (noteBssid o req) fun s new answer t =>
    answer = .ok () ∧ Tracks (Undialed enable) s new t := by
  refine (says_ask_bind (o := o) (c := .activeBssid req.wifi.iface) (R := fun _ s new answer t =>
    new = [] ∧ answer = .ok () ∧ radioOf t = radioOf s ∧ t.lastConnectedSsid = s.lastConnectedSsid) fun a => ?_).mono
    fun s new answer t h => ?_
  · cases a with
    | ok bssid =>
      refine (says_modify _).mono fun s new answer t h => ?_
      obtain ⟨rfl, rfl, rfl⟩ := h
      exact ⟨rfl, rfl, rfl, rfl⟩
    | error ex =>
      refine (says_pure ()).mono fun s new answer t h => ?_
      obtain ⟨rfl, rfl, rfl⟩ := h
      exact ⟨rfl, rfl, rfl, rfl⟩
  · obtain ⟨a, rest, rfl, rfl, hanswer, hradio, hssid⟩ := h
    exact ⟨hanswer, fun said hsaid => List.mem_singleton.mp hsaid ▸ trivial, hradio, hssid⟩

/-- What is joined is remembered, before anything else is joined. -/
theorem keeps_reachNode (hostWifiInitial : Bool) (expectedMac addr : String) (index : Nat) :
    Says (reachNode o req hostWifiInitial expectedMac addr index) (Keeps req.hostWifiEnable) := by
  have hI := keeps req.hostWifiEnable
  have hrest : ∀ matched, Says (noteBssid o req >>= fun _ => Talk.modify (fun s =>
      {s with lastConnectedSsid := if matched = "" then s.lastConnectedSsid else matched}) >>= fun _ =>
      modifyDevice (fun d => {d with ssid := some matched}) >>= fun _ => awaitNode o req expectedMac addr index)
      fun s new _ t => Tracks (Midway req.hostWifiEnable)
        {s with lastConnectedSsid := picked s.lastConnectedSsid matched} new t := by
    intro matched
    have hnote : Says (noteBssid o req) fun s new answer t =>
        answer = .ok () ∧ Tracks (Undialed req.hostWifiEnable) s new t := says_noteBssid o req
    refine (hnote.bind fun _ => says_modify_bind (hI.bind (keeps_modifyDevice _) fun _ =>
      keeps_awaitNode o req expectedMac addr index)).mono fun s new answer t h => ?_
    rcases h with ⟨ex, -, h, -⟩ | ⟨_, first, mid, rest, rfl, ⟨-, hfirst⟩, hrest⟩
    · cases h
    · have hssid : picked mid.lastConnectedSsid matched = joined (picked s.lastConnectedSsid matched) first := by
        rw [joined_undialed _ hfirst.calls, hfirst.undialed.2]
      exact hI.trans (t := {mid with lastConnectedSsid := picked mid.lastConnectedSsid matched})
        ⟨hfirst.undialed.1.calls, hfirst.radio, hssid⟩ hrest
  refine around_gets_bind fun shown => around_gets_bind fun changed => around_gets_bind fun avoid => ?_
  refine ((joinsAp_connectWledWifi o req.wifi req.hostWifiEnable changed _ avoid).bind hrest).mono
    fun s new answer t h => ?_
  rcases h with ⟨ex, rfl, h⟩ | ⟨matched, first, mid, rest, rfl, hfirst, hrest⟩
  · exact h.failed
  · refine hfirst.tracks ?_
    rwa [← hfirst.ssid]

theorem keeps_uploadFile (destName : String) (info : Option Upload) :
    Says (uploadFile o req destName info) (Keeps enable) := by
  cases info with
  | none => exact (keeps enable).pure ()
  | some info => exact tracks_raising (tracks_ask o trivial fun _ _ => rfl)

theorem keeps_uploadFirmware (path addr : String) (index attempt left : Nat) (lastErr : Option Raised) :
    Says (uploadFirmware o req path addr index attempt left lastErr) (Keeps enable) := by
  induction left generalizing attempt lastErr with
  | zero => exact (keeps enable).pure _
  | succ left ih =>
    refine (keeps enable).bind (keeps_emit o req) fun _ => ?_
    refine (keeps enable).bind (tracks_ask o trivial fun _ _ => rfl) fun answer => ?_
    cases answer with
    | ok u => exact (keeps enable).pure _
    | error ex =>
      show Says (if contains ex.text "HTTP 500" || contains ex.text "HTTP 503" then pure (false, some ex)
        else uploadFirmware o req path addr index (attempt + 1) left (some ex)) _
      split
      · exact (keeps enable).pure _
      · exact ih _ _

theorem keeps_uploadAll (addr : String) (index : Nat) : Says (uploadAll o req addr index) (Keeps enable) := by
  refine (keeps enable).bind (keeps_uploadFile o req _ _) fun _ => ?_
  refine (keeps enable).bind (keeps_uploadFile o req _ _) fun _ => ?_
  unfold updateFirmware
  split
  · exact (keeps enable).pure ()
  · exact (keeps enable).bind (keeps_uploadFirmware o req _ _ _ _ _ _) fun _ => tracks_orRaise _ _

theorem keeps_flash (hostWifiInitial : Bool) (expectedMac addr : String) (index : Nat) :
    Says (flash o req hostWifiInitial expectedMac addr index) (Keeps req.hostWifiEnable) := by
  have hI := keeps req.hostWifiEnable
  have hdeliver : Says (deliver o req hostWifiInitial expectedMac addr index) (Keeps req.hostWifiEnable) :=
    hI.bind (keeps_reachNode o req _ _ _ _) fun _ => keeps_uploadAll o req _ _
  have hsucceeded : Says (succeeded o req addr index) (Keeps req.hostWifiEnable) := by
    refine hI.bind (keeps_modifyDevice _) fun _ => hI.bind (keeps_setDeviceState _ _) fun _ => ?_
    exact hI.bind (keeps_emit o req) fun _ => tracks_swallow (tracks_ask o trivial fun _ _ => rfl)
  exact hI.bind (keeps_openAp o req _ _) fun _ => hI.bind hdeliver fun _ => hsucceeded

theorem keeps_failed (addr : String) (index : Nat) (ex : Raised) :
    Says (failed o req addr index ex) (Keeps enable) := by
  refine (keeps enable).bind (keeps_modifyDevice _) fun _ => ?_
  refine (keeps enable).bind (tracks_results _ fun _ => rfl) fun _ => ?_
  refine (keeps enable).bind (keeps_setDeviceState _ _) fun _ => ?_
  refine (keeps enable).bind (tracks_modify (fun _ => rfl) fun _ => rfl) fun _ => ?_
  exact (keeps enable).bind (keeps_emit o req) fun _ => tracks_orRaise _ _

theorem keeps_waited {x : Step (Except Raised Bool)} (hx : Says x (Keeps enable)) : Says (waited x) (Keeps enable) := by
  refine (keeps enable).bind hx fun answer => ?_
  cases answer with
  | ok answer => exact (keeps enable).pure answer
  | error ex => exact (keeps enable).pure false

theorem keeps_settle (addr : String) (index : Nat) : Says (settle o req addr index) (Keeps enable) := by
  have hI := keeps enable
  have hreturn : Says (awaitReturn o req addr index) (Keeps enable) := by
    refine hI.bind (keeps_emit o req) fun _ => ?_
    refine hI.bind (keeps_waited (tracks_ask o trivial fun _ _ => rfl)) fun back => ?_
    cases back with
    | true =>
      refine hI.bind (keeps_emit o req) fun _ => ?_
      exact hI.bind (keeps_waited (tracks_ask o trivial fun _ _ => rfl)) fun _ => keeps_modifyDevice _
    | false =>
      refine hI.bind (keeps_setDeviceState _ _) fun _ => hI.bind (keeps_modifyDevice _) fun _ => keeps_emit o req
  have hclose : Says (closeAp o req addr index) (Keeps enable) :=
    hI.orExcept (hI.bind (keeps_switchAps o req) fun _ => hI.pure ()) fun _ => hI.pure ()
  refine around_gets_bind fun ok => hI.bind (tracks_onlyIf hreturn) fun _ => ?_
  exact around_gets_bind fun opened => tracks_onlyIf hclose

theorem keeps_updateDevice (hostWifiInitial : Bool) (addr : String) (index : Nat) :
    Says (updateDevice o req hostWifiInitial addr index) (Keeps req.hostWifiEnable) := by
  have hI := keeps req.hostWifiEnable
  refine hI.bind (keeps_setDeviceState _ _) fun _ => ?_
  refine hI.bind (tracks_ask o trivial fun _ _ => rfl) fun known => ?_
  refine hI.bind (tracks_results _ fun _ => rfl) fun _ => hI.bind (tracks_modify (fun _ => rfl) fun _ => rfl) fun _ => ?_
  exact hI.andFinally (hI.orExcept (keeps_flash o req _ _ _ _) fun ex => keeps_failed o req _ _ ex)
    (keeps_settle o req _ _)

theorem keeps_deviceLoop (hostWifiInitial : Bool) (index : Nat) (addrs : List String) :
    Says (deviceLoop o req hostWifiInitial index addrs) (Keeps req.hostWifiEnable) := by
  have hI := keeps req.hostWifiEnable
  induction addrs generalizing index with
  | nil => exact hI.pure ()
  | cons addr addrs ih =>
    refine hI.bind (tracks_ask o trivial fun _ _ => rfl) fun cancel => ?_
    cases cancel with
    | true =>
      show Says (modifyResults fun r => {r with cancelled := true, cancelledAfter := some (index - 1)}) _
      exact tracks_results _ fun _ => rfl
    | false => exact hI.bind (keeps_updateDevice o req _ _ _) fun _ => ih (index + 1)

end Update

/-! ### The download of presets -/

/-- A step before the end of a workflow that has joined no AP yet. -/
def KeepsFresh (enable : Bool) : Spec Call Answer Raised State α := fun s new _ t =>
  s.lastConnectedSsid = "" → Tracks (Midway enable) s new t

theorem fresh_bind {m : Step α} {f : α → Step β} (hm : Says m (Around (Tracks (Undialed enable))))
    (hf : ∀ a, Says (f a) (KeepsFresh enable)) : Says (m >>= f) (KeepsFresh enable) := by
  refine (hm.bind hf).mono fun s new answer t h hfresh => ?_
  rcases h with ⟨ex, -, h⟩ | ⟨a, first, mid, rest, rfl, hfirst, hrest⟩
  · exact h.undialed.1
  · exact (keeps enable).trans hfirst.undialed.1 (hrest (hfirst.undialed.2.trans hfresh))

theorem Keeps.fresh {m : Step α} (hm : Says m (Keeps enable)) : Says m (KeepsFresh enable) :=
  hm.mono fun _ _ _ _ h _ => h

theorem fresh_fetchPresets (o : World) (mac baseUrl : String) (wifi : Wifi) (enable hostWifiInitial : Bool) :
    Says (fetchPresets o mac baseUrl wifi enable hostWifiInitial) (KeepsFresh enable) := by
  have hI := keeps enable
  have hcancelled : Says (modifyResults fun r => {r with cancelled := true}) (Keeps enable) :=
    tracks_results _ fun _ => rfl
  refine fresh_bind (tracks_ask o trivial fun _ _ => rfl) fun cancel => ?_
  cases cancel with
  | true => exact Keeps.fresh hcancelled
  | false =>
    refine fresh_bind (undialed_ensureWifiReady o wifi enable hostWifiInitial _) fun changed => ?_
    refine fresh_bind (tracks_ask o trivial fun _ _ => rfl) fun _ => ?_
    refine fresh_bind ((tracks _).ofExcept _) fun recv3 => ?_
    refine fresh_bind (tracks_raising (tracks_ask o trivial fun _ _ => rfl)) fun okAp => ?_
    refine fresh_bind (tracks_orRaise _ _) fun _ => ?_
    refine ((joinsAp_connectWledWifi o wifi enable changed _ "").bind (S := fun matched s new _ t =>
      Tracks (Midway enable) {s with lastConnectedSsid := matched} new t) fun matched => ?_).mono ?_
    · refine says_modify_bind (R := Keeps enable) (hI.bind (tracks_ask o trivial fun _ _ => rfl) fun cancel => ?_)
      cases cancel with
      | true => exact hcancelled
      | false =>
        refine hI.bind (tracks_ask o trivial fun _ _ => rfl) fun _ => ?_
        refine hI.bind (tracks_raising (tracks_ask o trivial fun _ _ => rfl)) fun info => ?_
        refine hI.bind (tracks_orRaise _ _) fun _ => hI.bind (tracks_ask o trivial fun _ _ => rfl) fun _ => ?_
        refine hI.bind (tracks_raising (tracks_ask o trivial fun _ _ => rfl)) fun payload => ?_
        refine hI.bind (tracks_raising (tracks_ask o trivial fun _ _ => rfl)) fun saved => ?_
        refine hI.bind (tracks_results _ fun _ => rfl) fun _ => ?_
        refine hI.bind (tracks_raising (tracks_ask o trivial fun _ _ => rfl)) fun files => ?_
        refine hI.bind (tracks_results _ fun _ => rfl) fun _ => tracks_swallow ?_
        cases recv3BytesFromAddr mac with
        | ok recv3 => exact tracks_ask o trivial fun _ _ => rfl
        | error ex => exact hI.pure _
    · intro s new answer t h hfresh
      rcases h with ⟨ex, rfl, h⟩ | ⟨matched, first, mid, rest, rfl, hfirst, hrest⟩
      · exact h.failed
      · refine hfirst.tracks ?_
        rw [hfresh, picked_empty]
        exact hrest

/-! ### Whole runs -/

/-- What a workflow does to the host's radio: it asks once whether it is on, then switches it on at most, and that
only if it may, and at the end, if it was off before, leaves the last AP it joined and switches it off. -/
structure Radio (enable restore : Bool) (calls : Calls) (r : Results) : Prop where
  seen : ∃ initial body ending notes switched,
    calls = ⟨.radioEnabled, initial⟩ :: (body ++ ending) ∧
    (∀ said ∈ body, Midway enable said.1) ∧
    Restores restore initial (joined "" body) ending notes switched ∧
    r.hostWifi.wasEnabled = initial ∧ r.hostWifi.restored = (switched == some true)


theorem restored_wasEnabled (notes : List Note) (r : Results) (switched : Option Bool) :
    (r.restored notes switched).hostWifi.wasEnabled = r.hostWifi.wasEnabled := by
  cases switched with
  | none => rfl
  | some done => cases done <;> rfl

theorem restored_hostWifi (notes : List Note) (r : Results) (switched : Option Bool) (h : r.hostWifi.restored = false) :
    (r.restored notes switched).hostWifi.restored = (switched == some true) := by
  cases switched with
  | none => exact h
  | some done => cases done <;> simp [Results.restored, h]

/-- The part of a workflow from the first answer on: its `try`, and the end of it. -/
def Ended (enable restore initial : Bool) : Spec Call Answer Raised State Unit := fun s new _ t =>
  radioOf s = (initial, false) → s.lastConnectedSsid = "" → ∃ body ending notes switched, new = body ++ ending ∧
    (∀ said ∈ body, Midway enable said.1) ∧ Restores restore initial (joined "" body) ending notes switched ∧
    radioOf t = (initial, switched == some true)

theorem says_ended (o : World) (restore initial : Bool) {m : Step Unit} (hm : Says m (KeepsFresh enable)) :
    Says (Action.andFinally m (restoreHostWifi o restore initial)) (Ended enable restore initial) := by
  refine (hm.andFinally (says_restoreHostWifi o restore initial) fun _ _ _ _ h => by cases h.1).mono ?_
  rintro s new answer t ⟨body, mid, ending, rfl, htracks, -, notes, switched, hrestores, rfl⟩ hradio hfresh
  have hbody := htracks hfresh
  rw [hbody.ssid, hfresh] at hrestores
  refine ⟨body, ending, notes, switched, rfl, hbody.calls, hrestores, ?_⟩
  have hmid := hbody.radio.trans hradio
  rw [radioOf, Prod.mk.injEq] at hmid
  exact Prod.ext ((restored_wasEnabled ..).trans hmid.1) (restored_hostWifi _ _ _ hmid.2)

theorem Ended.radio {restore initial : Bool} {answer : Except Raised Unit}
    (h : Ended enable restore initial (State.start initial) new answer t) :
    Radio enable restore (⟨.radioEnabled, initial⟩ :: new) t.results := by
  obtain ⟨body, ending, notes, switched, rfl, hbody, hrestores, hradio⟩ := h rfl rfl
  rw [radioOf, Prod.mk.injEq] at hradio
  exact ⟨initial, body, ending, notes, switched, rfl, hbody, hrestores, hradio⟩

/-- An update with something to send, from the first answer on. -/
theorem ended_runFirmwareUpdate (o : World) (req : Request) (hops : req.HasOps) :
    Says (runFirmwareUpdate o req) fun _ new answer t => ∃ initial rest, new = ⟨.radioEnabled, initial⟩ :: rest ∧
      Ended req.hostWifiEnable req.hostWifiRestore initial (State.start initial) rest answer t := by
  have hI := keeps req.hostWifiEnable
  have htry : ∀ initial, Says (Action.orExcept (do
      let shown ← gets (board req)
      let base : Meta := {stage := .hostWifiOn, message := "", addr := none, index := some 0, board := some shown}
      let _ ← ensureWifiReady o req.wifi req.hostWifiEnable initial base
      deviceLoop o req initial 1 req.macs) fun _ => modifyResults fun r => {r with ok := false})
      (Keeps req.hostWifiEnable) := by
    intro initial
    refine hI.orExcept (around_gets_bind fun shown => ?_) fun _ => tracks_results _ fun _ => rfl
    refine hI.bind (tracks_midway (undialed_ensureWifiReady o req.wifi req.hostWifiEnable initial _)) fun _ => ?_
    exact keeps_deviceLoop o req initial 1 req.macs
  unfold runFirmwareUpdate
  rw [decide_eq_true hops, orRaise_true]
  refine (says_ask_bind (o := o) (c := .radioEnabled) fun initial => says_modify_bind
    (g := fun _ => State.start initial) ((says_pure ()).bind fun _ => says_modify_bind (g := State.accept req)
      ((says_ended o _ initial (Keeps.fresh (htry initial))).bind fun _ => says_modifyResults _))).mono ?_
  intro s new answer t h
  obtain ⟨initial, more, rfl, ⟨ex, -, -, h, -⟩ | ⟨_, first, mid, rest, rfl, ⟨rfl, -, rfl⟩, h⟩⟩ := h
  · cases h
  · refine ⟨initial, rest, rfl, ?_⟩
    rcases h with ⟨ex, rfl, h⟩ | ⟨_, body, mid', last, rfl, h, rfl, rfl, rfl⟩
    · exact h
    · rw [List.append_nil]
      exact h

/-- An update leaves the radio of the host as it found it, or tries to; without anything to send it only
asks whether it is on. -/
theorem update_radio (o : World) (req : Request) (s : State) :
    (¬ req.HasOps ∧ ∃ initial, (runFirmwareUpdate o req ([], s)).2.1 = [⟨.radioEnabled, initial⟩]) ∨
    Radio req.hostWifiEnable req.hostWifiRestore (runFirmwareUpdate o req ([], s)).2.1
      (runFirmwareUpdate o req ([], s)).2.2.results := by
  by_cases hops : req.HasOps
  · refine .inr ?_
    obtain ⟨initial, rest, hcalls, hended⟩ := (ended_runFirmwareUpdate o req hops).run s
    rw [hcalls]
    exact hended.radio
  · refine .inl ⟨hops, ?_⟩
    obtain ⟨initial, h | h⟩ := (says_runFirmwareUpdate o req).run s
    · exact ⟨initial, h.2.2.1⟩
    · exact absurd h.1 hops

/-- A download leaves the radio of the host as it found it, or tries to. -/
theorem download_radio (o : World) (mac baseUrl : String) (wifi : Wifi) (hostWifiEnable hostWifiRestore : Bool)
    (s : State) : Radio hostWifiEnable hostWifiRestore
      (downloadPresets o mac baseUrl wifi hostWifiEnable hostWifiRestore ([], s)).2.1
      (downloadPresets o mac baseUrl wifi hostWifiEnable hostWifiRestore ([], s)).2.2.results := by
  have hI := keeps hostWifiEnable
  have htry : ∀ initial, Says (Action.orExcept (fetchPresets o mac baseUrl wifi hostWifiEnable initial) fun ex => do
      modifyResults fun r => {r with ok := false}
      addNote (.said ex.message)) (KeepsFresh hostWifiEnable) := by
    intro initial
    have hfailed : ∀ ex : Raised, Says (modifyResults (fun r => {r with ok := false}) >>= fun _ =>
        addNote (.said ex.message)) (Keeps hostWifiEnable) := fun ex =>
      hI.bind (tracks_results _ fun _ => rfl) fun _ => tracks_results _ fun _ => rfl
    refine ((fresh_fetchPresets o mac baseUrl wifi hostWifiEnable initial).orExcept hfailed).mono
      fun s new answer t h hfresh => ?_
    rcases h with ⟨a, rfl, h⟩ | ⟨ex, first, mid, rest, rfl, hfirst, hrest⟩
    · exact h hfresh
    · exact hI.trans (hfirst hfresh) hrest
  obtain ⟨initial, rest, hcalls, hended⟩ := (says_ask_bind (o := o) (c := .radioEnabled) fun initial =>
    says_modify_bind (g := fun _ => State.start initial) (says_ended o hostWifiRestore initial
      (htry initial))).run s
  exact hcalls ▸ hended.radio

end RaceLink.Update
