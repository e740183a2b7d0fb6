import RaceLink.Fleet.Records
import RaceLink.Fleet.Scan

/-! What a channel scan leaves of the fleet.

A scan is to look and to note who is where. The handler behind it does more: it makes
records for devices it does not know, and files a device under the network of the gateway
that hears it, which in a scan is tuned elsewhere. As long as no reply asks for that
(`Harmless`), the scan does what it is for; and it always ends on the settings it found. -/
namespace RaceLink.Fleet
open Python Library Domain Routing Gateways Scenes

/-! ### What is to stay -/

/-- A device keeps its record, but for its link and for the settings it is noted to be on. -/
structure Stays (noted : String → Dict → Prop) (d d' : DeviceRecord) : Prop where
  record : d' = {d with lastKnownRfConfig := d'.lastKnownRfConfig, linkOnline := d'.linkOnline}
  settings : d'.lastKnownRfConfig = d.lastKnownRfConfig ∨
    ∃ rf, noted d.addr rf ∧ d'.lastKnownRfConfig = some rf

/-- The switch to the channel raises, which ends the scan. -/
def ScanTurn.stops (t : ScanTurn) : Bool :=
  match t.answers.switch with
  | .raised _ => true
  | _ => false

/-- The turns that a scan gets through. -/
def ranTurns (turns : List ScanTurn) : List ScanTurn := turns.takeWhile fun t => !t.stops

/-- The device answered on a channel with the settings. -/
def AnsweredOn (turns : List ScanTurn) (addr : String) (rf : Dict) : Prop :=
  ∃ t ∈ ranTurns turns, upper addr ∈ t.responders ∧ rf = t.rf

/-- What is received in a turn, as far as it gets. -/
def ScanTurn.events (t : ScanTurn) : List RxEvent :=
  t.answers.before ++ match t.answers.switch with
    | .done => t.answers.heard ++ t.responders.flatMap t.answers.meanwhile
    | _ => []

/-- What is received in a loop. -/
def loopEvents : List ScanTurn → List RxEvent
  | [] => []
  | t :: rest => t.events ++ if t.stops then [] else loopEvents rest

/-- Everyone who responds in a scan. -/
def allResponders (turns : List ScanTurn) : List String := (ranTurns turns).flatMap (·.responders)

/-- There is a record for a MAC. -/
def isKnown (s : State) (mac : String) : Bool := (deviceAt s mac).isSome

/-- A whole address without a record. -/
def isStrange (s : State) (mac : String) : Bool := mac.length == 12 && !isKnown s mac

/-- What is true of a row, for what was known before. -/
def RowRight (s : State) (t : ScanTurn) (row : ScanRow) : Prop :=
  row.responders = t.responders ∧ row.known.map (·.mac) = t.responders.filter (isKnown s) ∧
    row.unknown = t.responders.filter (isStrange s)

/-- **What a scan is for.** The devices that were known stay as they are recorded, but for their link and the
settings of a channel they answered on; who responds is known if there was a record; the gateway ends on its
own settings. -/
structure ScanRight (s : State) (turns : List ScanTurn) (original : Dict) (run : ScanRun) : Prop where
  kept : ∃ kept new, run.state.devices = kept ++ new ∧ List.Forall₂ (Stays (AnsweredOn turns)) s.devices kept
  reported : ∀ result, run.answer = .ok result → List.Forall₂ (RowRight s) turns result.channelsResult ∧
    ∀ mac, (mac ∈ result.allKnown.map (·.mac) ↔ mac ∈ allResponders turns ∧ isKnown s mac = true) ∧
      (mac ∈ result.allUnknown.map (·.mac) ↔ mac ∈ allResponders turns ∧ isStrange s mac = true)
  restored : run.switches.getLast? = some {rf := original, persist := false}

/-! ### What keeps it -/

/-- A reply of a device tells nothing new of it: neither a place nor what it is. -/
structure Unmoved (s : State) (gatewayId : Option String) (discovering : Bool) (ev : Identify) (d : DeviceRecord) :
    Prop where
  network : ∀ n ∈ networkIdForGatewayId s gatewayId, d.networkId.getD "" = n
  group : d.groupId = 0 → ev.groupId = 0
  stored : ev.groupId % 256 = 0 → discovering = false → d.groupId ≠ 0 → d.groupId % 256 < s.groups.length
  version : ev.version = d.version
  caps : ev.caps = d.caps
  devType : ev.caps = d.devType

/-- What is received leaves the fleet as it is to stay: an IDENTIFY reply is of a known device that
it tells nothing new of, or of one that nobody looks up, and if its body is of another length, no device
that was known ends in its sender; another reply changes a link at most. -/
def Harmless (s : State) (responders : List String) : RxEvent → Prop
  | .identify body sender3 gatewayId discovering collected =>
    match parseIdentify body with
    | none => collected = true → isKnown s (hexUpper sender3) = false
    | some ev =>
      match deviceAt s ev.mac12 with
      | none => ev.mac12 ∉ responders
      | some d => Unmoved s gatewayId discovering ev d
  | .report change => ∀ d, Stays (fun _ _ => False) d (change d)

theorem harmless_known {s : State} {body sender3 : Bytes} {gatewayId : Option String} {discovering collected : Bool}
    {responders : List String} {ev : Identify} {d : DeviceRecord} (hev : parseIdentify body = some ev)
    (hd : deviceAt s ev.mac12 = some d) (hunmoved : Unmoved s gatewayId discovering ev d) :
    Harmless s responders (.identify body sender3 gatewayId discovering collected) := by
  simp only [Harmless, hev, hd]
  exact hunmoved

/-- The fleet in the middle of a scan: the devices it had, and others that nobody looks up. -/
structure Scanned (s : State) (responders : List String) (noted : String → Dict → Prop) (u : State) : Prop where
  split : ∃ kept new, u.devices = kept ++ new ∧ List.Forall₂ (Stays noted) s.devices kept ∧
    ∀ d ∈ new, upper d.addr = d.addr ∧ (∀ e ∈ s.devices, upper e.addr ≠ d.addr) ∧ d.addr ∉ responders
  transports : u.transports = s.transports
  groups : u.groups.length = s.groups.length

section Steps
variable {s u : State} {responders : List String} {noted : String → Dict → Prop} {mac : String}
  {d d' : DeviceRecord}

theorem Stays.addr (h : Stays noted d d') : d'.addr = d.addr := by rw [h.record]

theorem Stays.groupId (h : Stays noted d d') : d'.groupId = d.groupId := by rw [h.record]

theorem Stays.networkId (h : Stays noted d d') : d'.networkId = d.networkId := by rw [h.record]

theorem Stays.refl (noted : String → Dict → Prop) (d : DeviceRecord) : Stays noted d d := ⟨rfl, .inl rfl⟩

theorem Stays.trans {e : DeviceRecord} (h : Stays noted d d') (h' : Stays noted d' e) : Stays noted d e where
  record := by rw [h'.record, h.record]
  settings := by
    rcases h'.settings with hsame | ⟨rf, hnoted, hset⟩
    · rw [hsame]
      exact h.settings
    · rw [h.addr] at hnoted
      exact .inr ⟨rf, hnoted, hset⟩

theorem Stays.mono {more : String → Dict → Prop} (h : Stays noted d d') (hmore : ∀ a rf, noted a rf → more a rf) :
    Stays more d d' where
  record := h.record
  settings := h.settings.imp_right fun ⟨rf, hnoted, hset⟩ => ⟨rf, hmore _ _ hnoted, hset⟩

theorem scanned_refl (s : State) (responders : List String) (noted : String → Dict → Prop) :
    Scanned s responders noted s where
  split := ⟨s.devices, [], (List.append_nil _).symm, List.forall₂_same.mpr fun d _ => .refl noted d, by simp⟩
  transports := rfl
  groups := rfl

/-- A device that was known is found again. -/
theorem Scanned.known (h : Scanned s responders noted u) (hmac : isMac12 mac = true)
    (hd : deviceAt s mac = some d) : ∃ d', deviceAt u mac = some d' ∧ Stays noted d d' := by
  obtain ⟨kept, new, hdevices, hstays, -⟩ := h.split
  rw [deviceAt_mac hmac] at hd ⊢
  have hsame : ∀ e e' : DeviceRecord, Stays noted e e' → (upper e.addr == mac) = (upper e'.addr == mac) :=
    fun e e' hee => by rw [hee.addr]
  obtain ⟨d', hd', hstay⟩ := find?_forall₂ (q := fun e : DeviceRecord => upper e.addr == mac) hsame hstays hd
  exact ⟨d', by rw [hdevices, List.find?_append, hd']; rfl, hstay⟩

/-- A device that is found and was not known has that very address, and is nobody's responder. -/
theorem Scanned.fresh (h : Scanned s responders noted u) (hmac : isMac12 mac = true)
    (hnone : deviceAt s mac = none) (hd : deviceAt u mac = some d) : d.addr = mac ∧ mac ∉ responders := by
  obtain ⟨kept, new, hdevices, hstays, hnew⟩ := h.split
  rw [deviceAt_mac hmac] at hnone hd
  have haddr : upper d.addr = mac := by simpa using List.find?_some hd
  have hmem := List.mem_of_find?_eq_some hd
  rw [hdevices] at hmem
  rcases List.mem_append.mp hmem with hmem | hmem
  · obtain ⟨e, he, hstay⟩ := exists_of_forall₂_right hstays hmem
    have hmiss := List.find?_eq_none.mp hnone e he
    rw [← hstay.addr, haddr] at hmiss
    simp at hmiss
  · obtain ⟨hupper, -, hout⟩ := hnew d hmem
    rw [hupper] at haddr
    exact ⟨haddr, haddr ▸ hout⟩

/-- A change of the devices with one address. -/
theorem Scanned.update (h : Scanned s responders noted u) (a : String) {f : DeviceRecord → DeviceRecord}
    (haddr : ∀ e, (f e).addr = e.addr)
    (hstay : ∀ e ∈ s.devices, e.addr = a → ∀ e', Stays noted e e' → Stays noted e (f e')) :
    Scanned s responders noted {u with devices := updateKey (·.addr) a f u.devices} := by
  obtain ⟨kept, new, hdevices, hstays, hnew⟩ := h.split
  refine ⟨⟨updateKey (·.addr) a f kept, updateKey (·.addr) a f new, ?_, ?_, ?_⟩, h.transports, h.groups⟩
  · show updateKey _ a f u.devices = _
    rw [hdevices, updateKey, List.map_append]
    rfl
  · rw [updateKey, List.forall₂_map_right_iff]
    refine forall₂_imp_mem hstays fun e e' he hee => ?_
    split
    · next hkey => exact hstay e he (hee.addr ▸ hkey) e' hee
    · exact hee
  · intro e' he'
    obtain ⟨e, he, rfl⟩ := mem_updateKey.mp he'
    have hsame : (if e.addr = a then f e else e).addr = e.addr := by
      split
      · exact haddr e
      · rfl
    rw [hsame]
    exact hnew e he

/-- A change of a device that was not known. -/
theorem Scanned.updateFresh (h : Scanned s responders noted u) (hmac : isMac12 mac = true)
    (hnone : deviceAt s mac = none) {f : DeviceRecord → DeviceRecord} (haddr : ∀ e, (f e).addr = e.addr) :
    Scanned s responders noted {u with devices := updateKey (·.addr) mac f u.devices} := by
  refine h.update mac haddr fun e he hkey => ?_
  rw [deviceAt_mac hmac] at hnone
  have hmiss := List.find?_eq_none.mp hnone e he
  have hfixed : upper mac = mac := by
    have hstrip := mac12_fixed hmac
    rw [← hstrip, upper_upper]
  rw [hkey, hfixed] at hmiss
  simp at hmiss

theorem Scanned.changeFresh (h : Scanned s responders noted u) (hmac : isMac12 mac = true)
    (hnone : deviceAt s mac = none) {f : DeviceRecord → DeviceRecord} (haddr : ∀ e, (f e).addr = e.addr) :
    Scanned s responders noted (changeDevice u mac f) := by
  unfold changeDevice
  cases hdenotes : denotes u mac with
  | none => exact h
  | some a =>
    rw [denotes_deviceAt] at hdenotes
    obtain ⟨d, hd, rfl⟩ := Option.map_eq_some_iff.mp hdenotes
    rw [(h.fresh hmac hnone hd).1]
    exact h.updateFresh hmac hnone haddr

/-- A change of a device that was known. -/
theorem Scanned.changeKnown (hs : Addressed s) (h : Scanned s responders noted u) (hmac : isMac12 mac = true)
    (hd : deviceAt s mac = some d) {f : DeviceRecord → DeviceRecord} (haddr : ∀ e, (f e).addr = e.addr)
    (hstay : ∀ e', Stays noted d e' → Stays noted d (f e')) :
    Scanned s responders noted (changeDevice u mac f) := by
  obtain ⟨d', hd', hdd⟩ := h.known hmac hd
  rw [changeDevice, denotes_deviceAt, hd', Option.map_some, hdd.addr]
  refine h.update d.addr haddr fun e he hkey => ?_
  rwa [key_inj hs.nodup he (deviceAt_some hd).1 hkey]

theorem Scanned.reconcile (h : Scanned s responders noted u) (groupId : Int) :
    Scanned s responders noted (reconcileGroupNetwork u groupId).2 := by
  have hgroups : (reconcileGroupNetwork u groupId).2.groups.length = u.groups.length := by
    unfold reconcileGroupNetwork
    split
    · rfl
    · split
      · rfl
      · split
        · rfl
        · dsimp only
          split
          · rfl
          · exact List.length_set
  have hdevices := reconcile_devices u groupId
  refine ⟨by rw [hdevices]; exact h.split, ?_, hgroups.trans h.groups⟩
  rw [reconcile_eq]
  exact h.transports

/-! ### What is received -/

variable {gatewayId : Option String} {discovering : Bool} {ev : Identify} {body sender3 : Bytes}

/-- A reply of a device that was not known. -/
theorem Scanned.hearFresh (h : Scanned s responders noted u) (hmac : isMac12 ev.mac12 = true)
    (hnone : deviceAt s ev.mac12 = none) (hout : ev.mac12 ∉ responders) :
    Scanned s responders noted (hear u ev) ∧ (heard u ev).addr = ev.mac12 := by
  unfold hear heard
  cases hfound : deviceAt u ev.mac12 with
  | some d => exact ⟨h.changeFresh hmac hnone fun _ => rfl, (h.fresh hmac hnone hfound).1⟩
  | none =>
    obtain ⟨kept, new, hdevices, hstays, hnew⟩ := h.split
    have hfixed : upper ev.mac12 = ev.mac12 := by
      rw [← mac12_fixed hmac, upper_upper]
    refine ⟨⟨⟨kept, new ++ [(newDevice ev).updateFromIdentify ev], ?_, hstays, fun d hd => ?_⟩, h.transports,
      h.groups⟩, rfl⟩
    · show u.devices ++ _ = _
      rw [hdevices, List.append_assoc]
    · rcases List.mem_append.mp hd with hd | hd
      · exact hnew d hd
      · rw [List.mem_singleton.mp hd]
        rw [deviceAt_mac hmac] at hnone
        refine ⟨hfixed, fun e he heq => ?_, hout⟩
        have hmiss := List.find?_eq_none.mp hnone e he
        rw [show upper e.addr = ev.mac12 from heq] at hmiss
        simp at hmiss

theorem Scanned.bindFresh (h : Scanned s responders noted u) (hmac : isMac12 mac = true)
    (hnone : deviceAt s mac = none) (hd : d.addr = mac) (inferred : Option String) :
    Scanned s responders noted (bindHeard u d inferred) := by
  unfold bindHeard
  split
  · exact h
  · split
    · exact h
    · split
      · unfold relocateDeviceNetwork
        dsimp only
        have hmoved : ∀ f : DeviceRecord → DeviceRecord, (∀ e, (f e).addr = e.addr) →
            Scanned s responders noted (changeDevice u d.addr f) := fun f hf => by
          rw [hd]
          exact h.changeFresh hmac hnone hf
        split
        · refine (hmoved _ ?_).reconcile d.groupId
          intro e
          rfl
        · refine hmoved _ ?_
          intro e
          rfl
      · rw [hd]
        exact (h.changeFresh hmac hnone (f := fun e => {e with networkId := some _}) fun _ => rfl).reconcile d.groupId

/-- **An IDENTIFY reply that asks for nothing leaves the fleet as it is to stay.** -/
theorem Scanned.identify (hs : Addressed s) (h : Scanned s responders noted u) {collected : Bool}
    (hharm : Harmless s responders (.identify body sender3 gatewayId discovering collected)) :
    Scanned s responders noted (Fleet.identify u body gatewayId discovering) := by
  unfold Fleet.identify
  cases hev : parseIdentify body with
  | none => exact h
  | some ev =>
    dsimp only
    have hmac := mac12_hex hev
    simp only [Harmless, hev] at hharm
    have hunmoved := hharm
    have hinferred : networkIdForGatewayId u gatewayId = networkIdForGatewayId s gatewayId := by
      unfold networkIdForGatewayId
      rw [h.transports]
    cases hknown : deviceAt s ev.mac12 with
    | none =>
      rw [hknown] at hunmoved
      obtain ⟨hheard, haddr⟩ := h.hearFresh hmac hknown hunmoved
      have hbound := hheard.bindFresh hmac hknown haddr (networkIdForGatewayId u gatewayId)
      unfold restoreKnownDeviceGroup
      split
      · exact hbound
      · split
        · exact hbound
        · split
          · exact hbound.changeFresh hmac hknown fun _ => rfl
          · exact hbound
    | some d =>
      rw [hknown] at hunmoved
      obtain ⟨d', hd', hstay⟩ := h.known hmac hknown
      have hheard : hear u ev = changeDevice u ev.mac12 (·.updateFromIdentify ev) := by
        rw [hear, hd']
      have hscanned : Scanned s responders noted (hear u ev) := by
        rw [hheard]
        refine h.changeKnown hs hmac hknown (fun _ => rfl) fun e he => ⟨?_, he.settings⟩
        have hgroup : ¬ (d.groupId = 0 ∧ ev.groupId ≠ 0) := fun hboth => hboth.2 (hunmoved.group hboth.1)
        rw [he.record]
        simp only [DeviceRecord.updateFromIdentify, if_neg hgroup, hunmoved.version, hunmoved.caps]
        rw [← hunmoved.devType, hunmoved.caps]
      have hbound : bindHeard (hear u ev) (heard u ev) (networkIdForGatewayId u gatewayId) = hear u ev := by
        have hnetwork : (heard u ev).networkId = d.networkId := by
          rw [heard, hd']
          exact hstay.networkId
        unfold bindHeard
        cases hn : networkIdForGatewayId u gatewayId with
        | none => rfl
        | some n =>
          dsimp only
          rw [hnetwork, if_pos]
          exact hunmoved.network n (hinferred ▸ hn)
      rw [hbound, restoreKnownDeviceGroup]
      split
      · exact hscanned
      · next d'' hd'' =>
        split
        · exact hscanned
        · next hrestores =>
          split
          · next hgone =>
            obtain ⟨e, he, hde⟩ := hscanned.known hmac hknown
            cases he.symm.trans hd''
            have hreported : ev.groupId % 256 = 0 := by
              by_contra hne
              exact hrestores (.inr (.inl hne))
            have hquiet : discovering = false := by
              cases hdisc : discovering with
              | false => rfl
              | true => exact absurd (.inr (.inr hdisc)) hrestores
            -- The group is gone only if there was none.
            have hzero : d.groupId = 0 := by
              by_contra hne
              have hthere := hunmoved.stored hreported hquiet hne
              rw [hde.groupId, hscanned.groups] at hgone
              omega
            refine hscanned.changeKnown hs hmac hknown (fun _ => rfl) fun e' he' => ⟨?_, he'.settings⟩
            rw [he'.record, ← hzero]
          · exact hscanned

theorem Scanned.receive (hs : Addressed s) (h : Scanned s responders noted u) {event : RxEvent}
    (hharm : Harmless s responders event) : Scanned s responders noted (Fleet.receive u event) := by
  cases event with
  | identify body sender3 gatewayId discovering collected => exact h.identify hs hharm
  | report change =>
    obtain ⟨kept, new, hdevices, hstays, hnew⟩ := h.split
    have hreport : ∀ d, Stays noted d (change d) := fun d => (hharm d).mono fun _ _ => False.elim
    refine ⟨⟨kept.map change, new.map change, ?_, ?_, fun d hd => ?_⟩, h.transports, h.groups⟩
    · show u.devices.map change = _
      rw [hdevices, List.map_append]
    · rw [List.forall₂_map_right_iff]
      exact hstays.imp fun e e' hee => hee.trans (hreport e')
    · obtain ⟨e, he, rfl⟩ := List.mem_map.mp hd
      rw [(hreport e).addr]
      exact hnew e he

theorem Scanned.receiveAll (hs : Addressed s) (h : Scanned s responders noted u) {events : List RxEvent}
    (hharm : ∀ event ∈ events, Harmless s responders event) :
    Scanned s responders noted (Fleet.receiveAll u events) := by
  induction events generalizing u with
  | nil => exact h
  | cons event rest ih =>
    obtain ⟨hfirst, hrest⟩ := List.forall_mem_cons.mp hharm
    exact ih (h.receive hs hfirst) hrest

/-! ### The responders -/

theorem hexUpper_fixed (bytes : Bytes) : upper (strip (hexUpper bytes)) = hexUpper bytes := by
  have hchars : ∀ c ∈ (hexUpper bytes).toList, isSpace c = false ∧ upperChar c = [c] := fun c hc =>
    hexDigit_fixed (hexUpper_digits hc)
  rw [strip_of_no_space fun c hc => (hchars c hc).1, upper_of_fixed fun c hc => (hchars c hc).2]

/-- A responder is the MAC of a collected reply, or the sender of one with another body. -/
theorem responder_collected {t : ScanTurn} (h : mac ∈ t.responders) : t.answers.switch = .done ∧
    ∃ body sender3 gatewayId discovering, .identify body sender3 gatewayId discovering true ∈ t.answers.heard ∧
      ((∃ ev, parseIdentify body = some ev ∧ ev.mac12 = mac) ∨
        parseIdentify body = none ∧ hexUpper sender3 = mac) := by
  unfold ScanTurn.responders at h
  split at h
  · next hswitch =>
    refine ⟨hswitch, ?_⟩
    split at h
    · cases h
    · obtain ⟨raw, hraw, rfl⟩ := List.mem_map.mp (mem_sortMacs.mp h)
      obtain ⟨event, hevent, hcollected⟩ := List.mem_filterMap.mp hraw
      unfold collectedMac at hcollected
      split at hcollected
      · next body sender3 gatewayId discovering =>
        refine ⟨body, sender3, gatewayId, discovering, hevent, ?_⟩
        unfold responderOf at hcollected
        cases hev : parseIdentify body with
        | none =>
          simp only [hev, Option.map_none, Option.filter_none, Option.map_some] at hcollected
          obtain ⟨heq, -⟩ := nonEmpty_some.mp hcollected
          rw [← Option.some.inj heq, hexUpper_fixed]
          exact .inr ⟨rfl, rfl⟩
        | some ev =>
          simp only [hev, Option.map_some, Option.filter_some, parseIdentify_length hev, decide_true,
            if_true] at hcollected
          rw [← Option.some.inj hcollected, hexUpper_fixed]
          exact .inl ⟨ev, rfl, rfl⟩
      · cases hcollected
  · cases h

theorem responder_mac {t : ScanTurn} (h : mac ∈ t.responders) (hlength : mac.length = 12) : isMac12 mac = true := by
  obtain ⟨-, body, sender3, -, -, -, ⟨ev, hev, rfl⟩ | ⟨-, rfl⟩⟩ := responder_collected h
  · exact mac12_hex hev
  · exact hexUpper_mac hlength

/-- A responder that was known has told its MAC. -/
theorem responder_whole {t : ScanTurn} (hharm : ∀ event ∈ t.events, Harmless s responders event)
    (h : mac ∈ t.responders) (hknown : isKnown s mac = true) : mac.length = 12 := by
  obtain ⟨hswitch, body, sender3, gatewayId, discovering, hevent, hmac⟩ := responder_collected h
  rcases hmac with ⟨ev, hev, rfl⟩ | ⟨hev, rfl⟩
  · exact mac12_length (mac12_hex hev)
  · have hheard := hharm _ (List.mem_append_right _ (by rw [hswitch]; exact List.mem_append_left _ hevent))
    simp only [Harmless, hev] at hheard
    rw [hheard trivial] at hknown
    cases hknown

/-- Responders are entered under what was known of them. -/
def Entered (s : State) (macs : List String) (entries : List (String × Option KnownEntry)) : Prop :=
  entries.map (fun e => (e.1, e.2.map (·.mac))) = macs.map fun mac => (mac, if isKnown s mac then some mac else none)

variable {macs : List String} {entries : List (String × Option KnownEntry)}

theorem Entered.known (h : Entered s macs entries) :
    (entries.filterMap (·.2)).map (·.mac) = macs.filter (isKnown s) := by
  have hkeys := congrArg (List.filterMap (·.2)) h
  rw [List.filterMap_map, List.filterMap_map] at hkeys
  rw [List.map_filterMap, ← List.filterMap_eq_filter]
  refine hkeys.trans (List.filterMap_congr fun mac _ => ?_)
  show (if isKnown s mac = true then some mac else none) = Option.guard _ mac
  rw [Option.guard]

theorem Entered.unknown (h : Entered s macs entries) :
    (entries.filter fun e => e.2.isNone).map (·.1) = macs.filter fun mac => !isKnown s mac := by
  have hkeys := congrArg (fun es => (es.filter fun e => e.2.isNone).map (·.1)) h
  simp only [List.filter_map, List.map_map] at hkeys
  calc (entries.filter fun e => e.2.isNone).map (·.1)
    _ = (entries.filter fun e => (e.2.map (·.mac)).isNone).map (·.1) := by simp only [Option.isNone_map]
    _ = _ := hkeys
    _ = macs.filter fun mac => !isKnown s mac := by
      rw [show ((fun e : String × Option String => e.1) ∘
        fun mac => (mac, if isKnown s mac = true then some mac else none)) = id from rfl, List.map_id]
      refine List.filter_congr fun mac _ => ?_
      cases hknown : isKnown s mac <;> simp [hknown]

/-! ### A turn -/

/-- Those who respond in a turn are counted, and noted to be on its settings. -/
def Noted (responders : List String) (noted : String → Dict → Prop) (t : ScanTurn) : Prop :=
  ∀ mac ∈ t.responders, mac ∈ responders ∧ ∀ a, upper a = mac → noted a t.rf

variable {t : ScanTurn}

/-- A responder is known if it was, and then noted. -/
theorem Scanned.lookUp (hs : Addressed s) (h : Scanned s responders noted u) (hnoted : Noted responders noted t)
    (hmem : mac ∈ t.responders) (hlength : mac.length = 12) :
    Scanned s responders noted (Fleet.lookUp t u mac).2 ∧
      (Fleet.lookUp t u mac).1.map (·.mac) = if isKnown s mac then some mac else none := by
  have hmac := responder_mac hmem hlength
  obtain ⟨hin, hnote⟩ := hnoted mac hmem
  unfold Fleet.lookUp isKnown
  cases hknown : deviceAt s mac with
  | none =>
    cases hfound : deviceAt u mac with
    | none => exact ⟨h, rfl⟩
    | some d => exact absurd hin (h.fresh hmac hknown hfound).2
  | some d =>
    obtain ⟨d', hd', -⟩ := h.known hmac hknown
    rw [hd']
    refine ⟨?_, rfl⟩
    dsimp only
    rw [setLastKnown_eq]
    have haddr : upper d.addr = mac := by
      rw [deviceAt_mac hmac] at hknown
      simpa using List.find?_some hknown
    exact h.changeKnown hs hmac hknown (fun _ => rfl) fun e he =>
      ⟨by rw [he.record], .inr ⟨t.rf, hnote _ haddr, rfl⟩⟩

theorem Scanned.lookUpAll (hs : Addressed s) (h : Scanned s responders noted u) (hnoted : Noted responders noted t)
    (hmacs : ∀ mac ∈ macs, mac ∈ t.responders ∧ mac.length = 12)
    (hharm : ∀ mac ∈ macs, ∀ event ∈ t.answers.meanwhile mac, Harmless s responders event) :
    Scanned s responders noted (Fleet.lookUpAll t macs u).2 ∧ Entered s macs (Fleet.lookUpAll t macs u).1 := by
  induction macs generalizing u with
  | nil => exact ⟨h, rfl⟩
  | cons mac rest ih =>
    obtain ⟨hmem, hrest⟩ := List.forall_mem_cons.mp hmacs
    obtain ⟨hfirst, hlater⟩ := List.forall_mem_cons.mp hharm
    obtain ⟨hlooked, hentry⟩ := (h.receiveAll hs hfirst).lookUp hs hnoted hmem.1 hmem.2
    obtain ⟨hscanned, hentries⟩ := ih hlooked hrest hlater
    refine ⟨hscanned, ?_⟩
    unfold Entered
    rw [Fleet.lookUpAll, List.map_cons, List.map_cons, hentries, hentry]

/-- **A turn leaves the fleet as it is to stay, and its row tells who was known.** -/
theorem Scanned.turn (hs : Addressed s) (h : Scanned s responders noted u) (hnoted : Noted responders noted t)
    (hharm : ∀ event ∈ t.events, Harmless s responders event) :
    Scanned s responders noted (scanTurn t u).2 ∧ ∀ row, (scanTurn t u).1 = .ok row → RowRight s t row := by
  obtain ⟨hbefore, hlater⟩ := List.forall_mem_append.mp hharm
  have hswitched := h.receiveAll hs hbefore
  unfold scanTurn
  cases hswitch : t.answers.switch with
  | raised e => exact ⟨hswitched, fun row hrow => by cases hrow⟩
  | refused reason =>
    refine ⟨hswitched, fun row hrow => ?_⟩
    cases hrow
    have hnobody : t.responders = [] := by
      rw [ScanTurn.responders, hswitch]
    rw [RowRight, hnobody]
    exact ⟨rfl, rfl, rfl⟩
  | done =>
    have hwhole : ∀ mac ∈ t.responders, isKnown s mac = true → mac.length = 12 := fun _ =>
      responder_whole hharm
    rw [hswitch] at hlater
    obtain ⟨hheard, hmeanwhile⟩ := List.forall_mem_append.mp hlater
    dsimp only
    have hmem : ∀ mac ∈ t.responders.filter (fun m => m.length = 12), mac ∈ t.responders ∧ mac.length = 12 :=
      fun mac hmac => ⟨(List.mem_filter.mp hmac).1, of_decide_eq_true (List.mem_filter.mp hmac).2⟩
    obtain ⟨hscanned, hentered⟩ := (hswitched.receiveAll hs hheard).lookUpAll hs hnoted hmem
      fun mac hmac event hevent => hmeanwhile event (List.mem_flatMap.mpr ⟨mac, (hmem mac hmac).1, hevent⟩)
    refine ⟨hscanned, fun row hrow => ?_⟩
    cases hrow
    refine ⟨rfl, ?_, ?_⟩
    · rw [hentered.known, List.filter_filter]
      refine List.filter_congr fun mac hmac => ?_
      cases hknown : isKnown s mac with
      | true => simp [hwhole mac hmac hknown]
      | false => rfl
    · rw [hentered.unknown, List.filter_filter]
      refine List.filter_congr fun mac _ => ?_
      rw [isStrange, Bool.and_comm]
      rfl

/-! ### The loop -/

theorem scanTurn_raises (t : ScanTurn) (u : State) : t.stops = true ↔ ∃ e, (scanTurn t u).1 = .error e := by
  unfold ScanTurn.stops scanTurn
  cases t.answers.switch <;> simp

variable {turns : List ScanTurn}

theorem ranTurns_cons (t : ScanTurn) (rest : List ScanTurn) :
    ranTurns (t :: rest) = if t.stops then [] else t :: ranTurns rest := by
  rw [ranTurns, List.takeWhile_cons]
  cases t.stops <;> rfl

/-- **The loop leaves the fleet as it is to stay, and its rows tell who was known.** -/
theorem Scanned.loop (hs : Addressed s) (h : Scanned s responders noted u)
    (hnoted : ∀ t ∈ ranTurns turns, Noted responders noted t)
    (hharm : ∀ event ∈ loopEvents turns, Harmless s responders event) :
    Scanned s responders noted (scanLoop turns u).2.2.2 ∧
      ((scanLoop turns u).2.2.1 = none →
        ranTurns turns = turns ∧ List.Forall₂ (RowRight s) turns (scanLoop turns u).1) := by
  induction turns generalizing u with
  | nil => exact ⟨h, fun _ => ⟨rfl, .nil⟩⟩
  | cons t rest ih =>
    rw [loopEvents] at hharm
    obtain ⟨hfirst, hlater⟩ := List.forall_mem_append.mp hharm
    rw [ranTurns_cons] at hnoted ⊢
    have hraises := scanTurn_raises t u
    unfold scanLoop
    cases hstops : t.stops with
    | true =>
      obtain ⟨e, he⟩ := hraises.mp hstops
      have hnobody : t.responders = [] := by
        unfold ScanTurn.stops at hstops
        unfold ScanTurn.responders
        split at hstops
        · next hswitch => rw [hswitch]
        · cases hstops
      have hturn := (h.turn hs (t := t) (by simp [Noted, hnobody]) hfirst).1
      rw [show scanTurn t u = (.error e, (scanTurn t u).2) from Prod.ext he rfl]
      exact ⟨hturn, fun hnone => by cases hnone⟩
    | false =>
      rw [hstops] at hnoted hlater
      obtain ⟨hnote, hrest⟩ := List.forall_mem_cons.mp hnoted
      obtain ⟨hturn, hrow⟩ := h.turn hs hnote hfirst
      cases hans : (scanTurn t u).1 with
      | error e => exact absurd (hraises.mpr ⟨e, hans⟩) (by simp [hstops])
      | ok row =>
        rw [show scanTurn t u = (.ok row, (scanTurn t u).2) from Prod.ext hans rfl]
        obtain ⟨hscanned, hrows⟩ := ih hturn hrest hlater
        refine ⟨hscanned, fun hnone => ?_⟩
        obtain ⟨hran, hall⟩ := hrows hnone
        exact ⟨by rw [hran]; rfl, .cons (hrow row hans) hall⟩

/-! ### The scan -/

variable {rows : List ScanRow} {original : Dict} {after : List RxEvent} {result : ScanResult}

theorem rows_known (h : List.Forall₂ (RowRight s) turns rows) :
    (rows.flatMap (·.known)).map (·.mac) = (turns.flatMap (·.responders)).filter (isKnown s) := by
  induction h with
  | nil => rfl
  | cons hrow _ ih =>
    rw [List.flatMap_cons, List.map_append, hrow.2.1, ih, List.flatMap_cons, List.filter_append]

theorem rows_unknown (h : List.Forall₂ (RowRight s) turns rows) :
    (rows.flatMap fun row => row.unknown.map fun mac => UnknownEntry.mk mac row.channelId row.channelName).map
      (·.mac) = (turns.flatMap (·.responders)).filter (isStrange s) := by
  induction h with
  | nil => rfl
  | @cons t row _ _ hrow _ ih =>
    have hmacs : (row.unknown.map fun mac => UnknownEntry.mk mac row.channelId row.channelName).map (·.mac) =
        row.unknown := by
      rw [List.map_map]
      exact List.map_id _
    rw [List.flatMap_cons, List.map_append, hmacs, hrow.2.2, ih, List.flatMap_cons, List.filter_append]

/-- However the loop ends, the last switch is back. -/
theorem scanFrom_restores (s : State) (result : ScanResult) (turns : List ScanTurn) (original : Dict)
    (after : List RxEvent) :
    (scanFrom s result turns original after).switches.getLast? = some {rf := original, persist := false} := by
  unfold scanFrom
  cases hraised : (scanLoop turns s).2.2.1 <;> simp [hraised]

/-- **A scan during which nothing asks for more does what it is for.** -/
theorem scanFrom_right (hs : Addressed s)
    (hharm : ∀ event ∈ loopEvents turns ++ after, Harmless s (allResponders turns) event) :
    ScanRight s turns original (scanFrom s result turns original after) := by
  obtain ⟨hloop, hafter⟩ := List.forall_mem_append.mp hharm
  have hnoted : ∀ t ∈ ranTurns turns, Noted (allResponders turns) (AnsweredOn turns) t := by
    intro t ht mac hmac
    refine ⟨List.mem_flatMap.mpr ⟨t, ht, hmac⟩, fun a ha => ?_⟩
    exact ⟨t, ht, ha.symm ▸ hmac, rfl⟩
  obtain ⟨hscanned, hrows⟩ := (scanned_refl s (allResponders turns) (AnsweredOn turns)).loop hs hnoted hloop
  have hend := hscanned.receiveAll hs hafter
  obtain ⟨kept, new, hdevices, hstays, -⟩ := hend.split
  refine ⟨⟨kept, new, ?_, hstays⟩, fun answer hok => ?_, scanFrom_restores ..⟩
  · unfold scanFrom
    cases hraised : (scanLoop turns s).2.2.1 with
    | some e => simpa only [hraised] using hdevices
    | none =>
      simp only [hraised]
      split <;> exact hdevices
  unfold scanFrom at hok
  cases hraised : (scanLoop turns s).2.2.1 with
  | some e => simp [hraised] at hok
  | none =>
    obtain ⟨hran, hforall⟩ := hrows hraised
    have hall : allResponders turns = turns.flatMap (·.responders) := by
      rw [allResponders, hran]
    simp only [hraised, Except.ok.injEq] at hok
    subst hok
    refine ⟨hforall, fun mac => ⟨?_, ?_⟩⟩
    · show mac ∈ List.map _ (keepFirst KnownEntry.mac [] _) ↔ _
      rw [mem_keys_keepFirst, rows_known hforall, List.mem_filter, hall]
      simp
    · show mac ∈ List.map _ (keepFirst UnknownEntry.mac [] _) ↔ _
      rw [mem_keys_keepFirst, rows_unknown hforall, List.mem_filter, hall]
      simp

end Steps

/-- **A scan on the settings the gateway reports does what it is for, if nothing that is received
during it asks for more.** -/
theorem scanRegion_right {s : State} {gatewayId region : String} {channelIds : Option (List Int)} {t : Attached}
    {channels : List Channel} {original : Dict} {answers : Nat → TurnAnswers} {after : List RxEvent}
    (hs : Addressed s)
    (hplan : planScan s gatewayId region channelIds {gatewayId := upper gatewayId, region} = .ok (t, channels))
    (hharm : ∀ event ∈ loopEvents (scanTurns region channels answers) ++ after,
      Harmless s (allResponders (scanTurns region channels answers)) event) :
    ScanRight s (scanTurns region channels answers) original
      (scanRegion s gatewayId region channelIds (some original) answers after) := by
  unfold scanRegion
  dsimp only
  rw [hplan]
  exact scanFrom_right hs hharm

/-! ### Two scans -/

/-- Two networks with a gateway each, and a device of either. -/
def twoTracks : State where
  networks :=
    [⟨⟨"A", .rf, some "AABBCCDDEE01"⟩, "Track", "EU868", some 1, channelRfConfig "EU868" 1, none, .finite 0⟩,
      ⟨⟨"B", .rf, some "AABBCCDDEE02"⟩, "Pit", "EU868", some 2, channelRfConfig "EU868" 2, none, .finite 0⟩]
  devices :=
    [{createDevice 10 { addr := "AABBCC445566", name := "Start", version := 1, caps := 10 } [] with
        networkId := some "A"},
      {createDevice 10 { addr := "AABBCC112233", name := "Box", version := 1, caps := 10 } [] with
        networkId := some "B"}]
  groups := [⟨⟨none⟩, "Unconfigured", 0, 0⟩]
  transports := [⟨⟨1, some "A", "AABBCCDDEE01"⟩, .rf⟩, ⟨⟨2, some "B", "AABBCCDDEE02"⟩, .rf⟩]
  records := []
  saves := 0

theorem twoTracks_addressed : Addressed twoTracks := ⟨by decide +kernel, by decide +kernel⟩

/-- A reply that the track's gateway hears on the second channel of a scan. -/
def secondHears (body sender3 : Bytes) : Nat → TurnAnswers
  | 1 => {heard := [.identify body sender3 (some "AABBCCDDEE01") true true]}
  | _ => {}

/-- The replies of a device of the track, of one of the pit, and of one without a record, as they are recorded;
of the first with another version; and of it with a body of another length. -/
def trackReply : Bytes := [1, 10, 0, 0xAA, 0xBB, 0xCC, 0x44, 0x55, 0x66]
def pitReply : Bytes := [1, 10, 0, 0xAA, 0xBB, 0xCC, 0x11, 0x22, 0x33]
def strangeReply : Bytes := [1, 10, 0, 0xDD, 0xEE, 0xFF, 0x11, 0x22, 0x33]
def newerReply : Bytes := [2, 10, 0, 0xAA, 0xBB, 0xCC, 0x44, 0x55, 0x66]
def shortReply : Bytes := [1, 10, 0]

/-- The scan that the track's gateway makes of two channels. -/
def trackScan (body sender3 : Bytes) : ScanRun :=
  scanRegion twoTracks "aabbccddee01" "EU868" (some [1, 2]) (channelRfConfig "EU868" 1) (secondHears body sender3) []

/-- The device of the track, on another channel, is noted there. -/
theorem trackScan_right : ScanRight twoTracks
    (scanTurns "EU868" [⟨1, "Default", 867700000⟩, ⟨2, "Alt-1", 868200000⟩]
      (secondHears trackReply [0x44, 0x55, 0x66]))
    ((channelRfConfig "EU868" 1).getD []) (trackScan trackReply [0x44, 0x55, 0x66]) := by
  refine scanRegion_right (t := ⟨⟨1, some "A", "AABBCCDDEE01"⟩, .rf⟩) twoTracks_addressed (by decide +kernel) ?_
  intro event hevent
  have hone : loopEvents (scanTurns "EU868" [⟨1, "Default", 867700000⟩, ⟨2, "Alt-1", 868200000⟩]
      (secondHears trackReply [0x44, 0x55, 0x66])) ++ [] =
        [.identify trackReply [0x44, 0x55, 0x66] (some "AABBCCDDEE01") true true] := rfl
  rw [hone, List.mem_singleton] at hevent
  subst hevent
  have hknown : deviceAt twoTracks (Identify.mac12 ⟨1, 10, 0, [0xAA, 0xBB, 0xCC, 0x44, 0x55, 0x66]⟩) =
      some {createDevice 10 { addr := "AABBCC445566", name := "Start", version := 1, caps := 10 } [] with
        networkId := some "A"} := by
    decide +kernel
  exact harmless_known rfl hknown
    ⟨by decide +kernel, fun _ => rfl, fun _ hquiet => absurd hquiet (by decide), rfl, rfl, rfl⟩

/-- The device of the pit is filed under the track; the one of the track is recorded with another version; one
without a record is made known; and one that answers with another body is not known, though it has a record. -/
theorem scanRegion_strays :
    (¬ ∀ s gatewayId region channelIds original answers after, Addressed s →
      ∀ d ∈ s.devices, ∃ d' ∈ (scanRegion s gatewayId region channelIds (some original) answers after).state.devices,
        d'.addr = d.addr ∧ d'.networkId = d.networkId) ∧
    (¬ ∀ s gatewayId region channelIds original answers after, Addressed s →
      ∀ d ∈ s.devices, ∃ d' ∈ (scanRegion s gatewayId region channelIds (some original) answers after).state.devices,
        d'.addr = d.addr ∧ d'.version = d.version) ∧
    (¬ ∀ s gatewayId region channelIds original answers after, Addressed s →
      ∀ result, (scanRegion s gatewayId region channelIds (some original) answers after).answer = .ok result →
        ∀ mac ∈ result.allKnown.map (·.mac), isKnown s mac = true) ∧
    ¬ ∀ s gatewayId region channelIds original answers after, Addressed s →
      ∀ result, (scanRegion s gatewayId region channelIds (some original) answers after).answer = .ok result →
        ∀ row ∈ result.channelsResult, ∀ mac ∈ row.responders, isKnown s mac = true →
          mac ∈ row.known.map (·.mac) := by
  have hanswer : ∀ body sender3, ∃ result, (trackScan body sender3).answer = .ok result := fun body sender3 =>
    ⟨_, rfl⟩
  refine ⟨fun hclaim => ?_, fun hclaim => ?_, fun hclaim => ?_, fun hclaim => ?_⟩
  · exact absurd (hclaim twoTracks "aabbccddee01" "EU868" (some [1, 2]) ((channelRfConfig "EU868" 1).getD [])
      (secondHears pitReply [0x11, 0x22, 0x33]) [] twoTracks_addressed) (by decide +kernel)
  · exact absurd (hclaim twoTracks "aabbccddee01" "EU868" (some [1, 2]) ((channelRfConfig "EU868" 1).getD [])
      (secondHears newerReply [0x44, 0x55, 0x66]) [] twoTracks_addressed) (by decide +kernel)
  · obtain ⟨result, hanswer⟩ := hanswer strangeReply [0x11, 0x22, 0x33]
    have hentries : (trackScan strangeReply [0x11, 0x22, 0x33]).answer.map (·.allKnown.map (·.mac)) =
        .ok ["DDEEFF112233"] := by
      decide +kernel
    have hknown := hclaim twoTracks "aabbccddee01" "EU868" (some [1, 2]) ((channelRfConfig "EU868" 1).getD [])
      (secondHears strangeReply [0x11, 0x22, 0x33]) [] twoTracks_addressed result hanswer "DDEEFF112233"
    rw [hanswer] at hentries
    rw [show result.allKnown.map (·.mac) = ["DDEEFF112233"] from Except.ok.inj hentries] at hknown
    exact absurd (hknown (List.mem_singleton_self _)) (by decide +kernel)
  · obtain ⟨result, hanswer⟩ := hanswer shortReply [0x44, 0x55, 0x66]
    have hrows : (trackScan shortReply [0x44, 0x55, 0x66]).answer.map
        (fun result => result.channelsResult.map fun row => (row.responders, row.known.map (·.mac))) =
          .ok [([], []), (["445566"], [])] := by
      decide +kernel
    rw [hanswer] at hrows
    have hmem : (["445566"], []) ∈ result.channelsResult.map fun row => (row.responders, row.known.map (·.mac)) := by
      rw [show result.channelsResult.map (fun row => (row.responders, row.known.map (·.mac))) = _ from
        Except.ok.inj hrows]
      exact List.mem_cons_of_mem _ (List.mem_singleton_self _)
    obtain ⟨row, hrow, heq⟩ := List.mem_map.mp hmem
    obtain ⟨hresponders, hnone⟩ := Prod.mk.inj heq
    have hknown := hclaim twoTracks "aabbccddee01" "EU868" (some [1, 2]) ((channelRfConfig "EU868" 1).getD [])
      (secondHears shortReply [0x44, 0x55, 0x66]) [] twoTracks_addressed result hanswer row hrow "445566"
        (by rw [hresponders]; exact List.mem_singleton_self _) (by decide +kernel)
    rw [hnone] at hknown
    cases hknown

end RaceLink.Fleet
