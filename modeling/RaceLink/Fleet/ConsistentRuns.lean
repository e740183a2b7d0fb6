import RaceLink.Fleet.Moving

/-! Runs of a fleet.

An IDENTIFY reply touches one device: where that device ends up decides whether its
group stays on one network. With the other operations this makes the step lemma
(`step_sound`), and runs whose steps fit keep every group on one network
(`reachable_consistent`). -/
namespace RaceLink.Fleet
open Python Library Domain Routing Gateways Scenes

/-! ### IDENTIFY -/

section Identify
variable {s t : State} {ev : Identify} {body : Bytes} {d : DeviceRecord}

/-- Twelve digits are a MAC. -/
theorem hexUpper_mac {bytes : Bytes} (hlength : (hexUpper bytes).length = 12) : isMac12 (hexUpper bytes) = true := by
  simp only [isMac12, Bool.and_eq_true, beq_iff_eq, List.all_eq_true, Bool.or_eq_true, decide_eq_true_eq]
  exact ⟨by rwa [String.length_toList], fun c hc => hexUpper_digits hc⟩

theorem mac12_hex (hev : parseIdentify body = some ev) : isMac12 ev.mac12 = true := by
  refine hexUpper_mac ?_
  rw [← String.length_toList, hexUpper_length, parseIdentify_length hev]

/-- The fleet with the device that is heard, and the others as they were. -/
structure Hears (s t : State) (d : DeviceRecord) : Prop where
  groups : t.groups = s.groups
  addressed : Addressed t
  mem : d ∈ t.devices
  others : ∀ e ∈ t.devices, e ≠ d → e ∈ s.devices

theorem hear_hears (hs : Addressed s) (hev : parseIdentify body = some ev) :
    Hears s (hear s ev) (heard s ev) := by
  have hmac := mac12_hex hev
  unfold hear heard
  cases hknown : deviceAt s ev.mac12 with
  | some d =>
    obtain ⟨hd, hdenotes⟩ := deviceAt_some hknown
    have hsame : ∀ e : DeviceRecord, (e.updateFromIdentify ev).addr = e.addr := fun _ => rfl
    dsimp only [Option.getD_some]
    rw [changeDevice, hdenotes]
    refine ⟨rfl, ⟨?_, ?_⟩, mem_updateKey.mpr ⟨d, hd, if_pos rfl⟩, fun e' he' hne => ?_⟩
    · rw [map_updateKey hsame]
      exact hs.macs
    · rw [map_updateKey hsame]
      exact hs.nodup
    · obtain ⟨e, he, rfl⟩ := mem_updateKey.mp he'
      by_cases hkey : e.addr = d.addr
      · rw [if_pos hkey, key_inj hs.nodup he hd hkey] at hne
        exact absurd rfl hne
      · rwa [if_neg hkey]
  | none =>
    have hnone := deviceAt_none.mp hknown
    have hfree : ev.mac12 ∉ s.devices.map (·.addr) := fun hmem => by
      rw [hs.denotes_mac hmac, if_pos hmem] at hnone
      cases hnone
    have haddrs : (s.devices ++ [(newDevice ev).updateFromIdentify ev]).map (·.addr) =
        s.devices.map (·.addr) ++ [ev.mac12] := by
      rw [List.map_append]
      rfl
    dsimp only [Option.getD_none]
    refine ⟨rfl, ⟨fun a ha => ?_, ?_⟩, List.mem_append_right _ (List.mem_singleton_self _), fun e he hne => ?_⟩
    · rw [haddrs] at ha
      rcases List.mem_append.mp ha with ha | ha
      · exact hs.macs a ha
      · rwa [List.mem_singleton.mp ha]
    · rw [haddrs]
      exact List.nodup_append.mpr ⟨hs.nodup, List.nodup_singleton _, fun a ha b hb heq =>
        hfree (List.mem_singleton.mp hb ▸ heq ▸ ha)⟩
    · rcases List.mem_append.mp he with he | he
      · exact he
      · exact absurd (List.mem_singleton.mp he) hne

theorem heard_network (s : State) (ev : Identify) : network (heard s ev) = homeNetwork s ev := by
  unfold heard homeNetwork
  cases deviceAt s ev.mac12 <;> rfl

theorem heard_groupId (s : State) (ev : Identify) : (heard s ev).groupId = homeGroup s ev := by
  unfold heard homeGroup DeviceRecord.updateFromIdentify
  cases deviceAt s ev.mac12 with
  | none =>
    show (if (0 : Int) = 0 ∧ ev.groupId ≠ 0 then ev.groupId % 256 else 0) = ev.groupId % 256
    by_cases h : ev.groupId = 0 <;> simp [h]
  | some d =>
    show (if d.groupId = 0 ∧ ev.groupId ≠ 0 then ev.groupId % 256 else d.groupId) =
      if d.groupId = 0 then ev.groupId % 256 else d.groupId
    by_cases h : ev.groupId = 0 <;> by_cases hd : d.groupId = 0 <;> simp [h, hd]

/-- Only the device itself is denoted by its address. -/
theorem hit_self (ht : Addressed t) (hd : d ∈ t.devices) {e : DeviceRecord} (he : e ∈ t.devices) :
    Hit t [d.addr] e ↔ e = d := by
  simp only [Hit, List.mem_singleton, exists_eq_left, ht.denotes_self hd, Option.some.injEq]
  exact ⟨fun h => key_inj ht.nodup he hd h.symm, fun h => by rw [h]⟩

/-- The device keeps to the place it was heard in. -/
theorem Hears.unmoved (h : Hears s t d) (hs : Consistent s) (hd : AtHome s d) : Sound t := by
  refine ⟨h.addressed, consistent_of_devices h.groups fun e he => ?_⟩
  by_cases heq : e = d
  · rwa [heq]
  · exact consistent_iff.mp hs e (h.others e he heq)

/-- The device gets another place. -/
theorem Hears.moved (h : Hears s t d) (hs : Consistent s) {move : Int × Option String → Int × Option String}
    {u : State} (hplaces : Places move [d.addr] t u) (hd : HomePlace t (move (place d))) : Consistent u := by
  refine hplaces.consistent (fun e he hit => ?_) fun e he hmissed => ?_
  · rwa [(hit_self h.addressed h.mem he).mp hit]
  · rw [hit_self h.addressed h.mem he] at hmissed
    exact (atHome_congr h.groups).mpr (consistent_iff.mp hs e (h.others e he hmissed))

/-- The device takes its group along to the network it is heard on. -/
theorem Hears.adopted (h : Hears s t d) (hs : Consistent s) {new : String}
    (hfits : ∀ group ∈ boundGroup s d.groupId, Labels (·.groupId) network s.devices d.groupId (some new)) :
    Sound (reconcileGroupNetwork (changeDevice t d.addr fun d => {d with networkId := some new}) d.groupId).2 := by
  have hplaces : Places (movePlace new) [d.addr] t (changeDevice t d.addr fun d => {d with networkId := some new}) :=
    changeDevice_places t d.addr (fun d => {d with networkId := some new}) (fun _ => rfl) fun _ => rfl
  refine ⟨(hplaces.addressed h.addressed).reconcile d.groupId, ?_⟩
  rw [consistent_iff, reconcile_devices]
  intro x' hx'
  refine reconcile_atHome (fun hbound => ?_) hx' fun hother => ?_
  · rw [boundGroup_congr (hplaces.groups.trans h.groups)] at hbound
    obtain ⟨group, hgroup⟩ := Option.isSome_iff_exists.mp hbound
    -- Every member is on the new network: the device itself, and the others by assumption.
    refine (show Labels (·.groupId) network _ d.groupId (some new) from fun x' hx' hgid n hn => ?_).agree
    obtain ⟨x, hx, -, hplace⟩ := hplaces.devices x' hx'
    by_cases heq : x = d
    · rw [if_pos ((hit_self h.addressed h.mem hx).mpr heq)] at hplace
      rw [network, show x'.networkId = some new from congrArg Prod.snd hplace] at hn
      exact (nonEmpty_some.mp hn).1
    · rw [if_neg (mt (hit_self h.addressed h.mem hx).mp heq)] at hplace
      rw [network, show x'.networkId = x.networkId from congrArg Prod.snd hplace] at hn
      exact hfits group hgroup x (h.others x hx heq) ((congrArg Prod.fst hplace).symm.trans hgid) n hn
  · obtain ⟨x, hx, -, hplace⟩ := hplaces.devices x' hx'
    have hne : x ≠ d := fun heq => by
      rw [if_pos ((hit_self h.addressed h.mem hx).mpr heq), heq] at hplace
      exact hother (congrArg Prod.fst hplace)
    rw [if_neg (mt (hit_self h.addressed h.mem hx).mp hne)] at hplace
    rw [atHome_congr (hplaces.groups.trans h.groups), atHome_iff, hplace]
    exact consistent_iff.mp hs x (h.others x hx hne)

/-- The place of a device that relocates. -/
def relocatePlace (leaves : Bool) (new : String) (p : Int × Option String) : Int × Option String :=
  (if leaves then 0 else p.1, some new)

/-- The device moves, and leaves a group of another network. -/
theorem Hears.relocated (h : Hears s t d) (hs : Consistent s) {new : String}
    (hfits : ∀ group ∈ boundGroup s d.groupId, nonEmpty group.networkId ≠ none) :
    Sound (relocateDeviceNetwork t d new) := by
  have hplaces : Places (relocatePlace (leavesGroup t d new) new) [d.addr] t
      (changeDevice t d.addr fun e =>
        {e with
          groupId := if leavesGroup t d new then 0 else e.groupId
          networkId := some new
          lastKnownRfConfig := (knownConfig t new).or e.lastKnownRfConfig}) :=
    changeDevice_places t d.addr _ (fun _ => rfl) fun _ => rfl
  have haddressed := hplaces.addressed h.addressed
  have hconsistent := h.moved hs hplaces (by
    cases hleaves : leavesGroup t d new with
    | true => exact homePlace_zero t (some new)
    | false =>
      intro group hgroup n hn
      have hbound : boundGroup t d.groupId = some group := hgroup
      obtain ⟨hpos, hget, -⟩ := boundGroup_some.mp hbound
      rw [boundGroup_congr h.groups] at hbound
      obtain ⟨own, hown⟩ := Option.ne_none_iff_exists'.mp (hfits group hbound)
      rw [leavesGroup, hget] at hleaves
      simp only [hpos, decide_true, Bool.true_and, hown, Option.any_some, bne_eq_false_iff_eq] at hleaves
      rw [(nonEmpty_some.mp hown).1, hleaves]
      exact (nonEmpty_some.mp hn).1)
  rw [relocateDeviceNetwork]
  by_cases hleaves : leavesGroup t d new = true
  · rw [if_pos hleaves]
    exact ⟨haddressed.reconcile d.groupId, hconsistent.reconcile d.groupId⟩
  · rw [if_neg hleaves]
    exact ⟨haddressed, hconsistent⟩

theorem bindHeard_sound (h : Hears s t d) (hs : Consistent s) {inferred : Option String}
    (hfits : ∀ group ∈ boundGroup s d.groupId, Welcomes s d.groupId group (network d) inferred) :
    Sound (bindHeard t d inferred) := by
  cases inferred with
  | none =>
    refine h.unmoved hs fun group hgroup n hn => ?_
    have hfit := hfits group hgroup
    rw [Option.mem_def.mp hn] at hfit
    exact hfit
  | some new =>
    unfold bindHeard
    dsimp only
    split
    · next hsame =>
      refine h.unmoved hs fun group hgroup n hn => ?_
      have hfit := hfits group hgroup
      rw [Option.mem_def.mp hn] at hfit
      have heq : n = new := by
        rw [← hsame, (nonEmpty_some.mp (Option.mem_def.mp hn)).1]
        rfl
      exact (if_pos heq).mp hfit
    · next hdiffers =>
      cases hnetwork : network d with
      | none =>
        rw [if_neg (by simp)]
        refine h.adopted hs fun group hgroup => ?_
        have hfit := hfits group hgroup
        rw [hnetwork] at hfit
        exact hfit
      | some n =>
        rw [if_pos (show (some n).isSome = true from rfl)]
        refine h.relocated hs fun group hgroup => ?_
        have hfit := hfits group hgroup
        rw [hnetwork] at hfit
        have hne : n ≠ new := fun heq => hdiffers (by
          rw [(nonEmpty_some.mp hnetwork).1]
          exact heq)
        exact (if_neg hne).mp hfit

theorem restoreKnownDeviceGroup_sound (hs : Sound s) (mac12 : String) (reportedGroup : Int)
    (known discovering : Bool) : Sound (restoreKnownDeviceGroup s mac12 reportedGroup known discovering) := by
  unfold restoreKnownDeviceGroup
  split
  · exact hs
  · split
    · exact hs
    · split
      · have hplaces : Places (fun p => (0, p.2)) [mac12] s (changeDevice s mac12 fun d => {d with groupId := 0}) :=
          changeDevice_places s mac12 (fun d => {d with groupId := 0}) (fun _ => rfl) fun _ => rfl
        exact ⟨hplaces.addressed hs.addressed, hplaces.consistent (fun d _ _ => homePlace_zero s d.networkId)
          fun d hd _ => consistent_iff.mp hs.consistent d hd⟩
      · exact hs

theorem identify_sound (hs : Sound s) {gatewayId : Option String}
    (hfits : ∀ ev ∈ parseIdentify body, IdentifyFits s ev gatewayId) (discovering : Bool) :
    Sound (identify s body gatewayId discovering) := by
  unfold identify
  cases hev : parseIdentify body with
  | none => exact hs
  | some ev =>
    dsimp only
    refine restoreKnownDeviceGroup_sound (bindHeard_sound (hear_hears hs.addressed hev) hs.consistent ?_) _ _ _ _
    rw [heard_groupId, heard_network]
    exact hfits ev hev

end Identify

/-! ### Runs -/

/-- What goes on besides: networks are set up, gateways come and go, links fail and return. -/
structure Aside (s t : State) : Prop where
  groups : t.groups = s.groups
  devices : t.devices.map (·.toDevice) = s.devices.map (·.toDevice)

/-- A step of a run: an operation that fits, or something besides. -/
def FleetStep (s t : State) : Prop := (∃ op : Op, op.Fits s ∧ t = step s op) ∨ Aside s t

section Runs
variable {s t : State}

theorem Aside.sound (h : Aside s t) (hs : Sound s) : Sound t := by
  have haddrs : t.devices.map (·.addr) = s.devices.map (·.addr) := by
    have hmapped := congrArg (List.map Device.addr) h.devices
    rwa [List.map_map, List.map_map] at hmapped
  refine ⟨⟨by rw [haddrs]; exact hs.addressed.macs, by rw [haddrs]; exact hs.addressed.nodup⟩, ?_⟩
  refine consistent_of_devices h.groups fun d' hd' => ?_
  have hmem := List.mem_map_of_mem (f := fun d : DeviceRecord => d.toDevice) hd'
  rw [h.devices] at hmem
  obtain ⟨d, hd, heq⟩ := List.mem_map.mp hmem
  have hplace : place d' = place d := by
    rw [place, place, show d'.toDevice = d.toDevice from heq.symm]
  rw [atHome_iff, hplace]
  exact consistent_iff.mp hs.consistent d hd

/-- **An operation that fits keeps every group on one network.** -/
theorem step_sound (hs : Sound s) {op : Op} (hfits : op.Fits s) : Sound (step s op) := by
  cases op with
  | identify body gatewayId discovering => exact identify_sound hs hfits discovering
  | discover addToGroup responders answers => exact discoverDevices_sound hs hfits answers
  | regroup body answers => exact apiDevicesUpdateMeta_sound hs body answers
  | moveDevices target macs force air => exact migrateDevicesTo_sound hs hfits force air
  | moveGroups target groupIds force air => exact migrateGroupsTo_sound hs hfits force air

/-- **In a run whose operations fit, no group ever spans networks.** -/
theorem reachable_consistent (h : Reachable Sound FleetStep s) : Consistent s := by
  refine (h.invariant (I := Sound) (fun _ hs => hs) ?_).consistent
  rintro s t hs (⟨op, hfits, rfl⟩ | haside)
  · exact step_sound hs hfits
  · exact haside.sound hs

end Runs

/-! ### Two runs -/

instance (s : State) (d : DeviceRecord) : Decidable (AtHome s d) := by
  unfold AtHome
  infer_instance

instance (s : State) : Decidable (Consistent s) := decidable_of_iff _ consistent_iff.symm

/-- Two networks with a gateway each; a group of the second one has two members. -/
def twoNetworks : State where
  networks :=
    [⟨⟨"A", .rf, some "AABBCCDDEE01"⟩, "Track", "EU868", some 1, none, none, .finite 0⟩,
      ⟨⟨"B", .rf, some "AABBCCDDEE02"⟩, "Pit", "EU868", some 2, none, none, .finite 0⟩]
  devices :=
    [{createDevice 10 { addr := "AABBCCDDEE11", name := "Left", groupId := 1 } [] with networkId := some "B"},
      {createDevice 10 { addr := "AABBCCDDEE12", name := "Right", groupId := 1 } [] with networkId := some "B"}]
  groups := [⟨⟨none⟩, "Unconfigured", 0, 0⟩, ⟨⟨some "B"⟩, "Gates", 0, 0⟩]
  transports := [⟨⟨1, some "A", "AABBCCDDEE01"⟩, .rf⟩, ⟨⟨2, some "B", "AABBCCDDEE02"⟩, .rf⟩]
  records := []
  saves := 0

/-- The first device, heard by the gateway of the other network, with the group it was told. -/
def heardElsewhere : Op :=
  .identify [1, 10, 1, 0xAA, 0xBB, 0xCC, 0xDD, 0xEE, 0x11] (some "AABBCCDDEE01") false

theorem twoNetworks_sound : Sound twoNetworks :=
  ⟨⟨by decide +kernel, by decide +kernel⟩, by decide +kernel⟩

theorem heardElsewhere_fits : heardElsewhere.Fits twoNetworks := by
  intro ev hev
  cases hev
  show ∀ group ∈ boundGroup twoNetworks _, Welcomes twoNetworks _ group _ _
  decide +kernel

/-- The device leaves its group when it is first heard on the other network. -/
theorem heardElsewhere_leaves :
    (deviceAt (step twoNetworks heardElsewhere) "AABBCCDDEE11").map place = some (0, some "A") ∧
      Consistent (step twoNetworks heardElsewhere) :=
  ⟨by decide +kernel, reachable_consistent
    (.next (.start twoNetworks_sound) (.inl ⟨heardElsewhere, heardElsewhere_fits, rfl⟩))⟩

/-- It still reports the group, so when it is heard again it is back in it, from another network. -/
theorem heardElsewhere_returns : Sound twoNetworks ∧
    ¬ Consistent (step (step twoNetworks heardElsewhere) heardElsewhere) :=
  ⟨twoNetworks_sound, by decide +kernel⟩

end RaceLink.Fleet
