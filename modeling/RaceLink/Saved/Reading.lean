import RaceLink.Saved.RoundTrip

/-! What a host makes of a file, whichever host wrote it and whoever edited it, is in normal form, so that it comes
back as it is when it is saved. -/
namespace RaceLink.Saved
open Python Library Domain Gateways

/-! ### Values of a record -/

section Values
variable {r : Reader} {x : Json} {fields : Dict}

theorem strOr_ne {default : String} (h : default ≠ "") : r.strOr x default ≠ "" := by
  unfold Reader.strOr
  split
  · next htruthy =>
    unfold Reader.str
    split
    · simpa [Json.truthy] using htruthy
    · exact r.text_ne _
  · exact h

theorem strOrNone_ne : r.strOrNone x ≠ some "" := by
  unfold Reader.strOrNone
  split
  · next htruthy =>
    have hne : r.strOr x "?" ≠ "" := strOr_ne (by decide)
    rw [Reader.strOr, if_pos htruthy] at hne
    exact fun h => hne (Option.some.inj h)
  · intro h
    cases h

theorem textual_get (h : (Json.obj fields).Textual) (key : String) : (Dict.get fields key).Textual := by
  unfold Dict.get
  cases hget : Dict.get? fields key with
  | none => trivial
  | some x =>
    obtain ⟨before, after, rfl, -⟩ := List.lookup_eq_some_iff.mp hget
    exact ((textual_obj.mp h).2 (.str key, x) (by simp)).2

theorem textualConfig_asDict (h : x.Textual) : TextualConfig (asDict x) := by
  intro c hc
  cases x with
  | obj c' =>
    cases hc
    exact h
  | _ => cases hc

end Values

/-! ### Records that are read -/

section Records
variable {r : Reader} {x : Json} {d : DeviceRecord} {g : GroupRecord} {n : NetworkRecord} {i : Nat}

theorem storable_loadDevice (hx : x.Textual) (h : loadDevice r x = .ok d) : StorableDevice d := by
  unfold loadDevice at h
  split at h
  · next device =>
    obtain ⟨flags, -, h⟩ := bind_ok.mp h
    obtain ⟨presetId, -, h⟩ := bind_ok.mp h
    obtain ⟨brightness, -, h⟩ := bind_ok.mp h
    obtain ⟨devType, -, h⟩ := bind_ok.mp h
    obtain ⟨specials, -, h⟩ := bind_ok.mp h
    obtain ⟨groupId, -, h⟩ := bind_ok.mp h
    obtain ⟨version, -, h⟩ := bind_ok.mp h
    cases h
    exact
      { addr := upper_upper _
        flags := Int.emod_emod _ _
        presetId := Int.emod_emod _ _
        brightness := Int.emod_emod _ _
        specials := specialsOf_build devType specials
        network := strOrNone_ne
        config := textualConfig_asDict (textual_get hx "last_known_rf_config") }
  · cases h

theorem loadGroup_network (h : loadGroup r x = .ok g) : g.networkId ≠ some "" := by
  unfold loadGroup at h
  split at h
  · obtain ⟨name, -, h⟩ := bind_ok.mp h
    obtain ⟨staticGroup, -, h⟩ := bind_ok.mp h
    obtain ⟨devType, -, h⟩ := bind_ok.mp h
    cases h
    exact strOrNone_ne
  · cases h

theorem storable_loadNetwork (hx : x.Textual) (h : loadNetwork r i x = .ok n) : StorableNetwork n := by
  unfold loadNetwork at h
  split at h
  · next net =>
    obtain ⟨channelId, -, h⟩ := bind_ok.mp h
    obtain ⟨createdTs, -, h⟩ := bind_ok.mp h
    cases h
    refine
      { id := strOr_ne (r.uuid_ne i), name := strOr_ne (by decide), region := strOr_ne (by decide)
        gateway := fun hempty => ?_, capitals := ?_
        rfConfig := textualConfig_asDict (textual_get hx "rf_config")
        ethConfig := textualConfig_asDict (textual_get hx "eth_config") }
    · obtain ⟨mac, hmac, heq⟩ := Option.map_eq_some_iff.mp hempty
      exact upper_ne_empty (fun hnone => strOrNone_ne (hnone ▸ hmac)) heq
    · rw [Option.map_map]
      exact congrArg (Option.map · _) (funext fun mac => upper_upper mac)
  · cases h

end Records

/-! ### Groups -/

theorem groupKey_asAllNodes (g : GroupRecord) : groupKey (asAllNodes g) = "all wled nodes" := by
  have hname : (asAllNodes g).name = "All WLED Nodes" := rfl
  rw [groupKey, hname]
  decide

theorem storable_allNodes (h : g.networkId ≠ some "") : StorableGroup (asAllNodes g) where
  known := by
    rw [isLegacyGroup, groupKey_asAllNodes]
    decide
  nodes _ := rfl
  network := h

/-- The groups that are made of any are in normal form, and one of them is "All WLED Nodes". -/
theorem storable_settleGroups {groups : List GroupRecord} (h : ∀ g ∈ groups, g.networkId ≠ some "") :
    (∀ g ∈ settleGroups groups, StorableGroup g) ∧ ∃ g ∈ settleGroups groups, isAllNodes g = true := by
  have hkept : ∀ g ∈ groups.filter (fun g => !isLegacyGroup g), isAllNodes g = false → StorableGroup g := by
    intro g hg hother
    obtain ⟨hmem, hknown⟩ := List.mem_filter.mp hg
    exact ⟨by simpa using hknown, fun hall => absurd hall (by simp [hother]), h g hmem⟩
  have hall : ∀ g, isAllNodes (asAllNodes g) = true := fun g => by
    rw [isAllNodes, groupKey_asAllNodes]
    decide
  unfold settleGroups
  dsimp only
  split
  · next hany =>
    constructor
    · intro g hg
      obtain ⟨g', hg', rfl⟩ := List.mem_map.mp hg
      split
      · exact storable_allNodes (h g' (List.mem_filter.mp hg').1)
      · next hother => exact hkept g' hg' (by simpa using hother)
    · obtain ⟨g, hg, hnodes⟩ := List.any_eq_true.mp hany
      refine ⟨asAllNodes g, List.mem_map.mpr ⟨g, hg, if_pos hnodes⟩, hall g⟩
  · next hnone =>
    have hbackup : defaultBackupGroups = [asAllNodes { networkId := none, name := "", staticGroup := 0, devType := 0 }] :=
      rfl
    rw [hbackup]
    constructor
    · intro g hg
      obtain hg | hg := List.mem_append.mp hg
      · refine hkept g hg ?_
        rw [List.any_eq_true] at hnone
        exact Bool.eq_false_iff.mpr fun hnodes => hnone ⟨g, hg, hnodes⟩
      · obtain rfl := List.mem_singleton.mp hg
        exact storable_allNodes nofun
    · exact ⟨_, List.mem_append_right _ (List.mem_singleton_self _), hall _⟩

/-! ### Files -/

/-- The lists of a file with string keys. -/
structure TextualSections (s : Sections) : Prop where
  devices : ∀ x ∈ s.devices, x.Textual
  groups : ∀ x ∈ s.groups, x.Textual
  networks : ∀ x ∈ s.networks, x.Textual

/-- The older keys, if there are any, have string keys in their records. -/
def TextualKeys (legacy : LegacyKeys) : Prop :=
  ∀ lists ∈ legacy, (∀ x ∈ lists.1, x.Textual) ∧ ∀ x ∈ lists.2, x.Textual

/-- What is read was JSON, so its keys are strings. -/
def TextualOption (raw : OptionText) : Prop := ∀ payload ∈ raw, ∀ x ∈ payload, x.Textual

theorem textual_fill {key value : String} {x : Json} (h : x.Textual) : (fill key (.str value) x).Textual := by
  cases x with
  | obj record =>
    rw [fill]
    split
    · exact h
    · exact ⟨Dict.set_nodup h.1 key (.str value), Json.textualFields_set h.2 trivial⟩
  | _ => exact h

theorem textual_map_fill {key value : String} {records : List Json} (h : ∀ x ∈ records, x.Textual) :
    ∀ x ∈ records.map (fill key (.str value)), x.Textual :=
  List.forall_mem_map.mpr fun x hx => textual_fill (h x hx)

theorem textual_defaultNetwork : defaultNetwork.Textual := by
  refine textual_obj.mpr ⟨by decide, ?_⟩
  simp [Json.Textual]

theorem TextualSections.upgradeV1 {s : Sections} (h : TextualSections s) : TextualSections (migrateV1ToV2 s) where
  devices := textual_map_fill h.devices
  groups := textual_map_fill h.groups
  networks := by
    unfold migrateV1ToV2
    cases s.networks.find? isDefaultNetwork with
    | some _ => exact h.networks
    | none =>
      refine List.forall_mem_append.mpr ⟨h.networks, fun x hx => ?_⟩
      obtain rfl := List.mem_singleton.mp hx
      exact textual_defaultNetwork

theorem TextualSections.upgradeV2 {s : Sections} (h : TextualSections s) : TextualSections (migrateV2ToV3 s) :=
  ⟨h.devices, h.groups, textual_map_fill h.networks⟩

theorem TextualSections.migrate {s : Sections} (h : TextualSections s) (fromVersion : Int) :
    TextualSections
      (migrateState s.devices s.groups (some s.networks) fromVersion CURRENT_SCHEMA_VERSION).1 := by
  obtain hold | rfl | hnew := version_cases fromVersion
  · rw [migrateState_upgraded hold]
    exact h.upgradeV1.upgradeV2
  · rw [migrateState_two]
    exact h.upgradeV2
  · rw [migrateState_current hnew]
    exact h

theorem textual_backup : TextualSections backupSections := by
  refine ⟨nofun, fun x hx => ?_, nofun⟩
  obtain ⟨g, -, rfl⟩ := List.mem_map.mp hx
  exact textual_groupRecord g

theorem textual_loadSection {payload : Dict} (h : (Json.obj payload).Textual) (key : String) {default : List Json}
    (hdefault : ∀ x ∈ default, x.Textual) : ∀ x ∈ loadSection payload key default, x.Textual := by
  have hvalue : (Dict.getD payload key (.arr default)).Textual := by
    unfold Dict.getD
    cases hget : Dict.get? payload key with
    | none => exact textual_arr.mpr hdefault
    | some x =>
      have htextual := textual_get h key
      rwa [Dict.get, hget] at htextual
  unfold loadSection
  cases hlist : Dict.getD payload key (.arr default) with
  | null =>
    intro x hx
    cases hx
  | arr items =>
    rw [hlist] at hvalue
    exact fun x hx => textual_arr.mp hvalue x (List.mem_filter.mp hx).1
  | _ => exact fun x hx => hdefault x (List.mem_filter.mp hx).1

theorem textual_loadState {payload : Option Json} (h : ∀ x ∈ payload, x.Textual) {default : Sections}
    (hdefault : TextualSections default) : TextualSections (loadState payload default).1 := by
  unfold loadState
  split
  · next fields =>
    have hfields := h _ rfl
    exact ⟨textual_loadSection hfields "devices" hdefault.devices, textual_loadSection hfields "groups" hdefault.groups,
      textual_loadSection hfields "networks" hdefault.networks⟩
  · exact ⟨fun x hx => hdefault.devices x (List.mem_filter.mp hx).1,
      fun x hx => hdefault.groups x (List.mem_filter.mp hx).1,
      fun x hx => hdefault.networks x (List.mem_filter.mp hx).1⟩

theorem textual_readSections {legacy : LegacyKeys} {raw : OptionText} (hlegacy : TextualKeys legacy)
    (hraw : TextualOption raw) : TextualSections (readSections legacy raw).sections := by
  refine TextualSections.migrate ?_ _
  unfold readOption
  cases raw with
  | none =>
    cases legacy with
    | none => exact textual_backup
    | some lists => exact ⟨(hlegacy lists rfl).1, (hlegacy lists rfl).2, nofun⟩
  | some payload =>
    have hloaded := textual_loadState (hraw payload rfl) textual_backup
    dsimp only
    split
    · cases legacy with
      | none => exact hloaded
      | some lists => exact ⟨(hlegacy lists rfl).1, (hlegacy lists rfl).2, hloaded.networks⟩
    · exact hloaded

/-! ### Everything that is read -/

section Load
variable {r : Reader} {legacy : LegacyKeys} {raw : OptionText} {s : State}

theorem storable_loadDevices {records : List Json} (h : ∀ x ∈ records, x.Textual) :
    ∀ d ∈ loadDevices r records, StorableDevice d := by
  intro d hd
  obtain ⟨x, hx, hload⟩ := List.mem_filterMap.mp hd
  exact storable_loadDevice (h x hx) (toOption_eq_some.mp hload)

theorem storable_loadNetworks {records : List Json} (h : ∀ x ∈ records, x.Textual) :
    ∀ n ∈ loadNetworks r records, StorableNetwork n := by
  intro n hn
  obtain ⟨⟨x, i⟩, hx, hload⟩ := List.mem_filterMap.mp hn
  exact storable_loadNetwork (h x (List.fst_mem_of_mem_zipIdx hx)) (toOption_eq_some.mp hload)

theorem storable_loadGroups {records : List Json} {groups : List GroupRecord} (h : loadGroups r records = .ok groups) :
    (∀ g ∈ groups, StorableGroup g) ∧ ∃ g ∈ groups, isAllNodes g = true := by
  obtain ⟨read, hread, rfl⟩ := map_ok.mp h
  refine storable_settleGroups fun g hg => ?_
  obtain ⟨x, -, hx⟩ := exists_of_forall₂_right (mapM_ok.mp hread) hg
  exact loadGroup_network hx

/-- **What was read is in normal form**; if the groups could not be read, only the devices are new. -/
theorem storable_loadFromDb (hlegacy : TextualKeys legacy) (hraw : TextualOption raw) :
    (∀ d ∈ (loadFromDb r legacy raw s).2.devices, StorableDevice d) ∧
      ((loadFromDb r legacy raw s).2.groups = s.groups ∧ (loadFromDb r legacy raw s).2.networks = s.networks ∨
        Storable (loadFromDb r legacy raw s).2) := by
  have hsections := textual_readSections hlegacy hraw
  have hdevices := storable_loadDevices (r := r) hsections.devices
  unfold loadFromDb
  dsimp only
  cases hgroups : loadGroups r (readSections legacy raw).sections.groups with
  | error e => exact ⟨hdevices, .inl ⟨rfl, rfl⟩⟩
  | ok groups =>
    obtain ⟨hstorable, hnodes⟩ := storable_loadGroups hgroups
    have hnetworks := storable_loadNetworks (r := r) hsections.networks
    dsimp only
    split
    · exact ⟨hdevices, .inr ⟨hdevices, hstorable, hnodes, hnetworks⟩⟩
    · exact ⟨hdevices, .inr ⟨hdevices, hstorable, hnodes, hnetworks⟩⟩

end Load

end RaceLink.Saved
