import RaceLink.Library.Except
import RaceLink.Saved.StateFile

/-! A state that is saved and read again.

Reading puts every record into a normal form: bytes, capitals, the options of the device's type, no empty texts.
A record in that form comes back as it was (`Storable`), and what was read is in it. -/
namespace RaceLink.Saved
open Python Library Domain Gateways

/-! ### What is to come back -/

/-- The fields of a device that are persistent. -/
structure Persistent where
  addr : String
  name : String
  devType : Int
  groupId : Int
  version : Int
  flags : Int
  presetId : Int
  brightness : Int
  specials : Dict
  networkId : Option String
  lastKnownRfConfig : Option Dict
deriving DecidableEq, Repr

def persistent (d : DeviceRecord) : Persistent :=
  ⟨d.addr, d.name, d.devType, d.groupId, d.version, d.flags, d.presetId, d.brightness, d.specials, d.networkId,
    d.lastKnownRfConfig⟩

/-- The same devices, the same groups in the same places and the same networks. -/
structure SameFleet (s t : State) : Prop where
  devices : t.devices.map persistent = s.devices.map persistent
  groups : t.groups = s.groups
  networks : t.networks = s.networks

/-- **A state comes back**: a fresh host that reads what was saved has the same fleet. -/
def RoundTrip (s : State) : Prop :=
  ∀ (keyText : Key → String) (r : Reader) (legacy : LegacyKeys) (fresh : State),
    (loadFromDb r legacy (some (some (saveToDb keyText s))) fresh).1 = .ok () ∧
      SameFleet s (loadFromDb r legacy (some (some (saveToDb keyText s))) fresh).2

/-! ### Records in normal form -/

/-- An option of the type for each entry, and a number in it. -/
structure SpecialsOf (devType : Int) (specials : Dict) : Prop where
  keys : specials.map Prod.fst = (specialsOf devType).map fun option => .str option.1
  numbers : ∀ e ∈ specials, ∃ n, e.2 = .int n

/-- Settings as a file keeps them. -/
def TextualConfig (cfg : Option Dict) : Prop := ∀ c ∈ cfg, (Json.obj c).Textual

structure StorableDevice (d : DeviceRecord) : Prop where
  addr : upper d.addr = d.addr
  flags : d.flags % 256 = d.flags
  presetId : d.presetId % 256 = d.presetId
  brightness : d.brightness % 256 = d.brightness
  specials : SpecialsOf d.devType d.specials
  network : d.networkId ≠ some ""
  config : TextualConfig d.lastKnownRfConfig

structure StorableGroup (g : GroupRecord) : Prop where
  known : isLegacyGroup g = false
  nodes : isAllNodes g = true → asAllNodes g = g
  network : g.networkId ≠ some ""

structure StorableNetwork (n : NetworkRecord) : Prop where
  id : n.id ≠ ""
  name : n.name ≠ ""
  gateway : n.gatewayMac ≠ some ""
  capitals : n.gatewayMac.map upper = n.gatewayMac
  region : n.region ≠ ""
  rfConfig : TextualConfig n.rfConfig
  ethConfig : TextualConfig n.ethConfig

/-- **A state in normal form**, with the group that is always there. -/
structure Storable (s : State) : Prop where
  devices : ∀ d ∈ s.devices, StorableDevice d
  groups : ∀ g ∈ s.groups, StorableGroup g
  nodes : ∃ g ∈ s.groups, isAllNodes g = true
  networks : ∀ n ∈ s.networks, StorableNetwork n

/-! ### Specials -/

/-- The entry of a key, when no other has it. -/
theorem get?_of_mem {d : Dict} (hnodup : (d.map Prod.fst).Nodup) {k : String} {v : Json} (h : (.str k, v) ∈ d) :
    Dict.get? d k = some v := by
  obtain ⟨before, after, rfl⟩ := List.append_of_mem h
  refine List.lookup_eq_some_iff.mpr ⟨before, after, rfl, fun e he => ?_⟩
  rw [List.map_append, List.map_cons] at hnodup
  have hne := (List.nodup_append.mp hnodup).2.2 e.1 (List.mem_map_of_mem he) (.str k) (List.mem_cons_self ..)
  exact bne_iff_ne.mpr hne.symm

theorem specialsOf_keys (devType : Int) : "specials" ∉ (specialsOf devType).map Prod.fst := by
  unfold specialsOf devTypeCaps
  split
  · decide
  · split <;> decide

section Specials
variable {devType : Int} {specials stored : Dict}

theorem SpecialsOf.nodup (h : SpecialsOf devType specials) : (specials.map Prod.fst).Nodup := by
  rw [h.keys]
  have hkeys := (specialsOf_nodup devType).map (f := Key.str) fun _ _ => Key.str.inj
  rwa [List.map_map] at hkeys

/-- The specials themselves, not a record around them. -/
theorem SpecialsOf.flat (h : SpecialsOf devType specials) : Dict.get specials "specials" = .null := by
  have hmissing : Dict.get? specials "specials" = none := by
    refine List.lookup_eq_none_iff.mpr fun e he => ?_
    have hkey : e.1 ∈ (specialsOf devType).map fun option => Key.str option.1 := h.keys ▸ List.mem_map_of_mem he
    obtain ⟨option, hoption, heq⟩ := List.mem_map.mp hkey
    rw [← heq, bne_iff_ne, Ne, Key.str.injEq]
    exact fun hname => specialsOf_keys devType (hname ▸ List.mem_map_of_mem hoption)
  rw [Dict.get, hmissing]
  rfl

/-- Specials in normal form are left alone. -/
theorem SpecialsOf.build (h : SpecialsOf devType specials) : buildSpecialsState devType specials = specials := by
  have hlength : (specialsOf devType).length = specials.length := by
    simpa using (congrArg List.length h.keys).symm
  unfold buildSpecialsState
  dsimp only
  rw [h.flat]
  dsimp only
  refine List.ext_getElem (by rw [List.length_map, hlength]) fun i hi hi' => ?_
  rw [List.getElem_map]
  have hoption : i < (specialsOf devType).length := by omega
  have hkey : (specials[i]).1 = .str ((specialsOf devType)[i]).1 := by
    have := congrArg (·[i]?) h.keys
    simpa [List.getElem?_eq_getElem, hi', hlength] using this
  obtain ⟨n, hn⟩ := h.numbers specials[i] (List.getElem_mem _)
  have hget := get?_of_mem h.nodup (k := ((specialsOf devType)[i]).1) (v := .int n)
    (by rw [← hkey, ← hn]; exact List.getElem_mem _)
  have hvalue : specialValue specials ((specialsOf devType)[i]) = n := by
    rw [specialValue, Dict.getD, hget]
    rfl
  rw [hvalue, ← hkey, ← hn]

/-- What is built is in normal form. -/
theorem specialsOf_build (devType : Int) (stored : Dict) :
    SpecialsOf devType (buildSpecialsState devType stored) where
  keys := by
    unfold buildSpecialsState
    rw [List.map_map]
    rfl
  numbers e he := by
    unfold buildSpecialsState at he
    obtain ⟨option, -, rfl⟩ := List.mem_map.mp he
    exact ⟨_, rfl⟩

end Specials

/-! ### Records that are read back -/

theorem strOrNone_textOrNull (r : Reader) {x : Option String} (h : x ≠ some "") :
    r.strOrNone (textOrNull x) = x := by
  cases x with
  | none => rfl
  | some text =>
    have htext : text ≠ "" := fun hempty => h (congrArg some hempty)
    simp [Reader.strOrNone, textOrNull, Json.truthy, htext, Reader.str]

theorem strOr_text (r : Reader) {text default : String} (h : text ≠ "") : r.strOr (.str text) default = text := by
  simp [Reader.strOr, Json.truthy, h, Reader.str]

theorem asDict_dictOrNull (x : Option Dict) : asDict (dictOrNull x) = x := by
  cases x <;> rfl

/-- `int(n or 0)`. -/
theorem orElse_zero (n : Int) : ((Json.int n).orElse (.int 0)).toInt = .ok n := by
  unfold Json.orElse
  by_cases hzero : n = 0
  · subst hzero
    rfl
  · have htruthy : (Json.int n).truthy = true := by simpa [Json.truthy] using hzero
    rw [if_pos htruthy]
    rfl

section Records
variable (r : Reader) {d : DeviceRecord} {g : GroupRecord} {n : NetworkRecord}

theorem loadNumber_of_get {device : Dict} {key : String} {n default : Int} (h : Dict.get? device key = some (.int n)) :
    loadNumber device key default = .ok n := by
  rw [loadNumber, Dict.getD, h, Option.getD_some, orElse_zero]

theorem loadFlags_fields (d : DeviceRecord) : loadFlags (deviceFields d) = .ok d.flags := by
  simp [loadFlags, deviceFields, Dict.get, Json.toInt]

theorem loadPresetId_fields (d : DeviceRecord) : loadPresetId (deviceFields d) = .ok d.presetId := by
  simp [loadPresetId, deviceFields, Dict.get, Json.toInt]

theorem loadDevType_fields (d : DeviceRecord) : loadDevType (deviceFields d) = .ok d.devType := by
  simp [loadDevType, deviceFields, Dict.get, orElse_zero]

/-- The specials of a record, if it has any. -/
theorem loadSpecials_fields (h : StorableDevice d) : loadSpecials d.devType (deviceFields d) = .ok d.specials := by
  have hget : Dict.get (deviceFields d) "specials" = .obj d.specials := by simp [deviceFields, Dict.get]
  have hbuild := h.specials.build
  rw [loadSpecials, hget, Json.orElse]
  by_cases hfull : (Json.obj d.specials).truthy = true
  · rw [if_pos hfull]
    exact congrArg Except.ok hbuild
  · have hnil : d.specials = [] := by simpa [Json.truthy] using hfull
    rw [if_neg hfull]
    rw [hnil] at hbuild ⊢
    exact congrArg Except.ok hbuild

/-- The record of a device, read: the device, but for its capabilities and its link. -/
theorem loadDevice_record (h : StorableDevice d) :
    loadDevice r (deviceRecord d) = .ok {d with caps := d.devType, linkOnline := false} := by
  have hbrightness : loadNumber (deviceFields d) "brightness" 70 = .ok d.brightness :=
    loadNumber_of_get (by simp [deviceFields])
  have hgroup : loadNumber (deviceFields d) "groupId" 0 = .ok d.groupId := loadNumber_of_get (by simp [deviceFields])
  have hversion : loadNumber (deviceFields d) "version" 0 = .ok d.version := loadNumber_of_get (by simp [deviceFields])
  have haddr : Dict.getD (deviceFields d) "addr" (.str "") = .str d.addr := by simp [deviceFields, Dict.getD]
  have hname : Dict.getD (deviceFields d) "name" (.str "") = .str d.name := by simp [deviceFields, Dict.getD]
  have hnetwork : Dict.get (deviceFields d) "network_id" = textOrNull d.networkId := by simp [deviceFields, Dict.get]
  have hconfig : Dict.get (deviceFields d) "last_known_rf_config" = dictOrNull d.lastKnownRfConfig := by
    simp [deviceFields, Dict.get]
  rw [deviceRecord, loadDevice, loadFlags_fields, loadPresetId_fields, hbrightness, loadDevType_fields]
  simp only [ok_bind]
  rw [loadSpecials_fields h, hgroup, hversion, haddr, hname, hnetwork, hconfig]
  simp only [ok_bind, Reader.str, createDevice, h.addr, h.flags, h.presetId, h.brightness, h.specials.build,
    strOrNone_textOrNull r h.network, asDict_dictOrNull]

/-- The record of a group, read. -/
theorem loadGroup_record (h : g.networkId ≠ some "") : loadGroup r (groupRecord g) = .ok g := by
  simp [groupRecord, dict, loadGroup, item, Dict.get, Dict.getD, Json.toInt, Except.mapError, Reader.str,
    strOrNone_textOrNull r h]

theorem normalizeKind_text (kind : NetworkKind) : normalizeKind r (.str (kindText kind)) = kind := by
  have htext : kindText kind ≠ "" := by cases kind <;> decide
  rw [normalizeKind, strOr_text r htext]
  cases kind <;> decide

/-- The record of a network, read. -/
theorem loadNetwork_record (h : StorableNetwork n) (i : Nat) : loadNetwork r i (networkRecord n) = .ok n := by
  have hchannel : loadChannelId ((n.channelId.map Json.int).getD .null) = .ok n.channelId := by
    cases n.channelId <;> rfl
  have hcreated : loadCreatedTs r (.float n.createdTs) = .ok n.createdTs := rfl
  simp [networkRecord, dict, loadNetwork, Dict.get, hchannel, hcreated, strOr_text r h.id, strOr_text r h.name,
    strOr_text r h.region, normalizeKind_text, strOrNone_textOrNull r h.gateway, h.capitals, asDict_dictOrNull]

end Records

/-! ### The file -/

theorem textual_obj {fields : Dict} : (Json.obj fields).Textual ↔
    (fields.map Prod.fst).Nodup ∧ ∀ e ∈ fields, (∃ s, e.1 = .str s) ∧ e.2.Textual := by
  rw [← Json.textualFields_iff]
  rfl

@[simp] theorem textual_bool (b : Bool) : (Json.bool b).Textual := trivial

@[simp] theorem textual_int (n : Int) : (Json.int n).Textual := trivial

@[simp] theorem textual_float (x : PyFloat) : (Json.float x).Textual := trivial

@[simp] theorem textual_str (s : String) : (Json.str s).Textual := trivial

theorem textual_arr {items : List Json} : (Json.arr items).Textual ↔ ∀ x ∈ items, x.Textual := by
  induction items with
  | nil => exact iff_of_true trivial nofun
  | cons x rest ih => exact (and_congr Iff.rfl ih).trans List.forall_mem_cons.symm

theorem textual_textOrNull (x : Option String) : (textOrNull x).Textual := by
  cases x <;> trivial

theorem textual_dictOrNull {x : Option Dict} (h : TextualConfig x) : (dictOrNull x).Textual := by
  cases x with
  | none => trivial
  | some cfg => exact h cfg rfl

theorem SpecialsOf.textual {devType : Int} {specials : Dict} (h : SpecialsOf devType specials) :
    (Json.obj specials).Textual := by
  refine textual_obj.mpr ⟨h.nodup, fun e he => ⟨?_, ?_⟩⟩
  · have hkey : e.1 ∈ (specialsOf devType).map fun option => Key.str option.1 := h.keys ▸ List.mem_map_of_mem he
    obtain ⟨option, -, heq⟩ := List.mem_map.mp hkey
    exact ⟨option.1, heq.symm⟩
  · obtain ⟨n, hn⟩ := h.numbers e he
    rw [hn]
    exact textual_int n

theorem textual_deviceRecord {d : DeviceRecord} (h : StorableDevice d) : (deviceRecord d).Textual := by
  refine textual_obj.mpr ⟨by simp [deviceFields], ?_⟩
  simp [deviceFields, textual_textOrNull, textual_dictOrNull h.config, h.specials.textual]

theorem textual_groupRecord (g : GroupRecord) : (groupRecord g).Textual := by
  refine textual_obj.mpr ⟨by simp, ?_⟩
  simp [textual_textOrNull]

theorem textual_networkRecord {n : NetworkRecord} (h : StorableNetwork n) : (networkRecord n).Textual := by
  have hchannel : ((n.channelId.map Json.int).getD .null).Textual := by
    cases n.channelId <;> trivial
  refine textual_obj.mpr ⟨by simp, ?_⟩
  simp [textual_textOrNull, textual_dictOrNull h.rfConfig, textual_dictOrNull h.ethConfig, hchannel]

/-- A payload in normal form is what its text says. -/
theorem dumpState_storable (keyText : Key → String) {s : State} (h : Storable s) (version : Int) :
    dumpState keyText s.devices s.groups s.networks version =
      dict [("schema_version", .int version), ("devices", .arr (s.devices.map deviceRecord)),
        ("groups", .arr (s.groups.map groupRecord)), ("networks", .arr (s.networks.map networkRecord))] := by
  have hdevices : (Json.arr (s.devices.map deviceRecord)).Textual :=
    textual_arr.mpr (List.forall_mem_map.mpr fun d hd => textual_deviceRecord (h.devices d hd))
  have hgroups : (Json.arr (s.groups.map groupRecord)).Textual :=
    textual_arr.mpr (List.forall_mem_map.mpr fun g _ => textual_groupRecord g)
  have hnetworks : (Json.arr (s.networks.map networkRecord)).Textual :=
    textual_arr.mpr (List.forall_mem_map.mpr fun n hn => textual_networkRecord (h.networks n hn))
  refine (Json.dump_eq_self keyText _).mpr (textual_obj.mpr ⟨by simp, ?_⟩)
  simp [hdevices, hgroups, hnetworks]

/-- `save_to_db` writes the groups that there are: one is always there. -/
theorem saveToDb_storable (keyText : Key → String) {s : State} (h : Storable s) :
    saveToDb keyText s = dict [("schema_version", .int CURRENT_SCHEMA_VERSION),
      ("devices", .arr (s.devices.map deviceRecord)), ("groups", .arr (s.groups.map groupRecord)),
      ("networks", .arr (s.networks.map networkRecord))] := by
  obtain ⟨g, hg, -⟩ := h.nodes
  have hlength : ¬ s.groups.length < defaultBackupGroups.length := by
    have hpos := List.length_pos_of_mem hg
    have hone : defaultBackupGroups.length = 1 := rfl
    omega
  rw [saveToDb, if_neg hlength]
  exact dumpState_storable keyText h CURRENT_SCHEMA_VERSION

theorem filter_isRecord {α : Type} {record : α → Json} (h : ∀ x, isRecord (record x) = true) (xs : List α) :
    (xs.map record).filter isRecord = xs.map record := by
  refine List.filter_eq_self.mpr fun x hx => ?_
  obtain ⟨y, -, rfl⟩ := List.mem_map.mp hx
  exact h y

/-- The lists of a payload of this host. -/
theorem readSections_current (legacy : LegacyKeys) (devices : List DeviceRecord) (groups : List GroupRecord)
    (networks : List NetworkRecord) :
    readSections legacy (some (some (dict [("schema_version", .int CURRENT_SCHEMA_VERSION),
      ("devices", .arr (devices.map deviceRecord)), ("groups", .arr (groups.map groupRecord)),
      ("networks", .arr (networks.map networkRecord))]))) =
      ⟨⟨devices.map deviceRecord, groups.map groupRecord, networks.map networkRecord⟩, 3, false⟩ := by
  have hload : loadState (some (dict [("schema_version", .int CURRENT_SCHEMA_VERSION),
      ("devices", .arr (devices.map deviceRecord)), ("groups", .arr (groups.map groupRecord)),
      ("networks", .arr (networks.map networkRecord))])) backupSections =
      (⟨devices.map deviceRecord, groups.map groupRecord, networks.map networkRecord⟩, 3) := by
    simp [dict, loadState, loadSection, normalizeRecords, Dict.getD, filter_isRecord, deviceRecord, groupRecord,
      networkRecord, isRecord, CURRENT_SCHEMA_VERSION, Json.orElse, Json.truthy, Json.toInt]
  rw [readSections, readOption, hload]
  exact congrArg _ rfl

/-! ### The lists -/

theorem loadDevices_records (r : Reader) {devices : List DeviceRecord} (h : ∀ d ∈ devices, StorableDevice d) :
    loadDevices r (devices.map deviceRecord) =
      devices.map fun d => {d with caps := d.devType, linkOnline := false} := by
  rw [loadDevices, List.filterMap_map, ← List.filterMap_eq_map]
  refine List.filterMap_congr fun d hd => ?_
  rw [Function.comp_apply, loadDevice_record r (h d hd)]
  rfl

theorem settleGroups_storable {groups : List GroupRecord} (h : ∀ g ∈ groups, StorableGroup g)
    (hnodes : ∃ g ∈ groups, isAllNodes g = true) : settleGroups groups = groups := by
  have hkept : groups.filter (fun g => !isLegacyGroup g) = groups :=
    List.filter_eq_self.mpr fun g hg => by rw [(h g hg).known]; rfl
  rw [settleGroups, hkept]
  rw [if_pos (List.any_eq_true.mpr hnodes)]
  refine (List.map_congr_left fun g hg => ?_).trans (List.map_id groups)
  split
  · next hall => exact (h g hg).nodes hall
  · rfl

theorem loadGroups_records (r : Reader) {groups : List GroupRecord} (h : ∀ g ∈ groups, StorableGroup g)
    (hnodes : ∃ g ∈ groups, isAllNodes g = true) : loadGroups r (groups.map groupRecord) = .ok groups := by
  have hfull : groups.map groupRecord ≠ [] := by
    obtain ⟨g, hg, -⟩ := hnodes
    exact List.ne_nil_of_mem (List.mem_map_of_mem hg)
  rw [loadGroups, if_neg hfull, mapM_self groups fun g hg => loadGroup_record r (h g hg).network]
  exact congrArg Except.ok (settleGroups_storable h hnodes)

theorem loadNetworks_records (r : Reader) {networks : List NetworkRecord} (h : ∀ n ∈ networks, StorableNetwork n) :
    loadNetworks r (networks.map networkRecord) = networks := by
  have hall : ∀ e ∈ networks.zipIdx, (loadNetwork r e.2 (networkRecord e.1)).toOption = some e.1 := fun e he => by
    rw [loadNetwork_record r (h e.1 (List.fst_mem_of_mem_zipIdx he)) e.2]
    rfl
  rw [loadNetworks, List.zipIdx_map, List.filterMap_map]
  refine (List.filterMap_congr hall).trans ?_
  rw [List.filterMap_eq_map', List.zipIdx_map_fst]

/-- **A state in normal form comes back.** -/
theorem Storable.roundTrip {s : State} (h : Storable s) : RoundTrip s := by
  intro keyText r legacy fresh
  rw [saveToDb_storable keyText h, loadFromDb, readSections_current]
  dsimp only
  rw [loadGroups_records r h.groups h.nodes, loadDevices_records r h.devices, loadNetworks_records r h.networks]
  refine ⟨rfl, ⟨?_, rfl, rfl⟩⟩
  exact List.map_map.trans (List.map_congr_left fun _ _ => rfl)

end RaceLink.Saved
