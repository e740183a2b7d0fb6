import RaceLink.Library.Lists
import RaceLink.Python.Value

/-! The schema migrations of the state file (`state/migrations.py`).

A migration only fills in fields that are missing or empty, and adds one network at the
end, so that it can run again on what it made: a step keeps every record with its fields
(`Kept`), and so does a run of steps (`migrateFrom_kept`). -/
namespace RaceLink.Saved
open Python Library

/-! ### Records -/

/-- An element that is a dict; the migrations pass the others over. -/
def isRecord : Json → Bool
  | .obj _ => true
  | _ => false

/-- A field of a record, if it has it. -/
def field? (key : String) : Json → Option Json
  | .obj record => Dict.get? record key
  | _ => none

/-- `record.get(key)`. -/
def field (key : String) (x : Json) : Json := (field? key x).getD .null

/-- `if not record.get(key): record[key] = value`. -/
def fill (key : String) (value : Json) : Json → Json
  | .obj record => if (Dict.get record key).truthy then .obj record else .obj (Dict.set record (.str key) value)
  | other => other

/-- A record as it was but for a field that was missing or empty. -/
structure SameBut (key : String) (old new : Json) : Prop where
  record : isRecord new = isRecord old
  others : ∀ k, k ≠ key → field? k new = field? k old
  kept : isRecord old = false ∨ (field key old).truthy = true → new = old

theorem SameBut.refl (key : String) (x : Json) : SameBut key x x := ⟨rfl, fun _ _ => rfl, fun _ => rfl⟩

theorem SameBut.trans {key : String} {x y z : Json} (h : SameBut key x y) (h' : SameBut key y z) : SameBut key x z where
  record := h'.record.trans h.record
  others k hk := (h'.others k hk).trans (h.others k hk)
  kept hkept := by
    have hy := h.kept hkept
    rw [h'.kept (hy ▸ hkept), hy]

section Fill
variable {key : String} {value x : Json}

theorem fill_of_kept (h : isRecord x = false ∨ (field key x).truthy = true) : fill key value x = x := by
  cases x with
  | obj record => exact if_pos (h.resolve_left nofun)
  | _ => rfl

theorem field?_fill_empty (hrecord : isRecord x = true) (h : (field key x).truthy = false) (k : String) :
    field? k (fill key value x) = if k = key then some value else field? k x := by
  cases x with
  | obj record =>
    have hempty : ¬ (Dict.get record key).truthy = true := by
      have heq : Dict.get record key = field key (.obj record) := rfl
      rw [heq, h]
      exact Bool.false_ne_true
    rw [fill, if_neg hempty]
    exact Dict.get?_set record key k value
  | _ => cases hrecord

theorem isRecord_fill (key : String) (value x : Json) : isRecord (fill key value x) = isRecord x := by
  cases x with
  | obj record =>
    rw [fill]
    split <;> rfl
  | _ => rfl

theorem sameBut_fill (key : String) (value x : Json) : SameBut key x (fill key value x) where
  record := isRecord_fill key value x
  others k hk := by
    by_cases hkept : isRecord x = false ∨ (field key x).truthy = true
    · rw [fill_of_kept hkept]
    · obtain ⟨hrecord, hempty⟩ := not_or.mp hkept
      rw [field?_fill_empty (by simpa using hrecord) (by simpa using hempty), if_neg hk]
  kept := fill_of_kept

/-- A filled field is what it was, or the value. -/
theorem field_fill (hrecord : isRecord x = true) :
    field key (fill key value x) = if (field key x).truthy = true then field key x else value := by
  split
  · next h => rw [fill_of_kept (.inr h)]
  · next h => rw [field, field?_fill_empty hrecord (by simpa using h), if_pos rfl, Option.getD_some]

theorem truthy_fill (hvalue : value.truthy = true) (hrecord : isRecord x = true) :
    (field key (fill key value x)).truthy = true := by
  rw [field_fill hrecord]
  split
  · assumption
  · exact hvalue

theorem fill_fill (hvalue : value.truthy = true) (x : Json) :
    fill key value (fill key value x) = fill key value x := by
  apply fill_of_kept
  rw [isRecord_fill]
  cases hrecord : isRecord x with
  | false => exact .inl rfl
  | true => exact .inr (truthy_fill hvalue hrecord)

end Fill

/-! ### The steps -/

def CURRENT_SCHEMA_VERSION : Int := 3

def DEFAULT_NETWORK_ID : String := "00000000-0000-4000-8000-000000000001"

/-- The three lists of a state file. -/
@[ext]
structure Sections where
  devices : List Json
  groups : List Json
  networks : List Json
deriving DecidableEq, Repr

/-- `str(net.get("id") or "") == DEFAULT_NETWORK_ID`; only a string prints like an id. -/
def isDefaultNetwork (net : Json) : Bool := field "id" net = .str DEFAULT_NETWORK_ID

/-- The network that is synthesised. -/
def defaultNetwork : Json :=
  dict [("id", .str DEFAULT_NETWORK_ID), ("name", .str "Default"), ("kind", .str "rf"), ("gateway_mac", .null),
    ("region", .str "EU868"), ("channel_id", .null), ("rf_config", .null), ("created_ts", .float (.finite 0))]

/-- `migrate_v1_to_v2`. The default network that is found has the same id as the one that is made. -/
def migrateV1ToV2 (s : Sections) : Sections where
  devices := s.devices.map (fill "network_id" (.str DEFAULT_NETWORK_ID))
  groups := s.groups.map (fill "network_id" (.str DEFAULT_NETWORK_ID))
  networks :=
    match s.networks.find? isDefaultNetwork with
    | some _ => s.networks
    | none => s.networks ++ [defaultNetwork]

/-- `migrate_v2_to_v3`. -/
def migrateV2ToV3 (s : Sections) : Sections := {s with networks := s.networks.map (fill "kind" (.str "rf"))}

/-- `_MIGRATIONS`. -/
def MIGRATIONS (version : Int) : Option (Sections → Sections) :=
  if version = 1 then some migrateV1ToV2 else if version = 2 then some migrateV2ToV3 else none

/-- The loop of `migrate_state`, with the number of versions to go. -/
def migrateFrom : Nat → Int → Sections → Sections × Int
  | 0, version, s => (s, version)
  | n + 1, version, s =>
    migrateFrom n (version + 1) (match MIGRATIONS version with | some step => step s | none => s)

/-- `migrate_state`. -/
def migrateState (devices groups : List Json) (networks : Option (List Json)) (fromVersion toVersion : Int) :
    Sections × Int :=
  let version := max 0 fromVersion
  let target := max version toVersion
  migrateFrom (target - version).toNat version ⟨devices, groups, networks.getD []⟩

/-! ### What a step keeps -/

/-- Every device and group is there, in order and as it was but for the network, and every network, in order
and as it was but for the kind. -/
structure Kept (old new : Sections) : Prop where
  devices : List.Forall₂ (SameBut "network_id") old.devices new.devices
  groups : List.Forall₂ (SameBut "network_id") old.groups new.groups
  networks : List.Forall₂ (SameBut "kind") old.networks (new.networks.take old.networks.length)

theorem forall₂_sameBut_fill (key : String) (value : Json) (records : List Json) :
    List.Forall₂ (SameBut key) records (records.map (fill key value)) := by
  rw [List.forall₂_map_right_iff, List.forall₂_same]
  exact fun x _ => sameBut_fill key value x

theorem forall₂_sameBut_refl (key : String) (records : List Json) : List.Forall₂ (SameBut key) records records :=
  List.forall₂_same.mpr fun x _ => SameBut.refl key x

theorem forall₂_sameBut_trans {key : String} {xs ys zs : List Json} (h : List.Forall₂ (SameBut key) xs ys)
    (h' : List.Forall₂ (SameBut key) ys zs) : List.Forall₂ (SameBut key) xs zs :=
  forall₂_trans (fun _ _ _ hxy hyz => hxy.trans hyz) h h'

theorem Kept.refl (s : Sections) : Kept s s where
  devices := forall₂_sameBut_refl ..
  groups := forall₂_sameBut_refl ..
  networks := by
    rw [List.take_length]
    exact forall₂_sameBut_refl ..

theorem Kept.trans {s t u : Sections} (h : Kept s t) (h' : Kept t u) : Kept s u where
  devices := forall₂_sameBut_trans h.devices h'.devices
  groups := forall₂_sameBut_trans h.groups h'.groups
  networks := by
    have hlength : s.networks.length ≤ t.networks.length := by
      have heq := h.networks.length_eq
      rw [List.length_take] at heq
      omega
    have hlater := List.forall₂_take s.networks.length h'.networks
    rw [List.take_take, Nat.min_eq_left hlength] at hlater
    exact forall₂_sameBut_trans h.networks hlater

theorem migrateV1ToV2_kept (s : Sections) : Kept s (migrateV1ToV2 s) where
  devices := forall₂_sameBut_fill ..
  groups := forall₂_sameBut_fill ..
  networks := by
    have htake : (migrateV1ToV2 s).networks.take s.networks.length = s.networks := by
      unfold migrateV1ToV2
      cases s.networks.find? isDefaultNetwork with
      | some _ => exact List.take_length
      | none => exact List.take_left
    rw [htake]
    exact forall₂_sameBut_refl ..

theorem migrateV2ToV3_kept (s : Sections) : Kept s (migrateV2ToV3 s) where
  devices := forall₂_sameBut_refl ..
  groups := forall₂_sameBut_refl ..
  networks := by
    have htake : (migrateV2ToV3 s).networks.take s.networks.length = s.networks.map (fill "kind" (.str "rf")) := by
      apply List.take_of_length_le
      exact (List.length_map _).le
    rw [htake]
    exact forall₂_sameBut_fill ..

theorem migrations_kept {version : Int} {step : Sections → Sections} (h : MIGRATIONS version = some step)
    (s : Sections) : Kept s (step s) := by
  unfold MIGRATIONS at h
  split at h
  · cases h
    exact migrateV1ToV2_kept s
  · split at h
    · cases h
      exact migrateV2ToV3_kept s
    · cases h

/-- A run of steps keeps what each of them keeps. -/
theorem migrateFrom_kept (n : Nat) (version : Int) (s : Sections) : Kept s (migrateFrom n version s).1 := by
  induction n generalizing version s with
  | zero => exact Kept.refl s
  | succ n ih =>
    rw [migrateFrom]
    cases hstep : MIGRATIONS version with
    | none => exact ih (version + 1) s
    | some step => exact (migrations_kept hstep s).trans (ih (version + 1) (step s))

theorem migrateFrom_version (n : Nat) (version : Int) (s : Sections) : (migrateFrom n version s).2 = version + n := by
  induction n generalizing version s with
  | zero => simp [migrateFrom]
  | succ n ih =>
    rw [migrateFrom, ih]
    omega

/-! ### What the steps fill in -/

/-- Both steps, of a file from before the networks. -/
def upgraded (s : Sections) : Sections := migrateV2ToV3 (migrateV1ToV2 s)

theorem migrateState_upgraded {fromVersion : Int} (h : fromVersion < 2) (s : Sections) :
    migrateState s.devices s.groups (some s.networks) fromVersion CURRENT_SCHEMA_VERSION = (upgraded s, 3) := by
  by_cases hzero : fromVersion ≤ 0
  · rw [migrateState, Int.max_eq_left hzero]
    rfl
  · obtain rfl : fromVersion = 1 := by omega
    rfl

theorem migrateState_two (s : Sections) :
    migrateState s.devices s.groups (some s.networks) 2 CURRENT_SCHEMA_VERSION = (migrateV2ToV3 s, 3) := rfl

theorem migrateState_current {fromVersion : Int} (h : 3 ≤ fromVersion) (s : Sections) :
    migrateState s.devices s.groups (some s.networks) fromVersion CURRENT_SCHEMA_VERSION = (s, fromVersion) := by
  have hversion : max 0 fromVersion = fromVersion := by omega
  have htarget : max fromVersion CURRENT_SCHEMA_VERSION = fromVersion := Int.max_eq_left h
  rw [migrateState, hversion, htarget, Int.sub_self]
  rfl

/-- A version is one from before the networks, the one from before the kinds, or a current one. -/
theorem version_cases (fromVersion : Int) : fromVersion < 2 ∨ fromVersion = 2 ∨ 3 ≤ fromVersion := by omega

theorem truthy_default : (Json.str DEFAULT_NETWORK_ID).truthy = true := by decide

theorem upgraded_networks (s : Sections) :
    (∃ net ∈ s.networks, isDefaultNetwork net = true) ∧
        (upgraded s).networks = s.networks.map (fill "kind" (.str "rf")) ∨
      (∀ net ∈ s.networks, ¬ isDefaultNetwork net = true) ∧
        (upgraded s).networks = s.networks.map (fill "kind" (.str "rf")) ++ [defaultNetwork] := by
  unfold upgraded migrateV2ToV3 migrateV1ToV2
  cases hfind : s.networks.find? isDefaultNetwork with
  | some net => exact .inl ⟨⟨net, List.mem_of_find?_eq_some hfind, List.find?_some hfind⟩, rfl⟩
  | none =>
    refine .inr ⟨List.find?_eq_none.mp hfind, ?_⟩
    rw [List.map_append]
    rfl

theorem isDefaultNetwork_fill (net : Json) : isDefaultNetwork (fill "kind" (.str "rf") net) = isDefaultNetwork net := by
  unfold isDefaultNetwork field
  rw [(sameBut_fill "kind" (.str "rf") net).others "id" (by decide)]

/-- The id of a network, if it is a string. -/
def idOf? (net : Json) : Option String :=
  match field "id" net with
  | .str id => some id
  | _ => none

theorem isDefaultNetwork_eq (net : Json) :
    isDefaultNetwork net = ((idOf? net).map (· == DEFAULT_NETWORK_ID)).getD false := by
  unfold isDefaultNetwork idOf?
  cases field "id" net <;> simp [beq_eq_decide]

/-- The default network is there once. -/
theorem upgraded_default {s : Sections} (hids : (s.networks.filterMap idOf?).Nodup) :
    (upgraded s).networks.countP isDefaultNetwork = 1 := by
  have hfilled : (s.networks.map (fill "kind" (.str "rf"))).countP isDefaultNetwork = s.networks.countP isDefaultNetwork := by
    rw [List.countP_map]
    exact congrArg (List.countP · s.networks) (funext isDefaultNetwork_fill)
  obtain ⟨hfound, heq⟩ | ⟨hnone, heq⟩ := upgraded_networks s
  · have hone : s.networks.countP isDefaultNetwork = (s.networks.filterMap idOf?).count DEFAULT_NETWORK_ID := by
      rw [List.count_eq_countP, List.countP_filterMap]
      exact congrArg (List.countP · s.networks) (funext isDefaultNetwork_eq)
    have hpos := List.countP_pos_iff.mpr hfound
    have hle := List.nodup_iff_count_le_one.mp hids DEFAULT_NETWORK_ID
    rw [heq, hfilled]
    omega
  · rw [heq, List.countP_append, hfilled, List.countP_eq_zero.mpr hnone]
    decide

/-! ### Again -/

theorem migrateV2ToV3_again (s : Sections) : migrateV2ToV3 (migrateV2ToV3 s) = migrateV2ToV3 s := by
  unfold migrateV2ToV3
  dsimp only
  rw [List.map_map]
  congr 1
  exact List.map_congr_left fun net _ => fill_fill (by decide) net

theorem exists_default (s : Sections) : ∃ net ∈ (upgraded s).networks, isDefaultNetwork net = true := by
  obtain ⟨⟨net, hnet, hdefault⟩, heq⟩ | ⟨_, heq⟩ := upgraded_networks s
  · rw [heq]
    exact ⟨_, List.mem_map_of_mem hnet, (isDefaultNetwork_fill net).trans hdefault⟩
  · rw [heq]
    exact ⟨defaultNetwork, List.mem_append_right _ (List.mem_singleton_self _), by decide⟩

theorem upgraded_again (s : Sections) : upgraded (upgraded s) = upgraded s := by
  have hrecords : ∀ records : List Json,
      (records.map (fill "network_id" (.str DEFAULT_NETWORK_ID))).map (fill "network_id" (.str DEFAULT_NETWORK_ID)) =
        records.map (fill "network_id" (.str DEFAULT_NETWORK_ID)) := by
    intro records
    rw [List.map_map]
    exact List.map_congr_left fun x _ => fill_fill truthy_default x
  have hfirst : migrateV1ToV2 (upgraded s) = upgraded s := by
    obtain ⟨found, hfound⟩ := Option.isSome_iff_exists.mp (List.find?_isSome.mpr (exists_default s))
    rw [migrateV1ToV2, hfound]
    apply Sections.ext
    · exact hrecords s.devices
    · exact hrecords s.groups
    · rfl
  show migrateV2ToV3 (migrateV1ToV2 (upgraded s)) = _
  rw [hfirst]
  exact migrateV2ToV3_again (migrateV1ToV2 s)

/-! ### What a migration owes -/

/-- A network id that was filled in is the id of one network. -/
def FilledFrom (networks : List Json) (old new : Json) : Prop :=
  field? "network_id" new ≠ field? "network_id" old →
    networks.countP (fun net => field "id" net = field "network_id" new) = 1

/-- What `migrate_state` makes of three lists. -/
structure Complete (fromVersion : Int) (old : Sections) (new : Sections × Int) : Prop where
  current : fromVersion ≤ CURRENT_SCHEMA_VERSION → new.2 = CURRENT_SCHEMA_VERSION
  kept : Kept old new.1
  added : ∀ net ∈ new.1.networks.drop old.networks.length, net = defaultNetwork
  kinds : fromVersion < 3 → ∀ net ∈ new.1.networks, isRecord net = true → (field "kind" net).truthy = true
  filled : (old.networks.filterMap idOf?).Nodup →
    List.Forall₂ (FilledFrom new.1.networks) old.devices new.1.devices ∧
      List.Forall₂ (FilledFrom new.1.networks) old.groups new.1.groups
  assigned : fromVersion < 2 → ∀ x ∈ new.1.devices ++ new.1.groups, isRecord x = true →
    (field "network_id" x).truthy = true
  again : migrateState new.1.devices new.1.groups (some new.1.networks) fromVersion CURRENT_SCHEMA_VERSION = new

theorem truthy_of_mem_fill {key : String} {value : Json} (hvalue : value.truthy = true) {records : List Json} {x : Json}
    (hx : x ∈ records.map (fill key value)) (hrecord : isRecord x = true) : (field key x).truthy = true := by
  obtain ⟨y, _, rfl⟩ := List.mem_map.mp hx
  rw [isRecord_fill] at hrecord
  exact truthy_fill hvalue hrecord

theorem filledFrom_refl (networks records : List Json) : List.Forall₂ (FilledFrom networks) records records :=
  List.forall₂_same.mpr fun _ _ h => absurd rfl h

/-- What the first step fills in is the default network's id. -/
theorem filledFrom_fill {networks : List Json} (hdefault : networks.countP isDefaultNetwork = 1) (records : List Json) :
    List.Forall₂ (FilledFrom networks) records (records.map (fill "network_id" (.str DEFAULT_NETWORK_ID))) := by
  rw [List.forall₂_map_right_iff, List.forall₂_same]
  intro x _ hchanged
  by_cases hkept : isRecord x = false ∨ (field "network_id" x).truthy = true
  · rw [fill_of_kept hkept] at hchanged
    exact absurd rfl hchanged
  · obtain ⟨hrecord, hempty⟩ := not_or.mp hkept
    rw [field_fill (by simpa using hrecord), if_neg hempty]
    exact hdefault

theorem migrateState_version (s : Sections) (fromVersion toVersion : Int) :
    (migrateState s.devices s.groups (some s.networks) fromVersion toVersion).2 =
      max (max 0 fromVersion) toVersion := by
  rw [migrateState, migrateFrom_version]
  omega

theorem complete_upgraded {fromVersion : Int} (h : fromVersion < 2) {s : Sections} (hkept : Kept s (upgraded s)) :
    Complete fromVersion s (upgraded s, 3) where
  current _ := rfl
  kept := hkept
  added net hnet := by
    obtain ⟨_, heq⟩ | ⟨_, heq⟩ := upgraded_networks s
    · rw [heq, List.drop_of_length_le (List.length_map _).le] at hnet
      cases hnet
    · rw [heq, List.drop_left' (List.length_map _)] at hnet
      exact List.mem_singleton.mp hnet
  kinds _ net hnet := truthy_of_mem_fill (by decide) hnet
  filled hids := ⟨filledFrom_fill (upgraded_default hids) s.devices, filledFrom_fill (upgraded_default hids) s.groups⟩
  assigned _ x hx :=
    (List.mem_append.mp hx).elim (truthy_of_mem_fill truthy_default) (truthy_of_mem_fill truthy_default)
  again := by rw [migrateState_upgraded h, upgraded_again]

theorem complete_kinds {s : Sections} (hkept : Kept s (migrateV2ToV3 s)) : Complete 2 s (migrateV2ToV3 s, 3) where
  current _ := rfl
  kept := hkept
  added net hnet := by
    rw [migrateV2ToV3, List.drop_of_length_le (List.length_map _).le] at hnet
    cases hnet
  kinds _ net hnet := truthy_of_mem_fill (by decide) hnet
  filled _ := ⟨filledFrom_refl _ s.devices, filledFrom_refl _ s.groups⟩
  assigned hlow := absurd hlow (by decide)
  again := by rw [migrateState_two, migrateV2ToV3_again]

theorem complete_current {fromVersion : Int} (h : 3 ≤ fromVersion) {s : Sections} (hkept : Kept s s)
    (hversion : fromVersion ≤ CURRENT_SCHEMA_VERSION → fromVersion = CURRENT_SCHEMA_VERSION) :
    Complete fromVersion s (s, fromVersion) where
  current := hversion
  kept := hkept
  added net hnet := by
    rw [List.drop_length] at hnet
    cases hnet
  kinds hlow := absurd hlow (by omega)
  filled _ := ⟨filledFrom_refl _ s.devices, filledFrom_refl _ s.groups⟩
  assigned hlow := absurd hlow (by omega)
  again := migrateState_current h s

theorem complete_run (s : Sections) (fromVersion : Int) :
    Complete fromVersion s (migrateState s.devices s.groups (some s.networks) fromVersion CURRENT_SCHEMA_VERSION) := by
  have hkept : Kept s (migrateState s.devices s.groups (some s.networks) fromVersion CURRENT_SCHEMA_VERSION).1 :=
    migrateFrom_kept ..
  have hversion := migrateState_version s fromVersion CURRENT_SCHEMA_VERSION
  obtain h | rfl | h := version_cases fromVersion
  · rw [migrateState_upgraded h] at hkept ⊢
    exact complete_upgraded h hkept
  · rw [migrateState_two] at hkept ⊢
    exact complete_kinds hkept
  · rw [migrateState_current h] at hkept hversion ⊢
    refine complete_current h hkept fun hle => ?_
    unfold CURRENT_SCHEMA_VERSION at hversion hle ⊢
    omega

/-- **A migration is complete and can be repeated**: every record is kept, every field that is filled in is filled
in soundly, and the same migration of the result changes nothing. -/
theorem migrateState_complete (devices groups : List Json) (networks : Option (List Json)) (fromVersion : Int) :
    Complete fromVersion ⟨devices, groups, networks.getD []⟩
      (migrateState devices groups networks fromVersion CURRENT_SCHEMA_VERSION) :=
  complete_run ⟨devices, groups, networks.getD []⟩ fromVersion

/-! ### The file that is migrated -/

/-- `_normalize_records`; nothing for what is no list. -/
def normalizeRecords : Json → Option (List Json)
  | .null => some []
  | .arr items => some (items.filter isRecord)
  | _ => none

/-- A section of `load_state`: a missing one is the default, and one that is no list too. -/
def loadSection (payload : Dict) (key : String) (default : List Json) : List Json :=
  (normalizeRecords (Dict.getD payload key (.arr default))).getD (default.filter isRecord)

/-- `load_state`, of what the JSON text says, if it can be read. -/
def loadState (payload : Option Json) (default : Sections) : Sections × Int :=
  match payload with
  | some (.obj payload) =>
    let version := match ((Dict.getD payload "schema_version" (.int 0)).orElse (.int 0)).toInt with
      | .ok version => version
      | .error _ => 0
    (⟨loadSection payload "devices" default.devices, loadSection payload "groups" default.groups,
      loadSection payload "networks" default.networks⟩, max 0 version)
  | _ =>
    (⟨default.devices.filter isRecord, default.groups.filter isRecord, default.networks.filter isRecord⟩, 0)

theorem isRecord_of_loadSection {payload : Dict} {key : String} {default : List Json} {x : Json}
    (hx : x ∈ loadSection payload key default) : isRecord x = true := by
  have hfiltered : ∀ items : List Json, x ∈ items.filter isRecord → isRecord x = true :=
    fun _ hmem => (List.mem_filter.mp hmem).2
  unfold loadSection normalizeRecords at hx
  split at hx
  · cases hx
  · exact hfiltered _ hx
  · exact hfiltered _ hx

theorem isRecord_of_loadState {payload : Option Json} {default : Sections} {x : Json}
    (hx : x ∈ (loadState payload default).1.devices ++ (loadState payload default).1.groups) : isRecord x = true := by
  unfold loadState at hx
  split at hx
  · exact (List.mem_append.mp hx).elim isRecord_of_loadSection isRecord_of_loadSection
  · exact (List.mem_append.mp hx).elim (fun h => (List.mem_filter.mp h).2) fun h => (List.mem_filter.mp h).2

/-- The lists that a file is read and migrated to. -/
def loadMigrated (payload : Option Json) (default : Sections) : Sections :=
  let (loaded, version) := loadState payload default
  (migrateState loaded.devices loaded.groups (some loaded.networks) version CURRENT_SCHEMA_VERSION).1

/-- **After a file from before the networks**, whatever its sections look like, every device and group is a
record and has a network. -/
theorem loadMigrated_assigned (payload : Option Json) (default : Sections) (h : (loadState payload default).2 < 2) :
    ∀ x ∈ (loadMigrated payload default).devices ++ (loadMigrated payload default).groups,
      isRecord x = true ∧ (field "network_id" x).truthy = true := by
  intro x hx
  have hcomplete : Complete _ _ (loadMigrated payload default, _) := complete_run (loadState payload default).1 _
  have hrecord : isRecord x = true := by
    obtain hx | hx := List.mem_append.mp hx
    · obtain ⟨y, hy, hsame⟩ := exists_of_forall₂_right hcomplete.kept.devices hx
      exact hsame.record.trans (isRecord_of_loadState (List.mem_append_left _ hy))
    · obtain ⟨y, hy, hsame⟩ := exists_of_forall₂_right hcomplete.kept.groups hx
      exact hsame.record.trans (isRecord_of_loadState (List.mem_append_right _ hy))
  exact ⟨hrecord, hcomplete.assigned h x hx hrecord⟩

end RaceLink.Saved
