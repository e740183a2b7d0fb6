import RaceLink.Domain.Records
import RaceLink.Library.Except

/-! RF settings: the fields that count, the channel table (`domain/rf_channels.py`), and
the separation policy (`domain/rf_policy.py`).

Two networks that share a SyncWord have to be 500 kHz apart. The same rule stands in
the audit of a whole repository (`validateNetworksSeparation`) and in the question
whether a channel is free (`occupantsOf`). -/
namespace RaceLink.Gateways
open Python Library Domain

/-! ### Settings -/

/-- `_RF_FIELDS`. -/
def RF_FIELDS : List String :=
  ["freq_hz", "bw_khz_x10", "sf", "cr_den", "sync_word", "tx_power_dbm", "preamble"]

/-- `P_RfConfig`. -/
structure RfSettings where
  freqHz : Int
  bwKhzX10 : Int
  sf : Int
  crDen : Int
  syncWord : Int
  txPowerDbm : Int
  preamble : Int
deriving DecidableEq, Repr

def RfSettings.toDict (s : RfSettings) : Dict :=
  [(.str "freq_hz", .int s.freqHz), (.str "bw_khz_x10", .int s.bwKhzX10), (.str "sf", .int s.sf),
    (.str "cr_den", .int s.crDen), (.str "sync_word", .int s.syncWord),
    (.str "tx_power_dbm", .int s.txPowerDbm), (.str "preamble", .int s.preamble)]

/-- Two values of a field agree: as integers, or as they are if one is no integer. -/
def fieldAgrees (a b : Json) : Except PyError Bool :=
  match a, b with
  | .null, .null => .ok true
  | .null, _ => .ok false
  | _, .null => .ok false
  | a, b =>
    match a.toInt, b.toInt with
    | .error .overflowError, _ => .error .overflowError
    | .ok _, .error .overflowError => .error .overflowError
    | .ok m, .ok n => .ok (m == n)
    | _, _ => .ok (a == b)

/-- `_rf_diff`. -/
def rfDiff (actual expected : Option Dict) : Except PyError (List String) :=
  match actual, expected with
  | none, none => .ok []
  | _, _ => do
    let agree ← RF_FIELDS.mapM fun f => fieldAgrees ((actual.getD []).get f) ((expected.getD []).get f)
    return (RF_FIELDS.zip agree).filterMap fun e => if e.2 then none else some e.1

/-- A field as `_normalize_rf_config` reads it. -/
def normalField (cfg : Dict) (field : String) : Except PyError (Option Int) :=
  match cfg.get? field with
  | none => .ok none
  | some value =>
    match value.toInt with
    | .ok n => .ok (some n)
    | .error .overflowError => .error .overflowError
    | .error _ => .ok none

/-- The fields from one on; the first that is missing or no integer ends it. -/
def normalFields (cfg : Dict) : List String → Except PyError (Option Dict)
  | [] => .ok (some [])
  | field :: rest => do
    match ← normalField cfg field with
    | none => return none
    | some n => return (← normalFields cfg rest).map fun later => (.str field, .int n) :: later

/-- `_normalize_rf_config`. -/
def normalizeRfConfig (cfg : Option Dict) : Except PyError (Option Dict) :=
  match cfg with
  | none => .ok none
  | some cfg => normalFields cfg RF_FIELDS

/-- `_rf_equal`. -/
def rfEqual (a b : Option Dict) : Except PyError Bool := do
  let na ← normalizeRfConfig a
  let nb ← normalizeRfConfig b
  match na, nb with
  | some na, some nb => return decide (na = nb)
  | _, _ => return false

/-! ### Channels -/

structure Channel where
  id : Int
  name : String
  freqHz : Int
deriving DecidableEq, Repr

/-- `REGION_CHANNELS`; the channels share their other settings. -/
def channelsOf (region : String) : List Channel :=
  if region = "EU868" then
    [⟨1, "Default", 867700000⟩, ⟨2, "Alt-1", 868200000⟩, ⟨3, "Alt-2", 868700000⟩, ⟨4, "Alt-3", 869200000⟩,
      ⟨5, "High", 869700000⟩]
  else if region = "US915" then
    [⟨1, "Default", 904300000⟩, ⟨2, "Alt-1", 905300000⟩, ⟨3, "Alt-2", 906300000⟩, ⟨4, "Alt-3", 907300000⟩,
      ⟨5, "High", 908300000⟩]
  else []

/-- `channel_rf_config`. -/
def channelRfConfig (region : String) (channelId : Int) : Option Dict :=
  ((channelsOf region).find? fun c => c.id == channelId).map fun c =>
    RfSettings.toDict ⟨c.freqHz, 1250, 7, 5, 0x12, 14, 8⟩

/-! ### Separation -/

def MIN_SEPARATION_HZ : Int := 500000

/-- `_network_rf_config`: settings that carry what the policy needs. -/
def policyConfig (cfg : Option Dict) : Option Dict :=
  cfg.filter fun cfg => cfg.has "freq_hz" && cfg.has "sync_word"

/-- The SyncWord of some settings. -/
def syncOf (cfg : Dict) : Except PyError Int := do
  let sync ← (cfg.get "sync_word").toInt
  return sync % 256

def freqOf (cfg : Dict) : Except PyError Int := (cfg.get "freq_hz").toInt

/-- A network in a message. -/
structure Tuned where
  id : String
  name : String
  freqHz : Int
  syncWord : Int
deriving DecidableEq, Repr

/-- A conflict, and how far apart the two are. -/
structure SeparationConflict where
  a : Tuned
  b : Tuned
  gapHz : Int
deriving DecidableEq, Repr

/-- The body of the inner loop of `validate_networks_separation`; frequencies are read
only if the SyncWords agree. -/
def pairConflict (a b : NetworkRecord) (cfgA : Dict) : Except PyError (Option SeparationConflict) :=
  match policyConfig b.rfConfig with
  | none => .ok none
  | some cfgB =>
    if a.id ≠ "" ∧ b.id ≠ "" ∧ a.id = b.id then .ok none
    else do
      let syncA ← syncOf cfgA
      let syncB ← syncOf cfgB
      if syncA ≠ syncB then return none
      let freqA ← freqOf cfgA
      let freqB ← freqOf cfgB
      let gap : Int := (freqA - freqB).natAbs
      if MIN_SEPARATION_HZ ≤ gap then return none
      return some ⟨⟨a.id, a.name, freqA, syncA⟩, ⟨b.id, b.name, freqB, syncB⟩, gap⟩

/-- The inner loop. -/
def conflictsOf (a : NetworkRecord) (rest : List NetworkRecord) :
    Except PyError (List SeparationConflict) :=
  match policyConfig a.rfConfig with
  | none => .ok []
  | some cfgA => do
    let found ← rest.mapM fun b => pairConflict a b cfgA
    return found.filterMap id

/-- `validate_networks_separation`. -/
def validateNetworksSeparation : List NetworkRecord → Except PyError (List SeparationConflict)
  | [] => .ok []
  | a :: rest => do
    let conflicts ← conflictsOf a rest
    let later ← validateNetworksSeparation rest
    return conflicts ++ later

/-- A network on a channel. -/
structure Occupant where
  tuned : Tuned
  gapHz : Int
deriving DecidableEq, Repr

/-- The body of the loop of `occupants_of`. -/
def occupantOf (freq sync : Int) (excludeNetworkId : String) (net : NetworkRecord) :
    Except PyError (Option Occupant) :=
  match policyConfig net.rfConfig with
  | none => .ok none
  | some cfg =>
    if excludeNetworkId ≠ "" ∧ net.id = excludeNetworkId then .ok none
    else do
      let otherSync ← syncOf cfg
      if otherSync ≠ sync then return none
      let otherFreq ← freqOf cfg
      let gap : Int := (otherFreq - freq).natAbs
      if MIN_SEPARATION_HZ ≤ gap then return none
      return some ⟨⟨net.id, net.name, otherFreq, otherSync⟩, gap⟩

/-- `occupants_of`. -/
def occupantsOf (networks : List NetworkRecord) (cfg : Dict) (excludeNetworkId : String) :
    Except PyError (List Occupant) :=
  match policyConfig (some cfg) with
  | none => .ok []
  | some cfg => do
    let freq ← freqOf cfg
    let sync ← syncOf cfg
    let found ← networks.mapM (occupantOf freq sync excludeNetworkId)
    return found.filterMap id

/-- `format_occupants`. -/
def formatOccupants (occupants : List Occupant) : String :=
  let names := occupants.map fun o =>
    if o.tuned.name ≠ "" then o.tuned.name else if o.tuned.id ≠ "" then o.tuned.id else "?"
  match names.reverse with
  | [] => ""
  | [name] => "\"" ++ name ++ "\""
  | last :: others =>
    ", ".intercalate (others.reverse.map fun n => "\"" ++ n ++ "\"") ++ " and \"" ++ last ++ "\""

/-! ### What the checks say -/

/-- Settings that cannot be told apart on air. -/
def Collide (a b : Option Dict) : Prop :=
  ∃ cfgA cfgB sync freqA freqB, policyConfig a = some cfgA ∧ policyConfig b = some cfgB ∧
    syncOf cfgA = .ok sync ∧ syncOf cfgB = .ok sync ∧ freqOf cfgA = .ok freqA ∧ freqOf cfgB = .ok freqB ∧
      ((freqA - freqB).natAbs : Int) < MIN_SEPARATION_HZ

theorem Collide.symm {a b : Option Dict} (h : Collide a b) : Collide b a := by
  obtain ⟨cfgA, cfgB, sync, freqA, freqB, ha, hb, hsa, hsb, hfa, hfb, hgap⟩ := h
  refine ⟨cfgB, cfgA, sync, freqB, freqA, hb, ha, hsb, hsa, hfb, hfa, ?_⟩
  rwa [← Int.natAbs_neg, Int.neg_sub]

theorem not_collide_none (a : Option Dict) : ¬ Collide a none := by
  rintro ⟨-, cfgB, -, -, -, -, hb, -⟩
  cases hb

/-- What the check makes of two networks, the first with its settings. -/
inductive Compared (a b : NetworkRecord) (cfgA : Dict) : Option SeparationConflict → Prop
  | unset (hb : policyConfig b.rfConfig = none) : Compared a b cfgA none
  | itself (hid : a.id ≠ "" ∧ b.id ≠ "" ∧ a.id = b.id) : Compared a b cfgA none
  | otherSync {cfgB : Dict} {syncA syncB : Int} (hb : policyConfig b.rfConfig = some cfgB)
      (hid : ¬ (a.id ≠ "" ∧ b.id ≠ "" ∧ a.id = b.id)) (hsa : syncOf cfgA = .ok syncA) (hsb : syncOf cfgB = .ok syncB)
      (hsync : syncA ≠ syncB) : Compared a b cfgA none
  | apart {cfgB : Dict} {sync freqA freqB : Int} (hb : policyConfig b.rfConfig = some cfgB)
      (hid : ¬ (a.id ≠ "" ∧ b.id ≠ "" ∧ a.id = b.id)) (hsa : syncOf cfgA = .ok sync) (hsb : syncOf cfgB = .ok sync)
      (hfa : freqOf cfgA = .ok freqA) (hfb : freqOf cfgB = .ok freqB)
      (hgap : MIN_SEPARATION_HZ ≤ ((freqA - freqB).natAbs : Int)) : Compared a b cfgA none
  | near {cfgB : Dict} {sync freqA freqB : Int} (hb : policyConfig b.rfConfig = some cfgB)
      (hid : ¬ (a.id ≠ "" ∧ b.id ≠ "" ∧ a.id = b.id)) (hsa : syncOf cfgA = .ok sync) (hsb : syncOf cfgB = .ok sync)
      (hfa : freqOf cfgA = .ok freqA) (hfb : freqOf cfgB = .ok freqB)
      (hgap : ((freqA - freqB).natAbs : Int) < MIN_SEPARATION_HZ) :
      Compared a b cfgA (some ⟨⟨a.id, a.name, freqA, sync⟩, ⟨b.id, b.name, freqB, sync⟩, (freqA - freqB).natAbs⟩)

theorem pairConflict_ok {a b : NetworkRecord} {cfgA : Dict} {x : Option SeparationConflict} :
    pairConflict a b cfgA = .ok x ↔ Compared a b cfgA x := by
  unfold pairConflict
  constructor
  · intro h
    cases hb : policyConfig b.rfConfig with
    | none =>
      rw [hb] at h
      cases h
      exact .unset hb
    | some cfgB =>
      rw [hb] at h
      dsimp only at h
      by_cases hid : a.id ≠ "" ∧ b.id ≠ "" ∧ a.id = b.id
      · rw [if_pos hid] at h
        cases h
        exact .itself hid
      rw [if_neg hid] at h
      obtain ⟨syncA, hsa, h⟩ := bind_ok.mp h
      obtain ⟨syncB, hsb, h⟩ := bind_ok.mp h
      by_cases hsync : syncA = syncB
      · subst hsync
        rw [if_neg (by simp)] at h
        obtain ⟨freqA, hfa, h⟩ := bind_ok.mp h
        obtain ⟨freqB, hfb, h⟩ := bind_ok.mp h
        by_cases hgap : MIN_SEPARATION_HZ ≤ ((freqA - freqB).natAbs : Int)
        · rw [if_pos hgap] at h
          cases h
          exact .apart hb hid hsa hsb hfa hfb hgap
        · rw [if_neg hgap] at h
          cases h
          exact .near hb hid hsa hsb hfa hfb (Int.not_le.mp hgap)
      · rw [if_pos hsync] at h
        cases h
        exact .otherSync hb hid hsa hsb hsync
  · intro h
    cases h with
    | unset hb => rw [hb]
    | itself hid =>
      cases policyConfig b.rfConfig with
      | none => rfl
      | some cfgB => exact if_pos hid
    | otherSync hb hid hsa hsb hsync =>
      rw [hb]
      dsimp only
      rw [if_neg hid, hsa, ok_bind, hsb, ok_bind, if_pos hsync]
      rfl
    | apart hb hid hsa hsb hfa hfb hgap =>
      rw [hb]
      dsimp only
      rw [if_neg hid, hsa, ok_bind, hsb, ok_bind, if_neg (by simp), hfa, ok_bind, hfb, ok_bind, if_pos hgap]
      rfl
    | near hb hid hsa hsb hfa hfb hgap =>
      rw [hb]
      dsimp only
      rw [if_neg hid, hsa, ok_bind, hsb, ok_bind, if_neg (by simp), hfa, ok_bind, hfb, ok_bind,
        if_neg (Int.not_le.mpr hgap)]
      rfl

/-- A pair that is passed over does not collide, unless it is one network twice. -/
theorem pairConflict_none {a b : NetworkRecord} {cfgA : Dict} (ha : policyConfig a.rfConfig = some cfgA)
    (hid : a.id ≠ b.id) (h : pairConflict a b cfgA = .ok none) : ¬ Collide a.rfConfig b.rfConfig := by
  intro ⟨cfgA', cfgB, sync, freqA, freqB, ha', hb, hsa, hsb, hfa, hfb, hgap⟩
  cases ha.symm.trans ha'
  have hnear : pairConflict a b cfgA = .ok (some _) :=
    pairConflict_ok.mpr (.near hb (fun hsame => hid hsame.2.2) hsa hsb hfa hfb hgap)
  rw [h] at hnear
  cases hnear

/-- **No conflict is reported only if no two networks collide.** -/
theorem validateNetworksSeparation_nil {networks : List NetworkRecord} (hids : (networks.map (·.id)).Nodup)
    (h : validateNetworksSeparation networks = .ok []) :
    networks.Pairwise fun a b => ¬ Collide a.rfConfig b.rfConfig := by
  induction networks with
  | nil => exact List.Pairwise.nil
  | cons a rest ih =>
    obtain ⟨hnew, hrest⟩ := List.nodup_cons.mp hids
    unfold validateNetworksSeparation at h
    obtain ⟨conflicts, hconflicts, h⟩ := bind_ok.mp h
    obtain ⟨later, hlater, h⟩ := bind_ok.mp h
    obtain ⟨rfl, rfl⟩ := List.append_eq_nil_iff.mp (Except.ok.inj h)
    refine List.pairwise_cons.mpr ⟨fun b hb => ?_, ih hrest hlater⟩
    cases ha : policyConfig a.rfConfig with
    | none =>
      rintro ⟨cfgA, -, -, -, -, ha', -⟩
      rw [ha] at ha'
      cases ha'
    | some cfgA =>
      rw [conflictsOf, ha] at hconflicts
      obtain ⟨found, hfound, hnil⟩ := bind_ok.mp hconflicts
      have hpair := mapM_none_iff.mp ⟨found, hfound, Except.ok.inj hnil⟩ b hb
      refine pairConflict_none ha (fun heq => hnew ?_) hpair
      exact List.mem_map.mpr ⟨b, hb, heq.symm⟩

/-- A conflict is reported of a pair that collides. -/
theorem pairConflict_some {a b : NetworkRecord} {cfgA : Dict} {c : SeparationConflict}
    (ha : policyConfig a.rfConfig = some cfgA) (h : pairConflict a b cfgA = .ok (some c)) :
    Collide a.rfConfig b.rfConfig := by
  cases pairConflict_ok.mp h with
  | near hb _ hsa hsb hfa hfb hgap => exact ⟨_, _, _, _, _, ha, hb, hsa, hsb, hfa, hfb, hgap⟩

/-- Of networks that do not collide, no conflict is reported. -/
theorem validateNetworksSeparation_of_pairwise {networks : List NetworkRecord}
    {conflicts : List SeparationConflict}
    (hapart : networks.Pairwise fun a b => ¬ Collide a.rfConfig b.rfConfig)
    (h : validateNetworksSeparation networks = .ok conflicts) : conflicts = [] := by
  induction networks generalizing conflicts with
  | nil => exact (Except.ok.inj h).symm
  | cons a rest ih =>
    obtain ⟨hfirst, hrest⟩ := List.pairwise_cons.mp hapart
    unfold validateNetworksSeparation at h
    obtain ⟨own, hown, h⟩ := bind_ok.mp h
    obtain ⟨later, hlater, h⟩ := bind_ok.mp h
    have hnone : own = [] := by
      cases ha : policyConfig a.rfConfig with
      | none =>
        rw [conflictsOf, ha] at hown
        exact (Except.ok.inj hown).symm
      | some cfgA =>
        rw [conflictsOf, ha] at hown
        obtain ⟨found, hfound, hown⟩ := bind_ok.mp hown
        rw [← Except.ok.inj hown, List.filterMap_eq_nil_iff]
        intro c hc
        obtain ⟨b, hb, hpair⟩ := exists_of_forall₂_right (mapM_ok.mp hfound) hc
        cases c with
        | none => rfl
        | some conflict => exact absurd (pairConflict_some ha hpair) (hfirst b hb)
    rw [← Except.ok.inj h, hnone, ih hrest hlater]
    rfl

/-- Settings that the policy can judge have no occupants just if they can be read, and no network is one. -/
theorem occupantsOf_nil_iff {networks : List NetworkRecord} {cfg policy : Dict} {excludeNetworkId : String}
    (hpolicy : policyConfig (some cfg) = some policy) :
    occupantsOf networks cfg excludeNetworkId = .ok [] ↔ ∃ freq sync, freqOf policy = .ok freq ∧
      syncOf policy = .ok sync ∧ ∀ net ∈ networks, occupantOf freq sync excludeNetworkId net = .ok none := by
  unfold occupantsOf
  rw [hpolicy]
  constructor
  · intro h
    obtain ⟨freq, hfreq, h⟩ := bind_ok.mp h
    obtain ⟨sync, hsync, h⟩ := bind_ok.mp h
    obtain ⟨found, hfound, hnil⟩ := bind_ok.mp h
    exact ⟨freq, sync, hfreq, hsync, mapM_none_iff.mp ⟨found, hfound, Except.ok.inj hnil⟩⟩
  · intro ⟨freq, sync, hfreq, hsync, hnone⟩
    obtain ⟨found, hfound, hnil⟩ := mapM_none_iff.mpr hnone
    dsimp only
    rw [hfreq, ok_bind, hsync, ok_bind, hfound, ok_bind, hnil]
    rfl

/-- **A channel without occupants collides with no network but the excluded one.** -/
theorem occupantsOf_nil {networks : List NetworkRecord} {cfg : Dict} {excludeNetworkId : String}
    (h : occupantsOf networks cfg excludeNetworkId = .ok []) :
    ∀ net ∈ networks, net.id ≠ excludeNetworkId ∨ excludeNetworkId = "" → ¬ Collide (some cfg) net.rfConfig := by
  rintro net hnet hid ⟨cfgA, cfgB, sync, freqA, freqB, ha, hb, hsa, hsb, hfa, hfb, hgap⟩
  obtain ⟨freq, sync', hfreq, hsync, hnone⟩ := (occupantsOf_nil_iff ha).mp h
  cases hfa.symm.trans hfreq
  cases hsa.symm.trans hsync
  have hexcluded : ¬ (excludeNetworkId ≠ "" ∧ net.id = excludeNetworkId) := fun hboth =>
    hid.elim (fun hne => hne hboth.2) fun hempty => hboth.1 hempty
  have hgap' : ¬ MIN_SEPARATION_HZ ≤ ((freqB - freqA).natAbs : Int) := by
    rw [← Int.natAbs_neg, Int.neg_sub]
    exact Int.not_le.mpr hgap
  have hoccupant := hnone net hnet
  unfold occupantOf at hoccupant
  rw [hb] at hoccupant
  dsimp only at hoccupant
  rw [if_neg hexcluded, hsb, ok_bind, if_neg (by simp), hfb, ok_bind, if_neg hgap'] at hoccupant
  cases hoccupant

end RaceLink.Gateways
