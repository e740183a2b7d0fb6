import RaceLink.Gateways.Networks
import RaceLink.Library.Keyed
import RaceLink.Library.Pairs

/-! The channel picker and the separation check: `occupants_of` and
`validate_networks_separation` go through the networks with loops of their own.

The check reads the frequencies of a pair only if the SyncWords agree, the picker reads
those of the candidate before anything else. Where both can be read they agree
(`picker_agrees`); a candidate that is no number on a SyncWord of its own is saved, and
raises in the picker (`unreadable_saved`). -/
namespace RaceLink.Gateways
open Python Library Domain

/-- `occupants_of`, also of no settings and with no network excluded. -/
def occupantsOfConfig (networks : List NetworkRecord) (cfg : Option Dict) (excludeNetworkId : Option String) :
    Except PyError (List Occupant) :=
  match cfg with
  | none => .ok []
  | some cfg => occupantsOf networks cfg (excludeNetworkId.getD "")

/-- What the policy needs of some settings is a number, if it is there. -/
def Readable (cfg : Option Dict) : Prop :=
  ∀ cfg', policyConfig cfg = some cfg' → (∃ freq, freqOf cfg' = .ok freq) ∧ ∃ sync, syncOf cfg' = .ok sync

/-! ### Both loops, pair by pair -/

/-- What the check says of two networks. -/
def examine (a b : NetworkRecord) : Except PyError (Option SeparationConflict) :=
  match policyConfig a.rfConfig with
  | none => .ok none
  | some cfgA => pairConflict a b cfgA

theorem conflictsOf_eq (a : NetworkRecord) (rest : List NetworkRecord) :
    conflictsOf a rest = (rest.mapM (examine a)).map (·.filterMap id) := by
  unfold conflictsOf
  cases ha : policyConfig a.rfConfig with
  | none =>
    have hnone : rest.mapM (examine a) = .ok (rest.map fun _ => none) := by
      rw [mapM_ok, List.forall₂_map_right_iff, List.forall₂_same]
      intro b _
      rw [examine, ha]
    rw [hnone]
    simp [Except.map]
  | some cfgA =>
    have hsame : examine a = fun b => pairConflict a b cfgA := by
      funext b
      rw [examine, ha]
    rw [hsame]
    dsimp only
    cases rest.mapM fun b => pairConflict a b cfgA with
    | error e => rfl
    | ok found => rfl

/-- The check asks about every pair once. -/
theorem validateNetworksSeparation_eq (networks : List NetworkRecord) :
    validateNetworksSeparation networks =
      ((pairsOf networks).mapM fun p => examine p.1 p.2).map (·.filterMap id) := by
  induction networks with
  | nil => rfl
  | cons a rest ih =>
    have hfirst : (rest.map fun b => (a, b)).mapM (fun p => examine p.1 p.2) = rest.mapM (examine a) := by
      rw [List.mapM_map]
      rfl
    rw [validateNetworksSeparation, conflictsOf_eq, ih, pairsOf, List.mapM_append, hfirst]
    cases rest.mapM (examine a) with
    | error e => rfl
    | ok found =>
      cases (pairsOf rest).mapM fun p => examine p.1 p.2 with
      | error e => rfl
      | ok later => simp [Except.map]

theorem validateNetworksSeparation_nil_iff {networks : List NetworkRecord} :
    validateNetworksSeparation networks = .ok [] ↔ networks.Pairwise fun a b => examine a b = .ok none := by
  rw [validateNetworksSeparation_eq, map_ok, ← forall_pairsOf]
  exact mapM_none_iff

/-! ### Another order -/

/-- A conflict, whichever of the two comes first. -/
def SeparationConflict.unordered (c : SeparationConflict) : Sym2 Tuned × Int := (s(c.a, c.b), c.gapHz)

/-- Both checks raise, or both report the same unordered pairs, each as often. -/
def SameConflicts : Except PyError (List SeparationConflict) → Except PyError (List SeparationConflict) → Prop
  | .ok conflicts, .ok conflicts' =>
    (conflicts.map SeparationConflict.unordered).Perm (conflicts'.map SeparationConflict.unordered)
  | .error _, .error _ => True
  | _, _ => False

theorem natAbs_sub_symm (m n : Int) : (n - m).natAbs = (m - n).natAbs := by omega

/-- The other way round, the check makes the same of two networks. -/
theorem Compared.symm {a b : NetworkRecord} {cfgA cfgB : Dict} {x : Option SeparationConflict}
    (h : Compared a b cfgA x) (ha : policyConfig a.rfConfig = some cfgA) (hb : policyConfig b.rfConfig = some cfgB) :
    ∃ y, Compared b a cfgB y ∧ y.map SeparationConflict.unordered = x.map SeparationConflict.unordered := by
  have hother : ¬ (a.id ≠ "" ∧ b.id ≠ "" ∧ a.id = b.id) → ¬ (b.id ≠ "" ∧ a.id ≠ "" ∧ b.id = a.id) :=
    fun hid h => hid ⟨h.2.1, h.1, h.2.2.symm⟩
  cases h with
  | unset hb' =>
    rw [hb] at hb'
    cases hb'
  | itself hid => exact ⟨none, .itself ⟨hid.2.1, hid.1, hid.2.2.symm⟩, rfl⟩
  | otherSync hb' hid hsa hsb hsync =>
    cases hb.symm.trans hb'
    exact ⟨none, .otherSync ha (hother hid) hsb hsa hsync.symm, rfl⟩
  | apart hb' hid hsa hsb hfa hfb hgap =>
    cases hb.symm.trans hb'
    exact ⟨none, .apart ha (hother hid) hsb hsa hfb hfa (by rwa [natAbs_sub_symm]), rfl⟩
  | near hb' hid hsa hsb hfa hfb hgap =>
    cases hb.symm.trans hb'
    refine ⟨_, .near ha (hother hid) hsb hsa hfb hfa (by rwa [natAbs_sub_symm]), ?_⟩
    simp only [Option.map_some, SeparationConflict.unordered, Sym2.eq_swap, natAbs_sub_symm]

theorem examine_symm (a b : NetworkRecord) (x : Option SeparationConflict) (h : examine a b = .ok x) :
    ∃ y, examine b a = .ok y ∧ y.map SeparationConflict.unordered = x.map SeparationConflict.unordered := by
  unfold examine at h ⊢
  cases ha : policyConfig a.rfConfig with
  | none =>
    rw [ha] at h
    cases h
    cases policyConfig b.rfConfig with
    | none => exact ⟨none, rfl, rfl⟩
    | some cfgB => exact ⟨none, pairConflict_ok.mpr (.unset ha), rfl⟩
  | some cfgA =>
    rw [ha] at h
    cases hb : policyConfig b.rfConfig with
    | none =>
      have hunset : pairConflict a b cfgA = .ok none := pairConflict_ok.mpr (.unset hb)
      cases h.symm.trans hunset
      exact ⟨none, rfl, rfl⟩
    | some cfgB =>
      obtain ⟨y, hy, hsame⟩ := (pairConflict_ok.mp h).symm ha hb
      exact ⟨y, pairConflict_ok.mpr hy, hsame⟩

theorem SameConflicts.of_ok {x y : Except PyError (List SeparationConflict)}
    (h : ∀ conflicts, x = .ok conflicts → ∃ conflicts', y = .ok conflicts' ∧
      (conflicts'.map SeparationConflict.unordered).Perm (conflicts.map SeparationConflict.unordered))
    (h' : ∀ conflicts, y = .ok conflicts → ∃ conflicts', x = .ok conflicts') : SameConflicts x y := by
  cases x with
  | ok conflicts =>
    obtain ⟨conflicts', rfl, hperm⟩ := h conflicts rfl
    exact hperm.symm
  | error e =>
    cases y with
    | error e' => exact trivial
    | ok conflicts =>
      obtain ⟨_, hok⟩ := h' conflicts rfl
      cases hok

theorem validateNetworksSeparation_ok_perm {networks networks' : List NetworkRecord} (h : networks.Perm networks')
    {conflicts : List SeparationConflict} (hok : validateNetworksSeparation networks = .ok conflicts) :
    ∃ conflicts', validateNetworksSeparation networks' = .ok conflicts' ∧
      (conflicts'.map SeparationConflict.unordered).Perm (conflicts.map SeparationConflict.unordered) := by
  rw [validateNetworksSeparation_eq, map_ok] at hok
  obtain ⟨found, hfound, rfl⟩ := hok
  obtain ⟨found', hfound', hperm⟩ := mapM_pairsOf_perm examine_symm h hfound
  refine ⟨found'.filterMap id, by rw [validateNetworksSeparation_eq, hfound']; rfl, ?_⟩
  have hreported : ∀ answers : List (Option SeparationConflict),
      (answers.filterMap id).map SeparationConflict.unordered =
        (answers.map fun x => x.map SeparationConflict.unordered).filterMap id := by
    intro answers
    rw [List.map_filterMap, List.filterMap_map]
    rfl
  rw [hreported, hreported]
  exact hperm.filterMap _

/-- The conflicts do not depend on the order of the networks. -/
theorem validateNetworksSeparation_perm {networks networks' : List NetworkRecord} (h : networks.Perm networks') :
    SameConflicts (validateNetworksSeparation networks) (validateNetworksSeparation networks') := by
  apply SameConflicts.of_ok
  · exact fun _ hok => validateNetworksSeparation_ok_perm h hok
  · intro conflicts hok
    obtain ⟨conflicts', hok', _⟩ := validateNetworksSeparation_ok_perm h.symm hok
    exact ⟨conflicts', hok'⟩

theorem validateNetworksSeparation_nil_perm {networks networks' : List NetworkRecord} (h : networks.Perm networks') :
    validateNetworksSeparation networks = .ok [] ↔ validateNetworksSeparation networks' = .ok [] := by
  have hone : ∀ {ns ns' : List NetworkRecord}, ns.Perm ns' → validateNetworksSeparation ns = .ok [] →
      validateNetworksSeparation ns' = .ok [] := by
    intro ns ns' hns hok
    obtain ⟨conflicts, hok', hperm⟩ := validateNetworksSeparation_ok_perm hns hok
    obtain rfl := List.map_eq_nil_iff.mp (List.Perm.eq_nil hperm)
    exact hok'
  exact ⟨hone h, hone h.symm⟩

/-! ### The picker -/

/-- A network occupies a readable candidate's channel just if the check objects to the two. -/
theorem occupantOf_none_iff {new net : NetworkRecord} {cfg : Dict} {freq sync : Int} {excludeNetworkId : String}
    (hcfg : policyConfig new.rfConfig = some cfg) (hfreq : freqOf cfg = .ok freq) (hsync : syncOf cfg = .ok sync)
    (hid : new.id ≠ net.id) (hkept : ¬ (excludeNetworkId ≠ "" ∧ net.id = excludeNetworkId)) :
    occupantOf freq sync excludeNetworkId net = .ok none ↔ examine new net = .ok none := by
  unfold occupantOf examine pairConflict
  rw [hcfg]
  cases policyConfig net.rfConfig with
  | none => exact iff_of_true rfl rfl
  | some cfgB =>
    dsimp only
    rw [if_neg hkept, if_neg fun h => hid h.2.2, hsync, hfreq]
    cases syncOf cfgB with
    | error e => exact iff_of_false nofun nofun
    | ok otherSync =>
      simp only [ok_bind]
      by_cases hsame : otherSync = sync
      · rw [if_neg (not_not_intro hsame), if_neg (not_not_intro hsame.symm)]
        cases freqOf cfgB with
        | error e => exact iff_of_false nofun nofun
        | ok otherFreq =>
          have hgap : (otherFreq - freq).natAbs = (freq - otherFreq).natAbs := by omega
          simp only [ok_bind, hgap]
          split
          · exact iff_of_true rfl rfl
          · exact iff_of_false nofun nofun
      · rw [if_pos hsame, if_pos (Ne.symm hsame)]
        exact iff_of_true rfl rfl

theorem occupantOf_excluded {freq sync : Int} {net : NetworkRecord} (hnamed : net.id ≠ "") :
    occupantOf freq sync net.id net = .ok none := by
  unfold occupantOf
  split
  · rfl
  · exact if_pos ⟨hnamed, rfl⟩

/-- The networks that are not excluded, seen from a candidate: the picker finds none of them on its channel just if
it can read the candidate and the check objects to no pair. -/
theorem occupantsOfConfig_nil_iff {networks : List NetworkRecord} (new : NetworkRecord)
    {excludeNetworkId : Option String}
    (hnamed : ∀ net ∈ networks, net.id ≠ "")
    (hid : ∀ net ∈ networks, net.id ≠ excludeNetworkId.getD "" → new.id ≠ net.id) :
    occupantsOfConfig networks new.rfConfig excludeNetworkId = .ok [] ↔ Readable new.rfConfig ∧
      ∀ net ∈ networks, net.id ≠ excludeNetworkId.getD "" → examine new net = .ok none := by
  unfold occupantsOfConfig
  cases hnew : new.rfConfig with
  | none =>
    refine iff_of_true rfl ⟨nofun, fun net _ _ => ?_⟩
    rw [examine, hnew]
    rfl
  | some c =>
    dsimp only
    cases hcfg : policyConfig (some c) with
    | none =>
      have hfree : occupantsOf networks c (excludeNetworkId.getD "") = .ok [] := by
        unfold occupantsOf
        rw [hcfg]
      refine iff_of_true hfree ⟨?_, fun net _ _ => by rw [examine, hnew, hcfg]⟩
      intro cfg' h
      rw [hcfg] at h
      cases h
    | some cfg =>
      rw [occupantsOf_nil_iff hcfg]
      constructor
      · intro ⟨freq, sync, hfreq, hsync, hnone⟩
        refine ⟨fun cfg' h => ?_, fun net hnet hkept => ?_⟩
        · cases hcfg.symm.trans h
          exact ⟨⟨freq, hfreq⟩, sync, hsync⟩
        · exact (occupantOf_none_iff (hnew ▸ hcfg) hfreq hsync (hid net hnet hkept) fun h => hkept h.2).mp (hnone net hnet)
      · intro ⟨hread, hfree⟩
        obtain ⟨⟨freq, hfreq⟩, sync, hsync⟩ := hread cfg hcfg
        refine ⟨freq, sync, hfreq, hsync, fun net hnet => ?_⟩
        by_cases hskip : net.id = excludeNetworkId.getD ""
        · rw [← hskip]
          exact occupantOf_excluded (hnamed net hnet)
        · exact (occupantOf_none_iff (hnew ▸ hcfg) hfreq hsync (hid net hnet hskip) fun h => hskip h.2).mpr
            (hfree net hnet hskip)

/-! ### What the picker promises -/

/-- Of these networks the picker and the check say the same: of a new network, of a network whose settings are
replaced where it stands, and of the list that `api_network_update` checks. -/
structure PickerAgrees (networks : List NetworkRecord) : Prop where
  created : ∀ new : NetworkRecord, (∀ net ∈ networks, net.id ≠ new.id) →
    (occupantsOfConfig networks new.rfConfig none = .ok [] ↔
      Readable new.rfConfig ∧ validateNetworksSeparation (networks ++ [new]) = .ok [])
  replaced : ∀ net ∈ networks, ∀ cfg : Option Dict,
    (occupantsOfConfig networks cfg (some net.id) = .ok [] ↔ Readable cfg ∧
      validateNetworksSeparation (updateKey (·.id) net.id (fun n => {n with rfConfig := cfg}) networks) = .ok [])
  saved : ∀ s : State, s.networks = networks → ∀ net ∈ networks, ∀ cfg : Dict,
    (occupantsOfConfig networks (some cfg) (some net.id) = .ok [] ↔
      Readable (some cfg) ∧ checkSeparation s net cfg = .ok ())

theorem validateNetworksSeparation_cons_nil {new : NetworkRecord} {networks : List NetworkRecord}
    (h : validateNetworksSeparation networks = .ok []) :
    validateNetworksSeparation (new :: networks) = .ok [] ↔ ∀ net ∈ networks, examine new net = .ok none := by
  rw [validateNetworksSeparation_nil_iff] at h ⊢
  rw [List.pairwise_cons]
  exact and_iff_left h

theorem validateNetworksSeparation_filter {networks : List NetworkRecord} (p : NetworkRecord → Bool)
    (h : validateNetworksSeparation networks = .ok []) : validateNetworksSeparation (networks.filter p) = .ok [] := by
  rw [validateNetworksSeparation_nil_iff] at h ⊢
  exact h.sublist List.filter_sublist

theorem checkSeparation_ok_iff {s : State} {net : NetworkRecord} {cfg : Dict} : checkSeparation s net cfg = .ok () ↔
    validateNetworksSeparation ({net with rfConfig := some cfg} :: s.networks.filter fun n => n.id ≠ net.id) = .ok [] := by
  unfold checkSeparation
  dsimp only
  split
  · next h => exact iff_of_false nofun (by rw [h]; nofun)
  · next h => exact iff_of_true rfl h
  · next h => exact iff_of_false nofun (by rw [h]; nofun)

section Checked
variable {networks : List NetworkRecord}

theorem picker_created (hnamed : ∀ net ∈ networks, net.id ≠ "") (h : validateNetworksSeparation networks = .ok [])
    (new : NetworkRecord) (hfresh : ∀ net ∈ networks, net.id ≠ new.id) :
    occupantsOfConfig networks new.rfConfig none = .ok [] ↔
      Readable new.rfConfig ∧ validateNetworksSeparation (networks ++ [new]) = .ok [] := by
  rw [occupantsOfConfig_nil_iff new hnamed fun net hnet _ => (hfresh net hnet).symm,
    validateNetworksSeparation_nil_perm (List.perm_append_singleton new networks), validateNetworksSeparation_cons_nil h]
  refine and_congr_right fun _ => forall₂_congr fun net hnet => ?_
  exact ⟨fun hfree => hfree (hnamed net hnet), fun hfree _ => hfree⟩

/-- The pairs that the picker looks at are those of the changed network and the others. -/
theorem picker_others (hnamed : ∀ net ∈ networks, net.id ≠ "") (h : validateNetworksSeparation networks = .ok [])
    {net : NetworkRecord} (cfg : Option Dict) :
    occupantsOfConfig networks cfg (some net.id) = .ok [] ↔ Readable cfg ∧
      validateNetworksSeparation ({net with rfConfig := cfg} :: networks.filter fun n => n.id ≠ net.id) = .ok [] := by
  have hpicker := @occupantsOfConfig_nil_iff networks {net with rfConfig := cfg} (some net.id)
    hnamed fun n _ hne => hne.symm
  rw [validateNetworksSeparation_cons_nil (validateNetworksSeparation_filter _ h)]
  refine hpicker.trans (and_congr_right fun _ => ?_)
  simp only [List.mem_filter, decide_eq_true_eq, and_imp]
  rfl

/-- **The channel picker and the separation check agree of every candidate that can be read, and the conflicts
do not depend on the order of the networks.** -/
theorem picker_agrees :
    (∀ networks : List NetworkRecord, (networks.map (·.id)).Nodup → (∀ net ∈ networks, net.id ≠ "") →
      validateNetworksSeparation networks = .ok [] → PickerAgrees networks) ∧
    ∀ networks networks' : List NetworkRecord, networks.Perm networks' →
      SameConflicts (validateNetworksSeparation networks) (validateNetworksSeparation networks') := by
  refine ⟨fun networks hids hnamed h => ⟨picker_created hnamed h, fun net hnet cfg => ?_, ?_⟩,
    fun _ _ => validateNetworksSeparation_perm⟩
  · rw [validateNetworksSeparation_nil_perm (updateKey_perm hids hnet _)]
    exact picker_others hnamed h cfg
  · intro s hs net _ cfg
    rw [checkSeparation_ok_iff, hs]
    exact picker_others hnamed h (some cfg)

end Checked

/-- A network with these settings. -/
def networkWith (id freqHz : String) (syncWord : Int) : NetworkRecord where
  id := id
  kind := .rf
  gatewayMac := none
  name := id
  region := "EU868"
  channelId := none
  rfConfig := some [(.str "freq_hz", .str freqHz), (.str "sync_word", .int syncWord)]
  ethConfig := none
  createdTs := .finite 0

/-- Two networks on one SyncWord, with room for a third between them. -/
theorem picker_agrees_two : PickerAgrees [networkWith "a" "867700000" 0x12, networkWith "b" "868700000" 0x12] :=
  picker_agrees.1 _ (by decide +kernel) (by decide +kernel) (by decide +kernel)

/-- A frequency in words, on a SyncWord that no other network has: the check never reads it. -/
theorem unreadable_saved : ∃ (networks : List NetworkRecord) (new : NetworkRecord), (networks.map (·.id)).Nodup ∧
    (∀ net ∈ networks, net.id ≠ "") ∧ validateNetworksSeparation networks = .ok [] ∧
    (∀ net ∈ networks, net.id ≠ new.id) ∧ ¬ (occupantsOfConfig networks new.rfConfig none = .ok [] ↔
      validateNetworksSeparation (networks ++ [new]) = .ok []) :=
  ⟨[networkWith "a" "868200000" 0x12], networkWith "b" "868.2 MHz" 0x34, by decide +kernel⟩

end RaceLink.Gateways
