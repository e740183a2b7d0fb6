import RaceLink.Fleet.Moving

/-! Requests to move devices or groups that are not valid. A move of devices that is
refused leaves everything alone. A move of groups takes every id mod 256 first, and files
the groups under the target even where the move of their members is refused. -/
namespace RaceLink.Fleet
open Python Library Domain Routing Gateways

/-! ### What is not valid -/

/-- The group with an id. -/
def groupAt (s : State) (groupId : Int) : Option GroupRecord :=
  if 0 ≤ groupId then s.groups[groupId.toNat]? else none

/-- A group on a network of another kind. -/
def OtherKind (s : State) (network : NetworkRecord) (groupId : Int) : Prop :=
  ∃ group ∈ groupAt s groupId, ∃ n ∈ (nonEmpty group.networkId).bind s.networkById, n.kind ≠ network.kind

/-- An id that is no group's, or that of a group which cannot go to the target. -/
def BadId (s : State) (target : String) (groupId : Int) : Prop :=
  groupAt s groupId = none ∨ ∃ network ∈ s.networkById target, OtherKind s network groupId

/-- A network without RF settings. -/
def Unset (network : NetworkRecord) : Prop := normalizeRfConfig network.rfConfig = .ok none

/-- The target is not there, or has no settings. -/
def BadTarget (s : State) (target : String) : Prop := ∀ network ∈ s.networkById target, Unset network

/-- A refusal. -/
def Moved.Refused (m : Moved) : Prop :=
  ∃ result, m.answer = .ok result ∧ result.ok = false ∧ result.stage = "validate"

/-- Nothing was changed, and nothing was sent. -/
structure Moved.Untouched (m : Moved) (s : State) : Prop where
  devices : m.state.devices = s.devices
  groups : m.state.groups = s.groups
  networks : m.state.networks = s.networks
  frames : m.frames = []

/-- **An invalid request is refused, and a refusal changes nothing.** -/
def Moved.Guarded (m : Moved) (s : State) (invalid : Prop) : Prop :=
  (invalid → m.Refused) ∧ (m.Refused → m.Untouched s)

/-- The checks on the ids that a move of groups makes first. -/
def Stopped (s : State) (target : String) (groupIds : List Int) : Prop :=
  s.networkById target = none ∨ groupIds = [] ∨ ∃ g ∈ groupIds, BadId s target (g % 256)

/-- Where a move of groups is guarded: it is stopped at once, or each id is good as it stands
and the target has settings, or it has none and the groups are there already. -/
def CleanRequest (s : State) (target : String) (groupIds : List Int) : Prop :=
  Stopped s target groupIds ∨ ∀ network ∈ s.networkById target,
    (¬ Unset network ∧ ∀ g ∈ groupIds, ¬ BadId s target g) ∨
    (Unset network ∧ ∀ g ∈ groupIds, ∀ group ∈ groupAt s (g % 256), group.networkId = some target)

section Refusals
variable {s : State} {target : String} {groupIds : List Int}

/-! ### Devices -/

theorem moveTarget_cases (s : State) (target : String) :
    (∃ e network, s.networkById target = some network ∧ ¬ Unset network ∧ moveTarget s target = .error e) ∨
      (BadTarget s target ∧ ∃ text args, moveTarget s target = .ok (.error (moveRefused text args))) ∨
      ∃ network rf, s.networkById target = some network ∧ ¬ Unset network ∧
        moveTarget s target = .ok (.ok rf) := by
  unfold moveTarget BadTarget
  cases hnetwork : s.networkById target with
  | none => exact .inr (.inl ⟨by simp, _, _, rfl⟩)
  | some network =>
    dsimp only
    cases hsettings : normalizeRfConfig network.rfConfig with
    | error e => exact .inl ⟨e, network, rfl, by simp [Unset, hsettings], rfl⟩
    | ok settings =>
      cases settings with
      | none => exact .inr (.inl ⟨by simpa [Unset] using hsettings, _, _, rfl⟩)
      | some rf => exact .inr (.inr ⟨network, rf, rfl, by simp [Unset, hsettings], rfl⟩)

/-- A move of devices is guarded. -/
theorem migrateDevicesTo_guarded (s : State) (target : String) (macs : List String) (force : Bool)
    (air : String → Exchange) :
    (migrateDevicesTo s target macs force air).Guarded s (BadTarget s target) := by
  rcases moveTarget_cases s target with
    ⟨e, network, hnetwork, hset, htarget⟩ | ⟨hbad, text, args, htarget⟩ | ⟨network, rf, hnetwork, hset, htarget⟩
  · refine ⟨fun hbad => absurd (hbad network hnetwork) hset, ?_⟩
    rintro ⟨result, hanswer, -⟩
    rw [migrateDevicesTo, htarget] at hanswer
    cases hanswer
  · unfold migrateDevicesTo
    rw [htarget]
    exact ⟨fun _ => ⟨_, rfl, rfl, rfl⟩, fun _ => ⟨rfl, rfl, rfl, rfl⟩⟩
  · refine ⟨fun hbad => absurd (hbad network hnetwork) hset, ?_⟩
    rintro ⟨result, hanswer, -, hstage⟩
    rw [migrateDevicesTo, htarget] at hanswer
    cases hanswer
    exact absurd hstage (show ("done" : String) ≠ "validate" by decide)

/-! ### Groups -/

theorem groupAt_byte (s : State) (g : Int) : groupAt s (g % 256) = s.groups[(g % 256).toNat]? :=
  if_pos (by omega)

theorem validateNetworkKindMatch_ok {network : NetworkRecord} {sources : List NetworkRecord} :
    validateNetworkKindMatch network sources = .ok () ↔ ∀ n ∈ sources, n.kind = network.kind := by
  unfold validateNetworkKindMatch
  cases hother : sources.filter fun n => n.kind ≠ network.kind with
  | nil =>
    refine iff_of_true rfl fun n hn => ?_
    have := List.filter_eq_nil_iff.mp hother n hn
    simpa using this
  | cons first rest =>
    refine iff_of_false nofun fun h => ?_
    have hmem : first ∈ sources.filter fun n => n.kind ≠ network.kind := by
      rw [hother]
      exact List.mem_cons_self ..
    obtain ⟨hfirst, hne⟩ := List.mem_filter.mp hmem
    exact absurd (h first hfirst) (of_decide_eq_true hne)

theorem mem_cleanGroupIds {g : Int} : g ∈ cleanGroupIds groupIds ↔ ∃ n ∈ groupIds, n % 256 = g := by
  rw [cleanGroupIds, mem_keepFirst_id, List.mem_map]

theorem mem_sourceNetworks {n : NetworkRecord} : n ∈ sourceNetworks s (cleanGroupIds groupIds) ↔
    ∃ g ∈ groupIds, ∃ group ∈ groupAt s (g % 256), n ∈ (nonEmpty group.networkId).bind s.networkById := by
  unfold sourceNetworks
  simp only [List.mem_filterMap, mem_keepFirst_id, mem_cleanGroupIds, groupAt_byte, Option.mem_def,
    Option.bind_eq_some_iff]
  constructor
  · rintro ⟨id, ⟨_, ⟨g, hg, rfl⟩, group, hgroup, hid⟩, hn⟩
    exact ⟨g, hg, group, hgroup, id, hid, hn⟩
  · rintro ⟨g, hg, group, hgroup, id, hid, hn⟩
    exact ⟨id, ⟨_, ⟨g, hg, rfl⟩, group, hgroup, hid⟩, hn⟩

/-- The checks pass exactly when nothing stops the move. -/
theorem checkGroups_ok : checkGroups s target (cleanGroupIds groupIds) = .ok () ↔ ¬ Stopped s target groupIds := by
  have hnil : cleanGroupIds groupIds = [] ↔ groupIds = [] := by
    constructor
    · intro h
      refine List.eq_nil_iff_forall_not_mem.mpr fun g hg => ?_
      have hmem := mem_cleanGroupIds.mpr ⟨g, hg, rfl⟩
      rw [h] at hmem
      cases hmem
    · rintro rfl
      rfl
  unfold checkGroups Stopped
  cases hnetwork : s.networkById target with
  | none => exact iff_of_false nofun (by simp)
  | some network =>
    dsimp only
    by_cases hempty : groupIds = []
    · rw [if_pos (hnil.mpr hempty)]
      exact iff_of_false nofun (by simp [hempty])
    rw [if_neg fun h => hempty (hnil.mp h)]
    by_cases hunknown : (cleanGroupIds groupIds).filter (fun g => (s.groups[g.toNat]?).isNone) = []
    · rw [if_neg (not_not.mpr hunknown)]
      have hknown : ∀ g ∈ groupIds, ¬ groupAt s (g % 256) = none := by
        intro g hg hnone
        rw [groupAt_byte] at hnone
        have := List.filter_eq_nil_iff.mp hunknown _ (mem_cleanGroupIds.mpr ⟨g, hg, rfl⟩)
        simp [hnone] at this
      have hkind : validateNetworkKindMatch network (sourceNetworks s (cleanGroupIds groupIds)) = .ok () ↔
          ∀ g ∈ groupIds, ¬ BadId s target (g % 256) := by
        rw [validateNetworkKindMatch_ok]
        constructor
        · rintro h g hg (hnone | ⟨network', hnetwork', group, hgroup, n, hn, hne⟩)
          · exact hknown g hg hnone
          · cases hnetwork.symm.trans hnetwork'
            exact hne (h n (mem_sourceNetworks.mpr ⟨g, hg, group, hgroup, hn⟩))
        · intro h n hn
          obtain ⟨g, hg, group, hgroup, hn⟩ := mem_sourceNetworks.mp hn
          by_contra hne
          exact h g hg (.inr ⟨network, hnetwork, group, hgroup, n, hn, hne⟩)
      have hgoal : (¬ (some network = none ∨ groupIds = [] ∨ ∃ g ∈ groupIds, BadId s target (g % 256))) ↔
          ∀ g ∈ groupIds, ¬ BadId s target (g % 256) := by
        simp [hempty]
      rw [hgoal, ← hkind]
      cases hmatch : validateNetworkKindMatch network (sourceNetworks s (cleanGroupIds groupIds)) with
      | ok _ => exact iff_of_true rfl rfl
      | error violation => exact iff_of_false nofun nofun
    · rw [if_pos hunknown]
      refine iff_of_false nofun (not_not.mpr (.inr (.inr ?_)))
      obtain ⟨g, hg⟩ := List.exists_mem_of_ne_nil _ hunknown
      obtain ⟨hmem, hnone⟩ := List.mem_filter.mp hg
      obtain ⟨n, hn, rfl⟩ := mem_cleanGroupIds.mp hmem
      exact ⟨n, hn, .inl ((groupAt_byte s n).trans (Option.isNone_iff_eq_none.mp hnone))⟩

/-- A refusal of the checks is one of the whole move. -/
theorem checkGroups_refused {refused : MoveResult} {ids : List Int} (h : checkGroups s target ids = .error refused) :
    refused.ok = false ∧ refused.stage = "validate" := by
  unfold checkGroups at h
  split at h
  · cases h
    exact ⟨rfl, rfl⟩
  · split at h
    · cases h
      exact ⟨rfl, rfl⟩
    · dsimp only at h
      split at h
      · cases h
        exact ⟨rfl, rfl⟩
      · split at h
        · cases h
        · cases h
          exact ⟨rfl, rfl⟩

theorem flipGroups_networks (target : String) (s : State) (groupIds : List Int) :
    (groupIds.foldl (flipGroup target) s).networks = s.networks := by
  induction groupIds generalizing s with
  | nil => rfl
  | cons first rest ih => exact ih _

theorem flipGroups_get (target : String) (s : State) (ids : List Int) (i : Nat) :
    (ids.foldl (flipGroup target) s).groups[i]? = (s.groups[i]?).map fun group =>
      if i ∈ ids.map Int.toNat then {group with networkId := some target} else group := by
  induction ids generalizing s with
  | nil => simp
  | cons first rest ih =>
    rw [List.foldl_cons, ih]
    show ((s.groups.modify first.toNat _)[i]?).map _ = _
    rw [List.getElem?_modify]
    cases s.groups[i]? with
    | none => rfl
    | some group =>
      by_cases hrest : i ∈ rest.map Int.toNat
      · by_cases hfirst : first.toNat = i <;> simp [hfirst, hrest]
      · by_cases hfirst : first.toNat = i
        · simp [hfirst, hrest]
        · have hne : ¬ i = first.toNat := fun h => hfirst h.symm
          simp [hfirst, hne, hrest]

/-- Groups that are filed under a network stay as they are only if they are there already. -/
theorem flipGroups_groups : ((cleanGroupIds groupIds).foldl (flipGroup target) s).groups = s.groups ↔
    ∀ g ∈ groupIds, ∀ group ∈ groupAt s (g % 256), group.networkId = some target := by
  constructor
  · intro hsame g hg group hgroup
    rw [groupAt_byte] at hgroup
    have hflip := flipGroups_get target s (cleanGroupIds groupIds) (g % 256).toNat
    have hmem : (g % 256).toNat ∈ (cleanGroupIds groupIds).map Int.toNat :=
      List.mem_map_of_mem (mem_cleanGroupIds.mpr ⟨g, hg, rfl⟩)
    rw [hsame, Option.mem_def.mp hgroup, Option.map_some, if_pos hmem] at hflip
    exact congrArg (fun group : GroupRecord => group.networkId) (Option.some.inj hflip)
  · intro hthere
    refine List.ext_getElem? fun i => ?_
    rw [flipGroups_get]
    cases hgroup : s.groups[i]? with
    | none => rfl
    | some group =>
      rw [Option.map_some]
      split
      · next hmem =>
        obtain ⟨n, hn, rfl⟩ := List.mem_map.mp hmem
        obtain ⟨g, hg, rfl⟩ := mem_cleanGroupIds.mp hn
        have htarget := hthere g hg group (by rw [groupAt_byte]; exact hgroup)
        obtain ⟨⟨networkId⟩, name, staticGroup, devType⟩ := group
        cases htarget
        rfl
      · rfl

theorem Moved.guarded_of_not_refused {m : Moved} {invalid : Prop} (h : ¬ m.Refused) :
    m.Guarded s invalid ↔ ¬ invalid :=
  ⟨fun hguarded hinvalid => h (hguarded.1 hinvalid), fun hvalid => ⟨fun hinvalid => absurd hinvalid hvalid,
    fun hrefused => absurd hrefused h⟩⟩

/-- A move that nothing stops, to a network that has settings, is guarded if the ids are good. -/
theorem guarded_iff_of_set {m : Moved} {network : NetworkRecord} (hnetwork : s.networkById target = some network)
    (hset : ¬ Unset network) (hstop : ¬ Stopped s target groupIds) (hm : ¬ m.Refused) :
    m.Guarded s (BadTarget s target ∨ ∃ g ∈ groupIds, BadId s target g) ↔ CleanRequest s target groupIds := by
  have htarget : ¬ BadTarget s target := fun hbad => hset (hbad network hnetwork)
  rw [Moved.guarded_of_not_refused hm]
  constructor
  · intro hvalid
    refine .inr fun network' hnetwork' => .inl ?_
    cases hnetwork.symm.trans hnetwork'
    exact ⟨hset, fun g hg hbad => hvalid (.inr ⟨g, hg, hbad⟩)⟩
  · rintro hclean (hbad | ⟨g, hg, hbad⟩)
    · exact htarget hbad
    · rcases hclean.resolve_left hstop network hnetwork with ⟨-, hgood⟩ | ⟨hunset, -⟩
      · exact hgood g hg hbad
      · exact hset hunset

/-- A move of groups is guarded exactly for clean requests. -/
theorem migrateGroupsTo_guarded (s : State) (target : String) (groupIds : List Int) (force : Bool)
    (air : String → Exchange) :
    (migrateGroupsTo s target groupIds force air).Guarded s
        (BadTarget s target ∨ ∃ g ∈ groupIds, BadId s target g) ↔ CleanRequest s target groupIds := by
  by_cases hstop : Stopped s target groupIds
  · refine iff_of_true ?_ (.inl hstop)
    unfold migrateGroupsTo
    dsimp only
    cases hcheck : checkGroups s target (cleanGroupIds groupIds) with
    | ok _ => exact absurd hstop (checkGroups_ok.mp hcheck)
    | error refused =>
      obtain ⟨hok, hstage⟩ := checkGroups_refused hcheck
      exact ⟨fun _ => ⟨_, rfl, hok, hstage⟩, fun _ => ⟨rfl, rfl, rfl, rfl⟩⟩
  · have hcheck := checkGroups_ok.mpr hstop
    rcases moveTarget_cases s target with
      ⟨e, network, hnetwork, hset, htarget⟩ | ⟨hbad, text, args, htarget⟩ | ⟨network, rf, hnetwork, hset, htarget⟩
    · refine guarded_iff_of_set hnetwork hset hstop ?_
      rintro ⟨result, hanswer, -⟩
      simp only [migrateGroupsTo, hcheck, migrateDevicesTo, htarget] at hanswer
      cases hanswer
    · obtain ⟨network, hnetwork⟩ := Option.ne_none_iff_exists'.mp fun hnone => hstop (.inl hnone)
      have hunset := hbad network hnetwork
      have hrefused : (migrateGroupsTo s target groupIds force air).Refused := by
        simp only [Moved.Refused, migrateGroupsTo, hcheck, migrateDevicesTo, htarget]
        exact ⟨_, rfl, rfl, rfl⟩
      have huntouched : (migrateGroupsTo s target groupIds force air).Untouched s ↔
          ((cleanGroupIds groupIds).foldl (flipGroup target) s).groups = s.groups := by
        have hdevices := flipGroups_devices target s (cleanGroupIds groupIds)
        have hnetworks := flipGroups_networks target s (cleanGroupIds groupIds)
        have hmove : migrateGroupsTo s target groupIds force air =
            {migrateGroupsTo s target groupIds force air with
              frames := [], state := ((cleanGroupIds groupIds).foldl (flipGroup target) s).save} := by
          simp only [migrateGroupsTo, hcheck, migrateDevicesTo, htarget]
        rw [hmove]
        exact ⟨fun h => h.groups, fun h => ⟨hdevices, h, hnetworks, rfl⟩⟩
      have hguarded : (migrateGroupsTo s target groupIds force air).Guarded s
          (BadTarget s target ∨ ∃ g ∈ groupIds, BadId s target g) ↔
            (migrateGroupsTo s target groupIds force air).Untouched s :=
        ⟨fun h => h.2 hrefused, fun h => ⟨fun _ => hrefused, fun _ => h⟩⟩
      rw [hguarded, huntouched, flipGroups_groups]
      constructor
      · intro hthere
        refine .inr fun network' hnetwork' => .inr ?_
        cases hnetwork.symm.trans hnetwork'
        exact ⟨hunset, hthere⟩
      · intro hclean
        rcases hclean.resolve_left hstop network hnetwork with ⟨hset, -⟩ | ⟨-, hthere⟩
        · exact absurd hunset hset
        · exact hthere
    · refine guarded_iff_of_set hnetwork hset hstop ?_
      rintro ⟨result, hanswer, -, hstage⟩
      simp only [migrateGroupsTo, hcheck, migrateDevicesTo, htarget] at hanswer
      cases hanswer
      exact absurd hstage (show ("done" : String) ≠ "validate" by decide)

/-- **A move of devices is always guarded; a move of groups is exactly for clean requests.** -/
theorem moves_guarded_iff (s : State) (target : String) (force : Bool) (air : String → Exchange) :
    (∀ macs, (migrateDevicesTo s target macs force air).Guarded s (BadTarget s target)) ∧
    ∀ groupIds, (migrateGroupsTo s target groupIds force air).Guarded s
        (BadTarget s target ∨ ∃ g ∈ groupIds, BadId s target g) ↔ CleanRequest s target groupIds :=
  ⟨fun macs => migrateDevicesTo_guarded s target macs force air,
    fun groupIds => migrateGroupsTo_guarded s target groupIds force air⟩

end Refusals

/-- One group, on no network, and a network that has the given settings. -/
def oneGroup (settings : Option Dict) : State where
  networks := [{ id := "b", kind := .rf, gatewayMac := none, name := "B", region := "EU868", channelId := none
                 rfConfig := settings, ethConfig := none, createdTs := .finite 0 }]
  devices := []
  groups := [⟨⟨none⟩, "Unconfigured", 1, 0⟩]
  transports := []
  records := []
  saves := 0

/-- To a network without settings the move is refused, and group 0 is filed under it. To one
with settings the id 256 is accepted, for group 0. -/
theorem group_moves_not_guarded :
    (¬ ∀ s target groupIds force air, (migrateGroupsTo s target groupIds force air).Refused →
      (migrateGroupsTo s target groupIds force air).Untouched s) ∧
    ¬ ∀ s target groupIds force air, (∃ g ∈ groupIds, groupAt s g = none) →
      (migrateGroupsTo s target groupIds force air).Refused := by
  constructor
  · intro hclaim
    have huntouched := hclaim (oneGroup none) "b" [0] false (fun _ => {}) ⟨_, rfl, rfl, rfl⟩
    exact absurd huntouched.groups (by decide +kernel)
  · intro hclaim
    obtain ⟨result, hanswer, -, hstage⟩ := hclaim (oneGroup (channelRfConfig "EU868" 1)) "b" [256] false
      (fun _ => {}) ⟨256, by simp, by decide +kernel⟩
    cases hanswer
    exact absurd hstage (by decide +kernel)

end RaceLink.Fleet
