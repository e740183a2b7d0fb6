import RaceLink.Fleet.Numbering

/-! Deleting a group and resorting the groups keep whoever holds a group id with the
group it held: the devices always, the scenes whenever their rewrite does not raise.

A rewrite that raises leaves the scenes under the old numbers. -/
namespace RaceLink.Fleet
open Python Library Domain Gateways
open Scenes (Env Rewritten Lived)

/-- What a renumbering by `f`, which loses the groups of `lost`, makes of a site. -/
structure Follows (keyText : Key → String) (env : Env) (f : Int → Int) (lost : Int → Prop)
    (w w' : Site) : Prop where
  groups : Carries f lost w.fleet.groups w'.fleet.groups
  anchor : f 0 = 0
  devices : w'.fleet.devices = w.fleet.devices.map fun d => {d with groupId := f d.groupId}
  /-- A group that is kept has the devices it had; group 0 gets those of the lost groups. -/
  members : ∀ d ∈ w.fleet.devices, ∀ i, ¬ lost i →
    (f d.groupId = f i ↔ d.groupId = i ∨ lost d.groupId ∧ i = 0)
  valid : ∀ d ∈ w.fleet.devices, IsIndex w.fleet.groups d.groupId →
    IsIndex w'.fleet.groups (f d.groupId)
  rest : w'.fleet = {w.fleet with
    groups := w'.fleet.groups, devices := w'.fleet.devices, saves := w'.fleet.saves}
  scenes : w'.scenes = w.scenes ∧ f = id ∨ ∃ answer, Rewritten keyText f env w.scenes (answer, w'.scenes)

section Carried
variable {f : Int → Int} {lost : Int → Prop} {groups groups' : List GroupRecord}

theorem members_of_carries (h : Carries f lost groups groups') (hdropped : ∀ i, lost i → f i = 0)
    (hanchor : f 0 = 0) (hzero : ¬ lost 0) {i : Int} (hi : ¬ lost i) (j : Int) :
    f j = f i ↔ j = i ∨ lost j ∧ i = 0 := by
  by_cases hj : lost j
  · rw [hdropped _ hj]
    constructor
    · intro heq
      exact .inr ⟨hj, (h.apart 0 i hzero hi (hanchor.trans heq)).symm⟩
    · rintro (rfl | ⟨-, rfl⟩)
      · exact absurd hj hi
      · exact hanchor.symm
  · constructor
    · exact fun heq => .inl (h.apart _ _ hj hi heq)
    · rintro (rfl | ⟨hlost, -⟩)
      · rfl
      · exact absurd hlost hj

theorem valid_of_carries (h : Carries f lost groups groups') (hdropped : ∀ i, lost i → f i = 0)
    (hanchor : f 0 = 0) (hzero : ¬ lost 0) {i : Int} (hi : IsIndex groups i) : IsIndex groups' (f i) := by
  by_cases hlost : lost i
  · have h0 : IsIndex groups 0 := ⟨Int.le_refl _, by
      have := hi.1
      have := hi.2
      omega⟩
    rw [hdropped i hlost, ← hanchor]
    exact (h.kept 0 h0 hzero).1
  · exact (h.kept i hi hlost).1

end Carried

/-! ### Deleting -/

theorem deleteGroup_follows (keyText : Key → String) (env : Env) {w : Site}
    (hscenes : Lived keyText w.scenes) {gid : Int} (hgid : IsIndex w.fleet.groups gid) (hpos : 1 ≤ gid) :
    Follows keyText env (closeUp gid) (· = gid) w (deleteGroup keyText env w gid).2 := by
  have hcarries := carries_eraseIdx hgid
  have hdropped : ∀ i, i = gid → closeUp gid i = 0 := fun i hi => if_pos hi
  have hanchor : closeUp gid 0 = 0 := by
    unfold closeUp
    rw [if_neg (by omega), if_neg (by omega)]
  have hzero : (0 : Int) ≠ gid := by omega
  refine ⟨hcarries, hanchor, rfl, fun d _ i hi => ?_, fun d _ hd => ?_, rfl,
    .inr ⟨(Scenes.renumberGroupReferences keyText env w.scenes gid).1, ?_⟩⟩
  · exact members_of_carries hcarries hdropped hanchor hzero hi d.groupId
  · exact valid_of_carries hcarries hdropped hanchor hzero hd
  · exact Scenes.rewriteReferences_rewritten hscenes.sound

/-! ### Resorting -/

/-- An accepted order lists each index once. -/
theorem sorted_isOrder {order : List Int} {n : Nat}
    (h : Scenes.sortIds order = (List.range n).map Int.ofNat) : IsOrder order n := by
  have hperm : order.Perm ((List.range n).map Int.ofNat) := h ▸ (Scenes.sortIds_perm order).symm
  refine ⟨?_, ?_, fun i => ?_⟩
  · rw [hperm.length_eq, List.length_map, List.length_range]
  · exact hperm.nodup_iff.mpr ((List.nodup_range).map fun a b h => Int.ofNat.inj h)
  · rw [hperm.mem_iff, List.mem_map]
    constructor
    · rintro ⟨k, hk, rfl⟩
      have := List.mem_range.mp hk
      exact ⟨Int.natCast_nonneg k, Int.ofNat_lt.mpr this⟩
    · rintro ⟨hlo, hhi⟩
      exact ⟨i.toNat, List.mem_range.mpr (by omega), Int.toNat_of_nonneg hlo⟩

/-- The loop passed: group 0 and the static groups are where they were. -/
theorem checkAnchors_ok {groups : List GroupRecord} {order : List Int} {newIdx : Int}
    (h : checkAnchors groups newIdx order = .ok ()) (n : Nat) (old : Int) (hold : order[n]? = some old) :
    (old = 0 → newIdx + n = 0) ∧
      ∀ group, groups[old.toNat]? = some group → group.staticGroup ≠ 0 → newIdx + n = old := by
  induction order generalizing newIdx n with
  | nil => cases hold
  | cons first rest ih =>
    obtain ⟨hzero, h⟩ := guard_ok.mp h
    obtain ⟨hstatic, h⟩ := guard_ok.mp h
    cases n with
    | zero =>
      cases hold
      refine ⟨fun hfirst => ?_, fun group hgroup hnonzero => ?_⟩
      · exact by_contra fun hne => hzero ⟨hfirst, by omega⟩
      · refine by_contra fun hne => hstatic ⟨?_, by omega⟩
        rw [hgroup]
        exact decide_eq_true hnonzero
    | succ n =>
      obtain ⟨h0, hs⟩ := ih h n hold
      refine ⟨fun hz => ?_, fun group hgroup hnonzero => ?_⟩
      · have := h0 hz
        omega
      · have := hs group hgroup hnonzero
        omega

theorem checkResort_ok {groups : List GroupRecord} {raw : Json} {order : List Int}
    (h : checkResort groups raw = .ok order) :
    IsOrder order groups.length ∧ checkAnchors groups 0 order = .ok () := by
  obtain ⟨order', -, h⟩ := bind_ok.mp h
  obtain ⟨hsorted, h⟩ := guard_ok.mp h
  obtain ⟨_, hanchors, h⟩ := bind_ok.mp h
  cases h
  exact ⟨sorted_isOrder (not_not.mp hsorted), hanchors⟩

/-- Static groups keep their place, and so does group 0. -/
theorem placeOf_anchor {groups : List GroupRecord} {order : List Int} (h : IsOrder order groups.length)
    (hanchors : checkAnchors groups 0 order = .ok ()) {i : Int} (hi : IsIndex groups i)
    (hfixed : i = 0 ∨ ∃ group, groups[i.toNat]? = some group ∧ group.staticGroup ≠ 0) :
    placeOf order i = i := by
  obtain ⟨n, hn⟩ := List.mem_iff_getElem?.mp ((h.mem i).mpr hi)
  obtain ⟨hzero, hstatic⟩ := checkAnchors_ok hanchors n i hn
  rw [placeOf_getElem? h.nodup hn]
  rcases hfixed with rfl | ⟨group, hgroup, hnonzero⟩
  · have := hzero rfl
    omega
  · have := hstatic group hgroup hnonzero
    omega

theorem placeOf_zero {groups : List GroupRecord} {order : List Int} (h : IsOrder order groups.length)
    (hanchors : checkAnchors groups 0 order = .ok ()) : placeOf order 0 = 0 := by
  by_cases h0 : IsIndex groups 0
  · exact placeOf_anchor h hanchors h0 (.inl rfl)
  · exact placeOf_outside fun hmem => h0 ((h.mem 0).mp hmem)

/-- An order in which every index is in its own place moves nothing. -/
theorem placeOf_id {order : List Int} (h : ((places order).all fun (old, new) => old = new) = true) :
    placeOf order = id := by
  funext i
  unfold placeOf
  cases hlookup : (places order).lookup i with
  | none => rfl
  | some new =>
    obtain ⟨before, after, heq, -⟩ := List.lookup_eq_some_iff.mp hlookup
    have := List.all_eq_true.mp h (i, new) (by rw [heq]; simp)
    exact (of_decide_eq_true this).symm

theorem reorder_id {order : List Int} {α : Type} {xs : List α} (h : IsOrder order xs.length)
    (hid : placeOf order = id) : reorder order xs = xs := by
  have hindex : ∀ i ∈ order, IsIndex xs i := fun i hi => (h.mem i).mp hi
  refine List.ext_getElem? fun n => ?_
  rw [getElem?_reorder hindex]
  cases hn : order[n]? with
  | none =>
    have hle : order.length ≤ n := List.getElem?_eq_none_iff.mp hn
    exact (List.getElem?_eq_none (h.length ▸ hle)).symm
  | some i =>
    have hi := placeOf_getElem? h.nodup hn
    rw [hid] at hi
    obtain rfl : i = n := hi
    rfl

theorem resortGroups_follows (keyText : Key → String) (env : Env) {w : Site}
    (hscenes : Lived keyText w.scenes) {order : List Int} (horder : IsOrder order w.fleet.groups.length)
    (hanchors : checkAnchors w.fleet.groups 0 order = .ok ()) :
    Follows keyText env (placeOf order) (fun _ => False) w (resortGroups keyText env w order true).2 := by
  have hcarries := carries_reorder horder
  have hdropped : ∀ i, False → placeOf order i = 0 := fun _ h => h.elim
  have hanchor := placeOf_zero horder hanchors
  by_cases hsame : ((places order).all fun (old, new) => old = new) = true
  · have hid := placeOf_id hsame
    have hstate : (resortGroups keyText env w order true).2 = w := by
      unfold resortGroups
      dsimp only
      rw [if_pos hsame]
    rw [reorder_id horder hid] at hcarries
    rw [hstate]
    refine ⟨hcarries, hanchor, ?_, fun d _ i hi => ?_, fun d _ hd => ?_, rfl, .inl ⟨rfl, hid⟩⟩
    · rw [hid]
      exact (List.map_id _).symm
    · exact members_of_carries hcarries hdropped hanchor id hi d.groupId
    · exact valid_of_carries hcarries hdropped hanchor id hd
  · have hne : places order ≠ [] := fun hnil => hsame (by rw [hnil]; rfl)
    have hstate : (resortGroups keyText env w order true).2 =
        ⟨(renumberDevices {w.fleet with groups := reorder order w.fleet.groups} (placeOf order)).save,
          (Scenes.rewriteReferences (placeOf order) keyText env w.scenes).2⟩ := by
      unfold resortGroups Scenes.remapGroupIds
      dsimp only
      rw [if_neg hsame, if_pos rfl, if_neg hne]
      rfl
    rw [hstate]
    refine ⟨hcarries, hanchor, rfl, fun d _ i hi => ?_, fun d _ hd => ?_, rfl,
      .inr ⟨(Scenes.rewriteReferences (placeOf order) keyText env w.scenes).1, ?_⟩⟩
    · exact members_of_carries hcarries hdropped hanchor id hi d.groupId
    · exact valid_of_carries hcarries hdropped hanchor id hd
    · exact Scenes.rewriteReferences_rewritten hscenes.sound

/-! ### The requests -/

def lastMember : DeviceRecord where
  addr := "AABBCCDDEE01"
  groupId := 3
  networkId := none
  name := "Gate"
  devType := 0
  version := 0
  caps := 0
  flags := 0
  presetId := 0
  brightness := 0
  specials := []
  lastKnownRfConfig := none
  linkOnline := true

/-- The store with one scene, for group 3. -/
def sceneForLast : Scenes.Service :=
  (Scenes.create (fun _ => "") ⟨"t", true, none⟩ (.fresh .missing)
    {label := "S", actions := .arr [dict [("kind", .str "startblock"),
      ("target", dict [("kind", .str "groups"), ("value", .arr [.int 3])])]]}).2

/-- Four groups, of which "All WLED Nodes" is static, a device in the last one, and a scene for it. -/
def fourGroups : Site where
  fleet := ⟨[], [lastMember], [⟨⟨none⟩, "Unconfigured", 0, 0⟩, ⟨⟨none⟩, "A", 0, 0⟩,
    ⟨⟨none⟩, "All WLED Nodes", 1, 0⟩, ⟨⟨none⟩, "B", 0, 0⟩], [], [], 0⟩
  scenes := sceneForLast

/-- **A group that is neither group 0 nor static is always deleted, an accepted order is always
taken, and the groups, the devices and the scenes follow; in a new order the static groups keep
their place.** -/
theorem group_requests_follow (keyText : Key → String) (env : Env) (w : Site)
    (hscenes : Lived keyText w.scenes) (body : Json) :
    (∀ gid group, requireInt (body.orElse (.obj [])) "id" "group id" = .ok gid → 1 ≤ gid →
      IsIndex w.fleet.groups gid → w.fleet.groups[gid.toNat]? = some group → group.staticGroup = 0 →
      ∃ counts w', apiGroupsDelete keyText env w body = (.ok counts, w') ∧
        w'.fleet.groups = w.fleet.groups.eraseIdx gid.toNat ∧
        Follows keyText env (closeUp gid) (· = gid) w w') ∧
    ∀ fields answer w', body.orElse (.obj []) = .obj fields → carryReferences fields = true →
      apiGroupsResort keyText env w body = (.ok answer, w') →
      ∃ order, Follows keyText env (placeOf order) (fun _ => False) w w' ∧
        ∀ i group, w.fleet.groups[i.toNat]? = some group → IsIndex w.fleet.groups i →
          group.staticGroup ≠ 0 → placeOf order i = i := by
  refine ⟨fun gid group hbody hpos hgid hgroup hstatic => ?_, fun fields answer w' hbody hcarry h => ?_⟩
  · refine ⟨(deleteGroup keyText env w gid).1, _, ?_, rfl,
      deleteGroup_follows keyText env hscenes hgid hpos⟩
    unfold apiGroupsDelete
    have hrange : ¬ (gid < 0 ∨ gid ≥ w.fleet.groups.length) := by
      have := hgid.2
      omega
    simp only [hbody, if_neg hrange, hgroup, hstatic, ne_eq, not_true_eq_false, if_false]
  · unfold apiGroupsResort at h
    simp only [hbody, hcarry] at h
    cases hcheck : checkResort w.fleet.groups (Dict.get fields "order") with
    | error e =>
      rw [hcheck] at h
      cases h
    | ok order =>
      rw [hcheck] at h
      cases h
      obtain ⟨horder, hanchors⟩ := checkResort_ok hcheck
      refine ⟨order, resortGroups_follows keyText env hscenes horder hanchors, ?_⟩
      intro i group hgroup hi hnonzero
      exact placeOf_anchor horder hanchors hi (.inr ⟨group, hgroup, hnonzero⟩)

theorem fourGroups_lived : Lived (fun _ => "") fourGroups.scenes := ⟨.missing,
  [⟨⟨"t", true, none⟩, .call (.create {label := "S", actions := .arr [dict [("kind", .str "startblock"),
    ("target", dict [("kind", .str "groups"), ("value", .arr [.int 3])])]]})⟩], rfl⟩

/-- Group 1 is deleted, or changes places with group 3. -/
theorem fourGroups_follow :
    (∃ counts w', apiGroupsDelete (fun _ => "") ⟨"u", true, none⟩ fourGroups (dict [("id", .int 1)]) =
        (.ok counts, w') ∧
      w'.fleet.groups = fourGroups.fleet.groups.eraseIdx 1 ∧
      Follows (fun _ => "") ⟨"u", true, none⟩ (closeUp 1) (· = 1) fourGroups w') ∧
    ∃ order, Follows (fun _ => "") ⟨"u", true, none⟩ (placeOf order) (fun _ => False) fourGroups
      (apiGroupsResort (fun _ => "") ⟨"u", true, none⟩ fourGroups
        (dict [("order", .arr [.int 0, .int 3, .int 2, .int 1])])).2 := by
  constructor
  · refine (group_requests_follow (fun _ => "") ⟨"u", true, none⟩ fourGroups fourGroups_lived
      (dict [("id", .int 1)])).1 1 ⟨⟨none⟩, "A", 0, 0⟩ rfl ?_ ⟨?_, ?_⟩ rfl rfl <;> decide
  · obtain ⟨order, hfollows, -⟩ := (group_requests_follow (fun _ => "") ⟨"u", true, none⟩ fourGroups
      fourGroups_lived (dict [("order", .arr [.int 0, .int 3, .int 2, .int 1])])).2
      [(.str "order", .arr [.int 0, .int 3, .int 2, .int 1])] _ _ rfl rfl rfl
    exact ⟨order, hfollows⟩

/-- Group 1 is deleted while the scenes cannot be written. -/
def deletedUnwritable : Except ApiError DeleteCounts × Site :=
  apiGroupsDelete (fun _ => "") ⟨"u", false, none⟩ fourGroups (dict [("id", .int 1)])

/-- The request is accepted. The static group moves up; the device is in its group under the new
number, and the scene names the old one. -/
theorem static_group_moves_scene_stays :
    deletedUnwritable.1.toOption = some ⟨0, 1, 0⟩ ∧
    deletedUnwritable.2.fleet.groups.map (·.staticGroup) = [0, 1, 0] ∧
    deletedUnwritable.2.fleet.devices.map (·.groupId) = [2] ∧
    (Scenes.items "v" deletedUnwritable.2.scenes).1.toOption.map (·.map (·.actions)) =
      some [[.startblock (.groups [3]) []]] := by
  decide +kernel

end RaceLink.Fleet
