import RaceLink.Fleet.Consistency

/-! Devices that join a group, in a discovery or by a request.

Both give devices that are denoted by a list of addresses the same group. A discovery
fits if they and the members agree on a network; a request has been checked for that. -/
namespace RaceLink.Fleet
open Python Library Domain Routing Gateways

/-! ### Discovery -/

section Regroup
variable {s t : State} {group : Int} {addrs : List String}

/-- The place of a device that joins a group. -/
def joinPlace (group : Int) (p : Int × Option String) : Int × Option String := (group, p.2)

theorem setNodeGroupId_quiet (move : Int × Option String → Int × Option String) (s : State) (addr : String)
    (answer : Option Int) : Places move [] s (setNodeGroupId s addr answer).2 := by
  unfold setNodeGroupId
  split
  · exact places_nil move s
  · split
    · exact places_nil move s
    · split
      · exact changeDevice_quiet move s addr markOffline (fun _ => rfl) fun _ => rfl
      · exact places_nil move s

theorem joinPlace_idem (group : Int) (p : Int × Option String) :
    joinPlace group (joinPlace group p) = joinPlace group p := rfl

theorem join_places (s : State) (a : String) (group : Int) :
    Places (joinPlace group) [a] s (changeDevice s a fun d => {d with groupId := group}) :=
  changeDevice_places s a (fun d => {d with groupId := group}) (fun _ => rfl) fun _ => rfl

/-- An address that denotes nothing. -/
theorem places_unknown {a : String} (h : deviceAt s a = none)
    (move : Int × Option String → Int × Option String) : Places move [a] s s := by
  refine (places_nil move s).congr fun d _ => iff_of_false (by rintro ⟨_, h, -⟩; cases h) ?_
  rintro ⟨b, hb, hd⟩
  obtain rfl := List.mem_singleton.mp hb
  rw [deviceAt_none.mp h] at hd
  cases hd

theorem collect_places (group : Int) (answers : String → Option Int) (s : State) (a : String) :
    Places (joinPlace group) [a] s (collect group answers s a) := by
  unfold collect
  split
  · next hnone => exact places_unknown hnone _
  · exact (join_places s a group).trans (joinPlace_idem group) (setNodeGroupId_quiet _ _ _ _)

/-- A group that is joined has members of one network, and so have the others. -/
theorem Places.agrees (h : Places (joinPlace group) addrs s t) (hs : Consistent s)
    (hfits : DiscoverFits s group addrs) (other : Int) (hbound : (boundGroup t other).isSome = true) :
    Agrees t other := by
  rw [boundGroup_congr h.groups] at hbound
  have hmember : ∀ x' ∈ t.devices, x'.groupId = other → ∃ x ∈ s.devices, network x' = network x ∧
      (x.groupId = other ∨ other = group ∧ Hit s addrs x) := by
    intro x' hx' hgroup
    obtain ⟨x, hx, -, hplace⟩ := h.devices x' hx'
    have hnetwork : x'.networkId = x.networkId := by
      have hsecond := congrArg Prod.snd hplace
      split at hsecond <;> exact hsecond
    refine ⟨x, hx, congrArg nonEmpty hnetwork, ?_⟩
    have hfirst := congrArg Prod.fst hplace
    split at hfirst
    · next hit => exact .inr ⟨hgroup.symm.trans hfirst, hit⟩
    · exact .inl (hfirst.symm.trans hgroup)
  intro x' hx' hxg y' hy' hyg m hm n hn
  obtain ⟨x, hx, hxn, hxin⟩ := hmember x' hx' hxg
  obtain ⟨y, hy, hyn, hyin⟩ := hmember y' hy' hyg
  rw [hxn] at hm
  rw [hyn] at hn
  by_cases heq : other = group
  · subst heq
    exact hfits hbound x hx (hxin.imp_right And.right) y hy (hyin.imp_right And.right) m hm n hn
  · obtain ⟨found, hfound⟩ := Option.isSome_iff_exists.mp hbound
    exact hs.agrees hfound x hx (hxin.resolve_right fun h => heq h.1) y hy
      (hyin.resolve_right fun h => heq h.1) m hm n hn

/-- A device that did not join is where it was. -/
theorem Places.atHome (h : Places (joinPlace group) addrs s t) (hs : Consistent s) {d' : DeviceRecord}
    (hd' : d' ∈ t.devices) :
    AtHome t d' ∨ d'.groupId = group ∧ ∃ d ∈ s.devices, Hit s addrs d := by
  obtain ⟨d, hd, -, hplace⟩ := h.devices d' hd'
  by_cases hit : Hit s addrs d
  · rw [if_pos hit] at hplace
    exact .inr ⟨congrArg Prod.fst hplace, d, hd, hit⟩
  · rw [if_neg hit] at hplace
    rw [atHome_congr h.groups, atHome_iff, hplace]
    exact .inl (consistent_iff.mp hs d hd)

/-- Devices that join a group which is then derived anew. -/
theorem Places.joined (h : Places (joinPlace group) addrs s t) (hs : Consistent s)
    (hfits : DiscoverFits s group addrs) : Consistent (reconcileGroupNetwork t group).2 := by
  rw [consistent_iff, reconcile_devices]
  intro d' hd'
  exact reconcile_atHome (h.agrees hs hfits group) hd' fun hother =>
    (h.atHome hs hd').resolve_right fun hjoined => hother hjoined.1

theorem discoverDevices_sound (hs : Sound s) {addToGroup : Int} {responders : List String}
    (hfits : 0 < addToGroup → addToGroup < 255 → DiscoverFits s addToGroup responders)
    (answers : String → Option Int) : Sound (discoverDevices s addToGroup responders answers).2 := by
  unfold discoverDevices
  split
  · next hrange =>
    have hplaces := foldl_places (joinPlace_idem addToGroup) id (collect_places addToGroup answers) s responders
    exact ⟨(hplaces.addressed hs.addressed).reconcile addToGroup,
      hplaces.joined hs.consistent (hfits hrange.1 hrange.2)⟩
  · exact hs

/-! ### Bulk regroup -/

theorem mem_networksSeen {devices : List DeviceRecord} {d : DeviceRecord} {n : String} (hd : d ∈ devices)
    (hn : n ∈ network d) : n ∈ (networksSeen devices).map Prod.fst := by
  have hmem : n ∈ devices.filterMap network := List.mem_filterMap.mpr ⟨d, hd, hn⟩
  rw [networksSeen, List.map_map]
  exact List.mem_map.mpr ⟨n, mem_keepFirst_id.mpr hmem, rfl⟩

/-- A selection that passes the check is on one network, and the group on no other. -/
theorem validateGroupMembership_ok {devices : List DeviceRecord} {target : Option GroupRecord} {groupId : Int}
    (h : validateGroupMembership devices target groupId = .ok ()) (hne : groupId ≠ 0) :
    (∀ d ∈ devices, ∀ e ∈ devices, ∀ m ∈ network d, ∀ n ∈ network e, m = n) ∧
      ∀ group ∈ target, ∀ d ∈ devices, ∀ m ∈ network d, ∀ n ∈ nonEmpty group.networkId, m = n := by
  rw [validateGroupMembership, if_neg hne] at h
  split at h
  · next hseen =>
    have hnone : ∀ d ∈ devices, ∀ m ∈ network d, False := fun d hd m hm => by
      have hmem := mem_networksSeen hd hm
      rw [hseen] at hmem
      cases hmem
    exact ⟨fun d hd _ _ m hm => (hnone d hd m hm).elim, fun _ _ d hd m hm => (hnone d hd m hm).elim⟩
  · next only macs hseen =>
    have hone : ∀ d ∈ devices, ∀ m ∈ network d, m = only := fun d hd m hm => by
      have hmem := mem_networksSeen hd hm
      rw [hseen] at hmem
      exact List.mem_singleton.mp hmem
    refine ⟨fun d hd e he m hm n hn => (hone d hd m hm).trans (hone e he n hn).symm, ?_⟩
    intro group hgroup d hd m hm n hn
    rw [Option.mem_def.mp hgroup] at h
    dsimp only at h
    rw [Option.mem_def.mp hn] at h
    dsimp only at h
    split at h
    · next heq => exact (hone d hd m hm).trans heq
    · cases h
  · cases h

theorem checkUpdateMeta_ok {body : MetaBody} {newGroup : Int} (h : checkUpdateMeta s body = .ok newGroup) :
    validateGroupMembership (body.macs.filterMap (deviceAt s))
      (if 0 ≤ newGroup then s.groups[newGroup.toNat]? else none) newGroup = .ok () := by
  unfold checkUpdateMeta at h
  cases hint : body.groupId.toInt with
  | error e =>
    split at h
    · cases h
    · dsimp only at h
      split at h
      · cases h
      · rw [hint] at h
        cases h
  | ok n =>
    have htarget : targetGroupId body.groupId = .ok n := by
      rw [targetGroupId, hint]
    rw [htarget] at h
    dsimp only at h
    split at h
    · cases h
    · next hvalid =>
      rw [hint] at h
      cases h
      exact hvalid

/-- A request that passes the check fits. -/
theorem checkUpdateMeta_fits (hs : Sound s) {body : MetaBody} {newGroup : Int}
    (h : checkUpdateMeta s body = .ok newGroup) : DiscoverFits s newGroup body.macs := by
  intro hbound
  obtain ⟨found, hfound⟩ := Option.isSome_iff_exists.mp hbound
  obtain ⟨hpos, hget, -⟩ := boundGroup_some.mp hfound
  have hvalid := checkUpdateMeta_ok h
  rw [if_pos (by omega), hget] at hvalid
  obtain ⟨hone, hgroup⟩ := validateGroupMembership_ok hvalid (by omega)
  have hmember : ∀ d ∈ s.devices, d.groupId = newGroup → ∀ n ∈ network d, nonEmpty found.networkId = some n := by
    intro d hd hgid n hn
    have hlabel := hs.consistent newGroup found hfound d hd hgid n hn
    rw [hlabel]
    exact nonEmpty_some.mpr ⟨rfl, (nonEmpty_some.mp hn).2⟩
  have hselected : ∀ d ∈ s.devices, Hit s body.macs d → d ∈ body.macs.filterMap (deviceAt s) := by
    rintro d hd ⟨a, ha, hdenotes⟩
    exact List.mem_filterMap.mpr ⟨a, ha, hs.addressed.deviceAt hd hdenotes⟩
  intro d hd hdin e he hein m hm n hn
  rcases hdin with hdin | hdin <;> rcases hein with hein | hein
  · exact Option.some.inj ((hmember d hd hdin m hm).symm.trans (hmember e he hein n hn))
  · exact (hgroup found rfl e (hselected e he hein) n hn m (hmember d hd hdin m hm)).symm
  · exact hgroup found rfl d (hselected d hd hdin) m hm n (hmember e he hein n hn)
  · exact hone d (hselected d hd hdin) e (hselected e he hein) m hm n hn

/-! ### The groups of a request -/

theorem boundGroup_isSome_reconcile {groupId other : Int}
    (h : (boundGroup (reconcileGroupNetwork s groupId).2 other).isSome = true) :
    (boundGroup s other).isSome = true := by
  rwa [boundGroup_reconcile] at h

/-- Groups whose members agree are derived anew, and the others are as they should be. -/
theorem reconcileAll_consistent {groupIds : List Int}
    (hagree : ∀ groupId, (boundGroup s groupId).isSome = true → Agrees s groupId)
    (hhome : ∀ d ∈ s.devices, AtHome s d ∨ d.groupId ∈ groupIds) : Consistent (reconcileAll s groupIds) := by
  induction groupIds generalizing s with
  | nil => exact consistent_iff.mpr fun d hd => (hhome d hd).resolve_right List.not_mem_nil
  | cons first rest ih =>
    refine ih (fun groupId hbound => ?_) fun d hd => ?_
    · rw [Agrees, reconcile_devices]
      exact hagree groupId (boundGroup_isSome_reconcile hbound)
    · rw [reconcile_devices] at hd
      by_cases hrest : d.groupId ∈ rest
      · exact .inr hrest
      · refine .inl (reconcile_atHome (hagree first) hd fun hne => (hhome d hd).resolve_right fun hmem => ?_)
        rcases List.mem_cons.mp hmem with heq | hmem
        · exact hne heq
        · exact hrest hmem

theorem reconcileAll_devices (s : State) (groupIds : List Int) : (reconcileAll s groupIds).devices = s.devices := by
  induction groupIds generalizing s with
  | nil => rfl
  | cons first rest ih => exact (ih _).trans (reconcile_devices s first)

/-! ### The loop of a request -/

section Loop
variable (body : MetaBody)

theorem rename_places (move : Int × Option String → Int × Option String) (r : MetaRun) (mac : String)
    (name : Option String) : Places move [] r.state (r.rename mac name).state := by
  cases name with
  | none => exact places_nil move r.state
  | some name =>
    exact changeDevice_quiet move r.state mac (fun d => {d with name}) (fun _ => rfl) fun _ => rfl

theorem move_places (r : MetaRun) (mac : String) (d : DeviceRecord) (group : Int) (answer : Option Int) :
    Places (joinPlace group) [mac] r.state (r.move mac d group answer).state := by
  have hjoin := join_places r.state mac group
  unfold MetaRun.move
  dsimp only
  split
  · exact hjoin
  · have hsent := hjoin.trans (joinPlace_idem group) (setNodeGroupId_quiet (joinPlace group) _ d.addr answer)
    split <;> exact hsent

theorem move_affected (r : MetaRun) (mac : String) (d : DeviceRecord) (group : Int) (answer : Option Int) :
    (r.move mac d group answer).affected = (r.affected.insert d.groupId).insert group := by
  unfold MetaRun.move
  dsimp only
  split
  · rfl
  · split <;> rfl

theorem next_places (group : Int) (answers : String → Option Int) (r : MetaRun) (mac : String) :
    Places (joinPlace group) [mac] r.state (r.next body (some group) answers mac).state := by
  unfold MetaRun.next
  split
  · next hnone => exact places_unknown hnone _
  · next d _ =>
    have hrenamed := rename_places (joinPlace group) r mac (newName body mac)
    exact hrenamed.trans (joinPlace_idem group) (move_places _ mac d group (answers mac))

theorem next_renames (answers : String → Option Int) (r : MetaRun) (mac : String) :
    Places id [mac] r.state (r.next body none answers mac).state := by
  unfold MetaRun.next
  split
  · next hnone => exact places_unknown hnone id
  · exact (rename_places id r mac (newName body mac)).stays [mac]

/-- A group that is listed stays so, and that of a device that joins is. -/
theorem next_affected (group : Int) (answers : String → Option Int) (r : MetaRun) (mac : String)
    (h : group ∈ r.affected ∨ (deviceAt r.state mac).isSome = true) :
    group ∈ (r.next body (some group) answers mac).affected := by
  unfold MetaRun.next
  cases hdevice : deviceAt r.state mac with
  | none =>
    rw [hdevice] at h
    exact h.resolve_right Bool.false_ne_true
  | some d =>
    dsimp only
    rw [move_affected]
    exact List.mem_insert_self

theorem foldl_affected (group : Int) (answers : String → Option Int) (macs : List String) (r : MetaRun)
    (h : group ∈ r.affected ∨ ∃ mac ∈ macs, (denotes r.state mac).isSome = true) :
    group ∈ (macs.foldl (MetaRun.next body (some group) answers) r).affected := by
  induction macs generalizing r with
  | nil => exact h.resolve_right fun ⟨_, hmem, _⟩ => List.not_mem_nil hmem
  | cons mac rest ih =>
    refine ih _ ?_
    rcases h with hlisted | ⟨a, ha, hsome⟩
    · exact .inl (next_affected body group answers r mac (.inl hlisted))
    · rcases List.mem_cons.mp ha with rfl | ha
      · refine .inl (next_affected body group answers r a (.inr ?_))
        rw [Option.isSome_iff_ne_none] at hsome ⊢
        exact fun hnone => hsome (deviceAt_none.mp hnone)
      · refine .inr ⟨a, ha, ?_⟩
        rwa [denotes_congr (next_places body group answers r mac).same]

end Loop

theorem sound_reconcileAll (hs : Addressed s) {groupIds : List Int}
    (h : Consistent (reconcileAll s groupIds)) : Sound (reconcileAll s groupIds) := by
  have hdevices := reconcileAll_devices s groupIds
  exact ⟨⟨by rw [hdevices]; exact hs.macs, by rw [hdevices]; exact hs.nodup⟩, h⟩

theorem Sound.save (hs : Sound s) : Sound s.save := ⟨⟨hs.addressed.macs, hs.addressed.nodup⟩, hs.consistent⟩

/-- **A request keeps groups on one network**, whatever it asks. -/
theorem apiDevicesUpdateMeta_sound (hs : Sound s) (body : MetaBody) (answers : String → Option Int) :
    Sound (apiDevicesUpdateMeta s body answers).2 := by
  unfold apiDevicesUpdateMeta
  split
  · -- Devices are only renamed, so deriving groups anew changes nothing.
    have hplaces : Places id body.macs s (body.macs.foldl (MetaRun.next body none answers) ⟨s, {}, []⟩).state :=
      foldl_places (fun _ => rfl) MetaRun.state (next_renames body answers) ⟨s, {}, []⟩ body.macs
    have hconsistent := hplaces.consistent (fun d hd _ => consistent_iff.mp hs.consistent d hd)
      fun d hd _ => consistent_iff.mp hs.consistent d hd
    refine Sound.save (sound_reconcileAll (hplaces.addressed hs.addressed)
      (reconcileAll_consistent (fun groupId hbound => ?_) fun d hd =>
        .inl (consistent_iff.mp hconsistent d hd)))
    obtain ⟨found, hfound⟩ := Option.isSome_iff_exists.mp hbound
    exact hconsistent.agrees hfound
  · split
    · exact hs
    · next newGroup hcheck =>
      have hfits := checkUpdateMeta_fits hs hcheck
      have hplaces := foldl_places (joinPlace_idem newGroup) MetaRun.state (next_places body newGroup answers)
        ⟨s, {}, []⟩ body.macs
      refine Sound.save (sound_reconcileAll (hplaces.addressed hs.addressed)
        (reconcileAll_consistent (hplaces.agrees hs.consistent hfits) fun d' hd' => ?_))
      refine (hplaces.atHome hs.consistent hd').imp_right fun ⟨hjoined, d, _, a, ha, hdenotes⟩ => ?_
      rw [hjoined]
      exact foldl_affected body newGroup answers body.macs _ (.inr ⟨a, ha, by rw [hdenotes]; rfl⟩)

end Regroup

end RaceLink.Fleet
