import RaceLink.Fleet.Joining

/-! Devices and groups that are moved to another network.

A device that is moved keeps its group, so the group has to be on the target already.
A group that is moved takes its members along, unless they cannot be moved at all. -/
namespace RaceLink.Fleet
open Python Library Domain Routing Gateways Scenes

section Moving
variable {s t : State} {target : String} {rf : Dict} {macs : List String}

/-! ### Devices -/

/-- The place of a device that is moved to a network. -/
def movePlace (target : String) (p : Int × Option String) : Int × Option String := (p.1, some target)

theorem movePlace_idem (target : String) (p : Int × Option String) :
    movePlace target (movePlace target p) = movePlace target p := rfl

theorem applyMetadataFlip_places (target : String) (rf : Dict) (s : State) (mac : String) :
    Places (movePlace target) [mac] s (applyMetadataFlip target rf s mac) :=
  changeDevice_places s mac (filedUnder target rf) (fun _ => rfl) fun _ => rfl

theorem fileMove_places (target : String) (rf : Dict) (s : State) (mac : String) :
    Places (movePlace target) [mac] s (fileMove target rf s mac) :=
  (applyMetadataFlip_places target rf s mac).trans (movePlace_idem target)
    (changeDevice_quiet (movePlace target) _ mac markOffline (fun _ => rfl) fun _ => rfl)

theorem pushMove_places (target : String) (rf : Dict) (air : String → Exchange) (s : State) (mac : String) :
    Places (movePlace target) [mac] s (pushMove target rf air s mac).2.2 := by
  have hfiled := fileMove_places target rf s mac
  rw [pushMove_state]
  rcases pushRf_cases (fileMove target rf s mac) mac rf (s.transportForDevice mac) (air mac) with
    heq | ⟨recv3, heq⟩
  · rw [heq]
    exact hfiled
  · rw [heq]
    exact hfiled.trans (movePlace_idem target)
      (changeDevice_quiet (movePlace target) _ _ markOnline (fun _ => rfl) fun _ => rfl)

/-- A loop of pushes, each of which moves its own device. -/
theorem pushEach_places {ε : Type} {move : Int × Option String → Int × Option String}
    {push : State → String → ε × List RfFrame × State} (hmove : ∀ p, move (move p) = move p)
    (h : ∀ s mac, Places move [mac] s (push s mac).2.2) (macs : List String) (s : State) :
    Places move macs s (pushEach push macs s).2.2 := by
  induction macs generalizing s with
  | nil => exact places_nil move s
  | cons mac rest ih => exact (h s mac).trans hmove (ih _)

theorem Places.save {move : Int × Option String → Int × Option String} (h : Places move macs s t) :
    Places move macs s t.save := ⟨h.groups, h.same, h.devices⟩

/-- The MACs whose devices are moved. -/
def movedMacs (s : State) (target : String) (force : Bool) (macs : List String) : List String :=
  (macs.filter fun mac => moveChoice s target force mac == .offline) ++
    macs.filter fun mac => moveChoice s target force mac == .push

theorem mem_movedMacs {force : Bool} {mac : String} : mac ∈ movedMacs s target force macs ↔
    mac ∈ macs ∧ ∃ d, deviceAt s mac = some d ∧ d.networkId.getD "" ≠ target := by
  have hchoice : (moveChoice s target force mac = .offline ∨ moveChoice s target force mac = .push) ↔
      ∃ d, deviceAt s mac = some d ∧ d.networkId.getD "" ≠ target := by
    unfold moveChoice
    cases deviceAt s mac with
    | none => simp
    | some d =>
      dsimp only
      split
      · next heq => simp [heq]
      · next hne => split <;> simp [hne]
  simp only [movedMacs, List.mem_append, List.mem_filter, beq_iff_eq, ← and_or_left]
  rw [hchoice]

theorem moveDevices_places (s : State) (target : String) (rf : Dict) (macs : List String) (force : Bool)
    (air : String → Exchange) :
    Places (movePlace target) (movedMacs s target force macs) s
      (moveDevices s target rf macs force air).2.2 := by
  have hoffline := foldl_places (movePlace_idem target) id (applyMetadataFlip_places target rf) s
    (macs.filter fun mac => moveChoice s target force mac == .offline)
  have hboth := hoffline.trans (movePlace_idem target)
    (pushEach_places (movePlace_idem target) (pushMove_places target rf air)
      (macs.filter fun mac => moveChoice s target force mac == .push) _)
  unfold moveDevices
  dsimp only
  split
  · exact hboth
  · exact hboth.save

theorem moveTarget_ok (h : moveTarget s target = .ok (.ok rf)) : target ≠ "" := by
  rintro rfl
  rw [moveTarget, State.networkById, if_pos rfl] at h
  cases h

/-- What a move of devices does: nothing, or new places for those that are moved. -/
theorem migrateDevicesTo_cases (s : State) (target : String) (macs : List String) (force : Bool)
    (air : String → Exchange) :
    (∃ e, migrateDevicesTo s target macs force air = {answer := .error e, state := s}) ∨
      (∃ refused, moveTarget s target = .ok (.error refused) ∧
        migrateDevicesTo s target macs force air = {answer := .ok refused, state := s}) ∨
      ∃ rf, moveTarget s target = .ok (.ok rf) ∧
        migrateDevicesTo s target macs force air =
          { answer := .ok (moveDevices s target rf (cleanMacs macs) force air).1
            frames := (moveDevices s target rf (cleanMacs macs) force air).2.1
            acked := moveAcks s target rf (cleanMacs macs) force air
            state := (moveDevices s target rf (cleanMacs macs) force air).2.2 } := by
  unfold migrateDevicesTo
  cases htarget : moveTarget s target with
  | error e => exact .inl ⟨e, rfl⟩
  | ok checked =>
    cases checked with
    | error refused => exact .inr (.inl ⟨refused, rfl, rfl⟩)
    | ok rf => exact .inr (.inr ⟨rf, rfl, rfl⟩)

theorem migrateDevicesTo_sound (hs : Sound s) (hfits : MoveDevicesFits s target macs) (force : Bool)
    (air : String → Exchange) : Sound (migrateDevicesTo s target macs force air).state := by
  rcases migrateDevicesTo_cases s target macs force air with
    ⟨e, heq⟩ | ⟨refused, -, heq⟩ | ⟨rf, htarget, heq⟩
  · rw [heq]
    exact hs
  · rw [heq]
    exact hs
  · rw [heq]
    have hplaces := moveDevices_places s target rf (cleanMacs macs) force air
    refine ⟨hplaces.addressed hs.addressed, hplaces.consistent (fun d hd hit => ?_) fun d hd _ =>
      consistent_iff.mp hs.consistent d hd⟩
    obtain ⟨mac, hmac, hdenotes⟩ := hit
    intro group hgroup n hn
    rw [hfits rf htarget d hd ⟨mac, (mem_movedMacs.mp hmac).1, hdenotes⟩ group hgroup]
    exact (nonEmpty_some.mp hn).1

/-! ### Groups -/

/-- The members of some groups are the devices that their MACs denote. -/
theorem hit_memberMacs (hs : Addressed s) {groupIds : List Int} {d : DeviceRecord} (hd : d ∈ s.devices) :
    Hit s (cleanMacs (memberMacs s groupIds)) d ↔ d.groupId ∈ groupIds := by
  have hfixed : ∀ e ∈ s.devices, upper (strip e.addr) = e.addr := fun e he =>
    mac12_fixed (hs.macs e.addr (List.mem_map_of_mem (f := fun d : DeviceRecord => d.addr) he))
  have hupper : ∀ e ∈ s.devices, upper e.addr = e.addr := fun e he => by
    rw [← hfixed e he, upper_upper]
  have hne : ∀ e ∈ s.devices, e.addr ≠ "" := fun e he hempty => by
    have hmac := hs.macs e.addr (List.mem_map_of_mem (f := fun d : DeviceRecord => d.addr) he)
    rw [hempty] at hmac
    exact absurd hmac (by decide)
  have hmembers : ∀ mac, mac ∈ memberMacs s groupIds ↔ ∃ e ∈ s.devices, e.groupId ∈ groupIds ∧ e.addr = mac := by
    intro mac
    rw [memberMacs, mem_keepFirst_id, List.mem_filter, List.mem_map]
    constructor
    · rintro ⟨⟨e, he, rfl⟩, -⟩
      obtain ⟨hmem, hgroup⟩ := List.mem_filter.mp he
      exact ⟨e, hmem, of_decide_eq_true hgroup, (hupper e hmem).symm⟩
    · rintro ⟨e, he, hgroup, rfl⟩
      exact ⟨⟨e, List.mem_filter.mpr ⟨he, decide_eq_true hgroup⟩, hupper e he⟩, decide_eq_true (hne e he)⟩
  have hclean : ∀ mac, mac ∈ cleanMacs (memberMacs s groupIds) ↔ mac ∈ memberMacs s groupIds := by
    intro mac
    rw [cleanMacs, mem_keepFirst_id, List.mem_filter, List.mem_map]
    constructor
    · rintro ⟨⟨raw, hraw, rfl⟩, -⟩
      obtain ⟨e, he, -, rfl⟩ := (hmembers raw).mp hraw
      rwa [hfixed e he]
    · intro hmac
      obtain ⟨e, he, -, rfl⟩ := (hmembers mac).mp hmac
      exact ⟨⟨e.addr, hmac, hfixed e he⟩, decide_eq_true (hne e he)⟩
  constructor
  · rintro ⟨mac, hmac, hdenotes⟩
    obtain ⟨e, he, hgroup, rfl⟩ := (hmembers mac).mp ((hclean mac).mp hmac)
    rw [hs.denotes_self he] at hdenotes
    rwa [key_inj hs.nodup hd he (Option.some.inj hdenotes).symm]
  · intro hgroup
    exact ⟨d.addr, (hclean _).mpr ((hmembers _).mpr ⟨d, hd, hgroup, rfl⟩), hs.denotes_self hd⟩

theorem flipGroups_devices (target : String) (s : State) (groupIds : List Int) :
    (groupIds.foldl (flipGroup target) s).devices = s.devices := by
  induction groupIds generalizing s with
  | nil => rfl
  | cons first rest ih => exact ih _

theorem boundGroup_flip {groupId other : Int} (h : 0 ≤ groupId) :
    boundGroup (flipGroup target s groupId) other = (boundGroup s other).map fun group =>
      if other = groupId then {group with networkId := some target} else group := by
  unfold boundGroup
  by_cases hpos : 0 < other
  · rw [if_pos hpos, if_pos hpos]
    show (s.groups.modify groupId.toNat _)[other.toNat]?.filter _ = _
    rw [List.getElem?_modify]
    by_cases heq : other = groupId
    · subst heq
      simp only [if_true]
      cases s.groups[other.toNat]? with
      | none => rfl
      | some group => by_cases hstatic : group.staticGroup = 0 <;> simp [Option.filter_some, hstatic]
    · have hindex : groupId.toNat ≠ other.toNat := by omega
      simp [heq, hindex]
  · rw [if_neg hpos, if_neg hpos]
    rfl

/-- A device is at home after the groups are filed under a network: it was, and its
group is none of them, or it has no other network. -/
theorem flipGroups_atHome {groupIds : List Int} (hpos : ∀ g ∈ groupIds, 0 ≤ g) {d : DeviceRecord}
    (hmember : d.groupId ∈ groupIds → (boundGroup s d.groupId).isSome = true → ∀ n ∈ network d, n = target)
    (hhome : d.groupId ∈ groupIds ∨ AtHome s d) : AtHome (groupIds.foldl (flipGroup target) s) d := by
  induction groupIds generalizing s with
  | nil => exact hhome.resolve_left List.not_mem_nil
  | cons first rest ih =>
    have hflip : boundGroup (flipGroup target s first) d.groupId = (boundGroup s d.groupId).map fun group =>
        if d.groupId = first then {group with networkId := some target} else group :=
      boundGroup_flip (hpos first (List.mem_cons_self ..))
    refine ih (fun g hg => hpos g (List.mem_cons_of_mem _ hg)) (fun hrest hbound => ?_) ?_
    · rw [hflip, Option.isSome_map] at hbound
      exact hmember (List.mem_cons_of_mem _ hrest) hbound
    · by_cases heq : d.groupId = first
      · refine .inr fun group hgroup n hn => ?_
        rw [hflip, Option.mem_map] at hgroup
        obtain ⟨before, hbefore, rfl⟩ := hgroup
        rw [if_pos heq, hmember (by rw [heq]; exact List.mem_cons_self ..) (by rw [hbefore]; rfl) n hn]
      · refine hhome.imp (fun h => (List.mem_cons.mp h).resolve_left heq) fun hhome group hgroup n hn => ?_
        rw [hflip, Option.mem_map] at hgroup
        obtain ⟨before, hbefore, rfl⟩ := hgroup
        rw [if_neg heq]
        exact hhome before hbefore n hn

theorem cleanGroupIds_nonneg {groupIds : List Int} : ∀ g ∈ cleanGroupIds groupIds, 0 ≤ g := by
  intro g hg
  rw [cleanGroupIds, mem_keepFirst_id] at hg
  obtain ⟨n, -, rfl⟩ := List.mem_map.mp hg
  omega

/-- Groups that are filed under a network which all their members are on. -/
theorem flipGroups_sound {groupIds : List Int} (ht : Addressed t)
    (hmember : ∀ d ∈ t.devices, d.groupId ∈ cleanGroupIds groupIds →
      (boundGroup t d.groupId).isSome = true → ∀ n ∈ network d, n = target)
    (hhome : ∀ d ∈ t.devices, d.groupId ∈ cleanGroupIds groupIds ∨ AtHome t d) :
    Sound ((cleanGroupIds groupIds).foldl (flipGroup target) t) := by
  have hdevices := flipGroups_devices target t (cleanGroupIds groupIds)
  refine ⟨⟨by rw [hdevices]; exact ht.macs, by rw [hdevices]; exact ht.nodup⟩, consistent_iff.mpr ?_⟩
  intro d hd
  rw [hdevices] at hd
  exact flipGroups_atHome cleanGroupIds_nonneg (hmember d hd) (hhome d hd)

/-- The members of the groups are on the target once they are moved, and the others where they were. -/
theorem moveDevices_members (hs : Sound s) (htarget : target ≠ "") {groupIds : List Int} (rf : Dict)
    (force : Bool) (air : String → Exchange) {d' : DeviceRecord}
    (hd' : d' ∈ (moveDevices s target rf (cleanMacs (memberMacs s groupIds)) force air).2.2.devices) :
    d'.groupId ∈ groupIds ∧ (∀ n ∈ network d', n = target) ∨ d'.groupId ∉ groupIds ∧
      AtHome (moveDevices s target rf (cleanMacs (memberMacs s groupIds)) force air).2.2 d' := by
  have hplaces := moveDevices_places s target rf (cleanMacs (memberMacs s groupIds)) force air
  obtain ⟨d, hd, -, hplace⟩ := hplaces.devices d' hd'
  have hmember : Hit s (cleanMacs (memberMacs s groupIds)) d ↔ d.groupId ∈ groupIds :=
    hit_memberMacs hs.addressed hd
  have hgid : d'.groupId = d.groupId := by
    have hfirst := congrArg Prod.fst hplace
    split at hfirst <;> exact hfirst
  by_cases hgroup : d.groupId ∈ groupIds
  · left
    refine ⟨hgid ▸ hgroup, fun n hn => ?_⟩
    have hnetwork : d'.networkId = some target := by
      have hsecond := congrArg Prod.snd hplace
      split at hsecond
      · exact hsecond
      · next hmissed =>
        -- A member that is not moved is on the target already.
        obtain ⟨mac, hmac, hdenotes⟩ := hmember.mpr hgroup
        have hdevice := hs.addressed.deviceAt hd hdenotes
        have halready : d.networkId.getD "" = target := by
          by_contra hne
          exact hmissed ⟨mac, mem_movedMacs.mpr ⟨hmac, d, hdevice, hne⟩, hdenotes⟩
        cases hn : d.networkId with
        | none =>
          rw [hn] at halready
          exact absurd halready.symm htarget
        | some n =>
          rw [hn] at halready
          rw [show d'.networkId = d.networkId from hsecond, hn]
          exact congrArg some halready
    rw [network, hnetwork] at hn
    exact (Option.some.inj (nonEmpty_some.mp hn).1).symm
  · right
    have hmissed : ¬ Hit s (movedMacs s target force (cleanMacs (memberMacs s groupIds))) d := by
      rintro ⟨mac, hmac, hdenotes⟩
      exact hgroup (hmember.mp ⟨mac, (mem_movedMacs.mp hmac).1, hdenotes⟩)
    rw [if_neg hmissed] at hplace
    refine ⟨hgid ▸ hgroup, ?_⟩
    rw [atHome_congr hplaces.groups, atHome_iff, hplace]
    exact consistent_iff.mp hs.consistent d hd

theorem migrateGroupsTo_sound (hs : Sound s) {groupIds : List Int} (hfits : MoveGroupsFits s target groupIds)
    (force : Bool) (air : String → Exchange) : Sound (migrateGroupsTo s target groupIds force air).state := by
  unfold migrateGroupsTo
  dsimp only
  cases hcheck : checkGroups s target (cleanGroupIds groupIds) with
  | error refused => exact hs
  | ok _ =>
    dsimp only
    rcases migrateDevicesTo_cases s target (memberMacs s (cleanGroupIds groupIds)) force air with
      ⟨e, heq⟩ | ⟨refused, hrefused, heq⟩ | ⟨rf, htarget, heq⟩
    · rw [heq]
      exact hs
    · rw [heq]
      exact (flipGroups_sound hs.addressed (hfits refused hrefused hcheck) fun d hd =>
        .inr (consistent_iff.mp hs.consistent d hd)).save
    · rw [heq]
      have hplaces := moveDevices_places s target rf
        (cleanMacs (memberMacs s (cleanGroupIds groupIds))) force air
      refine (flipGroups_sound (hplaces.addressed hs.addressed) (fun d hd hgroup _ => ?_) fun d hd => ?_).save
      · have hmoved := moveDevices_members hs (moveTarget_ok htarget) rf force air hd
        exact (hmoved.resolve_right fun h => h.1 hgroup).2
      · exact (moveDevices_members hs (moveTarget_ok htarget) rf force air hd).imp And.left And.right

end Moving

end RaceLink.Fleet
