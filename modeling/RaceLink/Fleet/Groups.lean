import RaceLink.Domain.Devices
import RaceLink.Gateways.State
import RaceLink.Library.Members

/-! The devices of a fleet, the groups they are in, and the network of a group
(`controller.py`).

A group has no network of its own: it is given that of its members, by whoever changes
who is a member. `reconcileGroupNetwork` derives it anew. -/
namespace RaceLink.Fleet
open Python Library Domain Routing Gateways

/-! ### Devices -/

/-- The address of the device that an address denotes. -/
def denotes (s : State) (addr : String) : Option String := (s.host.getDeviceFromAddress addr).map (·.addr)

/-- `getDeviceFromAddress`. -/
def deviceAt (s : State) (addr : String) : Option DeviceRecord :=
  (denotes s addr).bind fun a => findKey (·.addr) a s.devices

/-- A change of the device that an address denotes. -/
def changeDevice (s : State) (addr : String) (f : DeviceRecord → DeviceRecord) : State :=
  match denotes s addr with
  | none => s
  | some a => {s with devices := updateKey (·.addr) a f s.devices}

/-- The network of a device. -/
def network (d : DeviceRecord) : Option String := nonEmpty d.networkId

/-- `mark_offline`. -/
def markOffline (d : DeviceRecord) : DeviceRecord := {d with linkOnline := false}

/-! ### Groups -/

/-- `reconcile_group_network`, and whether it changed the group. -/
def reconcileGroupNetwork (s : State) (groupId : Int) : Bool × State :=
  if groupId ≤ 0 then (false, s)
  else match s.groups[groupId.toNat]? with
    | none => (false, s)
    | some group =>
      if group.staticGroup ≠ 0 then (false, s)
      else
        let memberNetwork := firstTag (·.groupId) network s.devices groupId
        if group.networkId = memberNetwork then (false, s)
        else (true, {s with groups := s.groups.set groupId.toNat {group with networkId := memberNetwork}})

/-- A group that is to be on one network: neither Unconfigured nor static. -/
def boundGroup (s : State) (groupId : Int) : Option GroupRecord :=
  if 0 < groupId then s.groups[groupId.toNat]?.filter fun group => group.staticGroup = 0 else none

/-! ### Groups on one network -/

/-- Every member of a group that has a network is on the group's. -/
def ConsistentAt (s : State) (groupId : Int) : Prop :=
  ∀ group ∈ boundGroup s groupId, Labels (·.groupId) network s.devices groupId group.networkId

/-- **No group spans networks.** -/
def Consistent (s : State) : Prop := ∀ groupId, ConsistentAt s groupId

/-- A device that is on the network of its group. -/
def AtHome (s : State) (d : DeviceRecord) : Prop :=
  ∀ group ∈ boundGroup s d.groupId, ∀ n ∈ network d, group.networkId = some n

/-- The members of a group agree on a network. -/
abbrev Agrees (s : State) (groupId : Int) : Prop := Agree (·.groupId) network s.devices groupId

section Consistent
variable {s t : State} {groupId : Int} {d : DeviceRecord} {group : GroupRecord}

theorem consistent_iff : Consistent s ↔ ∀ d ∈ s.devices, AtHome s d := by
  constructor
  · intro h d hd group hgroup n hn
    exact h d.groupId group hgroup d hd rfl n hn
  · intro h groupId group hgroup d hd hgid n hn
    subst hgid
    exact h d hd group hgroup n hn

theorem boundGroup_some : boundGroup s groupId = some group ↔
    0 < groupId ∧ s.groups[groupId.toNat]? = some group ∧ group.staticGroup = 0 := by
  unfold boundGroup
  split
  · next hpos => simp [hpos, Option.filter_eq_some_iff]
  · next hneg => simp [hneg]

theorem boundGroup_congr (hgroups : t.groups = s.groups) : boundGroup t groupId = boundGroup s groupId := by
  unfold boundGroup
  rw [hgroups]

theorem atHome_congr (hgroups : t.groups = s.groups) : AtHome t d ↔ AtHome s d := by
  unfold AtHome
  rw [boundGroup_congr hgroups]

theorem Consistent.agrees (h : Consistent s) (hgroup : boundGroup s groupId = some group) :
    Agrees s groupId :=
  (h groupId group hgroup).agree

/-- Devices that come home, among groups that stay. -/
theorem consistent_of_devices (hgroups : t.groups = s.groups) (h : ∀ d ∈ t.devices, AtHome s d) :
    Consistent t :=
  consistent_iff.mpr fun d hd => (atHome_congr hgroups).mpr (h d hd)

end Consistent

/-! ### A group derived anew -/

section Reconcile
variable {s : State} {groupId other : Int} {d : DeviceRecord} {group : GroupRecord}

/-- Only the group itself changes, and only its network. -/
theorem reconcile_eq (s : State) (groupId : Int) :
    (reconcileGroupNetwork s groupId).2 = {s with groups := (reconcileGroupNetwork s groupId).2.groups} := by
  unfold reconcileGroupNetwork
  split
  · rfl
  · split
    · rfl
    · split
      · rfl
      · dsimp only
        split <;> rfl

theorem reconcile_devices (s : State) (groupId : Int) :
    (reconcileGroupNetwork s groupId).2.devices = s.devices := by
  rw [reconcile_eq]

/-- The group with the network of its members. -/
theorem reconcile_self (hgroup : boundGroup s groupId = some group) :
    boundGroup (reconcileGroupNetwork s groupId).2 groupId =
      some {group with networkId := firstTag (·.groupId) network s.devices groupId} := by
  obtain ⟨hpos, hget, hstatic⟩ := boundGroup_some.mp hgroup
  have hlt : groupId.toNat < s.groups.length := (List.getElem?_eq_some_iff.mp hget).1
  have hunset : ¬ groupId ≤ 0 := by omega
  rw [reconcileGroupNetwork, if_neg hunset, hget]
  dsimp only
  rw [if_neg (not_not.mpr hstatic)]
  by_cases hsame : group.networkId = firstTag (·.groupId) network s.devices groupId
  · rw [if_pos hsame, hgroup, ← hsame]
  · rw [if_neg hsame]
    refine boundGroup_some.mpr ⟨hpos, ?_, hstatic⟩
    show (s.groups.set groupId.toNat _)[groupId.toNat]? = _
    rw [List.getElem?_set_self hlt]

/-- The other groups stay. -/
theorem reconcile_other (hne : other ≠ groupId) :
    boundGroup (reconcileGroupNetwork s groupId).2 other = boundGroup s other := by
  unfold reconcileGroupNetwork
  split
  · rfl
  · next hpos =>
    split
    · rfl
    · split
      · rfl
      · dsimp only
        split
        · rfl
        · unfold boundGroup
          by_cases hother : 0 < other
          · have hindex : groupId.toNat ≠ other.toNat := by omega
            rw [if_pos hother, if_pos hother]
            show ((s.groups.set groupId.toNat _)[other.toNat]?).filter _ = _
            rw [List.getElem?_set_ne hindex]
          · rw [if_neg hother, if_neg hother]

/-- A group that is to be on one network stays one. -/
theorem boundGroup_reconcile (s : State) (groupId other : Int) :
    (boundGroup (reconcileGroupNetwork s groupId).2 other).isSome = (boundGroup s other).isSome := by
  by_cases hne : other = groupId
  · subst hne
    cases hgroup : boundGroup s other with
    | none =>
      have hsame : (reconcileGroupNetwork s other).2 = s := by
        unfold reconcileGroupNetwork
        split
        · rfl
        · next hpos =>
          split
          · rfl
          · next group hget =>
            split
            · rfl
            · next hstatic =>
              have hsome := boundGroup_some.mpr ⟨by omega, hget, not_not.mp hstatic⟩
              rw [hsome] at hgroup
              cases hgroup
      rw [hsame, hgroup]
    | some group =>
      rw [reconcile_self hgroup]
      rfl
  · rw [reconcile_other hne]

/-- **A group whose members agree has their network after it is derived anew.** -/
theorem reconcile_atHome (h : (boundGroup s groupId).isSome = true → Agrees s groupId) (hd : d ∈ s.devices)
    (hhome : d.groupId ≠ groupId → AtHome s d) : AtHome (reconcileGroupNetwork s groupId).2 d := by
  by_cases hmember : d.groupId = groupId
  · intro group hgroup n hn
    rw [hmember] at hgroup
    cases hbound : boundGroup s groupId with
    | none =>
      have hsome := boundGroup_reconcile s groupId groupId
      rw [hbound, Option.mem_def.mp hgroup] at hsome
      cases hsome
    | some before =>
      rw [reconcile_self hbound] at hgroup
      cases hgroup
      exact labels_firstTag.mpr (h (by rw [hbound]; rfl)) d hd hmember n hn
  · intro group hgroup
    rw [reconcile_other hmember] at hgroup
    exact hhome hmember group hgroup

/-- A consistent fleet stays consistent when a group is derived anew. -/
theorem Consistent.reconcile (h : Consistent s) (groupId : Int) :
    Consistent (reconcileGroupNetwork s groupId).2 := by
  rw [consistent_iff, reconcile_devices]
  intro d hd
  refine reconcile_atHome (fun hsome => ?_) hd fun _ => consistent_iff.mp h d hd
  obtain ⟨group, hgroup⟩ := Option.isSome_iff_exists.mp hsome
  exact h.agrees hgroup

end Reconcile

end RaceLink.Fleet
