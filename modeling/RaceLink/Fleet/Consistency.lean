import RaceLink.Fleet.Changes
import RaceLink.Library.Except
import RaceLink.Library.Runs

/-! Whether a group stays on one network, whatever happens to its devices.

Each operation keeps a consistent fleet consistent when it fits the fleet (`Op.Fits`).
The request to regroup always fits: it is checked, and derives every group it touched. -/
namespace RaceLink.Fleet
open Python Library Domain Routing Gateways Scenes

/-! ### Operations -/

inductive Op where
  | identify (body : Bytes) (gatewayId : Option String) (discovering : Bool)
  | discover (addToGroup : Int) (responders : List String) (answers : String → Option Int)
  | regroup (body : MetaBody) (answers : String → Option Int)
  | moveDevices (target : String) (macs : List String) (force : Bool) (air : String → Exchange)
  | moveGroups (target : String) (groupIds : List Int) (force : Bool) (air : String → Exchange)

def step (s : State) : Op → State
  | .identify body gatewayId discovering => identify s body gatewayId discovering
  | .discover addToGroup responders answers => (discoverDevices s addToGroup responders answers).2
  | .regroup body answers => (apiDevicesUpdateMeta s body answers).2
  | .moveDevices target macs force air => (migrateDevicesTo s target macs force air).state
  | .moveGroups target groupIds force air => (migrateGroupsTo s target groupIds force air).state

/-! ### What fits -/

/-- The group of a device that is heard: its own, or the one it reports. -/
def homeGroup (s : State) (ev : Identify) : Int :=
  let own := ((deviceAt s ev.mac12).map (·.groupId)).getD 0
  if own = 0 then ev.groupId % 256 else own

/-- The network of a device that is heard, if it is known and has one. -/
def homeNetwork (s : State) (ev : Identify) : Option String := (deviceAt s ev.mac12).bind network

/-- What the group of a device has to be on, for the network that the device has and the
one it is heard on: on the same; on some, if the device moves; and with no other
network, if the device brings one. -/
def Welcomes (s : State) (groupId : Int) (group : GroupRecord) : Option String → Option String → Prop
  | none, none => True
  | none, some new => Labels (·.groupId) network s.devices groupId (some new)
  | some own, none => group.networkId = some own
  | some own, some new => if own = new then group.networkId = some own else nonEmpty group.networkId ≠ none

instance (s : State) (groupId : Int) (group : GroupRecord) :
    (own heard : Option String) → Decidable (Welcomes s groupId group own heard)
  | none, none => inferInstanceAs (Decidable True)
  | none, some _ => inferInstanceAs (Decidable (Labels _ _ _ _ _))
  | some _, none => inferInstanceAs (Decidable (_ = _))
  | some _, some _ => inferInstanceAs (Decidable (ite _ _ _))

/-- The group of a device that is heard welcomes it. -/
def IdentifyFits (s : State) (ev : Identify) (gatewayId : Option String) : Prop :=
  ∀ group ∈ boundGroup s (homeGroup s ev),
    Welcomes s (homeGroup s ev) group (homeNetwork s ev) (networkIdForGatewayId s gatewayId)

/-- The members of a group and those who join it agree on a network. -/
def DiscoverFits (s : State) (group : Int) (responders : List String) : Prop :=
  (boundGroup s group).isSome = true →
    ∀ d ∈ s.devices, d.groupId = group ∨ Hit s responders d →
      ∀ e ∈ s.devices, e.groupId = group ∨ Hit s responders e → ∀ m ∈ network d, ∀ n ∈ network e, m = n

/-- The groups of the devices are on the target already. -/
def MoveDevicesFits (s : State) (target : String) (macs : List String) : Prop :=
  ∀ rf, moveTarget s target = .ok (.ok rf) →
    ∀ d ∈ s.devices, Hit s (cleanMacs macs) d → ∀ group ∈ boundGroup s d.groupId, group.networkId = some target

/-- The devices can be moved, or are on the target already. -/
def MoveGroupsFits (s : State) (target : String) (groupIds : List Int) : Prop :=
  ∀ refused, moveTarget s target = .ok (.error refused) →
    checkGroups s target (cleanGroupIds groupIds) = .ok () →
    ∀ d ∈ s.devices, d.groupId ∈ cleanGroupIds groupIds → (boundGroup s d.groupId).isSome = true →
      ∀ n ∈ network d, n = target

/-- An operation that leaves no group on two networks. -/
def Op.Fits (s : State) : Op → Prop
  | .identify body gatewayId _ => ∀ ev ∈ parseIdentify body, IdentifyFits s ev gatewayId
  | .discover addToGroup responders _ =>
    0 < addToGroup → addToGroup < 255 → DiscoverFits s addToGroup responders
  | .regroup _ _ => True
  | .moveDevices target macs _ _ => MoveDevicesFits s target macs
  | .moveGroups target groupIds _ _ => MoveGroupsFits s target groupIds

/-! ### Fleets -/

/-- A fleet whose devices are told apart by their MACs and whose groups each are on one network. -/
structure Sound (s : State) : Prop where
  addressed : Addressed s
  consistent : Consistent s

/-- A place on the network of its group. -/
def HomePlace (s : State) (p : Int × Option String) : Prop :=
  ∀ group ∈ boundGroup s p.1, ∀ n ∈ nonEmpty p.2, group.networkId = some n

theorem atHome_iff {s : State} {d : DeviceRecord} : AtHome s d ↔ HomePlace s (place d) := Iff.rfl

section Places
variable {s t : State} {move : Int × Option String → Int × Option String} {addrs : List String}

/-- New places on the networks of their groups. -/
theorem Places.consistent (h : Places move addrs s t)
    (hmove : ∀ d ∈ s.devices, Hit s addrs d → HomePlace s (move (place d)))
    (hrest : ∀ d ∈ s.devices, ¬ Hit s addrs d → AtHome s d) : Consistent t := by
  refine consistent_of_devices h.groups fun d' hd' => ?_
  obtain ⟨d, hd, -, hplace⟩ := h.devices d' hd'
  rw [atHome_iff, hplace]
  split
  · next hit => exact hmove d hd hit
  · next hmissed => exact hrest d hd hmissed

/-- A place outside every group. -/
theorem homePlace_zero (s : State) (n : Option String) : HomePlace s (0, n) := by
  intro group hgroup
  cases hgroup

theorem Addressed.reconcile (hs : Addressed s) (groupId : Int) :
    Addressed (reconcileGroupNetwork s groupId).2 := by
  constructor
  · rw [reconcile_devices]
    exact hs.macs
  · rw [reconcile_devices]
    exact hs.nodup

end Places

end RaceLink.Fleet
