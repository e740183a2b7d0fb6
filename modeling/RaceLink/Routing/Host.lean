import RaceLink.Domain.Models
import RaceLink.Library.Lists
import RaceLink.Python.Text

/-! Which attached transport a frame goes to (`controller.py` and the routing half of
`services/control_service.py`).

A network is found by the id stamped on a transport, else by its gateway's MAC,
and a deployment with a single transport that names no gateway uses that one. -/
namespace RaceLink.Routing
open Python Library Domain

/-- An attached transport: which object it is, the network stamped on it, the MAC it reports. -/
structure Transport where
  handle : Nat
  networkId : Option String
  identMac : String
deriving DecidableEq, Repr

/-- The repositories and the attached transports. -/
structure Host where
  networks : List Network
  groups : List DeviceGroup
  devices : List Device
  transports : List Transport

/-- A string that is there and not empty. -/
def nonEmpty (s : Option String) : Option String := s.filter (· ≠ "")

namespace Host

/-- `controller.transport`: the first slot. -/
def transport (h : Host) : Option Transport := h.transports.head?

/-- The transport of a single-gateway deployment. -/
def onlyTransport (h : Host) : Option Transport :=
  match h.transports with
  | [t] => some t
  | _ => none

/-- `network_repository.get_by_id`. -/
def networkById (h : Host) (networkId : String) : Option Network :=
  if networkId = "" then none else h.networks.find? fun n => n.id == networkId

/-- `device_repository.get_by_addr`: a whole address, or its last six digits. -/
def deviceByAddr (h : Host) (addr : String) : Option Device :=
  let s := upper (strip addr)
  if s.length = 12 then h.devices.find? fun d => upper d.addr == s
  else if s.length = 6 then h.devices.find? fun d => (upper d.addr).endsWith s
  else none

/-- `getDeviceFromAddress`. -/
def getDeviceFromAddress (h : Host) (addr : String) : Option Device :=
  if addr = "" then none
  else
    let s := upper (strip addr)
    if s.length = 12 then h.deviceByAddr s
    else if s.length = 6 then h.deviceByAddr s
    else none

/-- The transport whose MAC a network lists as its gateway. -/
def transportByMac (h : Host) (gatewayMac : String) : Option Transport :=
  h.transports.find? fun t => upper t.identMac != "" && upper t.identMac == upper gatewayMac

/-- `transport_for_network`. -/
def transportForNetwork (h : Host) (networkId : Option String) : Option Transport :=
  match nonEmpty networkId with
  | none => none
  | some target =>
    match h.transports.find? fun t => t.networkId == some target with
    | some t => some t
    | none =>
      match (h.networkById target).bind fun n => nonEmpty n.gatewayMac with
      | none => h.onlyTransport
      | some gatewayMac => h.transportByMac gatewayMac

/-- `transport_for_device`. -/
def transportForDevice (h : Host) (addr : String) : Option Transport :=
  h.transportForNetwork ((h.getDeviceFromAddress addr).bind (·.networkId))

/-- The group with an id: groups are numbered by their place. -/
def groupById (h : Host) (groupId : Int) : Option DeviceGroup := h.groups[(groupId % 256).toNat]?

/-- `transport_for_group`. -/
def transportForGroup (h : Host) (groupId : Int) : Option Transport :=
  ((h.groupById groupId).bind fun g => h.transportForNetwork g.networkId).or h.onlyTransport

/-- `_transport_for_group_send`: whatever is attached first, if the group has no route. -/
def transportForGroupSend (h : Host) (groupId : Int) : Option Transport :=
  (h.transportForGroup groupId).or h.transport

/-- `_transport_for_device_send`: no guess among several. -/
def transportForDeviceSend (h : Host) (target : Device) : Option Transport :=
  (h.transportForDevice target.addr).or (if 1 < h.transports.length then none else h.transport)

/-- The loop of `resolve_broadcast_transports`: networks without a transport are left
out, and a transport is taken once. -/
def routesOf (h : Host) (seen : List Nat) : List String → List Transport
  | [] => []
  | networkId :: rest =>
    match h.transportForNetwork (some networkId) with
    | none => h.routesOf seen rest
    | some t =>
      if t.handle ∈ seen then h.routesOf seen rest
      else t :: h.routesOf (t.handle :: seen) rest

/-- `resolve_broadcast_transports`: without a target, everything that is attached. -/
def resolveBroadcastTransports (h : Host) : Option (List String) → List Transport
  | none => h.transports
  | some networkIds => h.routesOf [] networkIds

end Host

/-! ### Whose frames a transport carries -/

/-- The transport is that of the network: stamped with its id, or its gateway. -/
def Host.Carries (h : Host) (networkId : String) (t : Transport) : Prop :=
  t.networkId = some networkId ∨
    ∃ n mac, h.networkById networkId = some n ∧ nonEmpty n.gatewayMac = some mac ∧
      upper t.identMac ≠ "" ∧ upper t.identMac = upper mac

/-- The transport is the only one, or that of the network. -/
def Host.Routes (h : Host) (networkId : String) (t : Transport) : Prop :=
  h.transports = [t] ∨ h.Carries networkId t

section Proofs
variable {h : Host} {t : Transport}

theorem nonEmpty_some {s : Option String} {x : String} : nonEmpty s = some x ↔ s = some x ∧ x ≠ "" := by
  simp [nonEmpty, Option.filter_eq_some_iff]

theorem onlyTransport_eq (ht : h.onlyTransport = some t) : h.transports = [t] := by
  unfold Host.onlyTransport at ht
  split at ht
  · next t' heq => rw [heq, Option.some.inj ht]
  · cases ht

theorem transportForNetwork_routes {networkId : String}
    (ht : h.transportForNetwork (some networkId) = some t) : h.Routes networkId t := by
  unfold Host.transportForNetwork at ht
  split at ht
  · cases ht
  · next target htarget =>
    obtain ⟨heq, -⟩ := nonEmpty_some.mp htarget
    cases heq
    split at ht
    · next t' hfind =>
      cases ht
      exact .inr (.inl (eq_of_beq (List.find?_some (p := fun t : Transport => t.networkId == some networkId)
        hfind)))
    · split at ht
      · exact .inl (onlyTransport_eq ht)
      · next mac hmac =>
        obtain ⟨n, hn, hgw⟩ := Option.bind_eq_some_iff.mp hmac
        have hmatch := List.find?_some ht
        rw [Bool.and_eq_true, bne_iff_ne, beq_iff_eq] at hmatch
        exact .inr (.inr ⟨n, mac, hn, hgw, hmatch⟩)

/-- A lookup finds what is attached. -/
theorem transportForNetwork_mem {networkId : Option String}
    (ht : h.transportForNetwork networkId = some t) : t ∈ h.transports := by
  cases networkId with
  | none => cases ht
  | some networkId =>
    unfold Host.transportForNetwork at ht
    split at ht
    · cases ht
    · split at ht
      · next t' hfind =>
        cases ht
        exact List.mem_of_find?_eq_some hfind
      · split at ht
        · rw [onlyTransport_eq ht]
          exact List.mem_singleton_self t
        · exact List.mem_of_find?_eq_some ht

theorem transportForDevice_routes {addr : String} (ht : h.transportForDevice addr = some t) :
    ∃ d networkId, h.getDeviceFromAddress addr = some d ∧ d.networkId = some networkId ∧
      h.Routes networkId t := by
  unfold Host.transportForDevice at ht
  cases hd : h.getDeviceFromAddress addr with
  | none =>
    rw [hd] at ht
    cases ht
  | some d =>
    rw [hd, Option.bind_some] at ht
    cases hn : d.networkId with
    | none =>
      rw [hn] at ht
      cases ht
    | some networkId =>
      rw [hn] at ht
      exact ⟨d, networkId, rfl, hn, transportForNetwork_routes ht⟩

/-- A route of a group: the only transport, or that of its network. -/
theorem transportForGroup_routes {groupId : Int} (ht : h.transportForGroup groupId = some t) :
    h.transports = [t] ∨ ∃ g networkId, h.groupById groupId = some g ∧ g.networkId = some networkId ∧
      h.Carries networkId t := by
  unfold Host.transportForGroup at ht
  rcases Option.or_eq_some_iff.mp ht with hroute | ⟨-, hroute⟩
  · obtain ⟨g, hg, hroute⟩ := Option.bind_eq_some_iff.mp hroute
    cases hn : g.networkId with
    | none =>
      rw [hn] at hroute
      cases hroute
    | some networkId =>
      rw [hn] at hroute
      exact (transportForNetwork_routes hroute).imp_right fun hc => ⟨g, networkId, hg, hn, hc⟩
  · exact .inl (onlyTransport_eq hroute)

theorem transportForDeviceSend_routes {d : Device} (ht : h.transportForDeviceSend d = some t) :
    h.transports = [t] ∨ h.transportForDevice d.addr = some t := by
  rcases Option.or_eq_some_iff.mp ht with hroute | ⟨-, hroute⟩
  · exact .inr hroute
  · split at hroute
    · cases hroute
    · next hmany =>
      left
      obtain ⟨rest, hrest⟩ := List.head?_eq_some_iff.mp hroute
      cases rest with
      | nil => exact hrest
      | cons t' rest =>
        rw [hrest] at hmany
        simp at hmany

/-- The transports of a fan-out are those of its networks, each taken once. -/
theorem routesOf_spec {seen : List Nat} {networkIds : List String} :
    ((h.routesOf seen networkIds).map (·.handle)).Nodup ∧
      ∀ t ∈ h.routesOf seen networkIds, t.handle ∉ seen ∧
        ∃ networkId ∈ networkIds, h.transportForNetwork (some networkId) = some t := by
  induction networkIds generalizing seen with
  | nil => exact ⟨List.nodup_nil, by simp [Host.routesOf]⟩
  | cons networkId rest ih =>
    unfold Host.routesOf
    split
    · refine ⟨ih.1, fun t ht => ?_⟩
      obtain ⟨hseen, id, hid, hroute⟩ := ih.2 t ht
      exact ⟨hseen, id, List.mem_cons_of_mem _ hid, hroute⟩
    · next t hroute =>
      split
      · refine ⟨ih.1, fun t' ht' => ?_⟩
        obtain ⟨hseen, id, hid, hroute'⟩ := ih.2 t' ht'
        exact ⟨hseen, id, List.mem_cons_of_mem _ hid, hroute'⟩
      · next hnew =>
        refine ⟨List.nodup_cons.mpr ⟨fun hmem => ?_, ih.1⟩, fun t' ht' => ?_⟩
        · obtain ⟨t', ht', heq⟩ := List.mem_map.mp hmem
          exact (ih.2 t' ht').1 (List.mem_cons.mpr (.inl heq))
        · rcases List.mem_cons.mp ht' with rfl | ht'
          · exact ⟨hnew, networkId, List.mem_cons_self .., hroute⟩
          · obtain ⟨hseen, id, hid, hroute'⟩ := ih.2 t' ht'
            exact ⟨mt (List.mem_cons_of_mem _) hseen, id, List.mem_cons_of_mem _ hid, hroute'⟩

/-- A fan-out takes no more transports than there are. -/
theorem routesOf_length_le {networkIds : List String} :
    (h.routesOf [] networkIds).length ≤ h.transports.length := by
  obtain ⟨hnodup, hmem⟩ := @routesOf_spec h [] networkIds
  refine (List.subperm_of_subset (List.Nodup.of_map _ hnodup) fun t ht => ?_).length_le
  obtain ⟨-, networkId, -, hroute⟩ := hmem t ht
  exact transportForNetwork_mem hroute

end Proofs

/-! ### No lookup leaves the network of its target -/

/-- Each lookup, for a target that has a network, gives the transport of that network or
the only one there is. The group sender is held to it where the group has a route. -/
structure Host.KeepsNetworks (h : Host) : Prop where
  network : ∀ networkId t, h.transportForNetwork (some networkId) = some t → h.Routes networkId t
  device : ∀ addr d networkId t, h.getDeviceFromAddress addr = some d →
    d.networkId = some networkId → h.transportForDevice addr = some t → h.Routes networkId t
  group : ∀ groupId g networkId t, h.groupById groupId = some g → g.networkId = some networkId →
    h.transportForGroup groupId = some t → h.Routes networkId t
  deviceSend : ∀ d networkId t, h.getDeviceFromAddress d.addr = some d →
    d.networkId = some networkId → h.transportForDeviceSend d = some t → h.Routes networkId t
  groupSend : ∀ groupId g networkId t, h.groupById groupId = some g → g.networkId = some networkId →
    (h.transportForGroup groupId).isSome → h.transportForGroupSend groupId = some t →
      h.Routes networkId t

/-- **In every host, a frame for a target of a network is handed to that network's transport,
or to the only one attached.** -/
theorem keepsNetworks (h : Host) : h.KeepsNetworks := by
  have hdevice : ∀ addr d networkId t, h.getDeviceFromAddress addr = some d →
      d.networkId = some networkId → h.transportForDevice addr = some t → h.Routes networkId t := by
    intro addr d networkId t hd hn ht
    obtain ⟨d', networkId', hd', hn', hroute⟩ := transportForDevice_routes ht
    cases hd.symm.trans hd'
    cases hn.symm.trans hn'
    exact hroute
  have hgroup : ∀ groupId g networkId t, h.groupById groupId = some g →
      g.networkId = some networkId → h.transportForGroup groupId = some t → h.Routes networkId t := by
    intro groupId g networkId t hg hn ht
    refine (transportForGroup_routes ht).imp_right ?_
    rintro ⟨g', networkId', hg', hn', hcarries⟩
    cases hg.symm.trans hg'
    cases hn.symm.trans hn'
    exact hcarries
  refine ⟨fun _ _ => transportForNetwork_routes, hdevice, hgroup, ?_, ?_⟩
  · intro d networkId t hd hn ht
    exact (transportForDeviceSend_routes ht).elim .inl (hdevice d.addr d networkId t hd hn)
  · intro groupId g networkId t hg hn hsome ht
    obtain ⟨t', ht'⟩ := Option.isSome_iff_exists.mp hsome
    rw [Host.transportForGroupSend, ht', Option.some_or] at ht
    exact hgroup groupId g networkId t hg hn (ht'.trans ht)

/-- Two networks without a gateway, and one transport, stamped with the first. -/
def singleGateway : Host where
  networks := [⟨"A", .rf, none⟩, ⟨"B", .rf, none⟩]
  groups := []
  devices := []
  transports := [⟨0, some "A", "AABBCCDDEEFF"⟩]

/-- The single transport serves the other network as well. -/
theorem singleGateway_crosses :
    ∃ t, singleGateway.transportForNetwork (some "B") = some t ∧ t.networkId = some "A" :=
  ⟨_, rfl, rfl⟩

end RaceLink.Routing
