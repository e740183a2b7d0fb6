import RaceLink.Fleet.Changes

/-! The records of a fleet, changed one for one. Every operation on devices changes each
record by itself and leaves its address, so that the lookups by address find the changed
record of the device they found before. -/
namespace RaceLink.Fleet
open Python Library Domain Routing Gateways Scenes

/-- **Every device's record is changed by `F`, and nothing that routing reads besides.** -/
structure Mapped (F : DeviceRecord → DeviceRecord) (s t : State) : Prop where
  devices : t.devices = s.devices.map F
  addr : ∀ d, (F d).addr = d.addr
  networks : t.networks = s.networks
  transports : t.transports = s.transports

/-- A change of the device that an address denotes, as a change of every record. -/
def atAddress (s : State) (a : String) (f : DeviceRecord → DeviceRecord) (d : DeviceRecord) : DeviceRecord :=
  if denotes s a = some d.addr then f d else d

section Mapped
variable {F G : DeviceRecord → DeviceRecord} {s t u : State} {a : String}

theorem mapped_refl (s : State) : Mapped id s s := ⟨(List.map_id _).symm, fun _ => rfl, rfl, rfl⟩

theorem Mapped.trans (h : Mapped F s t) (h' : Mapped G t u) : Mapped (G ∘ F) s u where
  devices := by rw [h'.devices, h.devices, List.map_map]
  addr d := (h'.addr (F d)).trans (h.addr d)
  networks := h'.networks.trans h.networks
  transports := h'.transports.trans h.transports

theorem Mapped.same (h : Mapped F s t) : t.devices.map (·.addr) = s.devices.map (·.addr) := by
  rw [h.devices, List.map_map]
  exact List.map_congr_left fun d _ => h.addr d

theorem Mapped.denotes (h : Mapped F s t) : denotes t = denotes s := denotes_congr h.same

theorem changeDevice_mapped (s : State) (a : String) {f : DeviceRecord → DeviceRecord}
    (hf : ∀ d, (f d).addr = d.addr) : Mapped (atAddress s a f) s (changeDevice s a f) := by
  have haddr : ∀ d, (atAddress s a f d).addr = d.addr := by
    intro d
    unfold atAddress
    split
    · exact hf d
    · rfl
  unfold changeDevice
  cases hb : Fleet.denotes s a with
  | none =>
    refine ⟨?_, haddr, rfl, rfl⟩
    refine (List.map_id _).symm.trans (List.map_congr_left fun d _ => ?_)
    rw [atAddress, hb, if_neg nofun]
    rfl
  | some b =>
    refine ⟨List.map_congr_left fun d _ => ?_, haddr, rfl, rfl⟩
    simp only [atAddress, hb, Option.some.injEq, eq_comm (a := b)]

/-- A change of every record, seen from an earlier state. -/
theorem Mapped.changeDevice (h : Mapped F s t) (a : String) {f : DeviceRecord → DeviceRecord}
    (hf : ∀ d, (f d).addr = d.addr) : Mapped (atAddress s a f ∘ F) s (Fleet.changeDevice t a f) := by
  have hchange := h.trans (changeDevice_mapped t a hf)
  have hsame : atAddress t a f = atAddress s a f := by
    funext d
    rw [atAddress, atAddress, h.denotes]
  rwa [hsame] at hchange

/-- Two changes at one address are one. -/
theorem atAddress_comp (s : State) (a : String) (f : DeviceRecord → DeviceRecord)
    {g : DeviceRecord → DeviceRecord} (hg : ∀ d, (g d).addr = d.addr) :
    atAddress s a f ∘ atAddress s a g = atAddress s a (f ∘ g) := by
  funext d
  by_cases h : Fleet.denotes s a = some d.addr
  · simp [atAddress, h, hg]
  · simp [atAddress, h]

/-! ### Lookups -/

/-- A lookup goes by the addresses alone. -/
theorem getDeviceFromAddress_find (a : String) :
    ∃ q : String → Bool, ∀ h : Host, h.getDeviceFromAddress a = h.devices.find? fun d => q d.addr := by
  have hnone : ∀ h : Host, (none : Option Device) = h.devices.find? fun _ => false := fun h =>
    (List.find?_eq_none.mpr fun _ _ => Bool.false_ne_true).symm
  unfold Host.getDeviceFromAddress Host.deviceByAddr
  dsimp only
  generalize hagain : upper (strip (upper (strip a))) = again
  rw [upper_strip_idem] at hagain
  subst hagain
  by_cases hempty : a = ""
  · exact ⟨fun _ => false, fun h => by rw [if_pos hempty]; exact hnone h⟩
  by_cases hlong : (upper (strip a)).length = 12
  · exact ⟨fun addr => upper addr == upper (strip a), fun h => by
      rw [if_neg hempty, if_pos hlong, if_pos hlong]⟩
  by_cases hshort : (upper (strip a)).length = 6
  · exact ⟨fun addr => (upper addr).endsWith (upper (strip a)), fun h => by
      rw [if_neg hempty, if_neg hlong, if_pos hshort, if_neg hlong, if_pos hshort]⟩
  · exact ⟨fun _ => false, fun h => by
      rw [if_neg hempty, if_neg hlong, if_neg hshort]
      exact hnone h⟩

theorem host_devices (s : State) : s.host.devices = s.devices.map (·.toDevice) := rfl

/-- The record of the device that a lookup by address finds. -/
theorem deviceAt_of_find {q : String → Bool} {s : State} {a : String} (h : s.host.getDeviceFromAddress a =
    (s.devices.find? fun d => q d.addr).map (·.toDevice)) : deviceAt s a = s.devices.find? fun d => q d.addr := by
  unfold deviceAt Fleet.denotes
  rw [h, Option.map_map]
  cases hfind : s.devices.find? fun d => q d.addr with
  | none => rfl
  | some d =>
    -- The first with that very address is the first that the lookup accepts.
    obtain ⟨haccepts, before, after, hsplit, hbefore⟩ := List.find?_eq_some_iff_append.mp hfind
    refine List.find?_eq_some_iff_append.mpr ⟨by simp, before, after, hsplit, fun x hx => ?_⟩
    have hrejects := hbefore x hx
    simp only [Function.comp_apply, Bool.not_eq_true', decide_eq_false_iff_not]
    intro heq
    rw [heq, haccepts] at hrejects
    cases hrejects

theorem deviceAt_find (a : String) : ∃ q : String → Bool, ∀ s : State,
    (s.host.getDeviceFromAddress a = (s.devices.find? fun d => q d.addr).map (·.toDevice)) ∧
      deviceAt s a = s.devices.find? fun d => q d.addr := by
  obtain ⟨q, hq⟩ := getDeviceFromAddress_find a
  refine ⟨q, fun s => ?_⟩
  have hhost : s.host.getDeviceFromAddress a = (s.devices.find? fun d => q d.addr).map (·.toDevice) := by
    rw [hq, host_devices, List.find?_map]
    rfl
  exact ⟨hhost, deviceAt_of_find hhost⟩

/-- The device of a MAC. -/
theorem deviceAt_mac {a : String} (hmac : isMac12 a = true) (s : State) :
    deviceAt s a = s.devices.find? fun d => upper d.addr == a := by
  refine deviceAt_of_find (q := fun addr => upper addr == a) ?_
  rw [getDeviceFromAddress_mac (by rwa [mac12_fixed hmac]), mac12_fixed hmac, host_devices, List.find?_map]
  rfl

theorem getDeviceFromAddress_deviceAt (s : State) (a : String) :
    s.host.getDeviceFromAddress a = (deviceAt s a).map (·.toDevice) := by
  obtain ⟨q, hq⟩ := deviceAt_find a
  rw [(hq s).1, (hq s).2]

theorem denotes_deviceAt (s : State) (a : String) : denotes s a = (deviceAt s a).map (·.addr) := by
  rw [Fleet.denotes, getDeviceFromAddress_deviceAt, Option.map_map]
  rfl

/-- The changed record of the device that was found before. -/
theorem Mapped.deviceAt (h : Mapped F s t) (a : String) : deviceAt t a = (Fleet.deviceAt s a).map F := by
  obtain ⟨q, hq⟩ := deviceAt_find a
  rw [(hq t).2, (hq s).2, h.devices, List.find?_map]
  have haddr : ((fun d : DeviceRecord => q d.addr) ∘ F) = fun d => q d.addr :=
    funext fun d => congrArg q (h.addr d)
  rw [haddr]

/-! ### Routes -/

theorem Mapped.transportForNetwork (h : Mapped F s t) (networkId : Option String) :
    t.host.transportForNetwork networkId = s.host.transportForNetwork networkId := by
  unfold Host.transportForNetwork Host.onlyTransport Host.transportByMac Host.networkById
  rw [show t.host.transports = s.host.transports from congrArg (List.map _) h.transports,
    show t.host.networks = s.host.networks from congrArg (List.map _) h.networks]

theorem Mapped.attached (h : Mapped F s t) : t.attached = s.attached := by
  funext transport
  rw [State.attached, State.attached, h.transports]

/-- A device's transport is that of its network. -/
theorem transportForDevice_eq (s : State) (a : String) : s.transportForDevice a =
    (s.host.transportForNetwork ((deviceAt s a).bind (·.networkId))).bind s.attached := by
  rw [State.transportForDevice, Host.transportForDevice, getDeviceFromAddress_deviceAt]
  cases Fleet.deviceAt s a <;> rfl

/-- The route to a device whose record was changed. -/
theorem Mapped.transportForDevice (h : Mapped F s t) (a : String) : t.transportForDevice a =
    (s.host.transportForNetwork ((Fleet.deviceAt s a).bind fun d => (F d).networkId)).bind s.attached := by
  rw [transportForDevice_eq, h.transportForNetwork, h.attached, h.deviceAt, Option.bind_map]
  rfl

end Mapped

end RaceLink.Fleet
