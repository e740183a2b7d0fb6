import RaceLink.Fleet.Accounting

/-! Whom a move of devices touches.

A device that is told is to be told over the transport of the network it leaves, and the
devices that were not asked for are to stay as they are. Both are so as long as each
device that is told has a transport of its own, and the ACK that answers names a device
of the request: a frame carries three bytes of a MAC, and so does what is heard. -/
namespace RaceLink.Fleet
open Python Library Domain Routing Gateways

/-- The requested MACs that the pre-check sorts to a choice. -/
def sortedTo (choice : MoveChoice) (s : State) (target : String) (macs : List String) (force : Bool) :
    List String :=
  (cleanMacs macs).filter fun mac => moveChoice s target force mac == choice

/-- **What a move of devices leaves**: its accounts, the records and the frames are right, and no ACK is written
into the record of a device that was not asked for. -/
structure MoveRight (s : State) (target : String) (macs : List String) (force : Bool) (moved : Moved) : Prop where
  accounts : ∃ result, moved.answer = .ok result ∧ Accounts s target macs force result
  records : List.Forall₂ (fun d d' => d'.addr = d.addr ∧
    (d'.networkId = some target ↔ d.networkId = some target ∨ Hit s (cleanMacs macs) d) ∧
    (¬ Hit s (cleanMacs macs) d → d' = d)) s.devices moved.state.devices
  acked : ∀ d ∈ s.devices, ¬ Hit s (cleanMacs macs) d → d.addr ∉ moved.acked
  frames : ∀ frame ∈ moved.frames, ∃ d ∈ deviceAt s frame.mac,
    Hit s (cleanMacs macs) d ∧ (d.linkOnline = true ∨ force = true) ∧
      (s.transportForDevice frame.mac).map (·.toTransport) = some frame.transport

/-- At the turn of `mac`, the frame goes over the device's own transport, and the ACK names a
device that was asked for. -/
structure OwnTurn (s : State) (target : String) (macs : List String) (air : String → Exchange)
    (earlier : List String) (mac : String) : Prop where
  own : ∀ u recv3, reached (moveRoute s target earlier mac) mac = some (u, recv3) → (air mac).sent ≠ 0 →
    (s.transportForDevice mac).map (·.toTransport) = some u.toTransport
  named : ∀ u recv3 status, reached (moveRoute s target earlier mac) mac = some (u, recv3) →
    (air mac).reply = .acked status → ∀ d ∈ s.devices, denotes s (hexUpper recv3) = some d.addr →
      Hit s (cleanMacs macs) d

/-- Every device that is told has its own turn. -/
def Isolated (s : State) (target : String) (macs : List String) (force : Bool) (air : String → Exchange) : Prop :=
  ∀ before mac after, sortedTo .push s target macs force = before ++ mac :: after →
    OwnTurn s target macs air (sortedTo .offline s target macs force ++ before) mac

section Isolation
variable {s : State} {target : String} {macs : List String} {force : Bool} {air : String → Exchange}
  {rf : Dict} {mac : String}

theorem moveTarget_ne (h : moveTarget s target = .ok (.ok rf)) : target ≠ "" := by
  rintro rfl
  rw [moveTarget, show s.networkById "" = none from rfl] at h
  cases h

theorem mem_sortedTo {choice : MoveChoice} :
    mac ∈ sortedTo choice s target macs force ↔ mac ∈ cleanMacs macs ∧ moveChoice s target force mac = choice := by
  rw [sortedTo, List.mem_filter, beq_iff_eq]

theorem fits_of_sorted (htarget : target ≠ "") {choice : MoveChoice}
    (h : mac ∈ sortedTo choice s target macs force) : choice.status.Fits s target force mac := by
  have hfits := moveChoice_fits s force htarget mac
  rwa [(mem_sortedTo.mp h).2] at hfits

/-- The MACs that are pushed to are those of devices that are there. -/
theorem sortedTo_push (htarget : target ≠ "") : ∀ mac ∈ sortedTo .push s target macs force,
    upper (strip mac) = mac ∧ ∃ d, deviceAt s mac = some d := by
  intro mac hmac
  obtain ⟨d, hd, -⟩ := fits_of_sorted htarget hmac
  exact ⟨cleanMacs_fixed (mem_sortedTo.mp hmac).1, d, hd⟩

/-- Whom the ACKs of a move are taken for. -/
theorem mem_moveAcks (htarget : target ≠ "") {d : DeviceRecord} :
    d.addr ∈ moveAcks s target rf (cleanMacs macs) force air ↔
      AtTurn (Marks s target air d) (sortedTo .offline s target macs force) (sortedTo .push s target macs force) := by
  obtain ⟨G, hG, hGe⟩ := filed_effect rf (mapped_refl s) (effect_refl s target)
    (sortedTo .offline s target macs force)
  exact mem_ackedBy rf air (sortedTo_push htarget) hG (by rwa [List.nil_append] at hGe)

/-- What a move of devices does to the records, and what it writes. -/
theorem moveDevices_effect (htarget : target ≠ "") (s : State) (rf : Dict) (macs : List String) (force : Bool)
    (air : String → Exchange) :
    (∀ frame, frame ∈ (moveDevices s target rf (cleanMacs macs) force air).2.1 ↔
      AtTurn (Writes s target rf air frame) (sortedTo .offline s target macs force)
        (sortedTo .push s target macs force)) ∧
    ∃ F, (moveDevices s target rf (cleanMacs macs) force air).2.2.devices = s.devices.map F ∧
      (∀ d, (F d).addr = d.addr) ∧
      MoveEffect s target (sortedTo .offline s target macs force ++ sortedTo .push s target macs force)
        (fun d => AtTurn (Marks s target air d) (sortedTo .offline s target macs force)
          (sortedTo .push s target macs force)) F := by
  obtain ⟨G, hG, hGe⟩ := filed_effect rf (mapped_refl s) (effect_refl s target)
    (sortedTo .offline s target macs force)
  rw [List.nil_append] at hGe
  obtain ⟨hframes, F, hF, hFe⟩ := pushes_effect rf air (sortedTo_push htarget) hG hGe
  have hdevices : (moveDevices s target rf (cleanMacs macs) force air).2.2.devices =
      (pushEach (pushMove target rf air) (sortedTo .push s target macs force)
        ((sortedTo .offline s target macs force).foldl (applyMetadataFlip target rf) s)).2.2.devices := by
    rw [moveDevices]
    dsimp only
    split
    · rfl
    · rfl
  exact ⟨hframes, F, hdevices.trans hF.devices, hF.addr, hFe.congr fun d => (false_or _).symm ▸ Iff.rfl⟩

variable (force) in
/-- A requested device is moved, unless it is there already. -/
theorem hit_clean (htarget : target ≠ "") (hs : Addressed s) {d : DeviceRecord} (hd : d ∈ s.devices) :
    Hit s (cleanMacs macs) d ↔
      Hit s (sortedTo .offline s target macs force ++ sortedTo .push s target macs force) d ∨
        d.networkId = some target ∧ Hit s (cleanMacs macs) d := by
  constructor
  · rintro ⟨mac, hmac, hdenotes⟩
    have hat := hs.deviceAt hd hdenotes
    have hsorted := mem_sortedTo.mpr ⟨hmac, (rfl : moveChoice s target force mac = _)⟩
    have hfits := fits_of_sorted htarget hsorted
    cases hchoice : moveChoice s target force mac with
    | notFound =>
      rw [hchoice] at hfits
      cases hat.symm.trans hfits
    | alreadyOnTarget =>
      rw [hchoice] at hfits
      obtain ⟨d', hd', hon⟩ := hfits
      cases hat.symm.trans hd'
      exact .inr ⟨hon, mac, hmac, hdenotes⟩
    | offline =>
      rw [hchoice] at hsorted
      exact .inl ⟨mac, List.mem_append_left _ hsorted, hdenotes⟩
    | push =>
      rw [hchoice] at hsorted
      exact .inl ⟨mac, List.mem_append_right _ hsorted, hdenotes⟩
  · rintro (⟨mac, hmac, hdenotes⟩ | ⟨-, hhit⟩)
    · rcases List.mem_append.mp hmac with hmac | hmac
      · exact ⟨mac, (mem_sortedTo.mp hmac).1, hdenotes⟩
      · exact ⟨mac, (mem_sortedTo.mp hmac).1, hdenotes⟩
    · exact hhit

/-- The records of a move, one at a time. -/
theorem records_iff {F : DeviceRecord → DeviceRecord} {R : DeviceRecord → DeviceRecord → Prop} :
    List.Forall₂ R s.devices (s.devices.map F) ↔ ∀ d ∈ s.devices, R d (F d) := by
  rw [List.forall₂_map_right_iff, List.forall₂_same]

/-- The network of a record after the move. -/
theorem network_after (htarget : target ≠ "") (hs : Addressed s) {F : DeviceRecord → DeviceRecord}
    {marked : DeviceRecord → Prop}
    (he : MoveEffect s target (sortedTo .offline s target macs force ++ sortedTo .push s target macs force) marked F)
    {d : DeviceRecord} (hd : d ∈ s.devices) :
    (F d).networkId = some target ↔ d.networkId = some target ∨ Hit s (cleanMacs macs) d := by
  rw [he.network, hit_clean force htarget hs hd]
  split
  · next hmoved => exact iff_of_true rfl (.inr (.inl hmoved))
  · next hmoved =>
    constructor
    · exact .inl
    · rintro (hon | hmoved' | ⟨hon, -⟩)
      · exact hon
      · exact absurd hmoved' hmoved
      · exact hon

end Isolation

/-! ### Two moves -/

/-- Two networks with a gateway each and one without; two devices end in the same bytes. -/
def threeNetworks : State where
  networks :=
    [⟨⟨"A", .rf, some "AABBCCDDEE01"⟩, "Track", "EU868", some 1, none, none, .finite 0⟩,
      ⟨⟨"B", .rf, some "AABBCCDDEE02"⟩, "Pit", "EU868", some 2, channelRfConfig "EU868" 2, none, .finite 0⟩,
      ⟨⟨"C", .rf, none⟩, "Spare", "EU868", some 3, none, none, .finite 0⟩]
  devices :=
    [{createDevice 10 { addr := "DDEEFF112233", name := "Left" } [] with networkId := some "A"},
      {createDevice 10 { addr := "AABBCC112233", name := "Right" } [] with
        networkId := some "C", linkOnline := true},
      {createDevice 10 { addr := "AABBCC445566", name := "Start" } [] with
        networkId := some "A", linkOnline := true}]
  groups := [⟨⟨none⟩, "Unconfigured", 0, 0⟩]
  transports := [⟨⟨1, some "A", "AABBCCDDEE01"⟩, .rf⟩, ⟨⟨2, some "B", "AABBCCDDEE02"⟩, .rf⟩]
  records := []
  saves := 0

theorem threeNetworks_addressed : Addressed threeNetworks := ⟨by decide +kernel, by decide +kernel⟩

/-- The one device that is told. -/
theorem isolated_of_one {s : State} {target : String} (mac : String) {macs : List String} {force : Bool}
    {air : String → Exchange} (hone : sortedTo .push s target macs force = [mac])
    (hown : OwnTurn s target macs air (sortedTo .offline s target macs force) mac) :
    Isolated s target macs force air := by
  intro before mac' after hsplit
  rw [hone] at hsplit
  obtain ⟨rfl, hrest⟩ | ⟨hrest, hmore⟩ := List.append_eq_singleton_iff.mp hsplit.symm
  · cases hrest
    rwa [List.append_nil]
  · cases hmore

end RaceLink.Fleet
