import RaceLink.Fleet.Moves
import RaceLink.Routing.Addresses

/-! What the operations do to the devices, one device at a time.

A device has a place: its group and its network. An operation that works through a list
of addresses gives every device that is denoted by one of them a new place, and leaves
the others where they are (`Places`). Names, versions and links are not looked at. -/
namespace RaceLink.Fleet
open Python Library Domain Routing Gateways Scenes

/-! ### Addresses -/

/-- The addresses of a fleet: MACs, each of one device. -/
structure Addressed (s : State) : Prop where
  macs : ∀ a ∈ s.devices.map (·.addr), isMac12 a = true
  nodup : (s.devices.map (·.addr)).Nodup

/-- What an address denotes depends on the addresses only. -/
theorem denotes_congr {s t : State} (h : t.devices.map (·.addr) = s.devices.map (·.addr)) :
    denotes t = denotes s := by
  have hfind : ∀ q : String → Bool, (t.host.devices.find? fun d => q d.addr).map (·.addr) =
      (s.host.devices.find? fun d => q d.addr).map (·.addr) := by
    intro q
    have hboth : ∀ u : State, (u.host.devices.find? fun d => q d.addr).map (·.addr) =
        (u.devices.map (·.addr)).find? q := by
      intro u
      show ((u.devices.map (·.toDevice)).find? fun d => q d.addr).map (·.addr) = _
      rw [List.find?_map, List.find?_map, Option.map_map]
      rfl
    rw [hboth t, hboth s, h]
  funext addr
  unfold denotes Host.getDeviceFromAddress
  split
  · rfl
  · dsimp only
    have hby : ∀ a : String, (t.host.deviceByAddr a).map (·.addr) = (s.host.deviceByAddr a).map (·.addr) := by
      intro a
      unfold Host.deviceByAddr
      dsimp only
      split
      · exact hfind fun addr => upper addr == upper (strip a)
      · split
        · exact hfind fun addr => (upper addr).endsWith (upper (strip a))
        · rfl
    split
    · exact hby _
    · split
      · exact hby _
      · rfl

section Lookup
variable {s : State} {d : DeviceRecord} {a b : String}

/-- The device that is denoted is there. -/
theorem denotes_some (h : denotes s a = some b) : ∃ d ∈ s.devices, d.addr = b := by
  obtain ⟨d, hd, rfl⟩ := Option.map_eq_some_iff.mp h
  have hmem : d ∈ s.host.devices := by
    unfold Host.getDeviceFromAddress Host.deviceByAddr at hd
    grind [List.mem_of_find?_eq_some]
  obtain ⟨record, hrecord, rfl⟩ := List.mem_map.mp hmem
  exact ⟨record, hrecord, rfl⟩

theorem deviceAt_some (h : deviceAt s a = some d) : d ∈ s.devices ∧ denotes s a = some d.addr := by
  obtain ⟨b, hb, hfind⟩ := Option.bind_eq_some_iff.mp h
  obtain ⟨hmem, rfl⟩ := findKey_some hfind
  exact ⟨hmem, hb⟩

theorem deviceAt_none : deviceAt s a = none ↔ denotes s a = none := by
  unfold deviceAt
  cases hb : denotes s a with
  | none => simp
  | some b =>
    obtain ⟨d, hd, hkey⟩ := denotes_some hb
    refine iff_of_false (fun hnone => ?_) (by simp)
    exact findKey_none.mp hnone d hd hkey

/-- The device of an address, when no other has it. -/
theorem Addressed.deviceAt (hs : Addressed s) (hd : d ∈ s.devices) (h : denotes s a = some d.addr) :
    deviceAt s a = some d := by
  rw [Fleet.deviceAt, h, Option.bind_some]
  exact findKey_of_mem hs.nodup hd

/-- A MAC denotes the device that has it. -/
theorem Addressed.denotes_mac (hs : Addressed s) (ha : isMac12 a = true) :
    denotes s a = if a ∈ s.devices.map (·.addr) then some a else none := by
  have hfixed := mac12_fixed ha
  have hfind : denotes s a = (s.devices.map (·.addr)).find? fun b => upper b == a := by
    rw [denotes, getDeviceFromAddress_mac (by rwa [hfixed]), hfixed]
    show ((s.devices.map (·.toDevice)).find? _).map _ = _
    rw [List.find?_map, List.find?_map, Option.map_map]
    rfl
  have hupper : ∀ b ∈ s.devices.map (·.addr), upper b = b := fun b hb => by
    have hb := mac12_fixed (hs.macs b hb)
    rw [← hb, upper_upper]
  rw [hfind]
  split
  · next hmem =>
    cases h : (s.devices.map (·.addr)).find? fun b => upper b == a with
    | none =>
      have hnone := List.find?_eq_none.mp h a hmem
      rw [hupper a hmem, beq_self_eq_true] at hnone
      exact absurd rfl hnone
    | some b =>
      have hb := List.find?_some (p := fun b => upper b == a) h
      rw [beq_iff_eq, hupper b (List.mem_of_find?_eq_some h)] at hb
      rw [hb]
  · next hmem =>
    refine List.find?_eq_none.mpr fun b hb hba => hmem ?_
    rw [beq_iff_eq, hupper b hb] at hba
    rwa [← hba]

/-- Every device is denoted by its own address. -/
theorem Addressed.denotes_self (hs : Addressed s) (hd : d ∈ s.devices) : denotes s d.addr = some d.addr := by
  have hmem := List.mem_map_of_mem (f := fun d : DeviceRecord => d.addr) hd
  rw [hs.denotes_mac (hs.macs _ hmem), if_pos hmem]

end Lookup

/-! ### Places -/

/-- The group and the network of a device. -/
def place (d : DeviceRecord) : Int × Option String := (d.groupId, d.networkId)

/-- A device that one of some addresses denotes. -/
def Hit (s : State) (addrs : List String) (d : DeviceRecord) : Prop := ∃ a ∈ addrs, denotes s a = some d.addr

instance (s : State) (addrs : List String) (d : DeviceRecord) : Decidable (Hit s addrs d) := by
  unfold Hit
  infer_instance

/-- **The devices at some addresses get new places.** -/
structure Places (move : Int × Option String → Int × Option String) (addrs : List String) (s t : State) :
    Prop where
  groups : t.groups = s.groups
  same : t.devices.map (·.addr) = s.devices.map (·.addr)
  devices : ∀ d' ∈ t.devices, ∃ d ∈ s.devices, d'.addr = d.addr ∧
    place d' = if Hit s addrs d then move (place d) else place d

section Places
variable {move : Int × Option String → Int × Option String} {s t u : State} {addrs more : List String}
  {a : String}

theorem Places.addressed (h : Places move addrs s t) (hs : Addressed s) : Addressed t :=
  ⟨by rw [h.same]; exact hs.macs, by rw [h.same]; exact hs.nodup⟩

theorem places_nil (move : Int × Option String → Int × Option String) (s : State) : Places move [] s s :=
  ⟨rfl, rfl, fun d hd => ⟨d, hd, rfl, by rw [if_neg (by rintro ⟨_, h, -⟩; cases h)]⟩⟩

/-- A place that is taken twice is taken once. -/
theorem Places.trans (hmove : ∀ p, move (move p) = move p) (h : Places move addrs s t)
    (h' : Places move more t u) : Places move (addrs ++ more) s u := by
  refine ⟨h'.groups.trans h.groups, h'.same.trans h.same, fun d'' hd'' => ?_⟩
  obtain ⟨d', hd', haddr', hplace'⟩ := h'.devices d'' hd''
  obtain ⟨d, hd, haddr, hplace⟩ := h.devices d' hd'
  refine ⟨d, hd, haddr'.trans haddr, ?_⟩
  have hmore : Hit t more d' ↔ Hit s more d := by
    unfold Hit
    rw [denotes_congr h.same, haddr]
  have happend : Hit s (addrs ++ more) d ↔ Hit s addrs d ∨ Hit s more d := by
    simp only [Hit, List.mem_append, or_and_right, exists_or]
  rw [hplace', hplace]
  simp only [hmore, happend]
  by_cases h1 : Hit s addrs d <;> by_cases h2 : Hit s more d <;> simp [h1, h2, hmove]

/-- Addresses that denote nothing more may be added. -/
theorem Places.congr (h : Places move addrs s t) (hits : ∀ d ∈ s.devices, Hit s addrs d ↔ Hit s more d) :
    Places move more s t := by
  refine ⟨h.groups, h.same, fun d' hd' => ?_⟩
  obtain ⟨d, hd, haddr, hplace⟩ := h.devices d' hd'
  refine ⟨d, hd, haddr, ?_⟩
  rw [hplace]
  simp only [hits d hd]

/-- One device gets a new place. -/
theorem changeDevice_places (s : State) (a : String) (f : DeviceRecord → DeviceRecord)
    (haddr : ∀ d, (f d).addr = d.addr) (hplace : ∀ d, place (f d) = move (place d)) :
    Places move [a] s (changeDevice s a f) := by
  have hhit : ∀ d, Hit s [a] d ↔ denotes s a = some d.addr := by
    intro d
    simp [Hit]
  unfold changeDevice
  split
  · next hnone =>
    refine ⟨rfl, rfl, fun d hd => ⟨d, hd, rfl, ?_⟩⟩
    rw [if_neg (by rw [hhit, hnone]; exact nofun)]
  · next b hb =>
    refine ⟨rfl, map_updateKey haddr, fun d' hd' => ?_⟩
    obtain ⟨d, hd, rfl⟩ := mem_updateKey.mp hd'
    refine ⟨d, hd, ?_, ?_⟩
    · split
      · exact haddr d
      · rfl
    · by_cases heq : d.addr = b
      · rw [if_pos heq, if_pos (by rw [hhit, hb, heq]), hplace]
      · rw [if_neg heq, if_neg (by rw [hhit, hb]; exact fun h => heq (Option.some.inj h).symm)]

/-- A change that leaves every device in its place. -/
theorem changeDevice_quiet (move : Int × Option String → Int × Option String) (s : State) (a : String)
    (f : DeviceRecord → DeviceRecord) (haddr : ∀ d, (f d).addr = d.addr)
    (hplace : ∀ d, place (f d) = place d) : Places move [] s (changeDevice s a f) := by
  have h : Places id [a] s (changeDevice s a f) := changeDevice_places s a f haddr hplace
  refine ⟨h.groups, h.same, fun d' hd' => ?_⟩
  obtain ⟨d, hd, hsame, hplace⟩ := h.devices d' hd'
  refine ⟨d, hd, hsame, ?_⟩
  rw [if_neg (by rintro ⟨_, h, -⟩; cases h), hplace]
  split <;> rfl

/-- Devices that stay where they are, whichever addresses are looked at. -/
theorem Places.stays (h : Places move [] s t) (addrs : List String) : Places id addrs s t := by
  refine ⟨h.groups, h.same, fun d' hd' => ?_⟩
  obtain ⟨d, hd, haddr, hplace⟩ := h.devices d' hd'
  refine ⟨d, hd, haddr, ?_⟩
  rw [hplace, if_neg (by rintro ⟨_, h, -⟩; cases h)]
  split <;> rfl

/-- **A loop over addresses**, whatever it keeps besides the state. -/
theorem foldl_places {β : Type} (hmove : ∀ p, move (move p) = move p) (state : β → State)
    {step : β → String → β} (hstep : ∀ b a, Places move [a] (state b) (state (step b a))) (b : β)
    (addrs : List String) : Places move addrs (state b) (state (addrs.foldl step b)) := by
  induction addrs generalizing b with
  | nil => exact places_nil move (state b)
  | cons a rest ih => exact (hstep b a).trans hmove (ih (step b a))

end Places

end RaceLink.Fleet
