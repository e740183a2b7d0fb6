import RaceLink.Domain.Devices
import RaceLink.Library.Buckets
import RaceLink.Startblock.Payload

/-! The start slots that are streamed to start blocks (`services/startblock_service.py`).

A start block shows a range of the slots 1 to 8. A group gets each slot that one of its start blocks shows in
one broadcast, of which all of these are to acknowledge; else a slot goes to the first start block that shows
it. What the stream service answers is a parameter, with the one refusal a payload can meet. -/
namespace RaceLink.Startblock
open Python Library Domain

/-! ### Slot ranges -/

/-- `is_startblock_device`. -/
def isStartblockDevice (dev : DeviceRecord) : Bool := "STARTBLOCK" ∈ devTypeCaps dev.caps

/-- A start block with the slots it shows. -/
structure DevRange where
  device : DeviceRecord
  firstSlot : Int
  lastSlot : Int
deriving DecidableEq, Repr

/-- The two specials of a start block; all eight slots if one of them is missing or no number. -/
def readSlots (specials : Dict) : Int × Int :=
  match specials.get? "startblock_slots", specials.get? "startblock_first_slot" with
  | some slots, some first =>
    match slots.toInt, first.toInt with
    | .ok slots, .ok first => (slots, first)
    | _, _ => (8, 1)
  | _, _ => (8, 1)

/-- The range of a device: the loop body of `_build_device_slot_mapping`. -/
def devRange (dev : DeviceRecord) : DevRange :=
  let slotCount := max 1 (min 8 (readSlots dev.specials).1)
  let firstSlot := max 1 (min 8 (readSlots dev.specials).2)
  ⟨dev, firstSlot, min 8 (firstSlot + slotCount - 1)⟩

/-- `range(first_slot, last_slot + 1)`. -/
def DevRange.slots (r : DevRange) : List Int :=
  (List.range (r.lastSlot + 1 - r.firstSlot).toNat).map fun (i : Nat) => r.firstSlot + i

/-- `dict.setdefault` for the device of a slot. -/
def setDefault (slotToDev : List (Int × DeviceRecord)) (slot : Int) (dev : DeviceRecord) : List (Int × DeviceRecord) :=
  if (slotToDev.lookup slot).isSome then slotToDev else slotToDev ++ [(slot, dev)]

/-- `_build_device_slot_mapping`. -/
def buildDeviceSlotMapping (devices : List DeviceRecord) : List (Int × DeviceRecord) × List DevRange :=
  devices.foldl (fun (slotToDev, devRanges) dev =>
    ((devRange dev).slots.foldl (fun slotToDev slot => setDefault slotToDev slot dev) slotToDev,
      devRanges ++ [devRange dev])) ([], [])

/-- The devices of each slot, as group mode collects them. -/
def slotToDevs (devRanges : List DevRange) : Buckets Int DeviceRecord :=
  devRanges.foldl (fun b r => r.slots.foldl (fun b slot => b.push slot r.device) b) []

/-! ### Slot lists -/

/-- A row of a slot list. `None` for a text reads as the empty text does. -/
structure SlotRow where
  slot : Int
  callsign : String
  racechannel : String
deriving DecidableEq, Repr

section Rows
variable (text : Json → String)

/-- An item of `normalize_slot_list`; `text` is `str`. -/
def slotRow : Json → Except PyError (Option SlotRow)
  | .arr (slot :: callsign :: racechannel :: _) => do
    let slot ← slot.toInt
    return some ⟨slot, text (callsign.orElse (.str "")), text (racechannel.orElse (.str "--"))⟩
  | .obj fields => do
    let slot ← (Dict.getD fields "slot" (.int 0)).toInt
    return some ⟨slot, text ((Dict.getD fields "callsign" (.str "")).orElse (.str "")),
      text ((Dict.getD fields "racechannel" (.str "--")).orElse (.str "--"))⟩
  | _ => return none

/-- `normalize_slot_list`. -/
def normalizeSlotList (slotList : Json) : Except PyError (List SlotRow) := do
  let rows ← (← (slotList.orElse (.arr [])).toList).mapM (slotRow text)
  return rows.reduceOption

/-- `startblock_use_current_heat`, which is on when it is not given. -/
def useHeat (params : Dict) : Bool :=
  match params.get "startblock_use_current_heat" with
  | .null => true
  | value => value.truthy

/-- The slot list of a request: that of the current heat or the one it brings. -/
def readSlotList (heat : List SlotRow) (params : Dict) : Except PyError (List SlotRow) :=
  if useHeat params then .ok heat
  else normalizeSlotList text ((params.get "startblock_slot_list").orElse (.arr []))

end Rows

/-- `slot_map.get(slot, ("", "--"))`: the last row of a slot counts. -/
def slotMap (rows : List SlotRow) (slot : Int) : String × String :=
  match rows.reverse.find? fun row => row.slot = slot with
  | some row => (row.callsign, if row.racechannel = "" then "--" else row.racechannel)
  | none => ("", "--")

/-! ### Streams -/

/-- The arguments of `send_stream`. -/
structure StreamCall where
  payload : Bytes
  groupId : Option Int
  device : Option DeviceRecord
  expectedDevices : Option (List DeviceRecord)
deriving DecidableEq, Repr

inductive StreamTarget where
  | group (groupId : Int)
  | device (dev : DeviceRecord)
  | everyStartblock
deriving DecidableEq, Repr

/-- An entry of `sent`. Its `device`, which the unicast mode adds, is an attribute that no device has. -/
structure SentSlot where
  slot : Int
  result : Json
deriving DecidableEq, Repr

inductive StreamAnswer where
  | notReady
  | refused (error : String)
  | group (groupId : Int) (devices : List DevRange) (sent : List SentSlot)
  | unicast (devices : List DevRange) (sent : List SentSlot)
deriving DecidableEq, Repr

section Control
variable (upperOf : Char → List Char) (text : Json → String) (answers : StreamCall → Json)

/-- `send_stream`, which takes at most 128 bytes. -/
def sendStream (call : StreamCall) : Except PyError Json :=
  if 128 < call.payload.length then .error (.valueError "payload too large (max 128 bytes)" []) else .ok (answers call)

/-- The loop over `slots_0based`: the calls come on top of those made before. -/
def streamSlots (callFor : Int → Option StreamCall) : List Int → List StreamCall →
    Except PyError (List SentSlot) × List StreamCall
  | [], calls => (.ok [], calls)
  | slot0 :: rest, calls =>
    match callFor (slot0 + 1) with
    | none => streamSlots callFor rest calls
    | some call =>
      match sendStream answers call with
      | .error e => (.error e, calls ++ [call])
      | .ok result =>
        let (sent, calls) := streamSlots callFor rest (calls ++ [call])
        (sent.map (⟨slot0 + 1, result⟩ :: ·), calls)

def slots0based : List Int := [0, 1, 2, 3, 4, 5, 6, 7]

/-- The loop and the answer around what it sent. -/
def streamAll (callFor : Int → Option StreamCall) (answer : List SentSlot → StreamAnswer) :
    Except PyError StreamAnswer × List StreamCall :=
  let (sent, calls) := streamSlots answers callFor slots0based []
  (sent.map answer, calls)

/-- The payload of a slot, with the row the slot map has for it. -/
def slotPayload (rows : List SlotRow) (slot1 : Int) : Bytes :=
  let row := slotMap rows (slot1 - 1)
  startblockPayload upperOf slot1 row.2.toList row.1.toList

/-- The broadcast of a slot, if it has devices. -/
def groupCall (groupId : Int) (rows : List SlotRow) (slot1 : Int) (covering : List DeviceRecord) : Option StreamCall :=
  if covering = [] then none else some ⟨slotPayload upperOf rows slot1, some groupId, none, some covering⟩

/-- The group branch of `send_startblock_control`. -/
def streamToGroup (devices : List DeviceRecord) (groupId : Int) (rows : List SlotRow) :
    Except PyError StreamAnswer × List StreamCall :=
  let members := devices.filter fun dev => isStartblockDevice dev && dev.groupId == groupId
  let devRanges := (buildDeviceSlotMapping members).2
  streamAll answers (fun slot1 => groupCall upperOf groupId rows slot1 ((slotToDevs devRanges).get slot1))
    (.group groupId devRanges)

/-- The unicast branch, for the devices it is about. -/
def streamToDevices (devices : List DeviceRecord) (rows : List SlotRow) : Except PyError StreamAnswer × List StreamCall :=
  if devices = [] then (.ok (.unicast [] []), [])
  else
    let mapping := buildDeviceSlotMapping devices
    let callFor := fun slot1 => (mapping.1.lookup slot1).map fun dev =>
      ⟨slotPayload upperOf rows slot1, none, some dev, none⟩
    streamAll answers callFor (.unicast mapping.2)

/-- `send_startblock_control`: the answer, and the calls of `send_stream` it makes. -/
def sendStartblockControl (ready : Bool) (devices : List DeviceRecord) (heat : List SlotRow) (target : StreamTarget)
    (params : Dict) : Except PyError StreamAnswer × List StreamCall :=
  if !ready then (.ok .notReady, [])
  else match readSlotList text heat params with
    | .error e => (.error e, [])
    | .ok rows =>
      match target with
      | .group groupId => streamToGroup upperOf answers devices groupId rows
      | .device dev =>
        if isStartblockDevice dev then streamToDevices upperOf answers [dev] rows
        else (.ok (.refused "targetDevice has no STARTBLOCK capability"), [])
      | .everyStartblock => streamToDevices upperOf answers (devices.filter isStartblockDevice) rows

end Control

/-! ### What the mapping says -/

/-- A start block shows a slot. -/
def shows (dev : DeviceRecord) (slot : Int) : Bool := slot ∈ (devRange dev).slots

theorem mem_slots {r : DevRange} {slot : Int} : slot ∈ r.slots ↔ r.firstSlot ≤ slot ∧ slot ≤ r.lastSlot := by
  rw [DevRange.slots, List.mem_map]
  constructor
  · intro ⟨i, hi, hslot⟩
    have := List.mem_range.mp hi
    omega
  · intro ⟨hfirst, hlast⟩
    exact ⟨(slot - r.firstSlot).toNat, List.mem_range.mpr (by omega), by omega⟩

theorem slots_nodup (r : DevRange) : r.slots.Nodup := by
  apply List.nodup_range.map
  intro i j hij
  simp only at hij
  omega

theorem lookup_setDefault (m : List (Int × DeviceRecord)) (slot k : Int) (dev : DeviceRecord) :
    (setDefault m slot dev).lookup k = (m.lookup k).or (if k = slot then some dev else none) := by
  unfold setDefault
  split
  · next h =>
    by_cases hk : k = slot
    · obtain ⟨d, hd⟩ := Option.isSome_iff_exists.mp h
      rw [hk, hd, Option.some_or]
    · rw [if_neg hk, Option.or_none]
  · next h =>
    rw [List.lookup_append]
    by_cases hk : k = slot
    · simp [hk]
    · simp [hk, List.lookup_cons, beq_eq_false_iff_ne.mpr hk]

theorem lookup_foldl_setDefault (slots : List Int) (m : List (Int × DeviceRecord)) (k : Int) (dev : DeviceRecord) :
    (slots.foldl (fun m slot => setDefault m slot dev) m).lookup k =
      (m.lookup k).or (if k ∈ slots then some dev else none) := by
  induction slots generalizing m with
  | nil => simp
  | cons slot rest ih =>
    rw [List.foldl_cons, ih, lookup_setDefault, Option.or_assoc]
    by_cases hk : k = slot <;> simp [hk]

/-- A slot is mapped to the first device that shows it, and the ranges are the devices'. -/
theorem buildDeviceSlotMapping_eq (devices : List DeviceRecord) :
    (∀ slot, (buildDeviceSlotMapping devices).1.lookup slot = devices.find? (shows · slot)) ∧
      (buildDeviceSlotMapping devices).2 = devices.map devRange := by
  have hgeneral : ∀ (m : List (Int × DeviceRecord)) (ranges : List DevRange),
      let built := devices.foldl (fun (slotToDev, devRanges) dev =>
        ((devRange dev).slots.foldl (fun slotToDev slot => setDefault slotToDev slot dev) slotToDev,
          devRanges ++ [devRange dev])) (m, ranges)
      (∀ slot, built.1.lookup slot = (m.lookup slot).or (devices.find? (shows · slot))) ∧
        built.2 = ranges ++ devices.map devRange := by
    induction devices with
    | nil => simp
    | cons dev rest ih =>
      intro m ranges
      obtain ⟨hlookup, hranges⟩ := ih ((devRange dev).slots.foldl (fun m slot => setDefault m slot dev) m)
        (ranges ++ [devRange dev])
      refine ⟨fun slot => ?_, by simpa using hranges⟩
      rw [List.foldl_cons, hlookup, lookup_foldl_setDefault, Option.or_assoc, List.find?_cons]
      by_cases hslot : slot ∈ (devRange dev).slots <;> simp [shows, hslot]
  obtain ⟨hlookup, hranges⟩ := hgeneral [] []
  exact ⟨hlookup, hranges⟩

theorem get_foldl_push {slots : List Int} (hslots : slots.Nodup) (b : Buckets Int DeviceRecord) (k : Int)
    (dev : DeviceRecord) :
    (slots.foldl (fun b slot => b.push slot dev) b).get k = b.get k ++ if k ∈ slots then [dev] else [] := by
  induction slots generalizing b with
  | nil => simp
  | cons slot rest ih =>
    obtain ⟨hslot, hrest⟩ := List.nodup_cons.mp hslots
    rw [List.foldl_cons, ih hrest, Buckets.get_push]
    by_cases hk : slot = k
    · subst hk
      simp [hslot]
    · simp [hk, Ne.symm hk]

/-- The bucket of a slot holds the devices that show it. -/
theorem slotToDevs_get (devices : List DeviceRecord) (slot : Int) :
    (slotToDevs (devices.map devRange)).get slot = devices.filter (shows · slot) := by
  have hgeneral : ∀ b : Buckets Int DeviceRecord,
      ((devices.map devRange).foldl (fun b r => r.slots.foldl (fun b slot => b.push slot r.device) b) b).get slot =
        b.get slot ++ devices.filter (shows · slot) := by
    induction devices with
    | nil => simp
    | cons dev rest ih =>
      intro b
      rw [List.map_cons, List.foldl_cons, ih, get_foldl_push (slots_nodup _), List.append_assoc, List.filter_cons]
      have hdevice : (devRange dev).device = dev := rfl
      by_cases hslot : slot ∈ (devRange dev).slots <;> simp [shows, hslot, hdevice]
  exact hgeneral []

/-! ### The slots that are streamed -/

def allSlots : List Int := [1, 2, 3, 4, 5, 6, 7, 8]

/-- The start blocks that a request is about. -/
def addressees (devices : List DeviceRecord) : StreamTarget → List DeviceRecord
  | .group groupId => devices.filter fun dev => isStartblockDevice dev && dev.groupId == groupId
  | .device dev => [dev].filter isStartblockDevice
  | .everyStartblock => devices.filter isStartblockDevice

/-- Those of them that show a slot. -/
def covering (devices : List DeviceRecord) (target : StreamTarget) (slot : Int) : List DeviceRecord :=
  (addressees devices target).filter (shows · slot)

def coveredSlots (devices : List DeviceRecord) (target : StreamTarget) : List Int :=
  allSlots.filter fun slot => covering devices target slot ≠ []

def sentSlots : StreamAnswer → List Int
  | .notReady | .refused _ => []
  | .group _ _ sent | .unicast _ sent => sent.map SentSlot.slot

/-- Whom a call is for: a group with all devices that show the slot, or the first of these. -/
def Receives (target : StreamTarget) (shown : List DeviceRecord) (call : StreamCall) : Prop :=
  match target with
  | .group groupId => call.groupId = some groupId ∧ call.device = none ∧ call.expectedDevices = some shown
  | .device _ | .everyStartblock => call.groupId = none ∧ call.device = shown.head? ∧ call.expectedDevices = none

section Streams
variable (upperOf : Char → List Char)

/-- What the payload of a slot is to say. -/
structure Carries (rows : List SlotRow) (slot : Int) (payload : Bytes) : Prop where
  reads : readPayload payload = some ⟨slot.toNat, channelText upperOf (slotMap rows (slot - 1)).2.toList,
    sanitizePilotName upperOf (slotMap rows (slot - 1)).1.toList 32⟩
  channel : (channelText upperOf (slotMap rows (slot - 1)).2.toList).length = 2
  name : (sanitizePilotName upperOf (slotMap rows (slot - 1)).1.toList 32).length ≤ 32
  size : payload.length ≤ 128

/-- Each covered slot is streamed once, in ascending order, to the devices that show it; no other slot is. -/
structure StreamsCovered (rows : List SlotRow) (devices : List DeviceRecord) (target : StreamTarget)
    (run : Except PyError StreamAnswer × List StreamCall) : Prop where
  sent : run.1.map sentSlots = .ok (coveredSlots devices target)
  streams : List.Forall₂
    (fun slot call => Carries upperOf rows slot call.payload ∧ Receives target (covering devices target slot) call)
    (coveredSlots devices target) run.2

/-- The name keeps one of the letters that are no ASCII. -/
def KeepsFolded (name : List Char) : Prop :=
  (∃ c ∈ upperName upperOf name, c ∈ foldedLetters) ∧ (keptBeforeFolded (upperName upperOf name)).length < 32

theorem keepsFolded_iff (name : List Char) : KeepsFolded upperOf name ↔
    (upperName upperOf name).any (fun c => decide (c ∈ foldedLetters)) = true ∧
      (keptBeforeFolded (upperName upperOf name)).length < 32 := by
  simp [KeepsFolded]

instance (name : List Char) : Decidable (KeepsFolded upperOf name) := decidable_of_iff _ (keepsFolded_iff upperOf name).symm

variable {upperOf}

theorem slotPayload_length (upperOf : Char → List Char) (rows : List SlotRow) {slot : Int} (h : 1 ≤ slot) (h' : slot ≤ 8) :
    (slotPayload upperOf rows slot).length ≤ 37 :=
  startblockPayload_length (by omega) (by omega) _ _

theorem slotPayload_carries (rows : List SlotRow) {slot : Int} (h : 1 ≤ slot) (h' : slot ≤ 8) :
    Carries upperOf rows slot (slotPayload upperOf rows slot) ↔
      ¬ KeepsFolded upperOf (slotMap rows (slot - 1)).1.toList := by
  have hexact := @readPayload_exact upperOf slot (by omega) (by omega)
    (slotMap rows (slot - 1)).2.toList (slotMap rows (slot - 1)).1.toList
  have hfolded := @sanitizePilotName_folded upperOf (slotMap rows (slot - 1)).1.toList 32 (by omega)
  have hsize := slotPayload_length upperOf rows h h'
  constructor
  · intro hcarries hkeeps
    obtain ⟨c, hc, hmem⟩ := hfolded.mpr hkeeps
    exact hexact.mp hcarries.reads c hc hmem
  · intro hplain
    refine ⟨hexact.mpr fun c hc hmem => hplain (hfolded.mp ⟨c, hc, hmem⟩), channelText_length _,
      sanitizePilotName_length _ (by omega), by omega⟩

/-! ### The loop over the slots -/

variable {text : Json → String} {answers : StreamCall → Json}

/-- If no payload is refused, the loop makes the calls it is told, each once and in this order. -/
theorem streamSlots_ok (answers : StreamCall → Json) {callFor : Int → Option StreamCall} {slots : List Int}
    (hsize : ∀ slot ∈ slots, ∀ call ∈ callFor (slot + 1), call.payload.length ≤ 128) (calls : List StreamCall) :
    streamSlots answers callFor slots calls =
      (.ok (slots.filterMap fun slot => (callFor (slot + 1)).map fun call => ⟨slot + 1, answers call⟩),
        calls ++ slots.filterMap fun slot => callFor (slot + 1)) := by
  induction slots generalizing calls with
  | nil => simp [streamSlots]
  | cons slot rest ih =>
    have hrest := ih fun s hs => hsize s (List.mem_cons_of_mem _ hs)
    rw [streamSlots]
    cases hcall : callFor (slot + 1) with
    | none => simp [hcall, hrest]
    | some call =>
      have hfits := hsize slot (List.mem_cons_self ..) call hcall
      have hsent : sendStream answers call = .ok (answers call) := if_neg (by omega)
      simp [hcall, hsent, hrest, Except.map]

/-- The calls of both modes: one for each slot that some device shows. -/
theorem streamSlots_covered {devices : List DeviceRecord} {target : StreamTarget} {rows : List SlotRow}
    {callFor : Int → Option StreamCall} {callOf : Int → StreamCall}
    (hcall : ∀ slot, callFor slot = if covering devices target slot = [] then none else some (callOf slot))
    (hpayload : ∀ slot, (callOf slot).payload = slotPayload upperOf rows slot) (answers : StreamCall → Json) :
    ∃ sent, streamSlots answers callFor slots0based [] = (.ok sent, (coveredSlots devices target).map callOf) ∧
      sent.map SentSlot.slot = coveredSlots devices target := by
  have hshift : slots0based.map (· + 1) = allSlots := rfl
  have hfilter : ∀ {β : Type} (f : Int → β),
      slots0based.filterMap (fun slot => if covering devices target (slot + 1) = [] then none else some (f (slot + 1))) =
        (coveredSlots devices target).map f := by
    intro β f
    rw [coveredSlots, ← hshift, ← List.filterMap_eq_map, List.filterMap_filter, List.filterMap_map]
    apply List.filterMap_congr
    intro slot _
    by_cases hslot : covering devices target (slot + 1) = [] <;> simp [hslot]
  have hrun := @streamSlots_ok answers callFor slots0based (by
    intro slot hslot call hmem
    have hbounds : 0 ≤ slot ∧ slot ≤ 7 := by
      simp only [slots0based, List.mem_cons, List.not_mem_nil, or_false] at hslot
      omega
    rw [hcall] at hmem
    split at hmem
    · cases hmem
    · cases hmem
      have hsize := @slotPayload_length upperOf rows (slot + 1) (by omega) (by omega)
      rw [hpayload]
      omega) []
  have hmade : slots0based.filterMap (fun slot => callFor (slot + 1)) = (coveredSlots devices target).map callOf := by
    simp only [hcall, hfilter]
  refine ⟨_, by rw [hrun, List.nil_append, hmade], ?_⟩
  rw [List.map_filterMap]
  simp only [hcall, apply_ite (Option.map _), Option.map_none, Option.map_some]
  rw [hfilter fun slot => slot, List.map_id']

/-- A mode that makes these calls streams what it should just if no name of a covered slot keeps one of
the letters. -/
theorem streamsCovered_iff {rows : List SlotRow} {devices : List DeviceRecord} {target : StreamTarget}
    {callFor : Int → Option StreamCall} (callOf : Int → StreamCall) {answer : List SentSlot → StreamAnswer}
    (hcall : ∀ slot, callFor slot = if covering devices target slot = [] then none else some (callOf slot))
    (hpayload : ∀ slot, (callOf slot).payload = slotPayload upperOf rows slot)
    (hreceives : ∀ slot, Receives target (covering devices target slot) (callOf slot))
    (hanswer : ∀ sent, sentSlots (answer sent) = sent.map SentSlot.slot) :
    StreamsCovered upperOf rows devices target (streamAll answers callFor answer) ↔
      ∀ slot ∈ coveredSlots devices target, ¬ KeepsFolded upperOf (slotMap rows (slot - 1)).1.toList := by
  obtain ⟨sent, hrun, hslots⟩ := streamSlots_covered hcall hpayload answers
  have hbounds : ∀ slot ∈ coveredSlots devices target, 1 ≤ slot ∧ slot ≤ 8 := by
    intro slot hslot
    have hmem := (List.mem_filter.mp hslot).1
    simp only [allSlots, List.mem_cons, List.not_mem_nil, or_false] at hmem
    omega
  have hstreams : List.Forall₂
      (fun slot call => Carries upperOf rows slot call.payload ∧ Receives target (covering devices target slot) call)
      (coveredSlots devices target) ((coveredSlots devices target).map callOf) ↔
        ∀ slot ∈ coveredSlots devices target, ¬ KeepsFolded upperOf (slotMap rows (slot - 1)).1.toList := by
    rw [List.forall₂_map_right_iff, List.forall₂_same]
    refine forall₂_congr fun slot hslot => ?_
    rw [hpayload, slotPayload_carries rows (hbounds slot hslot).1 (hbounds slot hslot).2]
    exact and_iff_left (hreceives slot)
  rw [streamAll, hrun, ← hstreams]
  refine ⟨StreamsCovered.streams, fun h => ⟨?_, h⟩⟩
  show Except.ok (sentSlots (answer sent)) = _
  rw [hanswer, hslots]

theorem streamToGroup_iff (devices : List DeviceRecord) (groupId : Int) (rows : List SlotRow) :
    StreamsCovered upperOf rows devices (.group groupId) (streamToGroup upperOf answers devices groupId rows) ↔
      ∀ slot ∈ coveredSlots devices (.group groupId), ¬ KeepsFolded upperOf (slotMap rows (slot - 1)).1.toList := by
  rw [streamToGroup]
  apply streamsCovered_iff fun slot =>
    ⟨slotPayload upperOf rows slot, some groupId, none, some (covering devices (.group groupId) slot)⟩
  · intro slot
    rw [(buildDeviceSlotMapping_eq _).2, slotToDevs_get]
    rfl
  · exact fun _ => rfl
  · exact fun _ => ⟨rfl, rfl, rfl⟩
  · exact fun _ => rfl

theorem streamToDevices_iff (devices : List DeviceRecord) {target : StreamTarget} (rows : List SlotRow)
    (hreceives : ∀ shown call, Receives target shown call ↔
      call.groupId = none ∧ call.device = shown.head? ∧ call.expectedDevices = none) :
    StreamsCovered upperOf rows devices target (streamToDevices upperOf answers (addressees devices target) rows) ↔
      ∀ slot ∈ coveredSlots devices target, ¬ KeepsFolded upperOf (slotMap rows (slot - 1)).1.toList := by
  by_cases hnone : addressees devices target = []
  · have hcovered : coveredSlots devices target = [] := by
      simp [coveredSlots, covering, hnone]
    rw [streamToDevices, if_pos hnone]
    refine iff_of_true ⟨by rw [hcovered]; rfl, by rw [hcovered]; exact .nil⟩ ?_
    simp [hcovered]
  · rw [streamToDevices, if_neg hnone]
    apply streamsCovered_iff fun slot =>
      ⟨slotPayload upperOf rows slot, none, (covering devices target slot).head?, none⟩
    · intro slot
      rw [(buildDeviceSlotMapping_eq _).1, covering, ← List.head?_filter]
      cases (addressees devices target).filter (shows · slot) <;> simp
    · exact fun _ => rfl
    · exact fun slot => (hreceives _ _).mpr ⟨rfl, rfl, rfl⟩
    · exact fun _ => rfl

/-- **Startblock streaming sends each slot of 1 to 8 that a start block shows once, in ascending order, to
those that show it, with a payload that reads back as what it was made of, just if no callsign of such a slot
keeps a letter that is no ASCII.** -/
theorem sendStartblockControl_streams (devices : List DeviceRecord) (heat : List SlotRow) (target : StreamTarget)
    (params : Dict) {rows : List SlotRow} (hrows : readSlotList text heat params = .ok rows) :
    StreamsCovered upperOf rows devices target
        (sendStartblockControl upperOf text answers true devices heat target params) ↔
      ∀ slot ∈ coveredSlots devices target, ¬ KeepsFolded upperOf (slotMap rows (slot - 1)).1.toList := by
  rw [sendStartblockControl, hrows]
  cases target with
  | group groupId => exact streamToGroup_iff devices groupId rows
  | everyStartblock => exact streamToDevices_iff devices rows fun _ _ => Iff.rfl
  | device dev =>
    by_cases hdev : isStartblockDevice dev = true
    · have hone : addressees devices (.device dev) = [dev] := by
        simp [addressees, hdev]
      simp only [hdev, if_true]
      rw [← hone]
      exact streamToDevices_iff devices rows fun _ _ => Iff.rfl
    · have hcovered : coveredSlots devices (.device dev) = [] := by
        simp [coveredSlots, covering, addressees, hdev]
      simp only [hdev]
      refine iff_of_true ⟨by rw [hcovered]; rfl, by rw [hcovered]; exact .nil⟩ ?_
      simp [hcovered]

end Streams

/-- A start block of group 7 with one slot. -/
def oneSlotBlock : DeviceRecord where
  addr := "AABBCCDDEEFF"
  groupId := 7
  networkId := none
  name := "SB"
  devType := 50
  version := 1
  caps := 50
  flags := 1
  presetId := 1
  brightness := 70
  specials := [(.str "startblock_slots", .int 1), (.str "startblock_first_slot", .int 1)]
  lastKnownRfConfig := none
  linkOnline := true

theorem streams_one_slot : StreamsCovered upperChar [⟨0, "Alpha", "R1"⟩] [oneSlotBlock] (.group 7)
    (sendStartblockControl upperChar (fun _ => "") (fun _ => .null) true [oneSlotBlock] [⟨0, "Alpha", "R1"⟩]
      (.group 7) []) :=
  (@sendStartblockControl_streams upperChar (fun _ => "") (fun _ => .null) [oneSlotBlock] [⟨0, "Alpha", "R1"⟩]
    (.group 7) [] _ rfl).mpr (by decide +kernel)

/-- A callsign that starts with U+0130. -/
def dottedName : String := String.ofList [Char.ofNat 0x130, 'l', 'k', 'e', 'r']

theorem streams_question_mark : ¬ StreamsCovered upperChar [⟨0, dottedName, "R1"⟩] [oneSlotBlock] (.group 7)
    (sendStartblockControl upperChar (fun _ => "") (fun _ => .null) true [oneSlotBlock] [⟨0, dottedName, "R1"⟩]
      (.group 7) []) := by
  intro h
  have hslots := (@streamToGroup_iff upperChar (fun _ => .null) [oneSlotBlock] 7 [⟨0, dottedName, "R1"⟩]).mp h
  exact hslots 1 (by decide +kernel) (by decide +kernel)

end RaceLink.Startblock
