import RaceLink.Domain.Flags
import RaceLink.Domain.Records
import RaceLink.Library.LittleEndian
import RaceLink.Python.Text

/-! How the host makes a device record and what an IDENTIFY reply writes into it
(`domain/models.py`, `domain/device_types.py`, `domain/capabilities.py`).

The specials of a device are the options of its type. They are laid out when the record
is made; a device that later reports another type keeps the old ones. -/
namespace RaceLink.Domain
open Python Library

/-! ### Specials -/

/-- The capabilities of a device type, sorted. -/
def devTypeCaps (typeId : Int) : List String :=
  if 10 ≤ typeId ∧ typeId ≤ 14 then ["WLED"]
  else if typeId = 50 ∨ typeId = 51 then ["STARTBLOCK", "WLED"]
  else []

/-- `RL_SPECIALS`: the options of a capability with their defaults, pairs spread out. -/
def specialOptions (cap : String) : List (String × Int) :=
  if cap = "STARTBLOCK" then [("startblock_slots", 1), ("startblock_first_slot", 1)]
  else if cap = "WLED" then
    [("wled_fps", 75), ("wled_abl_max_ma", 0), ("wled_briS", 128), ("wled_transition_ms", 700),
      ("wled_seg0_start", 0), ("wled_seg0_stop", 0), ("wled_seg1_start", 0), ("wled_seg1_stop", 0)]
  else []

/-- The options of a device type. -/
def specialsOf (typeId : Int) : List (String × Int) := (devTypeCaps typeId).flatMap specialOptions

/-- A stored value, or the default of its option. -/
def specialValue (stored : Dict) (option : String × Int) : Int :=
  match (stored.getD option.1 (.int option.2)).toInt with
  | .ok n => n
  | .error _ => option.2

/-- `build_specials_state`; a whole device record may stand for its specials. -/
def buildSpecialsState (typeId : Int) (stored : Dict) : Dict :=
  let stored := match stored.get "specials" with
    | .obj nested => nested
    | _ => stored
  (specialsOf typeId).map fun option => (.str option.1, .int (specialValue stored option))

theorem specialsOf_nodup (typeId : Int) : ((specialsOf typeId).map Prod.fst).Nodup := by
  unfold specialsOf devTypeCaps
  split
  · decide
  · split <;> decide

/-! ### Records -/

/-- `str.isalnum` on a character of an address. -/
def isAlnum (c : Char) : Bool := c.isAlphanum || c.toNat == 0xFB00

/-- `default_device_name`. -/
def defaultDeviceName (mac : String) : String :=
  let cleaned := upper (String.ofList (mac.toList.filter isAlnum))
  "WLED " ++ String.ofList (cleaned.toList.drop (cleaned.length - 12))

/-- The arguments of `RL_Device` that a caller of `create_device` gives. -/
structure DeviceArgs where
  addr : String
  name : String
  groupId : Int := 0
  version : Int := 0
  caps : Int := 0
  flags : Int := RL_FLAG_POWER_ON
  presetId : Int := 1
  brightness : Int := 70
deriving DecidableEq, Repr

/-- `create_device`. -/
def createDevice (devType : Int) (args : DeviceArgs) (specials : Dict) : DeviceRecord where
  addr := args.addr
  groupId := args.groupId
  networkId := none
  name := args.name
  devType := devType
  version := args.version
  caps := args.caps
  flags := args.flags % 256
  presetId := args.presetId % 256
  brightness := args.brightness % 256
  specials := buildSpecialsState devType specials
  lastKnownRfConfig := none
  linkOnline := false

/-! ### IDENTIFY -/

/-- An IDENTIFY reply. -/
structure Identify where
  version : Int
  caps : Int
  groupId : Int
  mac6 : Bytes
deriving DecidableEq, Repr

/-- The IDENTIFY branch of `parse_reply_event`: a body of another length names no device. -/
def parseIdentify : Bytes → Option Identify
  | version :: caps :: groupId :: mac6 =>
    if mac6.length = 6 then some ⟨version.toNat, caps.toNat, groupId.toNat, mac6⟩ else none
  | _ => none

/-- A hexadecimal digit, upper case. -/
def hexDigit (n : Nat) : Char := if n < 10 then Char.ofNat (48 + n) else Char.ofNat (55 + n)

/-- `bytes.hex().upper()`. -/
def hexUpper (bytes : Bytes) : String :=
  String.ofList (bytes.flatMap fun b => [hexDigit (b.toNat / 16), hexDigit (b.toNat % 16)])

def Identify.mac12 (ev : Identify) : String := hexUpper ev.mac6

/-- `update_from_identify`: a device without a group takes the one it reports. -/
def DeviceRecord.updateFromIdentify (d : DeviceRecord) (ev : Identify) : DeviceRecord :=
  {d with
    version := ev.version
    caps := ev.caps
    devType := ev.caps
    groupId := if d.groupId = 0 ∧ ev.groupId ≠ 0 then ev.groupId % 256 else d.groupId
    linkOnline := true}

theorem parseIdentify_length {body : Bytes} {ev : Identify} (h : parseIdentify body = some ev) :
    ev.mac6.length = 6 := by
  unfold parseIdentify at h
  split at h
  · split at h
    · next hlength =>
      cases h
      exact hlength
    · cases h
  · cases h

theorem hexDigit_hex : ∀ n : Fin 16, ('0' ≤ hexDigit n ∧ hexDigit n ≤ '9') ∨
    ('A' ≤ hexDigit n ∧ hexDigit n ≤ 'F') := by
  decide

theorem hexUpper_digits {bytes : Bytes} {c : Char} (h : c ∈ (hexUpper bytes).toList) :
    ('0' ≤ c ∧ c ≤ '9') ∨ ('A' ≤ c ∧ c ≤ 'F') := by
  rw [hexUpper, String.toList_ofList] at h
  obtain ⟨b, -, hb⟩ := List.mem_flatMap.mp h
  have hhigh : b.toNat / 16 < 16 := by
    have := b.toNat_lt
    omega
  have hlow : b.toNat % 16 < 16 := Nat.mod_lt _ (by omega)
  rcases List.mem_cons.mp hb with rfl | hb
  · exact hexDigit_hex ⟨_, hhigh⟩
  · obtain rfl := List.mem_singleton.mp hb
    exact hexDigit_hex ⟨_, hlow⟩

theorem hexUpper_length (bytes : Bytes) : (hexUpper bytes).toList.length = 2 * bytes.length := by
  rw [hexUpper, String.toList_ofList]
  induction bytes with
  | nil => rfl
  | cons b rest ih =>
    rw [List.flatMap_cons, List.length_append, ih, List.length_cons]
    show 2 + 2 * rest.length = 2 * (rest.length + 1)
    omega

end RaceLink.Domain
