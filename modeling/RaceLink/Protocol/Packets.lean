import RaceLink.Library.Except
import RaceLink.Library.LittleEndian
import RaceLink.Python.Value

/-! The packet bodies a scene sends (`protocol/packets.py`): OPC_PRESET, OPC_SYNC,
OPC_OFFSET with the parser that reads it back, and OPC_CONTROL, whose length
depends on the fields that are present. -/
namespace RaceLink.Protocol
open Python Library

/-- `build_preset_body`. -/
def buildPresetBody (groupId flags presetId brightness : Int) : Bytes :=
  [byte groupId, byte flags, byte presetId, byte brightness]

def SYNC_FLAG_TRIGGER_ARMED : Int := 0x01

/-- `build_sync_body`: the flags byte is there only if it is not zero. -/
def buildSyncBody (ts24 brightness flags : Int) : Bytes :=
  let ts := ts24 % 0x1000000
  let base := [byte ts, byte (ts / 0x100), byte (ts / 0x10000), byte brightness]
  if byte flags = 0 then base else base ++ [byte flags]

theorem length_buildSyncBody_armed (ts24 brightness : Int) :
    (buildSyncBody ts24 brightness SYNC_FLAG_TRIGGER_ARMED).length = 5 := by
  rw [buildSyncBody, if_neg (by decide)]
  rfl

/-! ### OPC_OFFSET -/

/-- A mode with its parameters: what `send_offset` is given, and what a body carries. -/
inductive OffsetConfig where
  | none
  | explicit (offsetMs : Int)
  | linear (baseMs stepMs : Int)
  | vshape (baseMs stepMs center : Int)
  | modulo (baseMs stepMs cycle : Int)
deriving DecidableEq, Repr

def OFFSET_MODE_NONE : UInt8 := 0x00
def OFFSET_MODE_EXPLICIT : UInt8 := 0x01
def OFFSET_MODE_LINEAR : UInt8 := 0x02
def OFFSET_MODE_VSHAPE : UInt8 := 0x03
def OFFSET_MODE_MODULO : UInt8 := 0x04

def OFFSET_MS_MIN : Int := 0
def OFFSET_MS_MAX : Int := 0xFFFF
def OFFSET_BASE_MIN : Int := -32768
def OFFSET_BASE_MAX : Int := 32767
def OFFSET_STEP_MIN : Int := -32768
def OFFSET_STEP_MAX : Int := 32767
def OFFSET_CENTER_MIN : Int := 0
def OFFSET_CENTER_MAX : Int := 254
def OFFSET_CYCLE_MIN : Int := 1
def OFFSET_CYCLE_MAX : Int := 255

/-- The two formula parameters that three modes share. -/
def formulaBytes (baseMs stepMs : Int) : Bytes :=
  le16 (clamp OFFSET_BASE_MIN OFFSET_BASE_MAX baseMs) ++
    le16 (clamp OFFSET_STEP_MIN OFFSET_STEP_MAX stepMs)

/-- `build_offset_body`. -/
def buildOffsetBody (groupId : Int) : OffsetConfig → Bytes
  | .none => [byte groupId, OFFSET_MODE_NONE]
  | .explicit offsetMs =>
    [byte groupId, OFFSET_MODE_EXPLICIT] ++ le16 (clamp OFFSET_MS_MIN OFFSET_MS_MAX offsetMs)
  | .linear baseMs stepMs => [byte groupId, OFFSET_MODE_LINEAR] ++ formulaBytes baseMs stepMs
  | .vshape baseMs stepMs center =>
    [byte groupId, OFFSET_MODE_VSHAPE] ++ formulaBytes baseMs stepMs ++
      [byte (clamp OFFSET_CENTER_MIN OFFSET_CENTER_MAX center)]
  | .modulo baseMs stepMs cycle =>
    [byte groupId, OFFSET_MODE_MODULO] ++ formulaBytes baseMs stepMs ++
      [byte (clamp OFFSET_CYCLE_MIN OFFSET_CYCLE_MAX cycle)]

/-- A body of the wrong length for its mode. -/
def lengthError (text : String) (rest : Bytes) : PyError :=
  .valueError text [.int (rest.length + 2)]

/-- What follows the group and the mode byte. -/
def parseOffsetParams (m : UInt8) (rest : Bytes) : Except PyError OffsetConfig :=
  if m = OFFSET_MODE_NONE then
    match rest with
    | [] => .ok .none
    | _ => .error (.valueError "OPC_OFFSET (NONE) body must be 2 B" [])
  else if m = OFFSET_MODE_EXPLICIT then
    match rest with
    | [ms0, ms1] => .ok (.explicit (readU16 ms0 ms1))
    | _ => .error (lengthError "OPC_OFFSET (EXPLICIT) body must be 4 B, got %s" rest)
  else if m = OFFSET_MODE_LINEAR then
    match rest with
    | [b0, b1, s0, s1] => .ok (.linear (readI16 b0 b1) (readI16 s0 s1))
    | _ => .error (lengthError "OPC_OFFSET (LINEAR) body must be 6 B, got %s" rest)
  else if m = OFFSET_MODE_VSHAPE then
    match rest with
    | [b0, b1, s0, s1, c] => .ok (.vshape (readI16 b0 b1) (readI16 s0 s1) c.toNat)
    | _ => .error (lengthError "OPC_OFFSET (VSHAPE) body must be 7 B, got %s" rest)
  else if m = OFFSET_MODE_MODULO then
    match rest with
    | [b0, b1, s0, s1, cy] => .ok (.modulo (readI16 b0 b1) (readI16 s0 s1) cy.toNat)
    | _ => .error (lengthError "OPC_OFFSET (MODULO) body must be 7 B, got %s" rest)
  else .error (.valueError "unknown OPC_OFFSET mode byte 0x%02X" [.int m.toNat])

/-- `parse_offset_body`: the group and the configuration of a body. -/
def parseOffsetBody : Bytes → Except PyError (UInt8 × OffsetConfig)
  | g :: m :: rest => do
    let config ← parseOffsetParams m rest
    return (g, config)
  | body => .error (.valueError "OPC_OFFSET body too short: %s B" [.int body.length])

/-! ### What comes out of a body -/

/-- `base_ms` and `step_ms` fit two signed bytes each. -/
structure FitsFormula (base step : Int) : Prop where
  base_range : OFFSET_BASE_MIN ≤ base ∧ base ≤ OFFSET_BASE_MAX
  step_range : OFFSET_STEP_MIN ≤ step ∧ step ≤ OFFSET_STEP_MAX

/-- The parameters are in the ranges a body can carry. -/
def OffsetConfig.Fits : OffsetConfig → Prop
  | .none => True
  | .explicit offsetMs => OFFSET_MS_MIN ≤ offsetMs ∧ offsetMs ≤ OFFSET_MS_MAX
  | .linear base step => FitsFormula base step
  | .vshape base step center =>
    FitsFormula base step ∧ OFFSET_CENTER_MIN ≤ center ∧ center ≤ OFFSET_CENTER_MAX
  | .modulo base step cycle =>
    FitsFormula base step ∧ OFFSET_CYCLE_MIN ≤ cycle ∧ cycle ≤ OFFSET_CYCLE_MAX

theorem formulaBytes_fits {base step : Int} (h : FitsFormula base step) :
    formulaBytes base step = le16 base ++ le16 step := by
  rw [formulaBytes, clamp_fits h.base_range.1 h.base_range.2, clamp_fits h.step_range.1 h.step_range.2]

theorem readI16_base {base step : Int} (h : FitsFormula base step) :
    readI16 (byte base) (byte (base / 256)) = base := readI16_le16 h.base_range.1 h.base_range.2

theorem readI16_step {base step : Int} (h : FitsFormula base step) :
    readI16 (byte step) (byte (step / 256)) = step := readI16_le16 h.step_range.1 h.step_range.2

/-- **A configuration that fits comes out of its body as it went in.** -/
theorem parseOffsetBody_build (groupId : Int) {config : OffsetConfig} (h : config.Fits) :
    parseOffsetBody (buildOffsetBody groupId config) = .ok (byte groupId, config) := by
  cases config with
  | none => rfl
  | explicit offsetMs =>
    rw [buildOffsetBody, clamp_fits h.1 h.2]
    show Except.ok (byte groupId, OffsetConfig.explicit (readU16 (byte offsetMs) (byte (offsetMs / 256))))
      = _
    rw [readU16_le16 h.1 h.2]
  | linear base step =>
    rw [buildOffsetBody, formulaBytes_fits h]
    show Except.ok (byte groupId, OffsetConfig.linear (readI16 (byte base) (byte (base / 256)))
      (readI16 (byte step) (byte (step / 256)))) = _
    rw [readI16_base h, readI16_step h]
  | vshape base step center =>
    obtain ⟨hf, hlo, hhi⟩ := h
    rw [buildOffsetBody, formulaBytes_fits hf, clamp_fits hlo hhi]
    show Except.ok (byte groupId, OffsetConfig.vshape (readI16 (byte base) (byte (base / 256)))
      (readI16 (byte step) (byte (step / 256))) ((byte center).toNat)) = _
    rw [readI16_base hf, readI16_step hf, byte_fits hlo (Int.le_trans hhi (by decide))]
  | modulo base step cycle =>
    obtain ⟨hf, hlo, hhi⟩ := h
    rw [buildOffsetBody, formulaBytes_fits hf, clamp_fits hlo hhi]
    show Except.ok (byte groupId, OffsetConfig.modulo (readI16 (byte base) (byte (base / 256)))
      (readI16 (byte step) (byte (step / 256))) ((byte cycle).toNat)) = _
    rw [readI16_base hf, readI16_step hf, byte_fits (Int.le_trans (by decide) hlo) hhi]

/-- The length of a body depends on its mode only. -/
def OffsetConfig.bodyLength : OffsetConfig → Nat
  | .none => 2
  | .explicit _ => 4
  | .linear .. => 6
  | .vshape .. => 7
  | .modulo .. => 7

@[simp] theorem length_buildOffsetBody (groupId : Int) (config : OffsetConfig) :
    (buildOffsetBody groupId config).length = config.bodyLength := by
  cases config <;> rfl

/-! ### OPC_CONTROL -/

/-- The keyword arguments of `build_control_body`; an absent one stays off the wire. -/
structure ControlFields where
  brightness : Option Int := .none
  mode : Option Int := .none
  speed : Option Int := .none
  intensity : Option Int := .none
  custom1 : Option Int := .none
  custom2 : Option Int := .none
  custom3 : Option Int := .none
  check1 : Option Bool := .none
  check2 : Option Bool := .none
  check3 : Option Bool := .none
  palette : Option Int := .none
  color1 : Option (List Int) := .none
  color2 : Option (List Int) := .none
  color3 : Option (List Int) := .none
deriving DecidableEq, Repr

def RL_CTRL_F_BRIGHTNESS : Nat := 0x01
def RL_CTRL_F_MODE : Nat := 0x02
def RL_CTRL_F_SPEED : Nat := 0x04
def RL_CTRL_F_INTENSITY : Nat := 0x08
def RL_CTRL_F_CUSTOM1 : Nat := 0x10
def RL_CTRL_F_CUSTOM2 : Nat := 0x20
def RL_CTRL_F_CUSTOM3_CHECKS : Nat := 0x40
def RL_CTRL_F_EXT : Nat := 0x80

def RL_CTRL_E_PALETTE : Nat := 0x01
def RL_CTRL_E_COLOR1 : Nat := 0x02
def RL_CTRL_E_COLOR2 : Nat := 0x04
def RL_CTRL_E_COLOR3 : Nat := 0x08

def RL_CTRL_BODY_MAX : Nat := 22

/-- A mask bit and the bytes of a field, if it is present. -/
def fieldBytes {α : Type} (bit : Nat) (encode : α → Bytes) : Option α → Nat × Bytes
  | some value => (bit, encode value)
  | .none => (0, [])

/-- The masks or'ed, the bytes in order. -/
def joinFields (fields : List (Nat × Bytes)) : Nat × Bytes :=
  (fields.foldr (fun f mask => f.1 ||| mask) 0, fields.flatMap Prod.snd)

/-- `_rgb_bytes`: exactly three components. -/
def rgbBytes : List Int → Except PyError Bytes
  | [r, g, b] => .ok [byte r, byte g, byte b]
  | _ :: _ :: _ :: _ => .error (.valueError "too many values to unpack (expected 3)" [])
  | color => .error (.valueError "not enough values to unpack (expected 3, got %s)" [.int color.length])

/-- A colour of the extended block. -/
def colorBytes (bit : Nat) : Option (List Int) → Except PyError (Nat × Bytes)
  | some color => do
    let bytes ← rgbBytes color
    return (bit, bytes)
  | .none => .ok (0, [])

/-- `custom3` in the low five bits, the checks in the others; one byte if any is given. -/
def checksByte (f : ControlFields) : Nat × Bytes :=
  if f.custom3.isSome || f.check1.isSome || f.check2.isSome || f.check3.isSome then
    (RL_CTRL_F_CUSTOM3_CHECKS,
      [byte ((f.custom3.getD 0) % 0x20 + (if f.check1 = some true then 0x20 else 0) +
        (if f.check2 = some true then 0x40 else 0) + (if f.check3 = some true then 0x80 else 0))])
  else (0, [])

/-- `tail_main` with its mask. -/
def mainTail (f : ControlFields) : Nat × Bytes :=
  joinFields [fieldBytes RL_CTRL_F_BRIGHTNESS (fun n => [byte n]) f.brightness,
    fieldBytes RL_CTRL_F_MODE (fun n => [byte n]) f.mode,
    fieldBytes RL_CTRL_F_SPEED (fun n => [byte n]) f.speed,
    fieldBytes RL_CTRL_F_INTENSITY (fun n => [byte n]) f.intensity,
    fieldBytes RL_CTRL_F_CUSTOM1 (fun n => [byte n]) f.custom1,
    fieldBytes RL_CTRL_F_CUSTOM2 (fun n => [byte n]) f.custom2, checksByte f]

/-- `tail_ext` with its mask. -/
def extTail (f : ControlFields) : Except PyError (Nat × Bytes) := do
  let color1 ← colorBytes RL_CTRL_E_COLOR1 f.color1
  let color2 ← colorBytes RL_CTRL_E_COLOR2 f.color2
  let color3 ← colorBytes RL_CTRL_E_COLOR3 f.color3
  return joinFields [fieldBytes RL_CTRL_E_PALETTE (fun n => [byte n]) f.palette, color1, color2, color3]

/-- `build_control_body`. -/
def buildControlBody (groupId flags : Int) (f : ControlFields) : Except PyError Bytes := do
  let ext ← extTail f
  let main := mainTail f
  let body :=
    if ext.1 = 0 then [byte groupId, byte flags, UInt8.ofNat main.1] ++ main.2
    else [byte groupId, byte flags, UInt8.ofNat (main.1 ||| RL_CTRL_F_EXT)] ++ main.2 ++
      [UInt8.ofNat ext.1] ++ ext.2
  if body.length ≤ RL_CTRL_BODY_MAX then .ok body
  else .error (.assertionError "CONTROL body %s B exceeds BODY_MAX=%s"
    [.int body.length, .int RL_CTRL_BODY_MAX])

/-- Whether a body can be built, and its length, depend on the fields only. -/
theorem buildControlBody_length {groupId flags : Int} {f : ControlFields} {body : Bytes}
    (h : buildControlBody groupId flags f = .ok body) (groupId' flags' : Int) :
    ∃ body', buildControlBody groupId' flags' f = .ok body' ∧ body'.length = body.length := by
  unfold buildControlBody at h ⊢
  cases hext : extTail f with
  | error e =>
    rw [hext] at h
    cases h
  | ok ext =>
    rw [hext, ok_bind] at h
    rw [ok_bind]
    dsimp only at h ⊢
    by_cases hmask : ext.1 = 0
    · rw [if_pos hmask] at h ⊢
      split at h
      · next hle =>
        cases h
        exact ⟨_, if_pos hle, rfl⟩
      · cases h
    · rw [if_neg hmask] at h ⊢
      split at h
      · next hle =>
        cases h
        exact ⟨_, if_pos hle, rfl⟩
      · cases h

end RaceLink.Protocol
