import RaceLink.Protocol.Packets

/-! The offset formula, evaluated twice: by the host for a group id
(`domain/offset_formula.py`) and by a device for its own group, as
`racelink_proto.h` defines the modes. The two agree on every configuration whose
parameters fit the wire. -/
namespace RaceLink.Domain
open Protocol Library

/-- `evaluate_offset_ms`. -/
def evaluateOffsetMs (spec : OffsetConfig) (groupId : Int) : Int :=
  let gid := groupId % 256
  match spec with
  | .none => 0
  | .explicit offsetMs => clamp OFFSET_MS_MIN OFFSET_MS_MAX offsetMs
  | .linear base step => clamp OFFSET_MS_MIN OFFSET_MS_MAX (base + gid * step)
  | .vshape base step center =>
    clamp OFFSET_MS_MIN OFFSET_MS_MAX (base + (gid - center % 256).natAbs * step)
  | .modulo base step rawCycle =>
    let cycle := if 0 < rawCycle then rawCycle else 1
    clamp OFFSET_MS_MIN OFFSET_MS_MAX (base + gid % cycle * step)

/-- The offset of a device in group `g` with this configuration (`OffsetMode`). -/
def computeOffsetMs (config : OffsetConfig) (g : UInt8) : Int :=
  let gid : Int := g.toNat
  match config with
  | .none => 0
  | .explicit offsetMs => offsetMs
  | .linear base step => clamp 0 65535 (base + gid * step)
  | .vshape base step center => clamp 0 65535 (base + (gid - center).natAbs * step)
  | .modulo base step cycle => clamp 0 65535 (base + gid % (if cycle = 0 then 1 else cycle) * step)

/-- **Host and device compute the same offset.** -/
theorem computeOffsetMs_eq {config : OffsetConfig} (h : config.Fits) (groupId : Int) :
    computeOffsetMs config (byte groupId) = evaluateOffsetMs config groupId := by
  cases config with
  | none => rfl
  | explicit offsetMs => exact (clamp_fits h.1 h.2).symm
  | linear base step => simp only [computeOffsetMs, evaluateOffsetMs, byte_toNat, OFFSET_MS_MIN, OFFSET_MS_MAX]
  | vshape base step center =>
    have hcenter : center % 256 = center := by
      have := h.2.1
      have := h.2.2
      simp only [OFFSET_CENTER_MIN, OFFSET_CENTER_MAX] at *
      omega
    simp only [computeOffsetMs, evaluateOffsetMs, byte_toNat, OFFSET_MS_MIN, OFFSET_MS_MAX, hcenter]
  | modulo base step cycle =>
    have hcycle : 0 < cycle := h.2.1
    simp only [computeOffsetMs, evaluateOffsetMs, byte_toNat, OFFSET_MS_MIN, OFFSET_MS_MAX,
      if_pos hcycle, if_neg hcycle.ne']

theorem evaluateOffsetMs_range (spec : OffsetConfig) (groupId : Int) :
    OFFSET_MS_MIN ≤ evaluateOffsetMs spec groupId ∧ evaluateOffsetMs spec groupId ≤ OFFSET_MS_MAX := by
  have hrange := clamp_range (show OFFSET_MS_MIN ≤ OFFSET_MS_MAX by decide)
  cases spec with
  | none => exact ⟨Int.le_refl 0, show (0 : Int) ≤ 65535 by decide⟩
  | _ => exact hrange _

end RaceLink.Domain
