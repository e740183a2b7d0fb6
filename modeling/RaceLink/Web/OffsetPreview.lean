import Mathlib.Algebra.Group.Int.Defs
import RaceLink.Dispatch.Setup

/-! The offsets that the editor of a container previews (`evaluateOffsetMs` of
`frontend/src/stores/scenes.ts`), beside what the host computes and what a device makes of the body it
is sent.

The formulas agree on every block the validator gives. A table is read from its first row by the
editor and from its last one by the host, which differ when a group is listed twice. -/
namespace RaceLink.Web.Preview
open Python Library Domain Protocol Scenes Dispatch

/-! ### The editor -/

/-- `SceneOffsetConfig`: a key that is not there is undefined. -/
structure SceneOffsetConfig where
  mode : Option String := none
  baseMs : Option Int := none
  stepMs : Option Int := none
  center : Option Int := none
  cycle : Option Int := none
  values : Option (List OffsetEntry) := none
deriving DecidableEq, Repr

/-- A number of a block. -/
def numberOf (fields : Dict) (key : String) : Option Int :=
  match fields.get? key with
  | some (.int n) => some n
  | _ => none

def stringOf (fields : Dict) (key : String) : Option String :=
  match fields.get? key with
  | some (.str s) => some s
  | _ => none

/-- A row of a table; only numbers are looked at. -/
def rowOf : Json → Option OffsetEntry
  | .obj fields =>
    match numberOf fields "id", numberOf fields "offset_ms" with
    | some id, some offsetMs => some ⟨id, offsetMs⟩
    | _, _ => none
  | _ => none

/-- A stored block as the browser has it. -/
def configOf : Json → SceneOffsetConfig
  | .obj fields =>
    { mode := stringOf fields "mode"
      baseMs := numberOf fields "base_ms"
      stepMs := numberOf fields "step_ms"
      center := numberOf fields "center"
      cycle := numberOf fields "cycle"
      values := match Dict.get? fields "values" with
        | some (.arr items) => some (items.filterMap rowOf)
        | _ => none }
  | _ => {}

/-- `n | 0`. -/
def toInt32 (n : Int) : Int := n.bmod (2 ^ 32)

/-- `clamp`. -/
def clampMs (v : Int) : Int := max 0 (min 0xFFFF (toInt32 v))

/-- `mode || 'none'`, in lower case. -/
def modeOf (spec : SceneOffsetConfig) : String :=
  lower (match spec.mode with
    | none => "none"
    | some mode => if mode = "" then "none" else mode)

/-- `evaluateOffsetMs`. -/
def evaluateOffsetMs (spec : SceneOffsetConfig) (groupId : Int) : Int :=
  let gid := toInt32 groupId % 256
  let mode := modeOf spec
  if mode = "none" then 0
  else if mode = "explicit" then
    match (spec.values.getD []).find? fun e => e.id == gid with
    | some entry => clampMs (toInt32 entry.offsetMs)
    | none => 0
  else
    let base := toInt32 (spec.baseMs.getD 0)
    let step := toInt32 (spec.stepMs.getD 0)
    if mode = "linear" then clampMs (base + gid * step)
    else if mode = "vshape" then
      let center := toInt32 (spec.center.getD 0) % 256
      clampMs (base + (gid - center).natAbs * step)
    else if mode = "modulo" then
      let rawCycle := toInt32 (spec.cycle.getD 1)
      let cycle := if 0 < rawCycle then rawCycle else 1
      clampMs (base + gid % cycle * step)
    else 0

/-! ### The device -/

/-- What a device of group `g` makes of a body: the formula, with the parameters that are read from it. -/
def decodedOffsetMs (body : Bytes) (g : UInt8) : Option Int :=
  match parseOffsetBody body with
  | .ok (_, config) => some (computeOffsetMs config g)
  | .error _ => none

/-! ### Do they agree -/

/-- **The three evaluators agree on a group.** What the host computes is `explicitValue`: the formula,
and for a table the value that it sends to the group. -/
structure Agree (target : Target) (offset : OffsetBlock) (known : List Int) (gid : Int) : Prop where
  range : 0 ≤ explicitValue offset gid ∧ explicitValue offset gid ≤ 65535
  preview : evaluateOffsetMs (configOf offset.toJson) gid = explicitValue offset gid
  formula : formulaMode offset = true → ∀ g,
    decodedOffsetMs (buildOffsetBody g (specOf offset)) (byte gid) = some (explicitValue offset gid)
  /-- Each OPC_OFFSET to a group that takes part gives it the value. -/
  sent : ∀ plan, planOffsetSetup target offset known = .ok plan → Participates target gid →
    ∀ op ∈ plan.ops, op.targetGroup = gid → ∃ config, op.payload = .offset config ∧
      decodedOffsetMs (buildOffsetBody gid config) (byte gid) = some (explicitValue offset gid)

/-- The first and the last row for a group carry the same offset. -/
def EndsAgree (offset : OffsetBlock) : Prop :=
  ∀ values, offset = .explicit values → ∀ gid,
    (values.find? fun e => e.id == gid).map (·.offsetMs) =
      (values.reverse.find? fun e => e.id == gid).map (·.offsetMs)

/-! ### Numbers of 32 bits -/

section Numbers
variable {n : Int}

theorem toInt32_fits (h : -2147483648 ≤ n) (h' : n ≤ 2147483647) : toInt32 n = n :=
  Int.bmod_eq_of_le (by omega) (by omega)

/-- A group id is its low byte. -/
theorem toInt32_byte (n : Int) : toInt32 n % 256 = n % 256 := by
  rw [toInt32, Int.bmod]
  split
  · omega
  · omega

theorem clampMs_fits (h : -2147483648 ≤ n) (h' : n ≤ 2147483647) :
    clampMs n = clamp 0 65535 n := by
  rw [clampMs, toInt32_fits h h']
  rfl

end Numbers

/-! ### Block by block -/

section Blocks
variable {gid : Int}

theorem values_toJson (values : List OffsetEntry) :
    (configOf (OffsetBlock.explicit values).toJson).values = some values := by
  have hrows : (values.map OffsetEntry.toJson).filterMap rowOf = values := by
    rw [List.filterMap_map]
    exact List.filterMap_some
  exact congrArg some hrows

/-- The editor sees the mode of the block. -/
theorem modeOf_block (offset : OffsetBlock) : modeOf (configOf offset.toJson) = offset.mode := by
  have hlower : lower "none" = "none" ∧ lower "explicit" = "explicit" ∧ lower "linear" = "linear" ∧
      lower "vshape" = "vshape" ∧ lower "modulo" = "modulo" := by decide
  cases offset with
  | none => exact hlower.1
  | explicit values => exact hlower.2.1
  | linear base step => exact hlower.2.2.1
  | vshape base step center => exact hlower.2.2.2.1
  | modulo base step cycle => exact hlower.2.2.2.2

/-- The row that the editor takes. -/
theorem preview_explicit {groupIds values : _} (htable : Table groupIds values) (h : GroupId gid) :
    evaluateOffsetMs (configOf (OffsetBlock.explicit values).toJson) gid =
      ((values.find? fun e => e.id == gid).map (·.offsetMs)).getD 0 := by
  have hgid : toInt32 gid % 256 = gid := by
    rw [toInt32_byte]
    exact Int.emod_eq_of_lt h.1 (by have := h.2; omega)
  simp only [evaluateOffsetMs, modeOf_block, OffsetBlock.mode, values_toJson, hgid]
  rw [if_neg (by decide), if_pos trivial]
  cases hfind : values.find? fun e => e.id == gid with
  | none => simp [hfind]
  | some e =>
    obtain ⟨hlo, hhi⟩ := (htable.entries e (List.mem_of_find?_eq_some hfind)).offset_range
    have hlo' : 0 ≤ e.offsetMs := hlo
    have hhi' : e.offsetMs ≤ 65535 := hhi
    simp only [Option.getD_some, hfind, Option.map_some]
    rw [toInt32_fits (by omega) (by omega), clampMs_fits (by omega) (by omega), clamp_fits hlo' hhi']

/-- No formula leaves 32 bits. -/
theorem clampMs_formula {base step k : Int} (h : FormulaRange base step) (hk : 0 ≤ k) (hk' : k ≤ 255) :
    clampMs (toInt32 base + k * toInt32 step) = clamp 0 65535 (base + k * step) := by
  obtain ⟨⟨hb, hb'⟩, hs, hs'⟩ := h
  simp only [Scenes.OFFSET_BASE_MIN, Scenes.OFFSET_BASE_MAX, Scenes.OFFSET_STEP_MIN, Scenes.OFFSET_STEP_MAX]
    at hb hb' hs hs'
  have hlow : k * (-32768) ≤ k * step := Int.mul_le_mul_of_nonneg_left hs hk
  have hhigh : k * step ≤ k * 32767 := Int.mul_le_mul_of_nonneg_left hs' hk
  rw [toInt32_fits (by omega) (by omega), toInt32_fits (by omega) (by omega), clampMs_fits (by omega) (by omega)]

/-- The editor computes the formula of the host. -/
theorem preview_formula {groupIds : Option (List Int)} {offset : OffsetBlock} (h : offset.Valid groupIds)
    (hmode : formulaMode offset = true) (hgid : GroupId gid) :
    evaluateOffsetMs (configOf offset.toJson) gid = Domain.evaluateOffsetMs (specOf offset) gid := by
  have hbyte : toInt32 gid % 256 = gid := by
    rw [toInt32_byte]
    exact Int.emod_eq_of_lt hgid.1 (by have := hgid.2; omega)
  have hhost : gid % 256 = gid := by rw [← toInt32_byte, hbyte]
  obtain ⟨hlo, hhi⟩ := hgid
  cases offset with
  | explicit values => cases hmode
  | none => rfl
  | linear base step =>
    have hbase : (configOf (OffsetBlock.linear base step).toJson).baseMs = some base := rfl
    have hstep : (configOf (OffsetBlock.linear base step).toJson).stepMs = some step := rfl
    simp only [evaluateOffsetMs, modeOf_block, OffsetBlock.mode, hbyte, hbase, hstep, Option.getD_some]
    rw [if_neg (by decide), if_neg (by decide), if_pos trivial, clampMs_formula h hlo (by omega)]
    simp only [Domain.evaluateOffsetMs, specOf, hhost]
    rfl
  | vshape base step center =>
    obtain ⟨hrange, hcenter, hcenter'⟩ := h
    simp only [GROUP_ID_MAX] at hcenter'
    have hbase : (configOf (OffsetBlock.vshape base step center).toJson).baseMs = some base := rfl
    have hstep : (configOf (OffsetBlock.vshape base step center).toJson).stepMs = some step := rfl
    have hmid : (configOf (OffsetBlock.vshape base step center).toJson).center = some center := rfl
    simp only [evaluateOffsetMs, modeOf_block, OffsetBlock.mode, hbyte, hbase, hstep, hmid, Option.getD_some]
    rw [if_neg (by decide), if_neg (by decide), if_neg (by decide), if_pos trivial, toInt32_byte,
      clampMs_formula hrange (by omega) (by omega)]
    simp only [Domain.evaluateOffsetMs, specOf, hhost]
    rfl
  | modulo base step cycle =>
    obtain ⟨hrange, hcycle, hcycle'⟩ := h
    simp only [Scenes.OFFSET_CYCLE_MIN, Scenes.OFFSET_CYCLE_MAX] at hcycle hcycle'
    have hpos : 0 < cycle := by omega
    have hsmall : gid % cycle ≤ 255 := (Int.emod_lt_of_pos gid hpos).le.trans hcycle'
    have hbase : (configOf (OffsetBlock.modulo base step cycle).toJson).baseMs = some base := rfl
    have hstep : (configOf (OffsetBlock.modulo base step cycle).toJson).stepMs = some step := rfl
    have hraw : (configOf (OffsetBlock.modulo base step cycle).toJson).cycle = some cycle := rfl
    simp only [evaluateOffsetMs, modeOf_block, OffsetBlock.mode, hbyte, hbase, hstep, hraw, Option.getD_some]
    rw [if_neg (by decide), if_neg (by decide), if_neg (by decide), if_neg (by decide), if_pos trivial,
      toInt32_fits (n := cycle) (by omega) (by omega), if_pos hpos,
      clampMs_formula hrange (Int.emod_nonneg _ hpos.ne') hsmall]
    simp only [Domain.evaluateOffsetMs, specOf, hhost, if_pos hpos]
    rfl

/-- A device computes what the host does. -/
theorem decoded_build {config : OffsetConfig} (h : config.Fits) (g gid : Int) :
    decodedOffsetMs (buildOffsetBody g config) (byte gid) = some (Domain.evaluateOffsetMs config gid) := by
  rw [decodedOffsetMs, parseOffsetBody_build g h]
  exact congrArg some (computeOffsetMs_eq h gid)

/-! ### Group by group -/

/-- What is sent to a group that takes part. -/
theorem sent_config {target : Target} {offset : OffsetBlock} {actions : List Effect} {known : List Int}
    {plan : OptimizerPlan} {op : WireOp} (h : Container target offset actions) (hgid : GroupId gid)
    (hplan : planOffsetSetup target offset known = .ok plan) (hpart : Participates target gid)
    (hop : op ∈ plan.ops) (hto : op.targetGroup = gid) :
    offset = .none ∧ op = makeOffsetOp gid .none ∨ op = makeOffsetOp gid (.explicit (explicitValue offset gid)) := by
  have hnot255 : gid ≠ 255 := by
    have := hgid.2
    omega
  have hof : ∀ {groups : List Int} {f : Int → OffsetConfig}, op ∈ groups.map (fun g => makeOffsetOp g (f g)) →
      op = makeOffsetOp gid (f gid) := by
    intro groups f hmem
    obtain ⟨g, -, rfl⟩ := List.mem_map.mp hmem
    obtain rfl : g = gid := hto
    rfl
  have hnotAll : op ≠ makeOffsetOp 255 (specOf offset) := by
    rintro rfl
    exact hnot255 hto.symm
  cases target with
  | device value => exact absurd rfl (h.not_device value)
  | broadcast =>
    cases hplan
    rcases choosePlan_broadcast known (formulaMode_broadcast h) with hchosen | ⟨-, -, hchosen⟩
    · rw [hchosen] at hop
      exact absurd (List.mem_singleton.mp hop) hnotAll
    · rw [hchosen] at hop
      exact .inr (hof hop)
  | groups value =>
    have hvalue : ValidIds value := h.scope
    cases hplan
    rcases choosePlan_groups known offset hvalue.nonempty with ⟨hnone, hchosen⟩ | ⟨-, hchosen⟩ | ⟨-, -, hchosen⟩
    · rw [hchosen] at hop
      exact .inl ⟨hnone, hof (f := fun _ => .none) hop⟩
    · rw [hchosen] at hop
      exact .inr (hof hop)
    · rw [hchosen] at hop
      rcases List.mem_cons.mp hop with hall | hother
      · exact absurd hall hnotAll
      · -- the others are cleared, and this group is none of them
        obtain ⟨g, hg, rfl⟩ := List.mem_map.mp hother
        obtain rfl : g = gid := hto
        have hout : g ∉ value := of_decide_eq_true (List.mem_filter.mp hg).2
        exact absurd hpart hout

/-- On a group, the evaluators agree if the editor takes the row that the host takes. -/
theorem agree_iff {target : Target} {offset : OffsetBlock} {actions : List Effect}
    (h : Container target offset actions) (known : List Int) (hgid : GroupId gid) :
    Agree target offset known gid ↔
      evaluateOffsetMs (configOf offset.toJson) gid = explicitValue offset gid := by
  refine ⟨Agree.preview, fun hpreview => ⟨explicitValue_fits h.block gid, hpreview, fun hmode g => ?_, ?_⟩⟩
  · rw [decoded_build (specOf_fits h.block), explicitValue_formula hmode]
  · intro plan hplan hpart op hop hto
    rcases sent_config h hgid hplan hpart hop hto with ⟨rfl, rfl⟩ | rfl
    · exact ⟨.none, rfl, decoded_build (show OffsetConfig.Fits .none from trivial) gid gid⟩
    · have hfits := explicitValue_fits h.block gid
      refine ⟨.explicit (explicitValue offset gid), rfl, ?_⟩
      rw [decoded_build hfits]
      exact congrArg some (clamp_fits hfits.1 hfits.2)

/-- The first row for a group and the last one are there together. -/
theorem ends_together (values : List OffsetEntry) (gid : Int) :
    (values.find? fun e => e.id == gid) = none ↔ (values.reverse.find? fun e => e.id == gid) = none := by
  simp [List.find?_eq_none]

/-- Two values that are there together are the same if they are with a default. -/
theorem eq_of_getD {a b : Option Int} (hnone : a = none ↔ b = none) (h : a.getD 0 = b.getD 0) : a = b := by
  cases a with
  | none => exact (hnone.mp rfl).symm
  | some n =>
    cases b with
    | none => exact absurd (hnone.mpr rfl) (by simp)
    | some m => exact congrArg some h

/-- The editor and the host take the same row of each group just when the ends agree. -/
theorem rows_iff {ids : List Int} {values : List OffsetEntry} (htable : Table ids values) :
    (∀ gid, GroupId gid → evaluateOffsetMs (configOf (OffsetBlock.explicit values).toJson) gid =
      explicitValue (.explicit values) gid) ↔ EndsAgree (.explicit values) := by
  constructor
  · intro h values' hvalues gid
    obtain rfl : values = values' := OffsetBlock.explicit.inj hvalues
    have htogether := ends_together values gid
    by_cases hgid : GroupId gid
    · have hrow := h gid hgid
      rw [preview_explicit htable hgid] at hrow
      exact eq_of_getD (by rw [Option.map_eq_none_iff, Option.map_eq_none_iff, htogether]) hrow
    · have hnone : (values.find? fun e => e.id == gid) = none := by
        refine List.find?_eq_none.mpr fun e he heq => hgid ?_
        obtain rfl : e.id = gid := eq_of_beq heq
        exact (htable.entries e he).id_range
      rw [hnone, htogether.mp hnone]
  · intro h gid hgid
    rw [preview_explicit htable hgid, h values rfl gid]
    rfl

end Blocks

/-- **The editor, the host and the devices agree on a container just when no group is listed with two
offsets.** For every group, what the editor previews is what the host computes and what a device makes of
the body it is sent, if and only if the first and the last row of a group say the same. -/
theorem evaluators_agree {raw : Json} {target : Target} {offset : OffsetBlock} {actions : List Effect}
    (h : canonicalAction raw = .ok (.offsetGroup target offset actions)) (known : List Int) :
    (∀ gid, 0 ≤ gid → gid ≤ 254 → Agree target offset known gid) ↔ EndsAgree offset := by
  have hcontainer : Container target offset actions := (canonicalAction_canonical h).1
  have hiff : (∀ gid, 0 ≤ gid → gid ≤ 254 → Agree target offset known gid) ↔
      ∀ gid, GroupId gid → evaluateOffsetMs (configOf offset.toJson) gid = explicitValue offset gid :=
    ⟨fun hall gid hgid => (agree_iff hcontainer known hgid).mp (hall gid hgid.1 hgid.2),
      fun hall gid hlo hhi => (agree_iff hcontainer known ⟨hlo, hhi⟩).mpr (hall gid ⟨hlo, hhi⟩)⟩
  rw [hiff]
  by_cases hmode : formulaMode offset = true
  · refine iff_of_true (fun gid hgid => ?_) ?_
    · rw [preview_formula hcontainer.block hmode hgid, explicitValue_formula hmode]
    · rintro values rfl
      cases hmode
  · obtain ⟨values, rfl⟩ : ∃ values, offset = .explicit values := by
      cases offset with
      | explicit values => exact ⟨values, rfl⟩
      | _ => exact absurd rfl hmode
    obtain ⟨ids, -, htable⟩ := hcontainer.block
    exact rows_iff htable

/-- With a row for each group the evaluators agree. -/
theorem evaluators_agree_rows :
    Agree (.groups [1, 2]) (.explicit [⟨1, 10⟩, ⟨2, 20⟩]) [1, 2] 1 ∧
      Agree (.groups [1, 2]) (.explicit [⟨1, 10⟩, ⟨2, 20⟩]) [1, 2] 2 := by
  have haccepted : canonicalAction (twoRows 1 2).toJson =
    .ok (.offsetGroup (.groups [1, 2]) (.explicit [⟨1, 10⟩, ⟨2, 20⟩]) []) := rfl
  have hall := (evaluators_agree haccepted [1, 2]).mpr (by
    rintro _ ⟨⟩ gid
    by_cases h1 : gid = 1
    · subst h1
      rfl
    · by_cases h2 : gid = 2
      · subst h2
        rfl
      · simp [Ne.symm h1, Ne.symm h2])
  exact ⟨hall 1 (by decide) (by decide), hall 2 (by decide) (by decide)⟩

/-- Group 1 listed twice: the editor previews 10 ms, and the host sends 20 ms. -/
theorem evaluators_disagree :
    canonicalAction (twoRows 1 1).toJson = .ok (.offsetGroup (.groups [1, 2]) (.explicit [⟨1, 10⟩, ⟨1, 20⟩]) []) ∧
      evaluateOffsetMs (configOf (OffsetBlock.explicit [⟨1, 10⟩, ⟨1, 20⟩]).toJson) 1 = 10 ∧
      explicitValue (.explicit [⟨1, 10⟩, ⟨1, 20⟩]) 1 = 20 ∧
      ¬ Agree (.groups [1, 2]) (.explicit [⟨1, 10⟩, ⟨1, 20⟩]) [1, 2] 1 := by
  refine ⟨rfl, by decide +kernel, by decide, fun h => ?_⟩
  exact absurd h.preview (by decide +kernel)

end RaceLink.Web.Preview
