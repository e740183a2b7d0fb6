import RaceLink.Dispatch.Optimizer
import RaceLink.Domain.Flags
import RaceLink.Library.Except

/-! Every packet an action would send (`services/dispatch_planner.py`). The runner
sends the ops of a plan, the cost estimator adds up their lengths.

A target or a preset that cannot be resolved gives a degraded plan without ops; a
parameter that is no number raises. -/
namespace RaceLink.Dispatch
open Python Library Domain Protocol Scenes

/-- An error tag with the values in it. -/
structure PlanError where
  text : String
  args : List Json := []
deriving DecidableEq, Repr

/-- `ActionDispatchPlan`. The plans of a container's children go into the result's detail. -/
structure ActionDispatchPlan where
  kind : String
  ops : List WireOp := []
  degraded : Bool := false
  error : Option PlanError := none
  detail : Dict := []
  childPlans : List ActionDispatchPlan := []

/-- An entry of the preset store. -/
structure Preset where
  key : Json
  id : Json
  params : Dict
  flags : Dict
deriving DecidableEq, Repr

/-- What the planner is given besides the action. There may be no preset service; a
lookup that raises finds nothing. -/
structure PlannerInputs where
  known : List Int
  presetLookup : Option (Json → Option Preset)
  deviceLookup : String → Option Device

/-! ### Parameters and flags -/

/-- `int(params[key]) & 0xFF`, if there is a value. -/
def intField (params : Dict) (key : String) : Except PyError (Option Int) :=
  match params.get key with
  | .null => .ok none
  | value => do
    let n ← value.toInt
    return some (n % 256)

/-- `bool(params[key])`, if there is a value. -/
def boolField (params : Dict) (key : String) : Option Bool :=
  match params.get key with
  | .null => none
  | value => some value.truthy

/-- `tuple(int(c) & 0xFF for c in params[key])`, if there is a value. -/
def colorField (params : Dict) (key : String) : Except PyError (Option (List Int)) :=
  match params.get key with
  | .null => .ok none
  | value => do
    let items ← value.toList
    let color ← items.mapM fun c => do
      let n ← c.toInt
      return n % 256
    return some color

/-- The fields after the brightness, which planner and sender read alike. -/
def effectFields (params : Dict) (brightness : Option Int) : Except PyError ControlFields := do
  let mode ← intField params "mode"
  let speed ← intField params "speed"
  let intensity ← intField params "intensity"
  let custom1 ← intField params "custom1"
  let custom2 ← intField params "custom2"
  let custom3 ← intField params "custom3"
  let palette ← intField params "palette"
  let color1 ← colorField params "color1"
  let color2 ← colorField params "color2"
  let color3 ← colorField params "color3"
  return { brightness, mode, speed, intensity, custom1, custom2, custom3, palette, color1, color2, color3,
           check1 := boolField params "check1", check2 := boolField params "check2",
           check3 := boolField params "check3" }

/-- `_control_body_len`. -/
def controlBodyLen (params : Dict) : Except PyError Nat := do
  let brightness ← intField params "brightness"
  let fields ← effectFields params brightness
  let body ← buildControlBody 0 0 fields
  return body.length

/-- One flag of `_merge_flags`: the override wins over what the preset persists. -/
def mergeFlag (persisted : Dict) (override : FlagsOverride) (merged : Dict) (flag : UserFlag) : Dict :=
  if (override.get flag).getD (persisted.getD flag.key (.bool false)).truthy then
    merged.set (.str flag.key) (.bool true)
  else merged.pop flag.key

/-- `USER_FLAG_KEYS`. -/
def userFlags : List UserFlag := [.armOnSync, .forceTt0, .forceReapply, .offsetMode]

/-- `_merge_flags`. -/
def mergeFlags (baseParams persisted : Dict) (override : FlagsOverride) : Dict :=
  userFlags.foldl (mergeFlag persisted override) baseParams

/-! ### Targets and presets -/

/-- `_resolve_target`. -/
def resolveTarget (deviceLookup : String → Option Device) : Target → Option (List Destination)
  | .broadcast => some [.group 255]
  | .groups [] => none
  | .groups value => some (value.map .group)
  | .device addr => (deviceLookup addr).map fun d => [.device d]

/-- `_target_group_for_op`. -/
def targetGroupForOp : Destination → Int
  | .group id => id
  | .device d => if 0 ≤ d.groupId ∧ d.groupId ≤ 254 then d.groupId else 255

/-- Parameters, persisted flags and the detail of a preset. -/
structure Materialised where
  params : Dict
  flags : Dict
  detail : Dict

/-- The preset's parameters, with the brightness the action carries. -/
def presetParams (preset : Preset) (baseParams : Dict) : Except PyError Dict :=
  match baseParams.get "brightness" with
  | .null => .ok preset.params
  | value => do
    let n ← value.toInt
    return preset.params.set (.str "brightness") (.int n)

/-- `_materialize_rl_preset`. -/
def materializeRlPreset (params : Dict) (lookup : Option (Json → Option Preset)) :
    Except PyError (Option Materialised) :=
  let baseParams := params.pop "presetId"
  let ref := params.get "presetId"
  if ref = .null then .ok none
  else match lookup with
    | none => .ok (some ⟨baseParams, [], [(.str "preset_ref", ref)]⟩)
    | some find =>
      match find ref with
      | none => .ok none
      | some preset => do
        let merged ← presetParams preset baseParams
        return some ⟨merged, preset.flags, [(.str "preset_key", preset.key), (.str "preset_id", preset.id)]⟩

/-- `materialised` of `_plan_effect`: the other kinds take the parameters as they are. -/
def materialise (inputs : PlannerInputs) (kind : Option EffectKind) (params : Dict) :
    Except PyError (Option Materialised) :=
  match kind with
  | some .rlPreset => materializeRlPreset params inputs.presetLookup
  | _ => .ok (some ⟨params, [], []⟩)

/-! ### Plans -/

/-- The kind of an effect, or `startblock`. -/
def kindName : Option EffectKind → String
  | some kind => kind.name
  | none => "startblock"

/-- `_build_effect_op`. The length does not depend on the group. -/
def buildEffectOp (kind : Option EffectKind) (mergedParams : Dict) (destination : Destination) :
    Except PyError WireOp :=
  match kind with
  | some .wledPreset =>
    .ok ⟨targetGroupForOp destination, .wledPreset mergedParams destination,
      (buildPresetBody 0 0 0 0).length, .top⟩
  | some _ => do
    let bodyLen ← controlBodyLen mergedParams
    return ⟨targetGroupForOp destination, .control mergedParams destination, bodyLen, .top⟩
  | none => do
    let bodyLen ← controlBodyLen mergedParams
    return ⟨targetGroupForOp destination, .startblock mergedParams destination, bodyLen, .top⟩

/-- The tag of a preset that was not materialised. -/
def presetError (params : Dict) : PlanError :=
  if params.get "presetId" = .null then ⟨"missing_preset_id", []⟩
  else ⟨"preset_not_found: %r", [params.get "presetId"]⟩

/-- `_plan_effect`; the kind is absent for `startblock`. -/
def planEffect (inputs : PlannerInputs) (kind : Option EffectKind) (target : Target) (params : Dict)
    (flagsOverride : FlagsOverride) (forceOffsetFlag : Option Bool) : Except PyError ActionDispatchPlan :=
  match resolveTarget inputs.deviceLookup target with
  | none =>
    .ok { kind := kindName kind, degraded := true, error := some ⟨"target_not_found", []⟩,
          detail := [(.str "target", target.toJson)] }
  | some destinations => do
    match ← materialise inputs kind params with
    | none => .ok { kind := kindName kind, degraded := true, error := some (presetError params) }
    | some preset => do
      let override := {flagsOverride with offsetMode := forceOffsetFlag <|> flagsOverride.offsetMode}
      let mergedParams := mergeFlags preset.params preset.flags override
      let ops ← destinations.mapM (buildEffectOp kind mergedParams)
      return { kind := kindName kind, ops, detail := preset.detail }

def planChild (inputs : PlannerInputs) (forceOffsetFlag : Bool) (e : Effect) :
    Except PyError ActionDispatchPlan :=
  planEffect inputs (some e.kind) e.target e.params e.flagsOverride (some forceOffsetFlag)

def tagOps (phase : Phase) (ops : List WireOp) : List WireOp := ops.map fun op => {op with phase}

/-- The ops of the children, each with the number of its child. -/
def childOps : Nat → List ActionDispatchPlan → List WireOp
  | _, [] => []
  | index, p :: rest => tagOps (.child index p.kind) p.ops ++ childOps (index + 1) rest

/-- `_plan_offset_group`. -/
def planOffsetGroup (inputs : PlannerInputs) (target : Target) (offset : OffsetBlock)
    (actions : List Effect) : Except PyError ActionDispatchPlan := do
  let setup ← planOffsetSetup target offset inputs.known
  let childPlans ← actions.mapM (planChild inputs (decide (offset ≠ .none)))
  return {
    kind := "offset_group"
    ops := tagOps .offset setup.ops ++ childOps 0 childPlans
    degraded := childPlans.any (·.degraded)
    detail := [(.str "wire_path", .str setup.strategy.name), (.str "offset_mode", .str offset.mode),
      (.str "offset_packets", .int setup.packetCount), (.str "offset_total_bytes", .int setup.totalBytes),
      (.str "child_count", .int actions.length)]
    childPlans }

/-- `_plan_sync`. -/
def planSync : ActionDispatchPlan where
  kind := "sync"
  ops := [⟨255, .sync 0 true, (buildSyncBody 0 0 SYNC_FLAG_TRIGGER_ARMED).length, .top⟩]

/-- `plan_action_dispatch` of a top-level action. -/
def planActionDispatch (inputs : PlannerInputs) : Action → Except PyError ActionDispatchPlan
  | .delay durationMs =>
    .ok { kind := "delay", detail := [(.str "duration_ms", .float (.finite durationMs))] }
  | .sync => .ok planSync
  | .offsetGroup target offset actions => planOffsetGroup inputs target offset actions
  | .effect e => planEffect inputs (some e.kind) e.target e.params e.flagsOverride none
  | .startblock target params => planEffect inputs none target params {} none

end RaceLink.Dispatch
