import RaceLink.Domain.Models
import RaceLink.Domain.OffsetFormula
import RaceLink.Library.Lists
import RaceLink.Scenes.Action

/-! The OPC_OFFSET sequence that sets up a container
(`services/offset_dispatch_optimizer.py`), and the shape of a planned send.

Three strategies are candidates: one broadcast formula (A), one explicit offset
for each group (B), and a broadcast formula with a NONE for each group that does
not take part (C). The fewest packets win, then the fewest bytes, then the
earlier strategy. -/
namespace RaceLink.Dispatch
open Python Library Domain Protocol Scenes

/-! ### Planned sends -/

/-- `targetGroup` or `targetDevice`. -/
inductive Destination where
  | group (id : Int)
  | device (device : Device)
deriving DecidableEq, Repr

/-- The `sender` of an op with the keyword arguments it is given. -/
inductive Send where
  | offset (config : OffsetConfig)
  | control (params : Dict) (destination : Destination)
  | wledPreset (params : Dict) (destination : Destination)
  | startblock (params : Dict) (destination : Destination)
  | sync (brightness : Int) (triggerArmed : Bool)
deriving DecidableEq, Repr

/-- The `phase` a container puts on its ops, with the number and kind of a child. -/
inductive Phase where
  | top
  | offset
  | child (index : Nat) (kind : String)
deriving DecidableEq, Repr

/-- One planned wire send. -/
structure WireOp where
  targetGroup : Int
  payload : Send
  bodyBytes : Nat
  phase : Phase := .top
deriving DecidableEq, Repr

inductive Strategy where
  | broadcastFormula
  | perGroupExplicit
  | formulaPlusOverrides
deriving DecidableEq, Repr

def Strategy.name : Strategy → String
  | .broadcastFormula => "A_broadcast_formula"
  | .perGroupExplicit => "B_per_group_explicit"
  | .formulaPlusOverrides => "C_formula_plus_overrides"

structure OptimizerPlan where
  strategy : Strategy
  ops : List WireOp
deriving DecidableEq, Repr

def OptimizerPlan.packetCount (p : OptimizerPlan) : Nat := p.ops.length

def OptimizerPlan.totalBytes (p : OptimizerPlan) : Nat := (p.ops.map (·.bodyBytes)).sum

/-! ### One OPC_OFFSET -/

/-- A block as a formula: its mode and the parameters under their keys. A table is
not an `offset_ms`, which is then 0. -/
def specOf : OffsetBlock → OffsetConfig
  | .none => .none
  | .explicit _ => .explicit 0
  | .linear base step => .linear base step
  | .vshape base step center => .vshape base step center
  | .modulo base step cycle => .modulo base step cycle

/-- `_offset_payload_kwargs`. -/
def offsetPayloadKwargs : OffsetConfig → OffsetConfig
  | .modulo base step cycle => .modulo base step (max 1 cycle)
  | config => config

/-- `_make_offset_op`. -/
def makeOffsetOp (targetGroup : Int) (params : OffsetConfig) : WireOp where
  targetGroup := targetGroup
  payload := .offset (offsetPayloadKwargs params)
  bodyBytes := (buildOffsetBody targetGroup (offsetPayloadKwargs params)).length

theorem makeOffsetOp_bodyBytes (gid : Int) (config : OffsetConfig) :
    (makeOffsetOp gid config).bodyBytes = (offsetPayloadKwargs config).bodyLength :=
  length_buildOffsetBody gid (offsetPayloadKwargs config)

/-! ### The strategies -/

/-- `FORMULA_MODES`: what a device evaluates by itself. -/
def formulaMode : OffsetBlock → Bool
  | .explicit _ => false
  | _ => true

/-- `values.get(gid, 0)` of the dict of a table, in which a later row replaces an earlier one. -/
def tableValue (values : List OffsetEntry) (gid : Int) : Int :=
  ((values.reverse.find? fun e => e.id == gid).map (·.offsetMs)).getD 0

/-- The explicit offset that strategy B sends to a group. -/
def explicitValue (offset : OffsetBlock) (gid : Int) : Int :=
  match offset with
  | .explicit values => tableValue values gid
  | formula => evaluateOffsetMs (specOf formula) gid

def planA (isAll : Bool) (offset : OffsetBlock) : Option OptimizerPlan :=
  if isAll && formulaMode offset then some ⟨.broadcastFormula, [makeOffsetOp 255 (specOf offset)]⟩
  else none

def planB (isAll : Bool) (concreteGroups : List Int) (offset : OffsetBlock) : Option OptimizerPlan :=
  if offset = .none ∧ isAll = false then
    some ⟨.perGroupExplicit, concreteGroups.map fun gid => makeOffsetOp gid .none⟩
  else if concreteGroups = [] then none
  else some ⟨.perGroupExplicit, concreteGroups.map fun gid =>
    makeOffsetOp gid (.explicit (explicitValue offset gid))⟩

def planC (isAll : Bool) (participantGroups known : List Int) (offset : OffsetBlock) :
    Option OptimizerPlan :=
  if isAll = false ∧ formulaMode offset = true ∧ offset ≠ .none ∧ known ≠ [] then
    let nonParticipants := known.filter (· ∉ participantGroups)
    some ⟨.formulaPlusOverrides, makeOffsetOp 255 (specOf offset) ::
      nonParticipants.map fun gid => makeOffsetOp gid .none⟩
  else none

/-- The order of `candidates.sort`. -/
def Cheaper (p q : OptimizerPlan) : Prop :=
  p.packetCount < q.packetCount ∨ p.packetCount = q.packetCount ∧ p.totalBytes ≤ q.totalBytes

instance : DecidableRel Cheaper := fun p q =>
  inferInstanceAs (Decidable (p.packetCount < q.packetCount ∨
    p.packetCount = q.packetCount ∧ p.totalBytes ≤ q.totalBytes))

/-- The candidates that exist, in the order A, B, C. -/
def candidates (isAll : Bool) (participantGroups known : List Int) (offset : OffsetBlock) :
    List OptimizerPlan :=
  [planA isAll offset, planB isAll (if isAll then known else participantGroups) offset,
    planC isAll participantGroups known offset].filterMap id

/-- The cheapest candidate. -/
def choosePlan (isAll : Bool) (participantGroups known : List Int) (offset : OffsetBlock) :
    OptimizerPlan :=
  (least Cheaper (candidates isAll participantGroups known offset)).getD ⟨.broadcastFormula, []⟩

def unsupportedTarget : PyError :=
  .valueError "plan_offset_setup: unsupported target kind %r (expected 'broadcast' or 'groups')"
    [.str "device"]

/-- `plan_offset_setup`. -/
def planOffsetSetup (target : Target) (offset : OffsetBlock) (known : List Int) :
    Except PyError OptimizerPlan :=
  match target with
  | .broadcast => .ok (choosePlan true [] known offset)
  | .groups value => .ok (choosePlan false value known offset)
  | .device _ => .error unsupportedTarget

end RaceLink.Dispatch
