import RaceLink.Dispatch.PlannerProofs
import RaceLink.Dispatch.Setup
import RaceLink.Library.Runs

/-! Whom the children of a container reach.

The frames of a child with target broadcast go to group 255 and name nobody: they
are meant for the nodes that the setup switched on (or, in mode none, off). Whom
they reach is therefore decided by the nodes that take no part, whose state only
strategy C resets. `reaches_iff` is the exact condition for one container in any
state; `run_reaches_iff` follows a node through any run of containers. -/
namespace RaceLink.Dispatch
open Python Library Domain Protocol Scenes

/-! ### Acceptance -/

/-- The acceptance gate: the group fits, and the flag equals the offset state. -/
def Node.Accepts (d : Node) (op : WireOp) : Prop :=
  match op.payload with
  | .control params _ => d.Hears (byte op.targetGroup) ∧ (offsetFlag params = true ↔ d.Active)
  | .wledPreset params _ => d.Hears (byte op.targetGroup) ∧ (offsetFlag params = true ↔ d.Active)
  | _ => False

/-- Tags are not on the wire. -/
theorem deliver_tagOps (d : Node) (phase : Phase) (ops : List WireOp) :
    d.deliver (tagOps phase ops) = d.deliver ops := by
  induction ops generalizing d with
  | nil => rfl
  | cons op rest ih => exact ih (d.receive op)

/-- An op of another opcode. -/
def NoOffset (op : WireOp) : Prop := ∀ config, op.payload ≠ .offset config

theorem deliver_noOffset (d : Node) {ops : List WireOp} (h : ∀ op ∈ ops, NoOffset op) :
    d.deliver ops = d := by
  induction ops with
  | nil => rfl
  | cons op rest ih =>
    have hop : d.receive op = d := by
      unfold Node.receive
      split
      · next config hconfig => exact absurd hconfig (h op (List.mem_cons_self ..) config)
      · rfl
    rw [deliver_cons, hop, ih fun op' hop' => h op' (List.mem_cons_of_mem _ hop')]

/-! ### The ops of a child -/

/-- The frames of a child: what is sent to a destination, with the forced flag. -/
structure ChildFrame (flag : Bool) (destination : Destination) (op : WireOp) : Prop where
  group : op.targetGroup = targetGroupForOp destination
  noOffset : NoOffset op
  accepted : ∀ d : Node, d.Accepts op ↔
    d.Hears (byte (targetGroupForOp destination)) ∧ (flag = true ↔ d.Active)

theorem childFrame_of_build {kind : EffectKind} {baseParams persisted : Dict} {override : FlagsOverride}
    {flag : Bool} {destination : Destination} {op : WireOp} (hflag : override.offsetMode = some flag)
    (h : buildEffectOp (some kind) (mergeFlags baseParams persisted override) destination = .ok op) :
    ChildFrame flag destination op := by
  obtain ⟨hgroup, hpayload⟩ := buildEffectOp_ok h
  have hmerged := offsetFlag_mergeFlags baseParams persisted hflag
  refine ⟨hgroup, fun config heq => ?_, fun d => ?_⟩
  · rw [hpayload] at heq
    cases kind <;> cases heq
  · rw [Node.Accepts, hpayload, hgroup]
    cases kind <;> simp only [effectSend, hmerged]

/-- The planned child: degraded and silent, or one frame for each destination. -/
theorem planChild_frames {inputs : PlannerInputs} {flag : Bool} {e : Effect} {p : ActionDispatchPlan}
    (h : planChild inputs flag e = .ok p) :
    (plannable inputs (some e.kind) e.target e.params = false ∧ p.ops = []) ∨
      (plannable inputs (some e.kind) e.target e.params = true ∧
        ∃ destinations, resolveTarget inputs.deviceLookup e.target = some destinations ∧
          List.Forall₂ (ChildFrame flag) destinations p.ops) := by
  obtain ⟨hdegraded, hsilent, hplanned⟩ := planEffect_ok h
  cases hp : plannable inputs (some e.kind) e.target e.params with
  | false =>
    rw [hp] at hdegraded
    exact .inl ⟨rfl, hsilent hdegraded⟩
  | true =>
    rw [hp] at hdegraded
    obtain ⟨destinations, preset, hresolve, -, hops⟩ := (hplanned hdegraded).destinations
    exact .inr ⟨rfl, destinations, hresolve, hops.imp fun _ _ hop => childFrame_of_build rfl hop⟩

theorem planChild_noOffset {inputs : PlannerInputs} {flag : Bool} {e : Effect} {p : ActionDispatchPlan}
    (h : planChild inputs flag e = .ok p) : ∀ op ∈ p.ops, NoOffset op := by
  rcases planChild_frames h with ⟨-, hnil⟩ | ⟨-, destinations, -, hframes⟩
  · rw [hnil]
    simp
  · intro op hop
    obtain ⟨_, -, hframe⟩ := exists_of_forall₂_right hframes hop
    exact hframe.noOffset

/-! ### One container -/

/-- One container of a run, with what the planner is given for it. A run may hold a plan
back, as the runner does with a degraded one. -/
structure ContainerStep where
  inputs : PlannerInputs
  target : Target
  offset : OffsetBlock
  actions : List Effect
  sent : Bool

namespace ContainerStep

def plan (s : ContainerStep) : Except PyError ActionDispatchPlan :=
  planOffsetGroup s.inputs s.target s.offset s.actions

/-- The plan that goes out. -/
def transmitted (s : ContainerStep) : Option ActionDispatchPlan :=
  if s.sent then s.plan.toOption else none

/-- The container is canonical and the known ids are ids of groups. -/
structure WellFormed (s : ContainerStep) : Prop where
  canonical : (Action.offsetGroup s.target s.offset s.actions).Canonical
  known : ∀ gid ∈ s.inputs.known, GroupId gid

end ContainerStep

/-- What a container leaves a node with. -/
def Node.after (d : Node) (s : ContainerStep) : Node :=
  match s.transmitted with
  | some plan => d.deliver plan.ops
  | none => d

def OfChild (i : Nat) (op : WireOp) : Prop := ∃ kind, op.phase = .child i kind

/-- Every child reaches a node that it is for, and no other. -/
structure ReachesExactly (s : ContainerStep) (plan : ActionDispatchPlan) (d : Node) : Prop where
  broadcast : ∀ i e, s.actions[i]? = some e → e.target = .broadcast →
    ∀ op ∈ plan.ops, OfChild i op →
      ((d.deliver plan.ops).Accepts op ↔ Participates s.target d.group)
  groups : ∀ i e value, s.actions[i]? = some e → e.target = .groups value →
    (∃ op ∈ plan.ops, OfChild i op) →
      ((∃ op ∈ plan.ops, OfChild i op ∧ (d.deliver plan.ops).Accepts op) ↔ d.group ∈ value)

/-- The ops of a child in the plan of its container are those of its own plan. -/
theorem child_ops {s : ContainerStep} (setup : List WireOp) {childPlans : List ActionDispatchPlan}
    {flag : Bool} (hall : List.Forall₂ (fun e p => planChild s.inputs flag e = .ok p) s.actions childPlans)
    {i : Nat} {e : Effect} (he : s.actions[i]? = some e) :
    ∃ p, planChild s.inputs flag e = .ok p ∧ ∀ op,
      op ∈ tagOps .offset setup ++ childOps 0 childPlans ∧ OfChild i op ↔
        op ∈ tagOps (.child i p.kind) p.ops := by
  obtain ⟨hi, rfl⟩ := List.getElem?_eq_some_iff.mp he
  have hi' : i < childPlans.length := hall.length_eq ▸ hi
  refine ⟨childPlans[i], (List.forall₂_iff_get.mp hall).2 i hi hi', fun op => ?_⟩
  rw [List.mem_append, mem_childOps]
  constructor
  · rintro ⟨h | ⟨j, p, hj, h⟩, kind, hkind⟩
    · obtain ⟨_, -, rfl⟩ := mem_tagOps.mp h
      cases hkind
    · obtain ⟨op', hop', rfl⟩ := mem_tagOps.mp h
      obtain rfl : 0 + j = i := (Phase.child.inj hkind).1
      have hp : childPlans[0 + j]? = some p := by rwa [Nat.zero_add]
      rw [List.getElem?_eq_getElem hi'] at hp
      exact Option.some.inj hp ▸ h
  · intro h
    refine ⟨.inr ⟨i, childPlans[i], List.getElem?_eq_getElem hi', by rwa [Nat.zero_add]⟩, ?_⟩
    obtain ⟨_, -, rfl⟩ := mem_tagOps.mp h
    exact ⟨_, rfl⟩

/-! ### The condition -/

/-- Strategy C wins: fewer groups are left out than named, less one, or as many and at
least two. -/
def OthersReset (value known : List Int) (offset : OffsetBlock) : Prop :=
  formulaMode offset = true ∧ offset ≠ .none ∧
    (1 + (known.filter (· ∉ value)).length < value.length ∨
      1 + (known.filter (· ∉ value)).length = value.length ∧ 2 ≤ (known.filter (· ∉ value)).length)

/-- Frames of one mode have one length. -/
theorem sum_bodyBytes (gids : List Int) {f : Int → OffsetConfig} {n : Nat}
    (hn : ∀ gid, (offsetPayloadKwargs (f gid)).bodyLength = n) :
    ((gids.map fun gid => makeOffsetOp gid (f gid)).map (·.bodyBytes)).sum = n * gids.length := by
  induction gids with
  | nil => rfl
  | cons gid rest ih =>
    rw [List.map_cons, List.map_cons, List.sum_cons, ih, makeOffsetOp_bodyBytes, hn, List.length_cons,
      Nat.mul_succ, Nat.add_comm]

def perGroupPlan (value : List Int) (offset : OffsetBlock) : OptimizerPlan :=
  ⟨.perGroupExplicit, value.map fun gid => makeOffsetOp gid (.explicit (explicitValue offset gid))⟩

def overridesPlan (value known : List Int) (offset : OffsetBlock) : OptimizerPlan :=
  ⟨.formulaPlusOverrides, makeOffsetOp 255 (specOf offset) ::
    (known.filter (· ∉ value)).map fun gid => makeOffsetOp gid .none⟩

/-- The comparison of B and C by packets and bytes. -/
theorem cheaper_iff {value known : List Int} {offset : OffsetBlock} (hmode : formulaMode offset = true)
    (hne : offset ≠ .none) :
    Cheaper (perGroupPlan value offset) (overridesPlan value known offset) ↔
      ¬ OthersReset value known offset := by
  have hvalue := sum_bodyBytes value (f := fun gid => .explicit (explicitValue offset gid))
    (n := 4) fun _ => rfl
  have hothers := sum_bodyBytes (known.filter (· ∉ value)) (f := fun _ => .none) (n := 2)
    fun _ => rfl
  have hformula : (makeOffsetOp 255 (specOf offset)).bodyBytes = 6 ∨
      (makeOffsetOp 255 (specOf offset)).bodyBytes = 7 := by
    cases offset with
    | none => exact absurd rfl hne
    | explicit values => cases hmode
    | linear base step => exact .inl rfl
    | vshape base step center => exact .inr rfl
    | modulo base step cycle => exact .inr rfl
  simp only [OthersReset, hmode, ne_eq, hne, not_false_eq_true, true_and, Cheaper, perGroupPlan,
    overridesPlan, OptimizerPlan.packetCount, OptimizerPlan.totalBytes, List.length_map,
    List.length_cons, List.map_cons, List.sum_cons, hvalue, hothers]
  omega

/-- When strategy C is the one chosen. -/
theorem choosePlan_resets {value known : List Int} (offset : OffsetBlock) (hvalue : value ≠ [])
    (hknown : known ≠ []) :
    (choosePlan false value known offset).strategy = .formulaPlusOverrides ↔
      OthersReset value known offset := by
  by_cases hformula : formulaMode offset = true ∧ offset ≠ .none
  · obtain ⟨hmode, hne⟩ := hformula
    have hcand : candidates false value known offset =
        [perGroupPlan value offset, overridesPlan value known offset] := by
      simp [candidates, planA, planB, planC, perGroupPlan, overridesPlan, hmode, hne, hvalue, hknown]
    have hchoose : choosePlan false value known offset =
        if Cheaper (perGroupPlan value offset) (overridesPlan value known offset) then
          perGroupPlan value offset else overridesPlan value known offset := by
      rw [choosePlan, hcand]
      simp only [least, List.insertionSort_cons, List.insertionSort_nil, List.orderedInsert_nil,
        List.orderedInsert_cons]
      split <;> rfl
    rw [hchoose]
    split
    · next hcheap =>
      refine ⟨fun hC => ?_, fun h => absurd h ((cheaper_iff hmode hne).mp hcheap)⟩
      cases hC
    · next hcheap => exact ⟨fun _ => not_not.mp (mt (cheaper_iff hmode hne).mpr hcheap), fun _ => rfl⟩
  · refine ⟨fun hC => ?_, fun h => absurd ⟨h.1, h.2.1⟩ hformula⟩
    rcases choosePlan_groups known offset hvalue with
      ⟨-, hplan⟩ | ⟨-, hplan⟩ | ⟨hne, hmode, -⟩
    · rw [hplan] at hC
      cases hC
    · rw [hplan] at hC
      cases hC
    · exact absurd ⟨hmode, hne⟩ hformula

/-- A child with target broadcast that has a frame. -/
def HasBroadcast (s : ContainerStep) : Prop :=
  ∃ e ∈ s.actions, e.target = .broadcast ∧ presetFound s.inputs (some e.kind) e.params = true

/-- A node that takes no part is out of reach of a broadcast child: in an offset when the
container has none, and otherwise in none, or about to be reset. -/
def Confined (s : ContainerStep) (d : Node) : Prop :=
  HasBroadcast s → ¬ Participates s.target d.group →
    if s.offset = .none then d.Active
    else d.Active → ∀ value, s.target = .groups value → OthersReset value s.inputs.known s.offset

/-- What a transmitted container does to a node of a known group. -/
theorem after_setup {s : ContainerStep} (hs : s.WellFormed) {plan : ActionDispatchPlan}
    (hplan : s.plan = .ok plan) :
    ∃ setup childPlans, planOffsetSetup s.target s.offset s.inputs.known = .ok setup ∧
      List.Forall₂ (fun e p => planChild s.inputs (decide (s.offset ≠ .none)) e = .ok p)
        s.actions childPlans ∧
      plan.ops = tagOps .offset setup.ops ++ childOps 0 childPlans ∧
      ∀ d : Node, d.deliver plan.ops = d.deliver setup.ops ∧ (d.group ∈ s.inputs.known →
        Delivered s.target s.offset setup.strategy d (d.deliver setup.ops)) := by
  obtain ⟨setup, childPlans, hsetup, hall, hops, -, -⟩ := planOffsetGroup_ok hplan
  obtain ⟨setup', hsetup', hdeliver⟩ := setup_deliver hs.canonical.1 hs.known
  cases hsetup'.symm.trans hsetup
  refine ⟨setup, childPlans, hsetup, hall, hops, fun d => ⟨?_, hdeliver d⟩⟩
  rw [hops, deliver_append, deliver_tagOps, deliver_noOffset]
  intro op hop
  obtain ⟨i, p, hi, hmem⟩ := mem_childOps.mp hop
  obtain ⟨op', hop', rfl⟩ := mem_tagOps.mp hmem
  obtain ⟨e, -, hchild⟩ := exists_of_forall₂_right hall (List.mem_of_getElem? hi)
  exact planChild_noOffset hchild op' hop'

/-- A node that takes part is active exactly if the container has an offset. -/
theorem Delivered.gate {target : Target} {offset : OffsetBlock} {strategy : Strategy} {d d' : Node}
    (h : Delivered target offset strategy d d') (hpart : Participates target d.group) :
    decide (offset ≠ .none) = true ↔ d'.Active := by
  rw [decide_eq_true_eq, Node.Active]
  rcases h.participant hpart with ⟨hmode, hconf⟩ | ⟨hne, hconf⟩
  · rw [hconf]
    cases offset <;> simp_all [specOf, formulaMode]
  · rw [hconf]
    refine iff_of_true hne fun hnone => ?_
    cases hnone

/-- For a node that takes no part, the gate of a broadcast child is closed under the condition only. -/
theorem gate_other {s : ContainerStep} (hs : s.WellFormed) {setup : OptimizerPlan}
    (hsetup : planOffsetSetup s.target s.offset s.inputs.known = .ok setup) {d d' : Node}
    (hd : d.group ∈ s.inputs.known) (h : Delivered s.target s.offset setup.strategy d d')
    (hpart : ¬ Participates s.target d.group) :
    ¬ (decide (s.offset ≠ .none) = true ↔ d'.Active) ↔
      if s.offset = .none then d.Active
      else d.Active → ∀ value, s.target = .groups value → OthersReset value s.inputs.known s.offset := by
  have hcontainer : Container s.target s.offset s.actions := hs.canonical.1
  cases htarget : s.target with
  | broadcast => exact absurd (htarget ▸ trivial) hpart
  | device value => exact absurd htarget (hcontainer.not_device value)
  | groups value =>
    have hvalid : ValidIds value := by
      have hscope := hcontainer.scope
      rwa [htarget] at hscope
    rw [htarget] at hsetup
    cases hsetup
    have hresets := choosePlan_resets s.offset hvalid.nonempty (List.ne_nil_of_mem hd)
    have hactive : d'.Active ↔ ¬ OthersReset value s.inputs.known s.offset ∧ d.Active := by
      rw [Node.Active, h.other hpart, Node.Active, ← hresets]
      split
      · next hC => simp [hC]
      · next hC => simp [hC]
    have hother : (∀ value', Target.groups value = .groups value' →
        OthersReset value' s.inputs.known s.offset) ↔ OthersReset value s.inputs.known s.offset := by
      simp
    rw [hactive, hother, decide_eq_true_eq]
    by_cases hnone : s.offset = .none
    · have hno : ¬ OthersReset value s.inputs.known s.offset := fun h => h.2.1 hnone
      rw [if_pos hnone]
      tauto
    · rw [if_neg hnone]
      tauto

theorem resolveTarget_groups (deviceLookup : String → Option Device) {value : List Int} (h : value ≠ []) :
    resolveTarget deviceLookup (.groups value) = some (value.map .group) := by
  cases value with
  | nil => exact absurd rfl h
  | cons gid rest => rfl

/-- A tagged frame of a child: the child is plannable, and the frame is for one of its
destinations. -/
theorem childFrame_of_mem {inputs : PlannerInputs} {flag : Bool} {e : Effect} {p : ActionDispatchPlan}
    (h : planChild inputs flag e = .ok p) {phase : Phase} {op : WireOp} (hop : op ∈ tagOps phase p.ops) :
    plannable inputs (some e.kind) e.target e.params = true ∧
      ∃ destinations, resolveTarget inputs.deviceLookup e.target = some destinations ∧
        ∃ dest ∈ destinations, ChildFrame flag dest op := by
  obtain ⟨op', hop', rfl⟩ := mem_tagOps.mp hop
  rcases planChild_frames h with ⟨-, hnil⟩ | ⟨hplan, destinations, hres, hframes⟩
  · rw [hnil] at hop'
    cases hop'
  · obtain ⟨dest, hdest, hframe⟩ := exists_of_forall₂_right hframes hop'
    exact ⟨hplan, destinations, hres, dest, hdest, hframe.group, hframe.noOffset, hframe.accepted⟩

section Child
variable {inputs : PlannerInputs} {flag : Bool} {e : Effect} {p : ActionDispatchPlan} {phase : Phase}

/-- A frame to group 255 passes the filter of every node; the gate alone decides. -/
theorem broadcast_accepted (h : planChild inputs flag e = .ok p) (htarget : e.target = .broadcast)
    {op : WireOp} (hop : op ∈ tagOps phase p.ops) (d : Node) :
    d.Accepts op ↔ (flag = true ↔ d.Active) := by
  obtain ⟨-, destinations, hres, dest, hdest, hframe⟩ := childFrame_of_mem h hop
  rw [htarget] at hres
  cases hres
  obtain rfl := List.mem_singleton.mp hdest
  have hhears : d.Hears (byte (targetGroupForOp (.group 255))) := .inr rfl
  rw [hframe.accepted, and_iff_right hhears]

/-- A child with target broadcast has a frame, if it needs no preset that is missing. -/
theorem exists_broadcast_frame (h : planChild inputs flag e = .ok p) (htarget : e.target = .broadcast)
    (hfound : presetFound inputs (some e.kind) e.params = true) (phase : Phase) :
    ∃ op, op ∈ tagOps phase p.ops := by
  rcases planChild_frames h with ⟨hno, -⟩ | ⟨-, destinations, hres, hframes⟩
  · rw [plannable, hfound, resolvable, htarget] at hno
    cases hno
  · rw [htarget] at hres
    cases hres
    obtain ⟨op, hop, -⟩ := exists_of_forall₂_left hframes (List.mem_singleton_self _)
    exact ⟨_, mem_tagOps.mpr ⟨op, hop, rfl⟩⟩

/-- One of the frames to the groups of a child is for a node, if the node is in one of them. -/
theorem groups_accepted (phase : Phase) (h : planChild inputs flag e = .ok p) {value : List Int}
    (htarget : e.target = .groups value) (hids : ValidIds value) (hsome : ∃ op, op ∈ tagOps phase p.ops)
    (d : Node) :
    (∃ op ∈ tagOps phase p.ops, d.Accepts op) ↔ d.group ∈ value ∧ (flag = true ↔ d.Active) := by
  have hgroups := resolveTarget_groups inputs.deviceLookup hids.nonempty
  constructor
  · rintro ⟨op, hop, haccepts⟩
    obtain ⟨-, destinations, hres, dest, hdest, hframe⟩ := childFrame_of_mem h hop
    rw [htarget, hgroups] at hres
    cases hres
    obtain ⟨gid, hgid, rfl⟩ := List.mem_map.mp hdest
    obtain ⟨hhears, hgate⟩ := (hframe.accepted d).mp haccepts
    rw [(hears_group (hids.range gid hgid)).mp hhears]
    exact ⟨hgid, hgate⟩
  · rintro ⟨hvalue, hgate⟩
    obtain ⟨op₀, hop₀⟩ := hsome
    obtain ⟨hplan, -⟩ := childFrame_of_mem h hop₀
    rcases planChild_frames h with ⟨hno, -⟩ | ⟨-, destinations, hres, hframes⟩
    · exact absurd hplan (by simp [hno])
    · rw [htarget, hgroups] at hres
      cases hres
      obtain ⟨op, hop, hframe⟩ := exists_of_forall₂_left hframes (List.mem_map_of_mem hvalue)
      refine ⟨_, mem_tagOps.mpr ⟨op, hop, rfl⟩, (hframe.accepted d).mpr ⟨?_, hgate⟩⟩
      exact (hears_group (hids.range _ hvalue)).mpr rfl

end Child

/-- The groups of a child take part in its container. -/
theorem participates_of_child {s : ContainerStep} (hs : s.WellFormed) {e : Effect} (he : e ∈ s.actions)
    {value : List Int} (htarget : e.target = .groups value) {gid : Int} (hgid : gid ∈ value) :
    Participates s.target gid := by
  cases hst : s.target with
  | broadcast => trivial
  | device addr => exact absurd hst (hs.canonical.1.not_device addr)
  | groups ids => exact (hs.canonical.1.children e he).within ids (by rw [hst]; rfl) value htarget gid hgid

/-- **One container: its children reach whom they are for, on every node of a known group,
exactly if the nodes that take no part are out of the reach of its broadcast children.** -/
theorem reaches_iff {s : ContainerStep} (hs : s.WellFormed) {plan : ActionDispatchPlan}
    (hplan : s.plan = .ok plan) {d : Node} (hd : d.group ∈ s.inputs.known) :
    ReachesExactly s plan d ↔ Confined s d := by
  obtain ⟨setup, childPlans, hsetup, hall, hops, hdeliver⟩ := after_setup hs hplan
  obtain ⟨hstate, hdelivered⟩ := hdeliver d
  have hdel := hdelivered hd
  rw [← hstate] at hdel
  have hchild := fun i e (he : s.actions[i]? = some e) => child_ops setup.ops hall he
  rw [← hops] at hchild
  have hother := gate_other hs hsetup hd hdel
  constructor
  · rintro hreach ⟨e, he, htarget, hfound⟩ hpart
    obtain ⟨i, hi⟩ := List.getElem?_of_mem he
    obtain ⟨p, hp, hmem⟩ := hchild i e hi
    obtain ⟨op, hop⟩ := exists_broadcast_frame hp htarget hfound (.child i p.kind)
    obtain ⟨hin, hof⟩ := (hmem op).mpr hop
    have hiff := hreach.broadcast i e hi htarget op hin hof
    exact (hother hpart).mp fun hgate => hpart (hiff.mp ((broadcast_accepted hp htarget hop _).mpr hgate))
  · intro hconf
    refine ⟨fun i e hi htarget op hin hof => ?_, fun i e value hi htarget hsome => ?_⟩
    · obtain ⟨p, hp, hmem⟩ := hchild i e hi
      have hop := (hmem op).mp ⟨hin, hof⟩
      rw [broadcast_accepted hp htarget hop]
      by_cases hpart : Participates s.target d.group
      · exact ⟨fun _ => hpart, fun _ => hdel.gate hpart⟩
      · have hfound := (Bool.and_eq_true_iff.mp (childFrame_of_mem hp hop).1).2
        have hclosed := (hother hpart).mpr (hconf ⟨e, List.mem_of_getElem? hi, htarget, hfound⟩ hpart)
        exact ⟨fun h => absurd h hclosed, fun h => absurd h hpart⟩
    · obtain ⟨p, hp, hmem⟩ := hchild i e hi
      have he := List.mem_of_getElem? hi
      have hids : ValidIds value := by
        have hvalid := (hs.canonical.1.children e he).target
        rwa [htarget] at hvalid
      have hiff := groups_accepted (.child i p.kind) hp htarget hids
        (hsome.imp fun op h => (hmem op).mp h) (d.deliver plan.ops)
      rw [hdel.group] at hiff
      rw [← and_iff_left_of_imp fun hvalue => hdel.gate (participates_of_child hs he htarget hvalue), ← hiff]
      exact exists_congr fun op => by rw [← and_assoc, hmem op]

/-! ### Runs -/

/-- **Along every run of containers, every child reaches whom it is for exactly if each
container that goes out finds the node confined.** -/
theorem run_reaches_iff (d : Node) {steps : List ContainerStep}
    (hsteps : ∀ s ∈ steps, s.WellFormed ∧ d.group ∈ s.inputs.known) :
    Along Node.after (fun d s => ∀ plan, s.transmitted = some plan → ReachesExactly s plan d) d steps ↔
      Along Node.after (fun d s => s.transmitted.isSome → Confined s d) d steps := by
  have htransmitted : ∀ s : ContainerStep, ∀ plan, s.transmitted = some plan → s.plan = .ok plan := by
    intro s plan h
    unfold ContainerStep.transmitted at h
    split at h
    · cases hp : s.plan with
      | error err => rw [hp] at h; cases h
      | ok plan' => rw [hp] at h; cases h; rfl
    · cases h
  refine along_congr (I := fun d' => d'.group = d.group) (fun d' s hgroup hs => ?_)
    (fun d' s hgroup hs => ?_) rfl hsteps
  · unfold Node.after
    cases ht : s.transmitted with
    | none => exact hgroup
    | some plan =>
      obtain ⟨setup, _, -, -, -, hdeliver⟩ := after_setup hs.1 (htransmitted s plan ht)
      obtain ⟨hstate, hdel⟩ := hdeliver d'
      show (d'.deliver plan.ops).group = d.group
      rw [hstate, (hdel (by rw [hgroup]; exact hs.2)).group, hgroup]
  · cases ht : s.transmitted with
    | none => exact ⟨fun _ h => (by cases h), fun _ _ h => (by cases h)⟩
    | some plan =>
      have hiff := reaches_iff hs.1 (htransmitted s plan ht) (d := d') (by rw [hgroup]; exact hs.2)
      exact ⟨fun h _ => hiff.mp (h plan rfl), fun h p hp => by cases hp; exact hiff.mpr (h rfl)⟩

/-! ### Three runs -/

/-- A container over one group, with one child for all its nodes. -/
def oneChild (gid : Int) (offset : OffsetBlock) : ContainerStep where
  inputs := ⟨[1, 2], none, fun _ => none⟩
  target := .groups [gid]
  offset := offset
  actions := [⟨.rlEffect, .broadcast, [(.str "mode", .int 3)], {}⟩]
  sent := true

theorem oneChild_hasBroadcast (gid : Int) (offset : OffsetBlock) : HasBroadcast (oneChild gid offset) :=
  ⟨_, List.mem_singleton_self _, rfl, rfl⟩

theorem oneChild_wellFormed {gid : Int} {offset : OffsetBlock}
    (h : canonicalAction (Action.offsetGroup (.groups [gid]) offset (oneChild gid offset).actions).toJson =
      .ok (.offsetGroup (.groups [gid]) offset (oneChild gid offset).actions)) :
    (oneChild gid offset).WellFormed where
  canonical := canonicalAction_canonical h
  known := show ∀ gid ∈ ([1, 2] : List Int), GroupId gid by unfold GroupId; decide

/-- Without an offset, the child for group 1 reaches a node of group 2; and with one, the child
for group 2 reaches the node of group 1 that the container before left switched on. -/
theorem broadcast_child_reaches_others :
    (∃ plan, (oneChild 1 .none).transmitted = some plan ∧
      ¬ ReachesExactly (oneChild 1 .none) plan ⟨2, .none⟩) ∧
    (∃ plan, (oneChild 2 (.linear 0 10)).transmitted = some plan ∧
      ¬ ReachesExactly (oneChild 2 (.linear 0 10)) plan (Node.after ⟨1, .none⟩ (oneChild 1 (.linear 0 10)))) := by
  refine ⟨⟨_, rfl, fun h => ?_⟩, ⟨_, rfl, fun h => ?_⟩⟩
  · have hconf := (reaches_iff (oneChild_wellFormed rfl) rfl (d := ⟨2, .none⟩) (by decide)).mp h
    exact hconf (oneChild_hasBroadcast 1 .none) (by simp [oneChild, Participates, Node.group]) rfl
  · have hnode : Node.after ⟨1, .none⟩ (oneChild 1 (.linear 0 10)) = ⟨1, .explicit 10⟩ := rfl
    rw [hnode] at h
    have hconf := (reaches_iff (oneChild_wellFormed rfl) rfl (d := ⟨1, .explicit 10⟩) (by decide)).mp h
    have hreset := hconf (oneChild_hasBroadcast 2 (.linear 0 10))
      (by simp [oneChild, Participates, Node.group]) (by decide) [2] rfl
    exact absurd hreset.2.2 (by decide)

/-- A container with an offset over some of four groups, with one child for all its nodes. -/
def wideChild (value : List Int) : ContainerStep where
  inputs := ⟨[1, 2, 3, 4], none, fun _ => none⟩
  target := .groups value
  offset := .linear 0 10
  actions := [⟨.rlEffect, .broadcast, [(.str "mode", .int 3)], {}⟩]
  sent := true

theorem wideChild_wellFormed {value : List Int}
    (h : canonicalAction (Action.offsetGroup (.groups value) (.linear 0 10) (wideChild value).actions).toJson =
      .ok (.offsetGroup (.groups value) (.linear 0 10) (wideChild value).actions)) :
    (wideChild value).WellFormed where
  canonical := canonicalAction_canonical h
  known := show ∀ gid ∈ ([1, 2, 3, 4] : List Int), GroupId gid by unfold GroupId; decide

/-- A node that the first container switched on is reset by the second, which is over three of four groups. -/
theorem broadcast_child_confined :
    Along Node.after (fun d s => ∀ plan, s.transmitted = some plan → ReachesExactly s plan d)
      ⟨2, .none⟩ [wideChild [2], wideChild [1, 3, 4]] := by
  refine (run_reaches_iff ⟨2, .none⟩ fun s hs => ?_).mpr ⟨fun _ _ hnot => ?_, fun _ _ _ _ value heq => ?_, trivial⟩
  · simp only [List.mem_cons, List.not_mem_nil, or_false] at hs
    rcases hs with rfl | rfl
    · exact ⟨wideChild_wellFormed rfl, by decide⟩
    · exact ⟨wideChild_wellFormed rfl, by decide⟩
  · exact absurd (by simp [wideChild, Participates, Node.group]) hnot
  · cases heq
    exact ⟨rfl, fun h => (by cases h), by decide⟩

end RaceLink.Dispatch
