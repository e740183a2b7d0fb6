import RaceLink.Dispatch.PlannerProofs
import RaceLink.Dispatch.Setup
import RaceLink.Runner.Discipline
import RaceLink.Runner.SceneScope

/-! The cost estimator (`services/scene_cost_estimator.py`) against the runner: the
packets it counts for an action, and the frames that executing the action hands to
the only transport.

Both take their ops from the planner. An op that a sender carries out has one frame,
of the length the planner gave it (`sendOp_bodies`); what is left is which ops are
carried out at all. -/
namespace RaceLink.Runner
open Python Library Domain Protocol Scenes Dispatch Routing

/-! ### The estimate -/

def RADIO_HEADER_BYTES : Nat := 7
def USB_FRAMING_BYTES : Nat := 2

/-- `ActionCost`, without the times; `bodies` keeps what `add_packet` was given. -/
structure ActionCost where
  packets : Nat := 0
  bytes : Nat := 0
  detail : Dict := []
  bodies : List Nat := []

/-- `add_packet`. -/
def ActionCost.addPacket (cost : ActionCost) (bodyBytes : Nat) : ActionCost :=
  {cost with
    packets := cost.packets + 1
    bytes := cost.bytes + (bodyBytes + RADIO_HEADER_BYTES + USB_FRAMING_BYTES)
    bodies := cost.bodies ++ [bodyBytes] }

/-- The loop of `estimate_action`. -/
def costOf (ops : List WireOp) : ActionCost :=
  ops.foldl (fun (cost : ActionCost) op => cost.addPacket op.bodyBytes) {}

/-- `estimate_action`. -/
def estimateAction (inputs : PlannerInputs) : Action → Except PyError ActionCost
  | .delay _ => .ok {}
  | action => do
    let plan ← planActionDispatch inputs action
    return {costOf plan.ops with detail := plan.detail}

theorem foldl_addPacket (ops : List WireOp) (cost : ActionCost) :
    (ops.foldl (fun cost op => cost.addPacket op.bodyBytes) cost).packets = cost.packets + ops.length ∧
      (ops.foldl (fun cost op => cost.addPacket op.bodyBytes) cost).bodies =
        cost.bodies ++ ops.map (·.bodyBytes) := by
  induction ops generalizing cost with
  | nil => simp
  | cons op rest ih =>
    obtain ⟨hpackets, hbodies⟩ := ih (cost.addPacket op.bodyBytes)
    rw [List.foldl_cons]
    refine ⟨?_, ?_⟩
    · rw [hpackets, List.length_cons]
      show cost.packets + 1 + rest.length = _
      omega
    · rw [hbodies]
      show cost.bodies ++ [op.bodyBytes] ++ _ = _
      simp

/-- What the loop counts. -/
theorem costOf_spec (ops : List WireOp) :
    (costOf ops).packets = ops.length ∧ (costOf ops).bodies = ops.map (·.bodyBytes) := by
  obtain ⟨hpackets, hbodies⟩ := foldl_addPacket ops {}
  exact ⟨hpackets.trans (Nat.zero_add _), hbodies⟩

/-- The frames are the packets that were counted: as many, in the same order, each of
the same length. Without an estimate there are none. -/
def Counted (estimate : Except PyError ActionCost) (frames : List Frame) : Prop :=
  match estimate with
  | .ok cost => frames.length = cost.packets ∧ frames.map (·.body.length) = cost.bodies
  | .error _ => frames = []

/-- An estimate counts the ops of the plan. -/
theorem counted_plan {inputs : PlannerInputs} {action : Action} {plan : ActionDispatchPlan}
    (hplan : planActionDispatch inputs action = .ok plan) {frames : List Frame} :
    Counted (estimateAction inputs action) frames ↔
      frames.map (·.body.length) = plan.ops.map (·.bodyBytes) := by
  have hcost : ∃ cost, estimateAction inputs action = .ok cost ∧ cost.packets = plan.ops.length ∧
      cost.bodies = plan.ops.map (·.bodyBytes) := by
    obtain ⟨hpackets, hbodies⟩ := costOf_spec plan.ops
    cases action with
    | delay durationMs =>
      cases hplan
      exact ⟨{}, rfl, rfl, rfl⟩
    | _ =>
      refine ⟨{costOf plan.ops with detail := plan.detail}, ?_, hpackets, hbodies⟩
      rw [estimateAction, hplan]
      · rfl
      · exact nofun
  obtain ⟨cost, hcost, hpackets, hbodies⟩ := hcost
  rw [hcost, Counted, hpackets, hbodies]
  refine ⟨fun h => h.2, fun h => ⟨?_, h⟩⟩
  have hlength := congrArg List.length h
  rwa [List.length_map, List.length_map] at hlength

/-! ### One op -/

/-- The planner gave the op the length that its sender will build. -/
def Sized (op : WireOp) : Prop :=
  match op.payload with
  | .offset config => op.bodyBytes = config.bodyLength
  | .control params _ => controlBodyLen params = .ok op.bodyBytes
  | .wledPreset .. => op.bodyBytes = 4
  | .startblock .. => False
  | .sync _ triggerArmed => triggerArmed = true ∧ op.bodyBytes = 5

/-- The parameters that gave a length give the sender a body of that length. -/
theorem controlArgs_of_len {params : Dict} {n : Nat} (h : controlBodyLen params = .ok n) :
    ∃ args, controlArgs params = .ok args ∧
      ∀ groupId, ∃ body, buildControlBody groupId args.1 args.2 = .ok body ∧ body.length = n := by
  obtain ⟨brightness, hbrightness, h⟩ := bind_ok.mp h
  obtain ⟨fields, hfields, h⟩ := bind_ok.mp h
  obtain ⟨body, hbody, h⟩ := bind_ok.mp h
  cases h
  refine ⟨(flagsOf params (0 < brightness.getD 0), fields), ?_, fun groupId =>
    buildControlBody_length hbody groupId _⟩
  rw [controlArgs, hbrightness, ok_bind, hfields, ok_bind, pure_eq_ok]

section Single
variable {env : Environment} {w : World} {t : Transport}

/-- With one transport attached, a send has one route at most. -/
theorem routes_single (hone : w.host.transports = [t]) (destination : Destination)
    (target : Option (List String)) : (routes w.host destination target).length ≤ 1 := by
  have htoList : ∀ o : Option Transport, o.toList.length ≤ 1 := fun o => by cases o <;> simp
  cases destination with
  | device d => exact htoList _
  | group groupId =>
    cases target with
    | none => exact htoList _
    | some networkIds =>
      show (w.host.routesOf [] networkIds).length ≤ 1
      exact routesOf_length_le.trans (by simp [hone])

theorem sendTo_single (hone : w.host.transports = [t]) {opcode : Opcode}
    {build : Int → Except PyError Bytes} {destination : Destination} {target : Option (List String)}
    {n : Nat} (hbuild : ∀ groupId, ∃ body, build groupId = .ok body ∧ body.length = n)
    (hanswer : (sendTo w.host opcode build destination target).answer = .ok true) :
    (sendTo w.host opcode build destination target).frames.map (·.body.length) = [n] := by
  obtain ⟨hbodies, hne⟩ := sendTo_bodies hbuild hanswer
  have hle := routes_single hone destination target
  have hpos := List.length_pos_of_ne_nil hne
  rw [hbodies, show (routes w.host destination target).length = 1 by omega]
  rfl

/-- The frames of a sync, which is answered even if it is sent nowhere. -/
theorem sendSync_single (hone : w.host.transports = [t]) (ts24 brightness : Int)
    (target : Option (List String)) :
    (sendSync w.host ts24 brightness true target).map (·.body.length) =
      if w.host.resolveBroadcastTransports target = [] then [] else [5] := by
  have hattached : w.host.transports ≠ [] := by simp [hone]
  have hle : (w.host.resolveBroadcastTransports target).length ≤ 1 := by
    cases target with
    | none => exact (show w.host.transports.length = 1 by simp [hone]).le
    | some networkIds => exact routesOf_length_le.trans (by simp [hone])
  have hsend : ∀ t, ∃ frame, sendM2n .sync none everyone (buildSyncBody (ts24 % 0x1000000) (brightness % 256)
      SYNC_FLAG_TRIGGER_ARMED) t = .ok frame ∧ frame.body.length = 5 :=
    fun t => ⟨_, rfl, length_buildSyncBody_armed _ _⟩
  rw [sendSync, if_neg hattached, if_pos rfl, broadcastFanout_bodies hsend]
  split
  · next hnil => rw [hnil]; rfl
  · next hne =>
    have hpos := List.length_pos_of_ne_nil hne
    rw [show (w.host.resolveBroadcastTransports target).length = 1 by omega]
    rfl

/-- **An op that was carried out is one frame of the planned length**, if a sync among them
has somewhere to go. -/
theorem sendOp_bodies (hone : w.host.transports = [t]) {target : Option (List String)} {op : WireOp}
    (hsized : Sized op) (hanswer : (sendOp env target op w).answer = .ok true)
    (hsync : ∀ brightness armed, op.payload = .sync brightness armed →
      w.host.resolveBroadcastTransports target ≠ []) :
    (sendOp env target op w).frames.map (·.body.length) = [op.bodyBytes] := by
  unfold sendOp at hanswer ⊢
  unfold Sized at hsized
  cases hpayload : op.payload with
  | offset config =>
    rw [hpayload] at hanswer hsized
    refine sendTo_single hone (fun groupId => ⟨_, rfl, ?_⟩) hanswer
    rw [length_buildOffsetBody, hsized]
  | control params destination =>
    rw [hpayload] at hanswer hsized
    obtain ⟨args, hargs, hbuild⟩ := controlArgs_of_len hsized
    dsimp only at hanswer ⊢
    unfold sendControl at hanswer ⊢
    rw [if_neg (by simp [hone]), hargs] at hanswer ⊢
    exact sendTo_single hone hbuild hanswer
  | wledPreset params destination =>
    rw [hpayload] at hanswer hsized
    dsimp only at hanswer ⊢
    unfold sendWledPreset at hanswer ⊢
    cases hargs : presetArgs params with
    | error e =>
      rw [hargs] at hanswer
      cases hanswer
    | ok args =>
      rw [hargs] at hanswer
      exact sendTo_single hone (fun groupId => ⟨_, rfl, hsized.symm⟩) hanswer
  | startblock params destination =>
    rw [hpayload] at hsized
    exact hsized.elim
  | sync brightness armed =>
    rw [hpayload] at hsized
    obtain ⟨rfl, hlen⟩ := hsized
    dsimp only
    rw [sendSync_single hone, if_neg (hsync brightness true hpayload), hlen]

end Single

/-! ### The planner's ops -/

/-- An op that has a frame of its own whenever it is carried out. -/
def Carried (op : WireOp) : Prop := Sized op ∧ ∀ brightness armed, op.payload ≠ .sync brightness armed

theorem planOffsetSetup_carried {target : Target} {offset : OffsetBlock} {known : List Int}
    {plan : OptimizerPlan} (h : planOffsetSetup target offset known = .ok plan) :
    ∀ op ∈ plan.ops, Carried op := by
  cases target with
  | device value => cases h
  | _ =>
    cases h
    intro op hop
    obtain ⟨gid, config, rfl, -⟩ := choosePlan_ops hop
    exact ⟨makeOffsetOp_bodyBytes gid config, nofun⟩

theorem buildEffectOp_carried {kind : EffectKind} {params : Dict} {destination : Destination} {op : WireOp}
    (h : buildEffectOp (some kind) params destination = .ok op) : Carried op := by
  cases kind with
  | wledPreset =>
    cases h
    exact ⟨rfl, nofun⟩
  | _ =>
    obtain ⟨len, hlen, h⟩ := bind_ok.mp h
    cases h
    exact ⟨hlen, nofun⟩

theorem planEffect_carried {inputs : PlannerInputs} {kind : EffectKind} {target : Target} {params : Dict}
    {flagsOverride : FlagsOverride} {force : Option Bool} {p : ActionDispatchPlan}
    (h : planEffect inputs (some kind) target params flagsOverride force = .ok p) :
    ∀ op ∈ p.ops, Carried op := by
  obtain ⟨-, hempty, hplanned⟩ := planEffect_ok h
  intro op hop
  cases hdegraded : p.degraded with
  | true =>
    rw [hempty hdegraded] at hop
    cases hop
  | false =>
    obtain ⟨destinations, preset, -, -, hall⟩ := (hplanned hdegraded).destinations
    obtain ⟨d, -, hbuild⟩ := exists_of_forall₂_right hall hop
    exact buildEffectOp_carried hbuild

theorem tagOps_carried {phase : Phase} {ops : List WireOp} (h : ∀ op ∈ ops, Carried op) :
    ∀ op ∈ tagOps phase ops, Carried op := by
  intro op hop
  obtain ⟨op', hop', rfl⟩ := mem_tagOps.mp hop
  exact h op' hop'

theorem planOffsetGroup_carried {inputs : PlannerInputs} {target : Target} {offset : OffsetBlock}
    {actions : List Effect} {plan : ActionDispatchPlan}
    (h : planOffsetGroup inputs target offset actions = .ok plan) : ∀ op ∈ plan.ops, Carried op := by
  obtain ⟨setup, childPlans, hsetup, hall, hops, -, -⟩ := planOffsetGroup_ok h
  intro op hop
  rw [hops, List.mem_append] at hop
  rcases hop with hop | hop
  · exact tagOps_carried (planOffsetSetup_carried hsetup) op hop
  · obtain ⟨i, p, hp, hop⟩ := mem_childOps.mp hop
    obtain ⟨e, -, hplan⟩ := exists_of_forall₂_right hall (List.mem_of_getElem? hp)
    exact tagOps_carried (planEffect_carried hplan) op hop

/-! ### Executing a plan -/

section Execute
variable {env : Environment} {progress : Option (Event → Except PyError Unit)} {t : Transport}

/-- An op that was carried out, with what it adds to the frames. -/
theorem dispatchOp_bodies {op : WireOp} {index : Nat} {s : RunState World}
    (hone : s.world.host.transports = [t]) (hsized : Sized op)
    (hsync : ∀ brightness armed, op.payload = .sync brightness armed →
      s.world.host.resolveBroadcastTransports s.attrs.scope ≠ [])
    (hok : (dispatchOp (services env progress) index op s).1 = .ok true) :
    ∃ new, (dispatchOp (services env progress) index op s).2.world =
        ⟨s.world.host, s.world.frames ++ new⟩ ∧ new.map (·.body.length) = [op.bodyBytes] := by
  unfold dispatchOp at hok ⊢
  dsimp only at hok ⊢
  split at hok
  · cases hok
  · next hfree =>
    rw [if_neg hfree]
    refine ⟨_, rfl, sendOp_bodies hone hsized hok fun brightness armed hpayload => ?_⟩
    rw [targetForOp, hpayload]
    exact hsync brightness armed hpayload

/-- Ops that were all carried out are frames of the planned lengths. -/
theorem executeOps_bodies {ops : List WireOp} (hops : ∀ op ∈ ops, Carried op) {index : Nat}
    {s : RunState World} (hone : s.world.host.transports = [t]) {oks : List Bool}
    (hrun : (executeOps (services env progress) index ops s).1 = .ok oks) (hok : ∀ ok ∈ oks, ok = true) :
    ∃ new, (executeOps (services env progress) index ops s).2.world =
        ⟨s.world.host, s.world.frames ++ new⟩ ∧
      new.map (·.body.length) = ops.map (·.bodyBytes) := by
  induction ops generalizing s oks with
  | nil => exact ⟨[], by simp [executeOps], rfl⟩
  | cons op rest ih =>
    obtain ⟨hop, hrest⟩ := List.forall_mem_cons.mp hops
    obtain ⟨ok, s', hone', hrun'⟩ := andThen_eq_ok.mp (Prod.ext hrun rfl)
    obtain ⟨oks', s'', hrest', heq⟩ := andThen_eq_ok.mp hrun'
    cases heq
    obtain ⟨hfirst, hothers⟩ := List.forall_mem_cons.mp hok
    subst hfirst
    obtain ⟨new, hworld, hnew⟩ := dispatchOp_bodies hone hop.1
      (fun brightness armed h => absurd h (hop.2 brightness armed)) (congrArg Prod.fst hone')
    rw [hone'] at hworld
    dsimp only at hworld
    obtain ⟨new', hworld', hnew'⟩ := ih hrest (s := s') (by rw [hworld]; exact hone)
      (congrArg Prod.fst hrest') hothers
    rw [hrest', hworld] at hworld'
    refine ⟨new ++ new', ?_, ?_⟩
    · rw [executeOps, hone', andThen_ok, hrest', andThen_ok]
      dsimp only at hworld' ⊢
      rw [hworld', List.append_assoc]
    · rw [List.map_append, hnew, hnew', List.map_cons, List.singleton_append]

/-- Every send succeeded: an executed plan reports no error. -/
def Succeeded (inputs : PlannerInputs) (action : Action) (r : ActionResult) : Prop :=
  ∀ plan, planActionDispatch inputs action = .ok plan → plan.degraded = false → plan.ops ≠ [] →
    r.error = none

/-- What is sent for an action is what the estimator counts for it. -/
def EstimateHolds (env : Environment) (progress : Option (Event → Except PyError Unit)) (index : Nat)
    (action : Action) (s : RunState World) : Prop :=
  ∃ new, (dispatch (services env progress) index action s).2.world.frames = s.world.frames ++ new ∧
    Counted (estimateAction (env.inputs s.world.host) action) new

/-- Every child of a container resolves (or one of them raises, and then nothing is planned);
a sync has a transport to go to. -/
def Countable (inputs : PlannerInputs) (s : RunState World) : Action → Prop
  | .sync => s.world.host.resolveBroadcastTransports s.attrs.scope ≠ []
  | .offsetGroup _ offset actions =>
    (∀ e ∈ actions, plannable inputs (some e.kind) e.target e.params = true) ∨
      ∃ e ∈ actions, ∃ err, planChild inputs (decide (offset ≠ .none)) e = .error err
  | _ => True

/-- The frames of an action with a plan are compared with the lengths of the ops. -/
theorem estimateHolds_frames {index : Nat} {action : Action} {s : RunState World} {plan : ActionDispatchPlan}
    (hplan : planActionDispatch (env.inputs s.world.host) action = .ok plan) {new : List Frame}
    (hframes : (dispatch (services env progress) index action s).2.world.frames = s.world.frames ++ new) :
    EstimateHolds env progress index action s ↔
      new.map (·.body.length) = plan.ops.map (·.bodyBytes) := by
  unfold EstimateHolds
  rw [hframes]
  constructor
  · rintro ⟨new', hnew, hcounted⟩
    rw [List.append_cancel_left hnew]
    exact (counted_plan hplan).mp hcounted
  · exact fun h => ⟨new, rfl, (counted_plan hplan).mpr h⟩

/-- An action that cannot be planned has no estimate and no frames. -/
theorem estimateHolds_unplanned {index : Nat} {action : Action} {s : RunState World} {e : PyError}
    (hplan : planActionDispatch (env.inputs s.world.host) action = .error e)
    (hdelay : ∀ durationMs, action ≠ .delay durationMs) : EstimateHolds env progress index action s := by
  refine ⟨[], ?_, ?_⟩
  · rw [dispatch_unplanned (services env progress) index hplan, List.append_nil]
  · rw [estimateAction, hplan]
    · rfl
    · exact hdelay

/-- Frames that were not sent are counted if the plan has ops. -/
theorem estimateHolds_none {index : Nat} {action : Action} {s : RunState World} {plan : ActionDispatchPlan}
    (hplan : planActionDispatch (env.inputs s.world.host) action = .ok plan)
    (hworld : (dispatch (services env progress) index action s).2.world = s.world) :
    EstimateHolds env progress index action s ↔ plan.ops = [] := by
  have hframes : (dispatch (services env progress) index action s).2.world.frames = s.world.frames ++ [] := by
    rw [hworld, List.append_nil]
  rw [estimateHolds_frames hplan hframes, List.map_nil, eq_comm]
  exact List.map_eq_nil_iff

/-- A held back plan leaves the world alone. -/
theorem dispatch_degraded {index : Nat} {action : Action} {s : RunState World} {plan : ActionDispatchPlan}
    (hplan : planActionDispatch (env.inputs s.world.host) action = .ok plan)
    (hdelay : ∀ durationMs, action ≠ .delay durationMs) (hdegraded : plan.degraded = true) :
    (dispatch (services env progress) index action s).2.world = s.world := by
  rw [(dispatch_planned (services env progress) index hplan hdelay).1, executePlan,
    if_pos hdegraded]
  cases action <;> rfl

/-- An executed plan whose sends succeeded, when all its ops have their own frames. -/
theorem estimateHolds_executed {index : Nat} {action : Action} {s : RunState World}
    {plan : ActionDispatchPlan} (hone : s.world.host.transports = [t])
    (hplan : planActionDispatch (env.inputs s.world.host) action = .ok plan)
    (hdelay : ∀ durationMs, action ≠ .delay durationMs) (hdegraded : plan.degraded = false)
    (hcarried : ∀ op ∈ plan.ops, Carried op)
    (hsucc : Succeeded (env.inputs s.world.host) action (dispatch (services env progress) index action s).1) :
    EstimateHolds env progress index action s := by
  have hentered : (entered (services env progress) action s).world = s.world := by
    cases action <;> rfl
  obtain ⟨hworld, hresult⟩ := dispatch_planned (services env progress) index hplan hdelay
  by_cases hops : plan.ops = []
  · refine (estimateHolds_none hplan ?_).mpr hops
    rw [hworld, executePlan, hdegraded, if_neg nofun, hops]
    exact hentered
  · obtain ⟨r, hr, herror⟩ := hresult (hsucc plan hplan hdegraded hops)
    obtain ⟨hstate, oks, hoks, hall⟩ := executePlan_carried_out _ hdegraded hr herror
    obtain ⟨new, hnew, hbodies⟩ := executeOps_bodies hcarried (hentered ▸ hone) hoks hall
    have hframes : (dispatch (services env progress) index action s).2.world.frames = s.world.frames ++ new := by
      rw [hworld, hstate, hnew, hentered]
    exact (estimateHolds_frames hplan hframes).mpr hbodies

/-- A sync succeeds wherever its scope leads. -/
theorem estimateHolds_sync {index : Nat} {s : RunState World} (hone : s.world.host.transports = [t])
    (hsucc : Succeeded (env.inputs s.world.host) .sync
      (dispatch (services env progress) index .sync s).1) :
    EstimateHolds env progress index .sync s ↔
      s.world.host.resolveBroadcastTransports s.attrs.scope ≠ [] := by
  have hplan : planActionDispatch (env.inputs s.world.host) .sync = .ok planSync := rfl
  obtain ⟨hworld, hresult⟩ := dispatch_planned (services env progress) index hplan nofun
  obtain ⟨r, hr, herror⟩ := hresult (hsucc planSync hplan rfl (List.cons_ne_nil _ _))
  obtain ⟨hstate, oks, hoks, hall⟩ := executePlan_carried_out _ rfl hr herror
  have hfree : s.attrs.explicitEmpty = false := by
    by_contra hblocked
    rw [Bool.not_eq_false] at hblocked
    obtain ⟨ok, s', hop, hrest⟩ := andThen_eq_ok.mp (Prod.ext hoks rfl)
    cases hrest
    rw [dispatchOp, if_pos (by simp [broadcastBlocked, entered, hblocked])] at hop
    cases hop
    cases hall false (List.mem_singleton_self false)
  have hframes : (dispatch (services env progress) index .sync s).2.world.frames = s.world.frames ++
      sendSync s.world.host (env.clockMs s.world % 0x1000000) 0 true s.attrs.scope := by
    have hops : planSync.ops = [⟨255, .sync 0 true, 5, .top⟩] := rfl
    rw [hworld, hstate, hops, executeOps, dispatchOp, if_neg (by simp [entered, broadcastBlocked, hfree])]
    rfl
  rw [estimateHolds_frames hplan hframes, sendSync_single hone]
  split
  · next hnil => exact ⟨nofun, fun h => absurd hnil h⟩
  · next hne => exact ⟨fun _ => hne, fun _ => rfl⟩

/-- The children of a planned container all resolve, or its plan is held back. -/
theorem countable_container {inputs : PlannerInputs} {s : RunState World} {target : Target}
    {offset : OffsetBlock} {actions : List Effect} {plan : ActionDispatchPlan}
    (hplan : planOffsetGroup inputs target offset actions = .ok plan) :
    Countable inputs s (.offsetGroup target offset actions) ↔ plan.degraded = false := by
  obtain ⟨setup, childPlans, -, hall, -, hdegraded, -⟩ := planOffsetGroup_ok hplan
  have hiff : plan.degraded = false ↔
      ∀ e ∈ actions, plannable inputs (some e.kind) e.target e.params = true := by
    rw [hdegraded, List.any_eq_false]
    have hchild : ∀ e p, planChild inputs (decide (offset ≠ .none)) e = .ok p →
        (p.degraded = false ↔ plannable inputs (some e.kind) e.target e.params = true) := by
      intro e p hp
      rw [(planEffect_ok hp).1]
      simp
    rw [← forall_mem_iff_of_forall₂ (P := (· = false)) (g := ActionDispatchPlan.degraded) hchild hall]
    simp
  rw [hiff]
  refine ⟨fun h => h.elim id ?_, .inl⟩
  rintro ⟨e, he, err, herror⟩
  obtain ⟨p, -, hp⟩ := exists_of_forall₂_left hall he
  cases hp.symm.trans herror

/-- **The frames of an action are the packets counted for it, exactly if each child of a
container resolves and a sync has somewhere to go.** -/
theorem estimate_iff {index : Nat} {action : Action} {s : RunState World}
    (hone : s.world.host.transports = [t]) (hcanonical : action.Canonical)
    (hkind : ∀ target params, action ≠ .startblock target params)
    (hsucc : Succeeded (env.inputs s.world.host) action (dispatch (services env progress) index action s).1) :
    EstimateHolds env progress index action s ↔ Countable (env.inputs s.world.host) s action := by
  cases action with
  | startblock target params => exact absurd rfl (hkind target params)
  | sync => exact estimateHolds_sync hone hsucc
  | delay durationMs =>
    refine ⟨fun _ => trivial, fun _ => ⟨[], ?_, rfl, rfl⟩⟩
    rw [List.append_nil]
    rfl
  | effect e =>
    refine ⟨fun _ => trivial, fun _ => ?_⟩
    cases hplan : planActionDispatch (env.inputs s.world.host) (.effect e) with
    | error err => exact estimateHolds_unplanned hplan nofun
    | ok plan =>
      obtain ⟨-, hempty, -⟩ := planEffect_ok hplan
      cases hdegraded : plan.degraded with
      | true =>
        exact (estimateHolds_none hplan (dispatch_degraded hplan nofun hdegraded)).mpr (hempty hdegraded)
      | false => exact estimateHolds_executed hone hplan nofun hdegraded (planEffect_carried hplan) hsucc
  | offsetGroup target offset actions =>
    cases hplan : planActionDispatch (env.inputs s.world.host) (.offsetGroup target offset actions) with
    | error err =>
      refine ⟨fun _ => .inr ?_, fun _ => estimateHolds_unplanned hplan nofun⟩
      obtain ⟨setup, hsetup⟩ := planOffsetSetup_total hcanonical.1 (env.inputs s.world.host).known
      have hchildren : actions.mapM (planChild (env.inputs s.world.host) (decide (offset ≠ .none))) =
          .error err := by
        have hgroup : planOffsetGroup (env.inputs s.world.host) target offset actions = .error err := hplan
        rw [planOffsetGroup, hsetup, ok_bind] at hgroup
        cases hmap : actions.mapM (planChild (env.inputs s.world.host) (decide (offset ≠ .none))) with
        | error e' =>
          rw [hmap] at hgroup
          cases hgroup
          rfl
        | ok childPlans =>
          rw [hmap] at hgroup
          cases hgroup
      obtain ⟨e, he, herror⟩ := exists_of_mapM_error hchildren
      exact ⟨e, he, err, herror⟩
    | ok plan =>
      rw [countable_container hplan]
      cases hdegraded : plan.degraded with
      | true =>
        rw [estimateHolds_none hplan (dispatch_degraded hplan nofun hdegraded)]
        obtain ⟨setup, childPlans, hsetup, -, hops, -, -⟩ := planOffsetGroup_ok hplan
        refine ⟨fun hnil => ?_, nofun⟩
        have hsetupNil := (List.append_eq_nil_iff.mp (hops.symm.trans hnil)).1
        exact absurd (List.map_eq_nil_iff.mp hsetupNil) (planOffsetSetup_ops hcanonical.1 hsetup)
      | false =>
        refine ⟨fun _ => rfl, fun _ => ?_⟩
        exact estimateHolds_executed hone hplan nofun hdegraded (planOffsetGroup_carried hplan) hsucc

end Execute

/-- One transport and one group, and no device that could be found. -/
def oneTransport : RunState World :=
  ⟨⟨none, false⟩, ⟨⟨[], [], [], [⟨0, none, "AABBCCDDEEFF"⟩]⟩, []⟩, [], []⟩

def noDevices : Environment where
  inputs _ := ⟨[1], none, fun _ => none⟩
  clockMs _ := 0
  streams _ _ _ := (.ok (), [])

/-- A container over group 1 with a child for the given target. -/
def oneEffect (target : Target) : Action :=
  .offsetGroup (.groups [1]) (.linear 0 100) [⟨.rlEffect, target, [], {}⟩]

/-- The setup of a container with an unknown device is counted and not sent. -/
theorem estimate_counts_unsent :
    canonicalAction (oneEffect (.device "AABBCCDDEEFF")).toJson = .ok (oneEffect (.device "AABBCCDDEEFF")) ∧
      Succeeded (noDevices.inputs oneTransport.world.host) (oneEffect (.device "AABBCCDDEEFF"))
        (dispatch (services noDevices none) 0 (oneEffect (.device "AABBCCDDEEFF")) oneTransport).1 ∧
      ¬ EstimateHolds noDevices none 0 (oneEffect (.device "AABBCCDDEEFF")) oneTransport := by
  refine ⟨rfl, fun plan hplan hdegraded _ => ?_, fun h => ?_⟩
  · cases hplan
    cases hdegraded
  · obtain ⟨new, hnew, hcounted⟩ := h
    have hnil : new = [] := hnew.symm
    subst hnil
    exact absurd hcounted.1 (by decide)

/-- With a child for the group itself, what is counted is sent. -/
theorem estimate_counts_sent : EstimateHolds noDevices none 0 (oneEffect (.groups [1])) oneTransport := by
  have hcanonical : (oneEffect (.groups [1])).Canonical := canonicalAction_canonical
    (show canonicalAction (oneEffect (.groups [1])).toJson = .ok (oneEffect (.groups [1])) from rfl)
  refine (estimate_iff (t := ⟨0, none, "AABBCCDDEEFF"⟩) rfl hcanonical nofun fun plan hplan _ _ => rfl).mpr ?_
  left
  intro e he
  obtain rfl := List.mem_singleton.mp he
  rfl

end RaceLink.Runner
