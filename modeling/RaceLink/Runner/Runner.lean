import RaceLink.Dispatch.Planner
import RaceLink.Scenes.Service

/-! The scene runner (`services/scene_runner_service.py`).

The runner is written over what it calls: the senders, the sleep and the progress
callback are functions on a world `σ`, which answer as they like, an exception
included. The scope of broadcasts lives in two attributes of the service object,
which `run` and a container set and put back.

Two logs are kept for reasoning only: the events the callback was given, and the
steps in which the run touched the attributes or called a sender. -/
namespace RaceLink.Runner
open Python Library Domain Protocol Scenes Dispatch

/-! ### Results -/

/-- The `error` of a result. -/
inductive RunError where
  | plan (error : PlanError)
  | degraded
  | sendFailed
  | partialFailure
  | skipped
  | exception (error : PyError)
deriving Repr

def RunError.text : RunError → String
  | .plan error => error.text
  | .degraded => "degraded"
  | .sendFailed => "send_failed"
  | .partialFailure => "offset_group_partial_failure"
  | .skipped => "skipped: aborted"
  | .exception _ => "exception: %s"

inductive ActionState where
  | started
  | ok
  | error
  | degraded
  | skipped
deriving DecidableEq, Repr

/-- `ActionResult`, without the time it took. -/
structure ActionResult where
  index : Nat
  kind : String
  ok : Bool
  error : Option RunError := none
  degraded : Bool := false
  detail : Dict := []

/-- The `state` of a result. -/
def ActionResult.state (r : ActionResult) : ActionState :=
  match r.error with
  | some .skipped => .skipped
  | _ => if r.degraded then .degraded else if r.ok then .ok else .error

/-- `SceneRunResult`, without the time it took. -/
structure SceneRunResult where
  sceneKey : String
  ok : Bool
  error : Option String := none
  actions : List ActionResult := []
  abortedAtIndex : Option Nat := none

/-- What the progress callback is given. -/
structure Event where
  sceneKey : String
  index : Nat
  kind : String
  state : ActionState
  error : Option RunError

/-! ### State -/

/-- `_current_broadcast_scope` and `_broadcast_is_explicit_empty`. -/
structure ScopeAttrs where
  scope : Option (List String)
  explicitEmpty : Bool
deriving DecidableEq, Repr

/-- A step on the attributes: `run` installs and restores, a container enters (with a scope
of its own, if it narrows) and leaves, and an op reads them. -/
inductive ScopeStep where
  | install (attrs : ScopeAttrs)
  | enter (narrowed : Option ScopeAttrs)
  | op (index : Nat) (op : WireOp)
  | leave
  | restore

structure RunState (σ : Type) where
  attrs : ScopeAttrs
  world : σ
  events : List Event
  trace : List ScopeStep

/-- What the runner calls. -/
structure Services (σ : Type) where
  plannerInputs : σ → PlannerInputs
  networkIdsForTarget : σ → Target → List String
  sceneNetworkIds : σ → Scene → List String
  send : Option (List String) → WireOp → σ → Except PyError Bool × σ
  sleep : Int → σ → Except PyError Unit × σ
  progress : Option (Event → σ → Except PyError Unit × σ)

section Run
variable {σ : Type} (svc : Services σ)

/-- `BroadcastTarget.from_ids`, or no scope. -/
def broadcastTarget (networkIds : List String) : Option (List String) :=
  if networkIds = [] then none else some (keepFirst id [] networkIds)

/-- `_emit_progress`: an exception of the callback is swallowed. -/
def emitProgress (event : Event) (s : RunState σ) : RunState σ :=
  match svc.progress with
  | none => s
  | some callback =>
    {s with world := (callback event s.world).2, events := s.events ++ [event]}

/-! ### Ops -/

/-- `_broadcast_blocked`. -/
def broadcastBlocked (attrs : ScopeAttrs) (op : WireOp) : Bool :=
  op.targetGroup == 255 && attrs.explicitEmpty

/-- `_target_for_op`; OPC_SYNC takes the scope as it is. -/
def targetForOp (attrs : ScopeAttrs) (op : WireOp) : Option (List String) :=
  match op.payload with
  | .sync .. => attrs.scope
  | _ => if op.targetGroup = 255 then attrs.scope else none

/-- `_dispatch_op`: a blocked broadcast fails without a call. -/
def dispatchOp (index : Nat) (op : WireOp) (s : RunState σ) : Except PyError Bool × RunState σ :=
  let s := {s with trace := s.trace ++ [.op index op]}
  if broadcastBlocked s.attrs op then (.ok false, s)
  else
    let answer := svc.send (targetForOp s.attrs op) op s.world
    (answer.1, {s with world := answer.2})

/-- The loop of `_execute_plan`: a failed op does not stop it, an exception does. -/
def executeOps (index : Nat) : List WireOp → RunState σ → Except PyError (List Bool) × RunState σ
  | [], s => (.ok [], s)
  | op :: rest, s =>
    andThen (dispatchOp svc index op s) fun ok s =>
      andThen (executeOps index rest s) fun oks s => (.ok (ok :: oks), s)

/-! ### The detail of a container -/

/-- A row of `offset_packets`. -/
def offsetPacketRow (op : WireOp) (config : OffsetConfig) (ok : Bool) : Json :=
  let mode := match config with
    | .none => "none"
    | .explicit _ => "explicit"
    | .linear .. => "linear"
    | .vshape .. => "vshape"
    | .modulo .. => "modulo"
  dict ([("ok", .bool ok), ("mode", .str mode)] ++
    (if op.targetGroup = 255 then [] else [("target_group", .int op.targetGroup)]) ++
    (if ok then [] else [("stage", .str "offset"), ("error", .str "send_offset_failed")]))

/-- `offset_packets`, keyed by the group; a later op for a group replaces the row. -/
def offsetPackets (outcomes : List (WireOp × Bool)) : Dict :=
  outcomes.foldl (fun d e =>
    match e.1.phase, e.1.payload with
    | .offset, .offset config => d.set (.str (toString e.1.targetGroup)) (offsetPacketRow e.1 config e.2)
    | _, _ => d) []

/-- The outcomes of the ops of a child. -/
def childOutcomes (index : Nat) (outcomes : List (WireOp × Bool)) : List Bool :=
  outcomes.filterMap fun e =>
    match e.1.phase with
    | .child i _ => if i = index then some e.2 else none
    | _ => none

/-- A row of `children`: from the outcomes of its ops, or from its plan if it has none. -/
def childRow (outcomes : List (WireOp × Bool)) (index : Nat) (plan : ActionDispatchPlan) : Json :=
  match childOutcomes index outcomes with
  | [] =>
    dict ([("index", .int index), ("kind", .str plan.kind), ("ok", .bool !plan.degraded)] ++
      (if plan.degraded then
        [("degraded", .bool true)] ++ (plan.error.toList.map fun e => ("error", .str e.text)) ++
          ((plan.detail.get? "target").toList.map fun t => ("target", t))
      else []))
  | oks =>
    dict ([("index", .int index), ("kind", .str plan.kind), ("ok", .bool (oks.all id))] ++
      (if oks.all id then [] else [("error", .str "send_failed")]))

/-- `_build_offset_group_detail`. -/
def buildOffsetGroupDetail (plan : ActionDispatchPlan) (outcomes : List (WireOp × Bool)) : Dict :=
  [(.str "wire_path", plan.detail.get "wire_path"), (.str "offset_mode", plan.detail.get "offset_mode"),
    (.str "offset_packets", .obj (offsetPackets outcomes)),
    (.str "offset_packet_count", plan.detail.getD "offset_packets" (.int 0)),
    (.str "offset_total_bytes", plan.detail.getD "offset_total_bytes" (.int 0)),
    (.str "children", .arr (plan.childPlans.zipIdx.map fun e => childRow outcomes e.2 e.1))]

/-! ### Actions -/

/-- The result of a plan whose ops were all dispatched. -/
def planResult (index : Nat) (kind : String) (plan : ActionDispatchPlan) (oks : List Bool) : ActionResult :=
  let allOk := oks.all id
  if kind = "offset_group" then
    let detail := buildOffsetGroupDetail plan (plan.ops.zip oks)
    -- the detail has no `child_count`, so every container without ops fails
    let nothing := plan.ops.isEmpty && (detail.getD "child_count" (.int 0)).eqInt 0
    { index, kind, ok := allOk && !nothing, error := if allOk then none else some .partialFailure, detail }
  else { index, kind, ok := allOk, error := if allOk then none else some .sendFailed, detail := plan.detail }

/-- `_execute_plan`. -/
def executePlan (index : Nat) (kind : String) (plan : ActionDispatchPlan) (s : RunState σ) :
    Except PyError ActionResult × RunState σ :=
  if plan.degraded then
    (.ok { index, kind, ok := false, error := some ((plan.error.map .plan).getD .degraded),
           degraded := true, detail := plan.detail }, s)
  else andThen (executeOps svc index plan.ops s) fun oks s => (.ok (planResult index kind plan oks), s)

/-- The attributes inside a container: a broadcast container keeps those of the scene. -/
def narrowedAttrs (world : σ) : Target → Option ScopeAttrs
  | .broadcast => none
  | target => some ⟨broadcastTarget (svc.networkIdsForTarget world target), false⟩

def enterContainer (narrowed : Option ScopeAttrs) (s : RunState σ) : RunState σ :=
  {s with attrs := narrowed.getD s.attrs, trace := s.trace ++ [.enter narrowed]}

def leaveContainer (saved : ScopeAttrs) (s : RunState σ) : RunState σ :=
  {s with attrs := saved, trace := s.trace ++ [.leave]}

/-- `_run_offset_group` after the planning. -/
def executeContainer (index : Nat) (target : Target) (plan : ActionDispatchPlan) (s : RunState σ) :
    Except PyError ActionResult × RunState σ :=
  let out := executePlan svc index "offset_group" plan
    (enterContainer (narrowedAttrs svc s.world target) s)
  (out.1, leaveContainer s.attrs out.2)

/-- The handler of an action. -/
def runAction (index : Nat) (action : Action) (s : RunState σ) : Except PyError ActionResult × RunState σ :=
  match action with
  | .delay durationMs =>
    let answer := svc.sleep durationMs s.world
    andThen (answer.1, {s with world := answer.2}) fun _ s =>
      (.ok { index, kind := "delay", ok := true, detail := [(.str "requested_ms", .int durationMs)] }, s)
  | .sync => executePlan svc index "sync" planSync s
  | .offsetGroup target offset actions =>
    match planOffsetGroup (svc.plannerInputs s.world) target offset actions with
    | .error e => (.error e, s)
    | .ok plan => executeContainer svc index target plan s
  | .effect e =>
    match planActionDispatch (svc.plannerInputs s.world) (.effect e) with
    | .error err => (.error err, s)
    | .ok plan => executePlan svc index e.kind.name plan s
  | .startblock target params =>
    match planActionDispatch (svc.plannerInputs s.world) (.startblock target params) with
    | .error err => (.error err, s)
    | .ok plan => executePlan svc index "startblock" plan s

def kindOf : Action → String
  | .effect e => e.kind.name
  | .startblock .. => "startblock"
  | .sync => "sync"
  | .delay _ => "delay"
  | .offsetGroup .. => "offset_group"

/-- `_dispatch`: an exception becomes a failed result. -/
def dispatch (index : Nat) (action : Action) (s : RunState σ) : ActionResult × RunState σ :=
  match runAction svc index action s with
  | (.ok result, s) => (result, s)
  | (.error e, s) => ({ index, kind := kindOf action, ok := false, error := some (.exception e) }, s)

/-! ### Scenes -/

variable (sceneKey : String)

/-- The placeholders after an abort. -/
def skipRest (index : Nat) : List Action → RunState σ → List ActionResult × RunState σ
  | [], s => ([], s)
  | action :: rest, s =>
    let result : ActionResult := { index, kind := kindOf action, ok := false, error := some .skipped }
    let out := skipRest (index + 1) rest
      (emitProgress svc ⟨sceneKey, index, result.kind, .skipped, result.error⟩ s)
    (result :: out.1, out.2)

/-- An action between its two events. -/
def runOne (index : Nat) (action : Action) (s : RunState σ) : ActionResult × RunState σ :=
  let out := dispatch svc index action
    (emitProgress svc ⟨sceneKey, index, kindOf action, .started, none⟩ s)
  (out.1, emitProgress svc ⟨sceneKey, index, out.1.kind, out.1.state, out.1.error⟩ out.2)

/-- The loop of `run`: the results, and the index of the action that ended it. -/
def runActions (stopOnError : Bool) (index : Nat) :
    List Action → RunState σ → (List ActionResult × Option Nat) × RunState σ
  | [], s => (([], none), s)
  | action :: rest, s =>
    let out := runOne svc sceneKey index action s
    if stopOnError && !out.1.ok && !out.1.degraded then
      let skipped := skipRest svc sceneKey (index + 1) rest out.2
      ((out.1 :: skipped.1, some index), skipped.2)
    else
      let later := runActions stopOnError (index + 1) rest out.2
      ((out.1 :: later.1.1, later.1.2), later.2)

/-- The attributes `run` installs for a scene. -/
def sceneAttrs (scope : NetworkScope) (scopeIds : List String) : ScopeAttrs :=
  ⟨broadcastTarget scopeIds, scope != .auto && scopeIds.isEmpty⟩

def installScope (attrs : ScopeAttrs) (s : RunState σ) : RunState σ :=
  {s with attrs, trace := s.trace ++ [.install attrs]}

def restoreScope (saved : ScopeAttrs) (s : RunState σ) : RunState σ :=
  {s with attrs := saved, trace := s.trace ++ [.restore]}

/-- `run` of a scene that was found. -/
def runScene (scene : Scene) (s : RunState σ) : SceneRunResult × RunState σ :=
  let attrs := sceneAttrs scene.networkScope (svc.sceneNetworkIds s.world scene)
  let out := runActions svc sceneKey scene.stopOnError 0 scene.actions (installScope attrs s)
  ({ sceneKey, ok := out.1.1.all (·.ok), actions := out.1.1, abortedAtIndex := out.1.2 },
    restoreScope s.attrs out.2)

/-- `run`, given what the lookup of the key found. -/
def run (scene : Option Scene) (s : RunState σ) : SceneRunResult × RunState σ :=
  match scene with
  | none => ({ sceneKey, ok := false, error := some "scene_not_found" }, s)
  | some scene => runScene svc sceneKey scene s

end Run

end RaceLink.Runner
