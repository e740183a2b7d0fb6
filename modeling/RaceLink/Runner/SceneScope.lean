import RaceLink.Routing.Senders
import RaceLink.Runner.Runner

/-! The networks of a scene (`services/scene_network_scope.py`), the check of an explicit
scope when a scene is saved (`domain/network_boundary.py`), and the runner over the
senders and the repositories. -/
namespace RaceLink.Runner
open Python Library Domain Protocol Scenes Dispatch Routing

/-! ### The networks of targets -/

/-- `_network_id_from_device`. -/
def networkIdFromDevice (h : Host) (addr : String) : Option String :=
  ((h.deviceByAddr addr).or (h.getDeviceFromAddress addr)).bind fun d => nonEmpty d.networkId

/-- `_network_id_from_group`. -/
def networkIdFromGroup (h : Host) (groupId : Int) : Option String :=
  (h.groupById groupId).bind fun g => nonEmpty g.networkId

/-- `_all_known_network_ids`. -/
def allKnownNetworkIds (h : Host) : List String := (h.networks.map (·.id)).filter (· ≠ "")

/-- `_network_ids_for_target`: a broadcast inside a container means the container's networks. -/
def networkIdsForTarget (h : Host) (parentScope : Option (List String)) : Target → List String
  | .broadcast => parentScope.getD (allKnownNetworkIds h)
  | .groups value => value.filterMap (networkIdFromGroup h)
  | .device value => if value = "" then [] else (networkIdFromDevice h value).toList

/-- `_walk` of an action. -/
def walkAction (h : Host) : Action → List String
  | .effect e => networkIdsForTarget h none e.target
  | .startblock target _ => networkIdsForTarget h none target
  | .sync => []
  | .delay _ => []
  | .offsetGroup target _ actions =>
    let resolved := networkIdsForTarget h none target
    resolved ++ actions.flatMap fun e => networkIdsForTarget h (some resolved) e.target

/-- The ids of an explicit scope that are there; all of them if there is no network at all. -/
def existingIds (h : Host) (networkIds : List String) : List String :=
  keepFirst id [] (networkIds.filter fun s =>
    s ≠ "" ∧ (allKnownNetworkIds h = [] ∨ s ∈ allKnownNetworkIds h))

/-- `scene_network_ids`. -/
def sceneNetworkIds (h : Host) (scene : Scene) : List String :=
  match scene.networkScope with
  | .explicit networkIds => existingIds h networkIds
  | .auto => keepFirst id [] ((scene.actions.flatMap (walkAction h)).filter (· ≠ ""))

/-! ### The check of an explicit scope -/

/-- `SceneScopeViolation`, by its code. -/
inductive ScopeViolation where
  | scopeEmpty
  | unknownNetworkId (unknownIds scope : List String)
  | scopeViolation (offendingActionIndex : Nat) (offending actionNetworkIds scope : List String)
deriving DecidableEq, Repr

/-- The reason, and what is formatted into it. -/
def ScopeViolation.reason : ScopeViolation → String × List Json
  | .scopeEmpty => ("Explicit network scope is empty.", [])
  | .unknownNetworkId unknownIds _ =>
    ("Scope references %s unknown network id(s): %s.",
      [.int unknownIds.length, .str (", ".intercalate unknownIds)])
  | .scopeViolation index offending _ _ =>
    ("Action #%s targets network(s) outside the scene's scope: %s.",
      [.int index, .str (", ".intercalate offending)])

/-- The target of `_check_action`. -/
def checkTarget (h : Host) (scope : List String) (index : Nat) : Target → Except ScopeViolation Unit
  | .broadcast => .ok ()
  | target =>
    let resolved := networkIdsForTarget h none target
    let offending := resolved.filter (· ∉ scope)
    if offending ≠ [] then .error (.scopeViolation index offending resolved scope) else .ok ()

/-- The targets `_check_action` goes through: its own, then those of the children. -/
def Action.targets : Action → List Target
  | .effect e => [e.target]
  | .startblock target _ => [target]
  | .sync => []
  | .delay _ => []
  | .offsetGroup target _ actions => target :: actions.map (·.target)

/-- `_check_action`. -/
def checkAction (h : Host) (scope : List String) (index : Nat) (action : Action) :
    Except ScopeViolation Unit := do
  let _ ← (Action.targets action).mapM (checkTarget h scope index)
  return ()

/-- `validate_scene_scope_consistency`. -/
def validateSceneScopeConsistency (h : Host) (scene : Scene) : Except ScopeViolation Unit :=
  match scene.networkScope with
  | .auto => .ok ()
  | .explicit networkIds =>
    let unknown := networkIds.filter (· ∉ allKnownNetworkIds h)
    if networkIds = [] then .error .scopeEmpty
    else if unknown ≠ [] then .error (.unknownNetworkId unknown networkIds)
    else do
      let _ ← scene.actions.zipIdx.mapM fun entry => checkAction h networkIds entry.2 entry.1
      return ()

/-- A target that keeps to a scope. -/
def InScope (h : Host) (scope : List String) (target : Target) : Prop :=
  target ≠ .broadcast → ∀ networkId ∈ networkIdsForTarget h none target, networkId ∈ scope

theorem checkTarget_ok {h : Host} {scope : List String} {index : Nat} {target : Target} {u : Unit} :
    checkTarget h scope index target = .ok u ↔ InScope h scope target := by
  have hcheck : ∀ resolved : List String,
      (if resolved.filter (· ∉ scope) ≠ [] then
        Except.error (ScopeViolation.scopeViolation index (resolved.filter (· ∉ scope)) resolved scope)
      else .ok ()) = .ok u ↔ ∀ networkId ∈ resolved, networkId ∈ scope := by
    intro resolved
    rw [guard_ok, not_not, List.filter_eq_nil_iff]
    simp
  cases target with
  | broadcast => exact ⟨fun _ hne => absurd rfl hne, fun _ => rfl⟩
  | groups value =>
    refine (hcheck _).trans ⟨fun h _ => h, fun h => h nofun⟩
  | device value =>
    refine (hcheck _).trans ⟨fun h _ => h, fun h => h nofun⟩

/-- **A scene with an explicit scope passes the check if every listed network exists and
every target keeps to the scope.** -/
theorem validateSceneScopeConsistency_ok {h : Host} {scene : Scene} {networkIds : List String}
    (hscope : scene.networkScope = .explicit networkIds)
    (hok : validateSceneScopeConsistency h scene = .ok ()) :
    networkIds ≠ [] ∧ (∀ networkId ∈ networkIds, networkId ∈ allKnownNetworkIds h) ∧
      ∀ action ∈ scene.actions, ∀ target ∈ Action.targets action, InScope h networkIds target := by
  unfold validateSceneScopeConsistency at hok
  rw [hscope] at hok
  obtain ⟨hne, hok⟩ := guard_ok.mp hok
  obtain ⟨hknown, hok⟩ := guard_ok.mp hok
  refine ⟨hne, ?_, fun action haction target htarget => ?_⟩
  · rw [not_not, List.filter_eq_nil_iff] at hknown
    simpa using hknown
  · obtain ⟨units, hunits, -⟩ := bind_ok.mp hok
    obtain ⟨i, hi⟩ := List.getElem?_of_mem haction
    obtain ⟨u, -, hu⟩ := exists_of_forall₂_left (mapM_ok.mp hunits)
      (List.mk_mem_zipIdx_iff_getElem?.mpr hi)
    obtain ⟨us, hus, -⟩ := bind_ok.mp hu
    obtain ⟨u', -, hu'⟩ := exists_of_forall₂_left (mapM_ok.mp hus) htarget
    exact checkTarget_ok.mp hu'

/-! ### The runner over the senders -/

/-- What the runner calls. The clock and the sleep leave the world as it is. -/
def services (env : Environment) (progress : Option (Event → Except PyError Unit)) : Services World where
  plannerInputs w := env.inputs w.host
  networkIdsForTarget w target := networkIdsForTarget w.host none target
  sceneNetworkIds w scene := sceneNetworkIds w.host scene
  send target op w :=
    let sent := sendOp env target op w
    (sent.answer, {w with frames := w.frames ++ sent.frames})
  sleep _ w := (.ok (), w)
  progress := progress.map fun callback event w => (callback event, w)

end RaceLink.Runner
