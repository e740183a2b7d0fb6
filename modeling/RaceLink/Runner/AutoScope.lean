import RaceLink.Runner.Confinement

/-! The networks of a scene that does not list them.

The walk over the targets finds each network that some action reaches, once, in the order in which it is
met. The runner asks for the networks of a container a second time, for the broadcasts in it; these are
among those of the walk. -/
namespace RaceLink.Runner
open Python Library Domain Protocol Scenes Dispatch Routing

/-! ### Reached networks -/

/-- A network that the repository holds. -/
def Known (h : Host) (nid : String) : Prop := ∃ n ∈ h.networks, n.id = nid ∧ nid ≠ ""

/-- The network that a target is bound to: that of a group that is there, or of a device that is found. -/
inductive BoundTo (h : Host) (nid : String) : Target → Prop
  | group {value : List Int} {groupId : Int} {g : DeviceGroup} (hvalue : groupId ∈ value)
      (hgroup : h.groupById groupId = some g) (hnetwork : g.networkId = some nid) (hne : nid ≠ "") :
      BoundTo h nid (.groups value)
  | device {value : String} {d : Device} (hvalue : value ≠ "")
      (hdevice : (h.deviceByAddr value).or (h.getDeviceFromAddress value) = some d)
      (hnetwork : d.networkId = some nid) (hne : nid ≠ "") : BoundTo h nid (.device value)

/-- A network that a target at the top level reaches: a broadcast is for every network. -/
def TargetReaches (h : Host) (nid : String) (target : Target) : Prop :=
  (target = .broadcast ∧ Known h nid) ∨ BoundTo h nid target

/-- A network that an action reaches, or one of its children: a broadcast child reaches what its container does. -/
inductive Reaches (h : Host) (nid : String) : Action → Prop
  | effect {e : Effect} (htarget : TargetReaches h nid e.target) : Reaches h nid (.effect e)
  | startblock {target : Target} {params : Dict} (htarget : TargetReaches h nid target) :
      Reaches h nid (.startblock target params)
  | container {target : Target} {offset : OffsetBlock} {actions : List Effect} (htarget : TargetReaches h nid target) :
      Reaches h nid (.offsetGroup target offset actions)
  | child {target : Target} {offset : OffsetBlock} {actions : List Effect} {e : Effect} (he : e ∈ actions)
      (htarget : BoundTo h nid e.target) : Reaches h nid (.offsetGroup target offset actions)
  | broadcastChild {target : Target} {offset : OffsetBlock} {actions : List Effect} {e : Effect} (he : e ∈ actions)
      (hbroadcast : e.target = .broadcast) (htarget : TargetReaches h nid target) :
      Reaches h nid (.offsetGroup target offset actions)

/-! ### The walk -/

theorem nonEmpty_eq_some {s : Option String} {nid : String} : nonEmpty s = some nid ↔ s = some nid ∧ nid ≠ "" := by
  rw [nonEmpty, Option.filter_eq_some_iff, decide_eq_true_iff]

theorem mem_allKnownNetworkIds {h : Host} {nid : String} : nid ∈ allKnownNetworkIds h ↔ Known h nid := by
  unfold allKnownNetworkIds Known
  simp only [List.mem_filter, List.mem_map, decide_eq_true_iff]
  exact ⟨fun ⟨⟨n, hn, hid⟩, hne⟩ => ⟨n, hn, hid, hne⟩, fun ⟨n, hn, hid, hne⟩ => ⟨⟨n, hn, hid⟩, hne⟩⟩

theorem networkIdFromGroup_eq_some {h : Host} {groupId : Int} {nid : String} :
    networkIdFromGroup h groupId = some nid ↔ ∃ g, h.groupById groupId = some g ∧ g.networkId = some nid ∧ nid ≠ "" := by
  simp only [networkIdFromGroup, Option.bind_eq_some_iff, nonEmpty_eq_some]

theorem networkIdFromDevice_eq_some {h : Host} {addr nid : String} : networkIdFromDevice h addr = some nid ↔
    ∃ d, (h.deviceByAddr addr).or (h.getDeviceFromAddress addr) = some d ∧ d.networkId = some nid ∧ nid ≠ "" := by
  simp only [networkIdFromDevice, Option.bind_eq_some_iff, nonEmpty_eq_some]

/-- What a target adds, inside a container or not. -/
theorem mem_networkIdsForTarget {h : Host} {parentScope : Option (List String)} {target : Target} {nid : String} :
    nid ∈ networkIdsForTarget h parentScope target ↔
      (target = .broadcast ∧ nid ∈ parentScope.getD (allKnownNetworkIds h)) ∨ BoundTo h nid target := by
  cases target with
  | broadcast =>
    constructor
    · exact fun hmem => .inl ⟨rfl, hmem⟩
    · intro hor
      cases hor with
      | inl hmem => exact hmem.2
      | inr hbound => cases hbound
  | groups value =>
    have hmem : nid ∈ value.filterMap (networkIdFromGroup h) ↔ BoundTo h nid (.groups value) := by
      rw [List.mem_filterMap]
      constructor
      · intro hbound
        obtain ⟨groupId, hvalue, hid⟩ := hbound
        obtain ⟨g, hgroup, hnetwork, hne⟩ := networkIdFromGroup_eq_some.mp hid
        exact .group hvalue hgroup hnetwork hne
      · intro hbound
        cases hbound with
        | group hvalue hgroup hnetwork hne =>
          exact ⟨_, hvalue, networkIdFromGroup_eq_some.mpr ⟨_, hgroup, hnetwork, hne⟩⟩
    rw [networkIdsForTarget, hmem]
    simp
  | device value =>
    have hmem : nid ∈ (if value = "" then [] else (networkIdFromDevice h value).toList) ↔ BoundTo h nid (.device value) := by
      by_cases hvalue : value = ""
      · rw [if_pos hvalue]
        refine iff_of_false List.not_mem_nil fun hbound => ?_
        cases hbound with
        | device hne => exact hne hvalue
      · rw [if_neg hvalue, Option.mem_toList, networkIdFromDevice_eq_some]
        constructor
        · intro hbound
          obtain ⟨d, hdevice, hnetwork, hne⟩ := hbound
          exact .device hvalue hdevice hnetwork hne
        · intro hbound
          cases hbound with
          | device _ hdevice hnetwork hne => exact ⟨_, hdevice, hnetwork, hne⟩
    rw [networkIdsForTarget, hmem]
    simp

theorem mem_target {h : Host} {target : Target} {nid : String} :
    nid ∈ networkIdsForTarget h none target ↔ TargetReaches h nid target := by
  rw [mem_networkIdsForTarget, Option.getD_none, mem_allKnownNetworkIds, TargetReaches]

/-- **The walk of an action meets what the action reaches.** -/
theorem mem_walkAction {h : Host} {action : Action} {nid : String} : nid ∈ walkAction h action ↔ Reaches h nid action := by
  cases action with
  | effect e =>
    rw [walkAction, mem_target]
    exact ⟨.effect, fun hreaches => by cases hreaches with | effect htarget => exact htarget⟩
  | startblock target params =>
    rw [walkAction, mem_target]
    exact ⟨.startblock, fun hreaches => by cases hreaches with | startblock htarget => exact htarget⟩
  | sync => exact iff_of_false List.not_mem_nil nofun
  | delay durationMs => exact iff_of_false List.not_mem_nil nofun
  | offsetGroup target offset actions =>
    rw [walkAction, List.mem_append, List.mem_flatMap, mem_target]
    constructor
    · intro hor
      cases hor with
      | inl htarget => exact .container htarget
      | inr hchild =>
        obtain ⟨e, he, hmem⟩ := hchild
        cases mem_networkIdsForTarget.mp hmem with
        | inl hbroadcast => exact .broadcastChild he hbroadcast.1 (mem_target.mp hbroadcast.2)
        | inr hbound => exact .child he hbound
    · intro hreaches
      cases hreaches with
      | container htarget => exact .inl htarget
      | child he htarget => exact .inr ⟨_, he, mem_networkIdsForTarget.mpr (.inr htarget)⟩
      | broadcastChild he hbroadcast htarget => exact .inl htarget

theorem TargetReaches.ne_empty {h : Host} {target : Target} {nid : String} (hreaches : TargetReaches h nid target) :
    nid ≠ "" := by
  cases hreaches with
  | inl hknown =>
    obtain ⟨-, n, -, -, hne⟩ := hknown
    exact hne
  | inr hbound => cases hbound <;> assumption

theorem Reaches.ne_empty {h : Host} {action : Action} {nid : String} (hreaches : Reaches h nid action) : nid ≠ "" := by
  cases hreaches with
  | effect htarget => exact htarget.ne_empty
  | startblock htarget => exact htarget.ne_empty
  | container htarget => exact htarget.ne_empty
  | child _ htarget => exact TargetReaches.ne_empty (.inr htarget)
  | broadcastChild _ _ htarget => exact htarget.ne_empty

/-- **The networks of a scene**: each that an action reaches, once, the first met first. -/
structure AutoScope (h : Host) (scene : Scene) (networkIds : List String) : Prop where
  nodup : networkIds.Nodup
  reached : ∀ nid, nid ∈ networkIds ↔ ∃ action ∈ scene.actions, Reaches h nid action
  order : ∀ a ∈ networkIds, ∀ b ∈ networkIds, networkIds.idxOf a < networkIds.idxOf b ↔
    (scene.actions.flatMap (walkAction h)).idxOf a < (scene.actions.flatMap (walkAction h)).idxOf b

theorem sceneNetworkIds_auto {h : Host} {scene : Scene} (hauto : scene.networkScope = .auto) :
    AutoScope h scene (sceneNetworkIds h scene) := by
  have hids : sceneNetworkIds h scene =
      keepFirst id [] ((scene.actions.flatMap (walkAction h)).filter (· ≠ "")) := by
    rw [sceneNetworkIds, hauto]
  have hmem : ∀ nid, nid ∈ sceneNetworkIds h scene ↔ ∃ action ∈ scene.actions, Reaches h nid action := by
    intro nid
    rw [hids, mem_keepFirst_id, List.mem_filter, List.mem_flatMap, decide_eq_true_iff]
    simp only [mem_walkAction]
    exact ⟨And.left, fun hreached => ⟨hreached, hreached.choose_spec.2.ne_empty⟩⟩
  refine ⟨hids ▸ keepFirst_id_nodup, hmem, fun a ha b hb => ?_⟩
  have hne : ∀ nid ∈ sceneNetworkIds h scene, decide (nid ≠ "") = true := fun nid hnid =>
    decide_eq_true ((hmem nid).mp hnid).choose_spec.2.ne_empty
  rw [hids, idxOf_keepFirst_lt List.not_mem_nil List.not_mem_nil]
  exact idxOf_filter_lt (p := (· ≠ "")) (hne a ha) (hne b hb)

/-! ### What the runner installs -/

/-- The attributes that a container of a scene gets: its networks, if it names any. -/
def NarrowedFor (h : Host) (actions : List Action) (attrs : ScopeAttrs) : Prop :=
  ∃ target offset children, .offsetGroup target offset children ∈ actions ∧ target ≠ .broadcast ∧
    ∀ nid, nid ∈ attrs.scope.getD [] ↔ TargetReaches h nid target

/-- A part of a run keeps the repositories and narrows only for containers of the scene. -/
structure Narrows (h : Host) (actions : List Action) (s t : RunState World) : Prop where
  host : s.world.host = h → t.world.host = h
  trace : s.world.host = h → ∃ steps, t.trace = s.trace ++ steps ∧
    ∀ attrs, .enter (some attrs) ∈ steps → NarrowedFor h actions attrs

section Narrows
variable {h : Host} {actions : List Action} {s t u : RunState World}

theorem Narrows.refl (h : Host) (actions : List Action) (s : RunState World) : Narrows h actions s s :=
  ⟨id, fun _ => ⟨[], by simp, by simp⟩⟩

theorem Narrows.trans (hst : Narrows h actions s t) (htu : Narrows h actions t u) : Narrows h actions s u := by
  refine ⟨fun hs => htu.host (hst.host hs), fun hs => ?_⟩
  obtain ⟨steps, hsteps, henter⟩ := hst.trace hs
  obtain ⟨steps', hsteps', henter'⟩ := htu.trace (hst.host hs)
  refine ⟨steps ++ steps', by rw [hsteps', hsteps, List.append_assoc], fun attrs hmem => ?_⟩
  exact (List.mem_append.mp hmem).elim (henter attrs) (henter' attrs)

/-- A part that adds no step. -/
theorem Narrows.silent (hhost : t.world.host = s.world.host) (htrace : t.trace = s.trace) : Narrows h actions s t :=
  ⟨fun hs => hhost.trans hs, fun _ => ⟨[], by simp [htrace], by simp⟩⟩

theorem mem_broadcastTarget {networkIds : List String} {nid : String} :
    nid ∈ (broadcastTarget networkIds).getD [] ↔ nid ∈ networkIds := by
  unfold broadcastTarget
  split
  · next hnil =>
    rw [hnil]
    rfl
  · exact mem_keepFirst_id

end Narrows

section Run
variable (env : Environment) (progress : Option (Event → Except PyError Unit)) (h : Host) (actions : List Action)

theorem dispatchOp_narrows (index : Nat) (op : WireOp) (s : RunState World) :
    Narrows h actions s (dispatchOp (services env progress) index op s).2 := by
  have hstep : ∀ attrs, ScopeStep.enter (some attrs) ∈ [ScopeStep.op index op] → NarrowedFor h actions attrs := by
    intro attrs hmem
    cases List.mem_singleton.mp hmem
  unfold dispatchOp
  dsimp only
  split
  · exact ⟨id, fun _ => ⟨_, rfl, hstep⟩⟩
  · exact ⟨id, fun _ => ⟨_, rfl, hstep⟩⟩

theorem executeOps_narrows (index : Nat) (ops : List WireOp) (s : RunState World) :
    Narrows h actions s (executeOps (services env progress) index ops s).2 := by
  induction ops generalizing s with
  | nil => exact .refl h actions s
  | cons op rest ih =>
    have hfirst := dispatchOp_narrows env progress h actions index op s
    refine andThen_state (I := Narrows h actions s) hfirst fun ok _ => hfirst.trans ?_
    exact andThen_answer (I := Narrows h actions _) (ih _)

theorem executePlan_narrows (index : Nat) (kind : String) (plan : ActionDispatchPlan) (s : RunState World) :
    Narrows h actions s (executePlan (services env progress) index kind plan s).2 := by
  unfold executePlan
  split
  · exact .refl h actions s
  · exact andThen_answer (executeOps_narrows env progress h actions index plan.ops s)

theorem enterContainer_narrows {target : Target} {offset : OffsetBlock} {children : List Effect}
    (hmem : .offsetGroup target offset children ∈ actions) (s : RunState World) :
    Narrows h actions s (enterContainer (narrowedAttrs (services env progress) s.world target) s) := by
  refine ⟨id, fun hs => ⟨_, rfl, fun attrs henter => ?_⟩⟩
  have hattrs : narrowedAttrs (services env progress) s.world target = some attrs :=
    (ScopeStep.enter.inj (List.mem_singleton.mp henter)).symm
  have hnarrowed : target ≠ .broadcast ∧ attrs = ⟨broadcastTarget (networkIdsForTarget h none target), false⟩ := by
    rw [← hs]
    cases target with
    | broadcast => cases hattrs
    | groups value => exact ⟨nofun, (Option.some.inj hattrs).symm⟩
    | device value => exact ⟨nofun, (Option.some.inj hattrs).symm⟩
  refine ⟨target, offset, children, hmem, hnarrowed.1, fun nid => ?_⟩
  rw [hnarrowed.2, mem_broadcastTarget, mem_target]

theorem executeContainer_narrows (index : Nat) {target : Target} {offset : OffsetBlock} {children : List Effect}
    (hmem : .offsetGroup target offset children ∈ actions) (plan : ActionDispatchPlan) (s : RunState World) :
    Narrows h actions s (executeContainer (services env progress) index target plan s).2 := by
  refine (enterContainer_narrows env progress h actions hmem s).trans
    ((executePlan_narrows env progress h actions index "offset_group" plan _).trans ?_)
  refine ⟨id, fun _ => ⟨[.leave], rfl, fun attrs hleave => ?_⟩⟩
  cases List.mem_singleton.mp hleave

theorem runAction_narrows (index : Nat) {action : Action} (hmem : action ∈ actions) (s : RunState World) :
    Narrows h actions s (runAction (services env progress) index action s).2 := by
  cases action with
  | delay durationMs => exact andThen_answer (I := Narrows h actions s) (.silent rfl rfl)
  | sync => exact executePlan_narrows env progress h actions index "sync" planSync s
  | offsetGroup target offset children =>
    dsimp only [runAction]
    split
    · exact .refl h actions s
    · exact executeContainer_narrows env progress h actions index hmem _ s
  | effect e =>
    dsimp only [runAction]
    split
    · exact .refl h actions s
    · exact executePlan_narrows env progress h actions index e.kind.name _ s
  | startblock target params =>
    dsimp only [runAction]
    split
    · exact .refl h actions s
    · exact executePlan_narrows env progress h actions index "startblock" _ s

theorem emitProgress_narrows (event : Event) (s : RunState World) :
    Narrows h actions s (emitProgress (services env progress) event s) := by
  refine .silent (emitProgress_sends env progress (fun _ => True) event s).host ?_
  unfold emitProgress
  split <;> rfl

theorem runOne_narrows (sceneKey : String) (index : Nat) {action : Action} (hmem : action ∈ actions)
    (s : RunState World) : Narrows h actions s (runOne (services env progress) sceneKey index action s).2 := by
  have hdispatch : ∀ s', Narrows h actions s' (dispatch (services env progress) index action s').2 := by
    intro s'
    have hrun := runAction_narrows env progress h actions index hmem s'
    unfold dispatch
    split
    · next heq =>
      rw [heq] at hrun
      exact hrun
    · next heq =>
      rw [heq] at hrun
      exact hrun
  exact ((emitProgress_narrows env progress h actions _ s).trans (hdispatch _)).trans
    (emitProgress_narrows env progress h actions _ _)

theorem skipRest_narrows (sceneKey : String) (index : Nat) (rest : List Action) (s : RunState World) :
    Narrows h actions s (skipRest (services env progress) sceneKey index rest s).2 := by
  induction rest generalizing index s with
  | nil => exact .refl h actions s
  | cons action rest ih => exact (emitProgress_narrows env progress h actions _ s).trans (ih _ _)

theorem runActions_narrows (sceneKey : String) (stopOnError : Bool) (index : Nat) {rest : List Action}
    (hrest : ∀ action ∈ rest, action ∈ actions) (s : RunState World) :
    Narrows h actions s (runActions (services env progress) sceneKey stopOnError index rest s).2 := by
  induction rest generalizing index s with
  | nil => exact .refl h actions s
  | cons action rest ih =>
    have hone := runOne_narrows env progress h actions sceneKey index (hrest action (List.mem_cons_self ..)) s
    unfold runActions
    dsimp only
    split
    · exact hone.trans (skipRest_narrows env progress h actions sceneKey _ rest _)
    · exact hone.trans (ih (index + 1) (fun a ha => hrest a (List.mem_cons_of_mem action ha)) _)

/-- **A run narrows for the containers of its scene, to their networks.** -/
theorem runScene_narrows (sceneKey : String) (scene : Scene) (s : RunState World) :
    Narrows h scene.actions s (runScene (services env progress) sceneKey scene s).2 := by
  have hinstall : Narrows h scene.actions s
      (installScope (sceneAttrs scene.networkScope (sceneNetworkIds s.world.host scene)) s) := by
    refine ⟨id, fun _ => ⟨_, rfl, fun attrs hmem => ?_⟩⟩
    cases List.mem_singleton.mp hmem
  refine (hinstall.trans (runActions_narrows env progress h scene.actions sceneKey scene.stopOnError 0
    (fun _ ha => ha) _)).trans ⟨id, fun _ => ⟨[.restore], rfl, fun attrs hmem => ?_⟩⟩
  cases List.mem_singleton.mp hmem

end Run

/-- **The auto scope.** Without a list of its own a scene has the networks that its actions reach, and what a run
installs for a container is among them. -/
theorem auto_scope_narrows {scene : Scene} (hauto : scene.networkScope = .auto) (h : Host) :
    AutoScope h scene (sceneNetworkIds h scene) ∧
      ∀ env progress sceneKey (s : RunState World), s.world.host = h →
        ∃ steps, (runScene (services env progress) sceneKey scene s).2.trace = s.trace ++ steps ∧
          ∀ attrs, .enter (some attrs) ∈ steps → NarrowedFor h scene.actions attrs ∧
            ∀ nid ∈ attrs.scope.getD [], nid ∈ sceneNetworkIds h scene := by
  have hscope := sceneNetworkIds_auto (h := h) hauto
  refine ⟨hscope, fun env progress sceneKey s hs => ?_⟩
  obtain ⟨steps, htrace, hsteps⟩ := (runScene_narrows env progress h sceneKey scene s).trace hs
  refine ⟨steps, htrace, fun attrs henter => ⟨hsteps attrs henter, fun nid hnid => ?_⟩⟩
  obtain ⟨target, offset, children, hmem, -, hnetworks⟩ := hsteps attrs henter
  exact (hscope.reached nid).mpr ⟨_, hmem, .container ((hnetworks nid).mp hnid)⟩

/-- Two networks with a group each, and a group of neither. -/
def unevenNetworks : Host where
  networks := [⟨"A", .rf, none⟩, ⟨"B", .rf, none⟩]
  groups := [⟨none⟩, ⟨some "A"⟩, ⟨some "B"⟩, ⟨none⟩]
  devices := []
  transports := []

/-- An effect for the second group, and a container over the first with a broadcast in it. -/
def narrowedScene : Scene where
  id := 1
  key := "narrowed"
  label := "Narrowed"
  created := .null
  updated := .null
  actions := [.sync, .effect ⟨.rlEffect, .groups [2, 3], [], {}⟩,
    .offsetGroup (.groups [1, 2]) .none [⟨.rlEffect, .broadcast, [], {}⟩]]
  stopOnError := true
  networkScope := .auto

theorem auto_scope_narrows_two : sceneNetworkIds unevenNetworks narrowedScene = ["B", "A"] ∧
    AutoScope unevenNetworks narrowedScene (sceneNetworkIds unevenNetworks narrowedScene) :=
  ⟨by decide +kernel, (auto_scope_narrows (show narrowedScene.networkScope = .auto from rfl) unevenNetworks).1⟩

end RaceLink.Runner
